import PgWrite.Fault
import PgWrite.Sql.Identifier
import PgWrite.Value.Equality

/-!
# Read-only collections

A transaction copies the collections it is given: rows and mappings into ordered entries,
names and identifiers into lists. What lies deeper is shared. A mapping may be given as a
list of pairs, of which a later one takes the value of an earlier one with the same key.
-/

namespace PgWrite

namespace Value

/-- A value that may serve as a key. -/
def requireKey (v : Value) : Except Fault Unit :=
  if v.digest?.isSome then .ok () else .error (.unhashable v.kindWord)

end Value

/-- Adds the pairs of a list to a row; `index` counts them. -/
def insertPairs (row : Row) : Nat → List Value → Except Fault Row
  | _, [] => .ok row
  | index, item :: rest =>
    match item.elements? with
    | none => .error (.entryNotSequence index)
    | some [key, value] => do
      key.requireKey
      insertPairs (row.insert key value) (index + 1) rest
    | some parts => .error (.entryLength index parts.length)

/-- The entries of a mapping or of a list of pairs; a value that does not count as given has
none. -/
def freezeMapping (v : Value) : Except Fault Row :=
  if !v.truthy then .ok []
  else match v with
    | .map _ entries => .ok entries
    | .frozen entries => .ok entries
    | _ => do insertPairs [] 0 (← v.elements)

/-- The rows of a list of mappings. -/
def freezeRows (v : Value) : Except Fault (List Row) := do
  (← v.elements).mapM freezeMapping

/-- The names of a list; a text is refused, as it would fall into characters. -/
def freezeNames (field : String) (v : Value) : Except Fault (List Value) :=
  if v.text?.isSome then .error (.invalid (.namesGivenAsText field v.shown))
  else v.elements

/-- The values of a list; text and octets are refused. -/
def freezeValues (v : Value) : Except Fault (List Value) :=
  match v.text?, v with
  | some _, _ => .error (.invalid .valuesGivenAsText)
  | none, .bytes _ => .error (.invalid .valuesGivenAsText)
  | none, _ => v.elements

end PgWrite
