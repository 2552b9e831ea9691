import PgWrite.Number.Numeral
import PgWrite.Signature
import PgWrite.Sql.Clause
import PgWrite.Sql.Identifier

/-!
# Clauses on request

Single statements can be asked for by the name of their clause, with names and counts given
as values. A count must be an integer and a negative one leaves its list empty; a limit is
read as an integer from numbers and numerals alike. Parts that are text of the caller's own
are displayed as they are.
-/

namespace PgWrite

/-- The number above which no count can be an index, and whose negative is the least count. -/
def maxIndex : Int := Int.pow 2 63 - 1

/-- The length from which on a list finds no room. -/
def maxLength : Nat := Nat.pow 2 32

/-- The length of a list of question marks. -/
def countOf (v : Value) : Except Fault Nat :=
  match v.int? with
  | none => .error (.wrongKind v.kindWord)
  | some n =>
    if n < -maxIndex - 1 || maxIndex < n then .error .countTooLarge
    else if maxLength ≤ n.toNat then .error .noRoom
    else .ok n.toNat

/-- The question marks for a number given as a value. -/
def placeholdersFor (count : Value) : Except Fault String :=
  (countOf count).map placeholders

/-- A limit read as an integer; a fraction is cut off. Octets are read as ASCII. -/
def limitOf : Value → Except Fault Int
  | .int n => .ok n
  | .bool b => .ok (if b then 1 else 0)
  | .float (.infinite _) => .error .infiniteNumber
  | .float x => match x.truncate? with
    | some n => .ok n
    | none => .error .notNumeral
  | .text s => ofNumeral s.toList
  | .policy p => ofNumeral p.name.toList
  | .bytes octets =>
    if octets.all (· < 128) then ofNumeral (octets.map fun o => Char.ofNat o.toNat)
    else .error .notNumeral
  | v => .error (.wrongKind v.kindWord)
where
  /-- The integer of a numeral. -/
  ofNumeral (text : List Char) : Except Fault Int :=
    match readInteger? text with
    | some n => .ok n
    | none => .error .notNumeral

/-- A column with its number of branches, given as a pair. -/
def branchOf (q : Quoter) (v : Value) : Except Fault (String × Nat) :=
  match v.elements? with
  | some [column, count] => do return (← q.quote column, ← countOf count)
  | some _ => .error .notNumeral
  | none => .error (.notIterable v.kindWord)

/-- Names of a list, written as a column list. -/
def quotedList (q : Quoter) (names : Value) : Except Fault (List String) := do
  q.quoteAll (← names.elements)

/-- The clauses that can be asked for. -/
inductive ClauseName where
  | quote
  | quoteAll
  | qualify
  | insert
  | skipConflicts
  | overwrite
  | delete
  | deleteLimited
  | update
  | caseUpdate
  deriving DecidableEq, Repr

namespace ClauseName

/-- All clauses. -/
def all : List ClauseName :=
  [.quote, .quoteAll, .qualify, .insert, .skipConflicts, .overwrite, .delete, .deleteLimited,
    .update, .caseUpdate]

/-- The name by which a clause is asked for. -/
def name : ClauseName → String
  | .quote => "quote"
  | .quoteAll => "quote_all"
  | .qualify => "qualify"
  | .insert => "build_insert"
  | .skipConflicts => "build_insert_on_conflict_do_nothing"
  | .overwrite => "build_insert_on_conflict_do_update"
  | .delete => "build_delete_in"
  | .deleteLimited => "build_delete_with_limit"
  | .update => "build_update_in"
  | .caseUpdate => "build_case_update"

/-- The clause with a name. -/
def ofName? (s : String) : Option ClauseName :=
  all.find? fun c => c.name = s

/-- The arguments that must be given for a clause. -/
def required : ClauseName → List String
  | .quote => ["identifier"]
  | .quoteAll => ["identifiers"]
  | .qualify => ["table"]
  | .insert | .skipConflicts => ["table", "columns", "values_sql"]
  | .overwrite => ["table", "columns", "values_sql", "conflict_target_sql", "update_columns"]
  | .delete => ["table", "identifier_column", "identifier_count"]
  | .deleteLimited => ["table", "identifier_column", "identifier_count", "limit"]
  | .update => ["table", "columns", "identifier_column", "identifier_count"]
  | .caseUpdate => ["table", "identifier_column", "branches", "identifier_count"]

/-- The signature of a clause; all but the two plain ones take a schema. -/
def signature (c : ClauseName) : Signature where
  callable := "PostgreSQLDialect." ++ c.name
  parameters := c.required.map Signature.required ++ match c with
    | .quote | .quoteAll => []
    | _ => [Signature.optional "schema" .null]

/-- The text of an insert from its arguments. -/
def insertOf (q : Quoter) (arg : String → Value) : Except Fault String := do
  let table ← qualified q (arg "table") (arg "schema")
  let columns ← quotedList q (arg "columns")
  return Clause.insert table columns (arg "values_sql").display

/-- The text of a clause from its arguments. -/
def build (c : ClauseName) (q : Quoter) (arg : String → Value) : Except Fault Value := do
  let table := qualified q (arg "table") (arg "schema")
  let column := arg "identifier_column"
  let count := arg "identifier_count"
  match c with
  | .quote => return .text (← q.quote (arg "identifier"))
  | .quoteAll => return .ofList ((← quotedList q (arg "identifiers")).map .text)
  | .qualify => return .text (← table)
  | .insert => return .text (← insertOf q arg)
  | .skipConflicts => return .text (Clause.skipConflicts (← insertOf q arg))
  | .overwrite => do
    let plain ← insertOf q arg
    let assigned ← quotedList q (arg "update_columns")
    return .text (Clause.overwrite plain (arg "conflict_target_sql").display assigned)
  | .delete => do
    let table ← table
    let column ← q.quote column
    return .text (Clause.delete table column (← countOf count))
  | .deleteLimited => do
    let table ← table
    let column ← q.quote column
    let count ← countOf count
    return .text (Clause.deleteLimited table column count (← limitOf (arg "limit")))
  | .update => do
    let table ← table
    let columns ← quotedList q (arg "columns")
    let column ← q.quote column
    return .text (Clause.update table columns column (← countOf count))
  | .caseUpdate => do
    let table ← table
    let column ← q.quote column
    let branches ← (← (arg "branches").elements).mapM (branchOf q)
    return .text (Clause.caseUpdate table column branches (← countOf count))

/-- The text of a clause from named arguments. -/
def call (c : ClauseName) (q : Quoter) (args : Arguments) : Except Fault Value := do
  c.build q (← c.signature.bind args)

end ClauseName

end PgWrite
