import PgWrite.Sql.Query
import PgWrite.Text.Alphanumeric
import PgWrite.Value.ColumnType

/-!
# Binds of a text clause

A clause library finds the binds of a text by itself: a colon that neither a colon, a word
character nor a backslash precedes, and the word behind it, shortened by one character where
a colon follows. It looks into quoted names and comments too. Every parameter of a query must
be found that way, and a bind that is found without a parameter is required of the caller.
-/

namespace PgWrite

/-- A colon behind this character opens no bind. -/
def blocksBind (c : Char) : Bool :=
  c = ':' || c = '\\' || Text.isWordChar c

/-- The bind name at the start of a text. -/
def bindNameAt? (text : List Char) : Option (List Char) :=
  let word := text.takeWhile Text.isWordChar
  let name := match text.dropWhile Text.isWordChar with
    | ':' :: _ => word.dropLast
    | _ => word
  if name.isEmpty then none else some name

/-- The bind names of a text that follows `before`, in the order of their places. -/
def bindNamesFrom (before : Option Char) : List Char → List String
  | [] => []
  | c :: rest =>
    let others := bindNamesFrom (some c) rest
    if c = ':' && !before.any blocksBind then
      match bindNameAt? rest with
      | some name => String.ofList name :: others
      | none => others
    else others

/-- The bind names of a text in the order of their places. -/
def bindNames (sql : String) : List String :=
  bindNamesFrom none sql.toList

/-- The names of a list, each at its first place only. -/
def firstOccurrences : List String → List String
  | [] => []
  | name :: rest => name :: (firstOccurrences rest).filter (· ≠ name)

/-- The column type of a value for which none is given. -/
def impliedType : Value → String
  | .int n => if n.natAbs < Nat.pow 2 31 then "Integer" else "BigInteger"
  | .text s => if s.toList.all fun c => c.toNat < 128 then "String" else "Unicode"
  | .bool _ => "Boolean"
  | .float _ => "Float"
  | .bytes _ => "LargeBinary"
  | _ => "NullType"

/-- The column type of a value under a type hint; a hint that is no column type counts as none.
A type that is given as such is instantiated. -/
def bindType (value hint : Value) : Except Fault String :=
  match hint with
  | .sqlType t =>
    match t.occurrence, t.instantiation with
    | none, .needsArguments => .error (.wrongKind hint.kindWord)
    | none, .extensionOnly => .error (.noOperation hint.kindWord)
    | _, _ => .ok t.name
  | _ => .ok (impliedType value)

/-- A bind of a text clause. -/
structure Bind where
  name : String
  value : Value
  type : String
  /-- The caller has to give the value. -/
  required : Bool

/-- A text with its binds, each at its first place. -/
structure TextClause where
  text : String
  binds : List Bind

/-- The bind of a name among named values with their type hints. -/
def bindOf (given : List ((String × Value) × String)) (name : String) : Bind :=
  match given.find? fun ((n, _), _) => n = name with
  | some ((_, value), type) => { name, value, type, required := false }
  | none => { name, value := .null, type := "NullType", required := true }

/-- The text clause of a query; a parameter that is not found in the text is refused. -/
def Query.textClause (q : Query) : Except Fault TextClause := do
  let named ← q.named "p"
  let types ← (named.values.zip q.types).mapM fun ((_, value), hint) => bindType value hint
  let names := firstOccurrences (bindNames named.sql)
  match named.values.find? fun (name, _) => !names.contains name with
  | some (name, _) => throw (.unplacedBind name)
  | none =>
    return { text := named.sql, binds := names.map (bindOf (named.values.zip types)) }

end PgWrite
