import PgWrite.Value.Elements
import PgWrite.Value.Shown

/-!
# Identifiers

An identifier is written between double quotes with every double quote in it written twice,
whatever the name: nothing is rejected, and any name ends up as one inert identifier. A
quoter says how single names and lists of names are written; the list rule is a rule of its
own, which falls back to the standard one.
-/

namespace PgWrite

/-- Every occurrence of a quote written twice. -/
def doubled (quote : Char) : List Char → List Char
  | [] => []
  | c :: rest => if c = quote then c :: c :: doubled quote rest else c :: doubled quote rest

/-- A name between quotes, with the quotes in it written twice. -/
def quotedWith (quote : Char) (name : String) : String :=
  String.ofList (quote :: doubled quote name.toList ++ [quote])

/-- A name as a standard identifier. -/
def quotedName (name : String) : String :=
  quotedWith '"' name

theorem toList_quotedWith (quote : Char) (name : String) :
    (quotedWith quote name).toList = quote :: (doubled quote name.toList ++ [quote]) := by
  rw [quotedWith, String.toList_ofList, List.cons_append]

theorem toList_quotedName (name : String) :
    (quotedName name).toList = '"' :: (doubled '"' name.toList ++ ['"']) :=
  toList_quotedWith '"' name

/-- The text of a value that stands for a name. -/
def nameText (name : Value) : Except Fault String :=
  match name.text?, name with
  | some s, _ => .ok s
  | none, .bytes _ => .error (.wrongKind name.kindWord)
  | none, _ => .error (.noOperation name.kindWord)

/-- A name given as a value, as a standard identifier. -/
def quoteValue (name : Value) : Except Fault String :=
  (nameText name).map quotedName

/-- How names are written into a statement. -/
structure Quoter where
  /-- A single name. -/
  quote : Value → Except Fault String
  /-- The names of a column list. -/
  quoteAll : List Value → Except Fault (List String) := fun names => names.mapM quoteValue

namespace Quoter

/-- The standard quoter. -/
def standard : Quoter where
  quote := quoteValue

/-- Single names between brackets, as they are. -/
def bracket : Quoter where
  quote := fun name => .ok ("[" ++ name.display ++ "]")

/-- Every name between backticks. -/
def backtick : Quoter where
  quote := fun name => (nameText name).map (quotedWith '\x60')
  quoteAll := fun names => names.mapM fun name => (nameText name).map (quotedWith '\x60')

end Quoter

/-- A table, with the schema it lies in if one is given. -/
structure TableRef (ν : Type) where
  table : ν
  schema : Option ν
  deriving DecidableEq, Repr

namespace TableRef

/-- A table in a schema; a schema that does not count as given is left out. -/
def ofValues (table schema : Value) : TableRef Value :=
  { table, schema := if schema.truthy then some schema else none }

/-- The reference to a table whose parts are written already. -/
def text (ref : TableRef String) : String :=
  match ref.schema with
  | some schema => schema ++ "." ++ ref.table
  | none => ref.table

/-- Applies a function to both parts. -/
def map {ν μ : Type} (f : ν → μ) (ref : TableRef ν) : TableRef μ :=
  { table := f ref.table, schema := ref.schema.map f }

/-- Writes both parts, the table first. -/
def quoted (q : Quoter) (ref : TableRef Value) : Except Fault (TableRef String) := do
  let table ← q.quote ref.table
  match ref.schema with
  | some schema => return { table, schema := some (← q.quote schema) }
  | none => return { table, schema := none }

end TableRef

/-- The reference to a table in a schema. -/
def qualified (q : Quoter) (table schema : Value) : Except Fault String :=
  ((TableRef.ofValues table schema).quoted q).map TableRef.text

end PgWrite
