import PgWrite.Number.Binary64
import PgWrite.Text.Scan

/-!
# Values

A request reaches the library as untyped data: the fields of a document, the cells of a row,
the parameters of a statement. Values are compared, tested and walked through in few places,
and those places are the functions of this module; everywhere else a value is carried along
unread. Lists and mappings bear the identity of the container they were read from, so that a
later change to that container is seen wherever it is held. Tuples, frozen mappings and
records are read-only.
-/

namespace PgWrite

/-- Whether an executor may keep a prepared statement for a query. -/
inductive ReusePolicy where
  | none
  | perTransaction
  deriving DecidableEq, Repr, Inhabited

namespace ReusePolicy

/-- The written name of a policy. -/
def name : ReusePolicy → String
  | .none => "none"
  | .perTransaction => "per_transaction"

/-- The policy with a written name. -/
def ofName? (s : String) : Option ReusePolicy :=
  if s = "none" then some .none
  else if s = "per_transaction" then some .perTransaction
  else Option.none

/-- A policy is found again by its name. -/
@[simp] theorem ofName?_name (p : ReusePolicy) : ofName? p.name = some p := by
  cases p <;> rfl

end ReusePolicy

/-- A column type of the clause library: a type itself, or one occurrence of an instance. -/
structure SqlType where
  name : String
  occurrence : Option Nat
  deriving DecidableEq, Repr, Inhabited

/-- Untyped data. -/
inductive Value where
  | null
  | bool (b : Bool)
  | int (n : Int)
  | float (x : Binary64)
  | text (s : String)
  | bytes (octets : List UInt8)
  | list (identity : Nat) (items : List Value)
  | tuple (items : List Value)
  /-- Entries in the order in which their keys were first given. -/
  | map (identity : Nat) (entries : List (Value × Value))
  | frozen (entries : List (Value × Value))
  | policy (p : ReusePolicy)
  | columnsTarget (columns : List Value)
  | constraintTarget (constraint : Value)
  | sqlType (type : SqlType)
  /-- A structure of the library passed as a value. -/
  | record (typeName : String) (fields : List (String × Value))
  deriving Inhabited

/-- Sets a field; a new one goes to the end, a known one keeps its place. -/
def setField {α : Type} (key : String) (value : α) : List (String × α) → List (String × α)
  | [] => [(key, value)]
  | (k, v) :: rest => if k = key then (k, value) :: rest else (k, v) :: setField key value rest

/-- Sets fields one after the other. -/
def setFields {α : Type} (fields given : List (String × α)) : List (String × α) :=
  given.foldl (fun fields (k, v) => setField k v fields) fields

/-- A field that is set is found. -/
@[simp] theorem lookup_setField_self {α : Type} (key : String) (value : α)
    (fields : List (String × α)) : (setField key value fields).lookup key = some value := by
  induction fields with
  | nil => simp [setField]
  | cons field rest ih =>
    obtain ⟨k, v⟩ := field
    by_cases h : k = key
    · simp [setField, h]
    · have hk : (key == k) = false := by simpa using fun he => h he.symm
      simp [setField, h, List.lookup_cons, hk, ih]

/-- Setting a field leaves every other field as it is. -/
theorem lookup_setField_of_ne {α : Type} {key other : String} (h : other ≠ key) (value : α)
    (fields : List (String × α)) :
    (setField key value fields).lookup other = fields.lookup other := by
  have ho : (other == key) = false := by simpa using h
  induction fields with
  | nil => simp [setField, List.lookup_cons, ho]
  | cons field rest ih =>
    obtain ⟨k, v⟩ := field
    by_cases hk : k = key
    · subst hk
      simp [setField, List.lookup_cons, ho]
    · simp only [setField, if_neg hk, List.lookup_cons, ih]

/-- Ordered entries of a read-only mapping, at most one to a key. -/
abbrev Row := List (Value × Value)

namespace Value

/-- The word for the kind of a value in messages. -/
def kindWord : Value → String
  | .null => "NoneType"
  | .bool _ => "bool"
  | .int _ => "int"
  | .float _ => "float"
  | .text _ => "str"
  | .bytes _ => "bytes"
  | .list _ _ => "list"
  | .tuple _ => "tuple"
  | .map _ _ => "dict"
  | .frozen _ => "mappingproxy"
  | .policy _ => "StatementReusePolicy"
  | .columnsTarget _ => "ColumnsConflictTarget"
  | .constraintTarget _ => "ConstraintConflictTarget"
  | .sqlType t => match t.occurrence with
    | none => "type"
    | some _ => t.name
  | .record typeName _ => typeName

/-- The text of a value that is text; a policy counts as its name. -/
def text? : Value → Option String
  | .text s => some s
  | .policy p => some p.name
  | _ => none

/-- Values that count as given: everything but null, false, zero and what is empty. -/
def truthy : Value → Bool
  | .null => false
  | .bool b => b
  | .int n => n ≠ 0
  | .float x => !x.isZero
  | .text s => s ≠ ""
  | .bytes octets => !octets.isEmpty
  | .list _ items => !items.isEmpty
  | .tuple items => !items.isEmpty
  | .map _ entries => !entries.isEmpty
  | .frozen entries => !entries.isEmpty
  | _ => true

/-- The single characters of a text, each as a text. -/
def characters (s : String) : List Value :=
  s.toList.map fun c => .text (String.ofList [c])

/-- What a walk over a value meets: list items, characters, mapping keys or octets. -/
def elements? : Value → Option (List Value)
  | .text s => some (characters s)
  | .policy p => some (characters p.name)
  | .bytes octets => some (octets.map fun o => .int o.toNat)
  | .list _ items => some items
  | .tuple items => some items
  | .map _ entries => some (entries.map (·.1))
  | .frozen entries => some (entries.map (·.1))
  | _ => none

/-- The integer of a value that counts as one; truth values count as zero and one. -/
def int? : Value → Option Int
  | .int n => some n
  | .bool b => some (if b then 1 else 0)
  | _ => none

/-- A list that no other value shares. -/
def ofList (items : List Value) : Value :=
  .list 0 items

/-- A mapping of named values that no other value shares. -/
def ofFields (fields : List (String × Value)) : Value :=
  .map 0 (fields.map fun (name, v) => (.text name, v))

end Value

namespace Row

/-- The value of a text key. -/
def field? (row : Row) (name : String) : Option Value :=
  (row.find? fun (key, _) => key.text? = some name).map (·.2)

/-- The entries whose keys are texts, by their names. -/
def fields (row : Row) : List (String × Value) :=
  row.filterMap fun (key, v) => key.text?.map fun name => (name, v)

end Row

end PgWrite
