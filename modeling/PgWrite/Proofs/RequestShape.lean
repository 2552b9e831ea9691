import Mathlib
import PgWrite.Proofs.Names
import PgWrite.Transaction.Build

/-!
# The shape of a request

Whether a request is good depends on little of it: on names, on numbers of values and on a limit,
but never on a value that is bound. The shape of a request is just that, and the violations of each
kind are conditions on it. Arguments are of the right types for a shape if names are texts, lists of
names and values are lists, and mappings are keyed by names.
-/

namespace PgWrite

/-- The columns of a target. -/
def ConflictTarget.columnList {ν : Type} : ConflictTarget ν → List ν
  | .columns names => names
  | .constraint _ => []

/-- What the success of a well-typed request hangs on. Rows and mappings count by their keys, other
collections by their lengths. -/
inductive RequestShape where
  | insert (rows : List (List String)) (hints : List String)
  | insertIgnore (rows : List (List String)) (hints : List String)
  | upsert (rows : List (List String)) (assigned : List String) (target : ConflictTarget String)
    (hints : List String)
  | raw (params types : Nat)
  | delete (identifiers : Nat)
  | deleteLimited (identifiers : Nat) (limit : Value)
  | bulkUpdate (identifiers : Nat) (assigned hints : List String)
  | caseUpdate (rows : List (List String)) (column : String) (assigned hints : List String)

/-- Rows cannot be inserted together: there is no row or no column, some row has other columns than
the first one, or a type hint is for none of its columns. -/
def RowsUnfit (rows : List (List String)) (hints : List String) : Prop :=
  rows = [] ∨ rows.headD [] = [] ∨ (∃ row ∈ rows, row.toFinset ≠ (rows.headD []).toFinset) ∨
    ∃ name ∈ hints, name ∉ rows.headD []

namespace RequestShape

/-- The kind that is asked for. -/
def kind : RequestShape → Kind
  | .insert .. => .insert
  | .insertIgnore .. => .insertIgnore
  | .upsert .. => .upsert
  | .raw .. => .raw
  | .delete .. => .delete
  | .deleteLimited .. => .deleteLimited
  | .bulkUpdate .. => .bulkUpdate
  | .caseUpdate .. => .caseUpdate

/-- The violations that are seen when the transaction is built. -/
def Unbuildable : RequestShape → Prop
  | .insert .. | .insertIgnore .. | .raw .. => False
  | .upsert _ assigned _ _ => assigned = []
  | .delete identifiers => identifiers = 0
  | .deleteLimited identifiers limit => identifiers = 0 ∨ ¬ ∃ n : Int, limit = .int n ∧ 0 < n
  | .bulkUpdate identifiers assigned _ => identifiers = 0 ∨ assigned = []
  | .caseUpdate rows column assigned _ => rows = [] ∨ assigned = [] ∨ ∃ row ∈ rows, column ∉ row

/-- The violations that are seen when the transaction is compiled. -/
def Uncompilable : RequestShape → Prop
  | .insert rows hints | .insertIgnore rows hints => RowsUnfit rows hints
  | .upsert rows assigned target hints =>
    RowsUnfit rows hints ∨ (∃ c ∈ assigned, c ∉ rows.headD []) ∨
      ∃ c ∈ target.columnList, c ∉ rows.headD []
  | .raw params types => types ≠ 0 ∧ types ≠ params
  | .delete .. | .deleteLimited .. => False
  | .bulkUpdate _ assigned hints => ∃ name ∈ hints, name ∉ assigned
  | .caseUpdate rows _ assigned hints =>
    (∃ name ∈ hints, name ∉ assigned) ∨ ∀ c ∈ assigned, ∀ row ∈ rows, c ∉ row

end RequestShape

/-! ## Well-typed values -/

namespace Value

/-- The value is a list of the items. -/
def IsList (v : Value) (items : List Value) : Prop :=
  (∃ identity, v = .list identity items) ∨ v = .tuple items

/-- The value is a list of so many values. -/
def HoldsCount (v : Value) (n : Nat) : Prop :=
  ∃ items, v.IsList items ∧ items.length = n

/-- The value is a list of the names. -/
def IsNames (v : Value) (names : List String) : Prop :=
  ∃ items, v.IsList items ∧ Spells items names

/-- The value is a mapping with the names for its keys. -/
def IsMapping (v : Value) (names : List String) : Prop :=
  ∃ entries : Row, ((∃ identity, v = .map identity entries) ∨ v = .frozen entries) ∧
    Spells entries.keys names

/-- The value is a list of mappings. -/
def IsRows (v : Value) (rows : List (List String)) : Prop :=
  ∃ items, v.IsList items ∧ List.Forall₂ IsMapping items rows

/-- The value holds type hints for the names; without hints it may be left out. -/
def IsHints (v : Value) (names : List String) : Prop :=
  (v = .null ∧ names = []) ∨ v.IsMapping names

/-- The value is the conflict target. -/
def IsTarget (v : Value) : ConflictTarget String → Prop
  | .columns names => ∃ items, v = .columnsTarget items ∧ Spells items names
  | .constraint name => ∃ w, v = .constraintTarget w ∧ w.text? = some name

/-- The value names a schema, or none is given. -/
def IsSchema (v : Value) : Prop :=
  v = .null ∨ v.IsName

end Value

/-- Arguments that name a table. -/
structure NamesTable (table schema : Value) : Prop where
  table : table.IsName
  schema : schema.IsSchema

/-- The arguments are of the right types and make the request. Values that no check looks at may be
of any type. -/
def RequestShape.MadeBy (r : RequestShape) (arg : String → Value) : Prop :=
  (∃ p, arg "statement_reuse_policy" = .policy p) ∧
  match r with
  | .insert rows hints | .insertIgnore rows hints =>
    NamesTable (arg "table_name") (arg "schema") ∧ (arg "rows").IsRows rows ∧
      (arg "column_types").IsHints hints
  | .upsert rows assigned target hints =>
    NamesTable (arg "table_name") (arg "schema") ∧ (arg "rows").IsRows rows ∧
      (arg "update_columns").IsNames assigned ∧ (arg "conflict_target").IsTarget target ∧
      (arg "column_types").IsHints hints
  | .raw params types => (arg "params").HoldsCount params ∧ (arg "types").HoldsCount types
  | .delete identifiers =>
    NamesTable (arg "table_name") (arg "schema") ∧ (arg "identifier_column").IsName ∧
      (arg "identifiers").HoldsCount identifiers
  | .deleteLimited identifiers limit =>
    NamesTable (arg "table_name") (arg "schema") ∧ (arg "identifier_column").IsName ∧
      (arg "identifiers").HoldsCount identifiers ∧ arg "limit" = limit
  | .bulkUpdate identifiers assigned hints =>
    NamesTable (arg "table_name") (arg "schema") ∧ (arg "identifier_column").IsName ∧
      (arg "identifiers").HoldsCount identifiers ∧ (arg "values").IsMapping assigned ∧
      (arg "column_types").IsHints hints
  | .caseUpdate rows column assigned hints =>
    NamesTable (arg "table_name") (arg "schema") ∧ (arg "rows").IsRows rows ∧
      (arg "identifier_column").text? = some column ∧ (arg "update_columns").IsNames assigned ∧
      (arg "column_types").IsHints hints

/-! ## Rows -/

/-- The rows spell the names, row by row. -/
abbrev RowsSpell (given : List Row) (rows : List (List String)) : Prop :=
  List.Forall₂ (fun row names => Spells row.keys names) given rows

/-- Row by row, a property of the rows is a property of their names. -/
theorem RowsSpell.exists_iff {given : List Row} {rows : List (List String)}
    (h : RowsSpell given rows) {p : Row → Prop} {q : List String → Prop}
    (hpq : ∀ row names, Spells row.keys names → (p row ↔ q names)) :
    (∃ row ∈ given, p row) ↔ ∃ names ∈ rows, q names := by
  induction h with
  | nil => simp
  | cons hrow _ ih => simp only [List.exists_mem_cons_iff, hpq _ _ hrow, ih]

theorem RowsSpell.isEmpty_iff {given : List Row} {rows : List (List String)}
    (h : RowsSpell given rows) : given.isEmpty = true ↔ rows = [] := by
  cases h <;> simp

end PgWrite
