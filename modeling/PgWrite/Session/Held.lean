import PgWrite.Sql.Query
import PgWrite.Transaction.Freeze
import PgWrite.Transaction.Basic

/-!
# What a session holds

A variable of a session holds a value, a transaction or a query. Its parts are reached by an
attribute and a path of keys. Lists and mappings of values can be changed; what a transaction
has copied cannot. A change is told by the identity of the container, so that it shows
wherever the same container is held.
-/

namespace PgWrite

namespace Value

mutual

/-- The value with new contents wherever it holds a container of an identity. -/
def withContents (identity : Nat) (contents : Value) : Value → Value
  | .list i items =>
    if i = identity then contents else .list i (withContentsAll identity contents items)
  | .tuple items => .tuple (withContentsAll identity contents items)
  | .map i entries =>
    if i = identity then contents else .map i (withContentsEntries identity contents entries)
  | .frozen entries => .frozen (withContentsEntries identity contents entries)
  | .columnsTarget columns => .columnsTarget (withContentsAll identity contents columns)
  | .constraintTarget constraint => .constraintTarget (withContents identity contents constraint)
  | .record typeName fields => .record typeName (withContentsFields identity contents fields)
  | .null => .null
  | .bool b => .bool b
  | .int n => .int n
  | .float x => .float x
  | .text s => .text s
  | .bytes o => .bytes o
  | .policy p => .policy p
  | .sqlType t => .sqlType t

/-- The values of a list with new contents of a container. -/
def withContentsAll (identity : Nat) (contents : Value) : List Value → List Value
  | [] => []
  | v :: vs => withContents identity contents v :: withContentsAll identity contents vs

/-- The entries of a mapping with new contents of a container. -/
def withContentsEntries (identity : Nat) (contents : Value) :
    List (Value × Value) → List (Value × Value)
  | [] => []
  | (k, v) :: rest =>
    (k, withContents identity contents v) :: withContentsEntries identity contents rest

/-- The fields of a structure with new contents of a container. -/
def withContentsFields (identity : Nat) (contents : Value) :
    List (String × Value) → List (String × Value)
  | [] => []
  | (k, v) :: rest =>
    (k, withContents identity contents v) :: withContentsFields identity contents rest

end

end Value

/-- Applies a function to the values of a row. -/
def Row.mapValues (f : Value → Value) (row : Row) : Row :=
  row.map fun (k, v) => (k, f v)

namespace Transaction

/-- Applies a function to the options of a transaction. -/
def mapOptions (f : Value → Value) (o : Options) : Options :=
  { idempotent := f o.idempotent, policy := f o.policy }

/-- Applies a function to the parts of an insert. -/
def mapInsert (f : Value → Value) (t : Insert) : Insert :=
  { table := f t.table, rows := t.rows.map (Row.mapValues f), hints := Row.mapValues f t.hints
    schema := f t.schema, options := mapOptions f t.options }

/-- Applies a function to the parts of a delete. -/
def mapDelete (f : Value → Value) (t : Delete) : Delete :=
  { table := f t.table, column := f t.column, identifiers := t.identifiers.map f
    type := f t.type, schema := f t.schema, options := mapOptions f t.options }

/-- Applies a function to every value that a transaction holds. -/
def mapValues (f : Value → Value) : Transaction → Transaction
  | .insert t => .insert (mapInsert f t)
  | .insertIgnore t => .insertIgnore (mapInsert f t)
  | .upsert t => .upsert {
      table := f t.table, rows := t.rows.map (Row.mapValues f), assigned := t.assigned.map f
      target := f t.target, hints := Row.mapValues f t.hints, schema := f t.schema
      options := mapOptions f t.options }
  | .raw t => .raw {
      sql := f t.sql, params := t.params.map f, types := t.types.map f
      options := mapOptions f t.options }
  | .delete t => .delete (mapDelete f t)
  | .deleteLimited t => .deleteLimited { mapDelete f t.toDelete with limit := t.limit }
  | .bulkUpdate t => .bulkUpdate {
      table := f t.table, column := f t.column, identifiers := t.identifiers.map f
      values := Row.mapValues f t.values, type := f t.type, hints := Row.mapValues f t.hints
      schema := f t.schema, options := mapOptions f t.options }
  | .caseUpdate t => .caseUpdate {
      table := f t.table, rows := t.rows.map (Row.mapValues f), column := f t.column
      assigned := t.assigned.map f, type := f t.type, hints := Row.mapValues f t.hints
      schema := f t.schema, options := mapOptions f t.options }

end Transaction

namespace Query

/-- Applies a function to every value that a query holds. -/
def mapValues (f : Value → Value) (q : Query) : Query :=
  { sql := f q.sql, params := q.params.map f, types := q.types.map f, policy := f q.policy }

end Query

/-- What a variable of a session holds. -/
inductive Held where
  | value (v : Value)
  | transaction (t : Transaction)
  | query (q : Query)

namespace Held

/-- Applies a function to every value that is held. -/
def mapValues (f : Value → Value) : Held → Held
  | .value v => .value (f v)
  | .transaction t => .transaction (t.mapValues f)
  | .query q => .query (q.mapValues f)

/-- What is held, passed as a value. -/
def toValue : Held → Value
  | .value v => v
  | .transaction t => t.toValue
  | .query q => q.toValue

/-- The word for the kind of what is held. -/
def kindWord (h : Held) : String :=
  h.toValue.kindWord

/-- The fields of what is held, if it has any. -/
def fields? (h : Held) : Option (List (String × Value)) :=
  match h.toValue with
  | .record _ fields => some fields
  | .columnsTarget columns => some [("columns", .tuple columns)]
  | .constraintTarget constraint => some [("constraint_name", constraint)]
  | _ => none

/-- Equality of what is held; an undefined number on its own does not equal itself. -/
def same (h k : Held) : Bool :=
  match h with
  | .value (.float (.undefined _)) => false
  | _ => h.toValue.same k.toValue

end Held

/-- A place among indexed items; negative ones count from the end. -/
def indexOf (key : Value) (size : Nat) : Except Fault Nat :=
  match key.int? with
  | some i =>
    let place := if i < 0 then i + size else i
    if 0 ≤ place && place < size then .ok place.toNat else .error .indexOutOfRange
  | none => .error (.wrongKind key.kindWord)

/-- The item of a list at a key. -/
def itemAt (items : List Value) (key : Value) : Except Fault Value :=
  (indexOf key items.length).map fun i => items.getD i .null

/-- The value of a key among entries. -/
def entryAt (entries : Row) (key : Value) : Except Fault Value := do
  key.requireKey
  match entries.get? key with
  | some v => return v
  | none => throw .missingKey

namespace Value

/-- What a key leads to. -/
def item (v key : Value) : Except Fault Value :=
  match v with
  | .list _ items => itemAt items key
  | .tuple items => itemAt items key
  | .map _ entries => entryAt entries key
  | .frozen entries => entryAt entries key
  | .bytes o => itemAt (o.map fun octet => .int octet.toNat) key
  | v => match v.text? with
    | some s => itemAt (characters s) key
    | none => .error (.wrongKind v.kindWord)

/-- What a path of keys leads to. -/
def follow (v : Value) : List Value → Except Fault Value
  | [] => .ok v
  | key :: rest => do follow (← v.item key) rest

/-- The container with the value of a key set, if it can be changed. -/
def put (v key value : Value) : Except Fault (Nat × Value) :=
  match v with
  | .list identity items =>
    (indexOf key items.length).map fun i => (identity, .list identity (items.set i value))
  | .map identity entries => do
    key.requireKey
    return (identity, .map identity (Row.insert entries key value))
  | v => .error (.wrongKind v.kindWord)

/-- The container with a value at its end, if it is a list. -/
def append (v value : Value) : Except Fault (Nat × Value) :=
  match v with
  | .list identity items => .ok (identity, .list identity (items ++ [value]))
  | v => .error (.noOperation v.kindWord)

/-- The container without what stands at a key, if it can be changed. -/
def delete (v key : Value) : Except Fault (Nat × Value) :=
  match v with
  | .list identity items =>
    (indexOf key items.length).map fun i => (identity, .list identity (items.eraseIdx i))
  | .map identity entries => do
    let _ ← entryAt entries key
    return (identity, .map identity (entries.filter fun (k, _) => !k.same key))
  | v => .error (.wrongKind v.kindWord)

end Value

end PgWrite
