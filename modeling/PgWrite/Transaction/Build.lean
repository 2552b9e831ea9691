import PgWrite.Log.Event
import PgWrite.Transaction.Freeze
import PgWrite.Transaction.Signature

/-!
# Building transactions

A transaction is built from named arguments. Collections are made read-only in a fixed order
and only then tested for being empty, so of two faults the earlier step reports its own. A
capped delete whose limit may spare identifiers, though declared repeatable, is built all the
same and reported as suspect.
-/

namespace PgWrite

/-- A transaction with the events of its making. -/
structure Built where
  transaction : Transaction
  events : List LogEvent

/-- Fails with a violation where a condition holds. -/
def refuseIf (condition : Bool) (cause : InvalidInput) : Except Fault Unit :=
  if condition then .error (.invalid cause) else .ok ()

/-- The indices of the rows without a key, counted from `index`. -/
def rowsWithout (key : Value) : Nat → List Row → List Nat
  | _, [] => []
  | index, row :: rest =>
    let others := rowsWithout key (index + 1) rest
    if row.has key then others else index :: others

/-- A limit is a positive integer; truth values are none. -/
def checkLimit : Value → Except Fault Int
  | .int n => if n ≤ 0 then .error (.invalid (.limitNotPositive n)) else .ok n
  | v => .error (.invalid (.limitNotInteger v.shown))

/-- The report on a capped delete that is declared repeatable but may spare identifiers. -/
def suspectEvents (t : DeleteLimited) : List LogEvent :=
  if t.options.idempotent.truthy && !t.coversIdentifiers then
    [{ logger := "pg_transactions.infrastructure.sql.operations.delete"
       level := .warning
       fields := [("table", t.table), ("limit", .int t.limit),
         ("identifier_count", .int t.identifiers.length)]
       event := .text "sql.delete_with_limit.idempotency_suspect" }]
  else []

/-- Builds the transaction of a kind from its arguments; type hints go by the given name. -/
def Kind.build (k : Kind) (hintsName : String) (arg : String → Value) : Except Fault Built := do
  let table := arg "table_name"
  let schema := arg "schema"
  let options : Options :=
    { idempotent := arg "idempotent", policy := arg "statement_reuse_policy" }
  let column := arg "identifier_column"
  let type := arg "identifier_type"
  match k with
  | .insert => do
    let rows ← freezeRows (arg "rows")
    let hints ← freezeMapping (arg hintsName)
    return ⟨.insert { table, rows, hints, schema, options }, []⟩
  | .insertIgnore => do
    let rows ← freezeRows (arg "rows")
    let hints ← freezeMapping (arg hintsName)
    return ⟨.insertIgnore { table, rows, hints, schema, options }, []⟩
  | .upsert => do
    let rows ← freezeRows (arg "rows")
    let assigned ← freezeNames "update_columns" (arg "update_columns")
    let hints ← freezeMapping (arg hintsName)
    refuseIf assigned.isEmpty .emptyUpsertColumns
    let target := arg "conflict_target"
    return ⟨.upsert { table, rows, assigned, target, hints, schema, options }, []⟩
  | .raw => do
    let params ← (arg "params").elements
    let types ← (arg "types").elements
    return ⟨.raw { sql := arg "sql", params, types, options }, []⟩
  | .delete => do
    let identifiers ← freezeValues (arg "identifiers")
    refuseIf identifiers.isEmpty .emptyIdentifiers
    return ⟨.delete { table, column, identifiers, type, schema, options }, []⟩
  | .deleteLimited => do
    let identifiers ← freezeValues (arg "identifiers")
    refuseIf identifiers.isEmpty .emptyIdentifiers
    let limit ← checkLimit (arg "limit")
    let t : DeleteLimited := { table, column, identifiers, type, schema, options, limit }
    return ⟨.deleteLimited t, suspectEvents t⟩
  | .bulkUpdate => do
    let identifiers ← freezeValues (arg "identifiers")
    let values ← freezeMapping (arg "values")
    let hints ← freezeMapping (arg hintsName)
    refuseIf identifiers.isEmpty .emptyIdentifiers
    refuseIf values.isEmpty .emptyValues
    return ⟨.bulkUpdate { table, column, identifiers, values, type, hints, schema, options }, []⟩
  | .caseUpdate => do
    let rows ← freezeRows (arg "rows")
    let assigned ← freezeNames "update_columns" (arg "update_columns")
    let hints ← freezeMapping (arg hintsName)
    refuseIf rows.isEmpty .emptyRows
    refuseIf assigned.isEmpty .emptyCaseColumns
    column.requireKey
    let without := rowsWithout column 0 rows
    refuseIf (!without.isEmpty) (.rowsWithoutIdentifier column.shown without)
    return ⟨.caseUpdate { table, rows, column, assigned, type, hints, schema, options }, []⟩

/-- Builds a transaction of a kind from its own arguments. -/
def Kind.construct (k : Kind) (args : Arguments) : Except Fault Built := do
  k.build "column_types" (← k.signature.bind args)

end PgWrite
