import PgWrite.Sql.Query
import PgWrite.Sql.RowSet
import PgWrite.Log.Event
import PgWrite.Transaction.Basic
import PgWrite.Transaction.Target

/-!
# Compiling transactions

A transaction is compiled by way of a plan: the statement with its names still unwritten,
beside the values it binds and their type hints. The plan holds every check of shape; writing
the names and pairing values with hints comes after it. A compiled query is reported with its
kind, table and number of parameters, never with a value.
-/

namespace PgWrite

/-- A statement with the values it binds. -/
structure Plan where
  statement : Statement Value
  params : List Value
  types : List Value

/-- Checks that type hints are given for assigned columns only. -/
def checkAssignedHints (hints : Row) (columns : List Value) : Except Fault Unit :=
  let unknown := hints.keys.filter fun k => !k.isAmong columns
  if unknown.isEmpty then .ok ()
  else do .error (.invalid (.unknownUpdateHints (← namesOf unknown)))

/-- The plan of an insert under a conflict rule. -/
def insertPlan (table schema : Value) (s : RowSet) (rule : ConflictRule Value) : Plan where
  statement := .insert (TableRef.ofValues table schema) s.columns s.rows rule
  params := s.params
  types := s.types

/-- The plan of a plain insert. -/
def Insert.plan (t : Insert) (rule : ConflictRule Value) : Except Fault Plan := do
  return insertPlan t.table t.schema (← RowSet.compile t.rows t.hints) rule

/-- The plan of an upsert: update columns and conflict columns are checked together. -/
def Upsert.plan (t : Upsert) : Except Fault Plan := do
  let s ← RowSet.compile t.rows t.hints
  let update ← namesOf (← missingAmong s.columns t.assigned)
  let target ← targetOf t.target
  let conflict ← namesOf (← target.missing s.columns)
  refuseMissing update conflict
  return insertPlan t.table t.schema s (.overwrite target t.assigned)
where
  /-- Fails where columns are missing. -/
  refuseMissing (update conflict : List String) : Except Fault Unit :=
    if update.isEmpty && conflict.isEmpty then .ok ()
    else .error (.invalid (.missingColumns update conflict))

/-- The plan of a delete. -/
def Delete.plan (t : Delete) : Plan where
  statement := .delete (TableRef.ofValues t.table t.schema) t.column t.identifiers.length
  params := t.identifiers
  types := t.identifiers.map fun _ => t.type

/-- The plan of a capped delete. -/
def DeleteLimited.plan (t : DeleteLimited) : Plan where
  statement := .deleteLimited (TableRef.ofValues t.table t.schema) t.column t.identifiers.length
    t.limit
  params := t.identifiers
  types := t.identifiers.map fun _ => t.type

/-- The plan of an update with the same values for every row. -/
def BulkUpdate.plan (t : BulkUpdate) : Except Fault Plan := do
  checkAssignedHints t.hints t.values.keys
  return {
    statement := .update (TableRef.ofValues t.table t.schema) t.values.keys t.column
      t.identifiers.length
    params := t.values.map (·.2) ++ t.identifiers
    types := RowSet.hintsFor t.values.keys t.hints ++ t.identifiers.map fun _ => t.type }

namespace CaseUpdate

/-- The rows that carry a value for a column. -/
def carrying (t : CaseUpdate) (column : Value) : List Row :=
  t.rows.filter fun row => row.has column

/-- The identifier of a row. -/
def identifier (t : CaseUpdate) (row : Row) : Value :=
  (row.get? t.column).getD .null

/-- The columns that some row carries, each with the number of such rows. -/
def branches (t : CaseUpdate) : List (Value × Nat) :=
  (t.assigned.filter fun c => !(t.carrying c).isEmpty).map fun c => (c, (t.carrying c).length)

/-- The columns that no row carries. -/
def unassigned (t : CaseUpdate) : List Value :=
  t.assigned.filter fun c => (t.carrying c).isEmpty

/-- The values that the branches bind: identifier and cell of every carrying row, by column. -/
def branchParams (t : CaseUpdate) : List Value :=
  t.assigned.flatMap fun c => (t.carrying c).flatMap fun row =>
    [t.identifier row, (row.get? c).getD .null]

/-- The type hints of the values that the branches bind. -/
def branchTypes (t : CaseUpdate) : List Value :=
  t.assigned.flatMap fun c => (t.carrying c).flatMap fun _ =>
    [t.type, (t.hints.get? c).getD .null]

/-- The plan of an update with values of its own for every row. -/
def plan (t : CaseUpdate) : Except Fault Plan := do
  checkAssignedHints t.hints t.assigned
  t.assigned.forM Value.requireKey
  if t.branches.isEmpty then
    throw (.invalid (.nothingAssigned (← namesOf t.unassigned)))
  return {
    statement := .caseUpdate (TableRef.ofValues t.table t.schema) t.column t.branches
      t.rows.length
    params := t.branchParams ++ t.rows.map t.identifier
    types := t.branchTypes ++ t.rows.map fun _ => t.type }

end CaseUpdate

/-- The query of a plan under a quoter. -/
def Plan.query (plan : Plan) (q : Quoter) (policy : Value) : Except Fault Query := do
  Query.build (.text (← plan.statement.sql q)) plan.params plan.types policy

namespace RawSql

/-- The type hints, or none for every value if none are given. -/
def hints (t : RawSql) : List Value :=
  if t.types.isEmpty then t.params.map fun _ => .null else t.types

/-- The query of raw SQL text, which is passed through. -/
def query (t : RawSql) : Except Fault Query :=
  Query.build t.sql t.params t.hints t.options.policy

end RawSql

namespace Transaction

/-- The table that a report names. -/
def reportedTable : Transaction → Value
  | .insert t => t.table
  | .insertIgnore t => t.table
  | .upsert t => t.table
  | .raw _ => .text "-"
  | .delete t => t.table
  | .deleteLimited t => t.table
  | .bulkUpdate t => t.table
  | .caseUpdate t => t.table

/-- The query of a transaction under a quoter. -/
def query (q : Quoter) : Transaction → Except Fault Query
  | .insert t => do (← t.plan .fail).query q t.options.policy
  | .insertIgnore t => do (← t.plan .skip).query q t.options.policy
  | .upsert t => do (← t.plan).query q t.options.policy
  | .raw t => t.query
  | .delete t => t.plan.query q t.options.policy
  | .deleteLimited t => t.plan.query q t.options.policy
  | .bulkUpdate t => do (← t.plan).query q t.options.policy
  | .caseUpdate t => do (← t.plan).query q t.options.policy

/-- The report on a compiled query, which needs a proper policy. -/
def compiledEvent (t : Transaction) (query : Query) : Except Fault LogEvent :=
  match query.policy with
  | .policy p => .ok {
      logger := "pg_transactions.infrastructure.sql.operations.base"
      level := .debug
      fields := [("kind", .text t.kind.eventName), ("table", t.reportedTable),
        ("param_count", .int query.params.length), ("statement_reuse_policy", .text p.name)]
      event := .text "sql.transaction.compiled" }
  | v => .error (.noOperation v.kindWord)

/-- Compiles a transaction and reports on it. -/
def compile (q : Quoter) (t : Transaction) : Except Fault (Query × LogEvent) := do
  let query ← t.query q
  return (query, ← t.compiledEvent query)

end Transaction

end PgWrite
