import PgWrite.Transaction.Build
import PgWrite.Transaction.Target

/-!
# Requests

A request names a kind and gives the arguments of a transaction. The reuse policy may be
given by its name, and the conflict target of an upsert as a mapping; both are resolved
before the transaction itself is built. Each kind of request passes its own arguments on to
the transaction, one by one.
-/

namespace PgWrite

/-- The names of all kinds in the order in which they are listed. -/
def kindNames : List String :=
  Kind.all.map Kind.name

/-- The kind that a value names. -/
def Kind.ofValue (v : Value) : Except Fault Kind := do
  v.requireKey
  match v.text?.bind Kind.ofName? with
  | some k => return k
  | none => throw (.invalid (.unknownKind v.shown kindNames))

/-- Arguments with a reuse policy given by name in place of the name. -/
def resolvePolicy (args : Arguments) : Except Fault Arguments :=
  match args.lookup "statement_reuse_policy" with
  | some (.text s) =>
    match ReusePolicy.ofName? s with
    | some p => .ok (setField "statement_reuse_policy" (.policy p) args)
    | none => .error (.invalid (.unknownPolicy (quotedText s)))
  | _ => .ok args

/-- The arguments that a request may not give, as they are given otherwise. -/
def refuseReserved (args : Arguments) : Except Fault Unit :=
  match args.find? fun (name, _) => name = "self" || name = "kind" with
  | some (name, _) => .error (.repeatedArgument "PostgreSQLTransactionsFactory.create" name)
  | none => .ok ()

/-- Type hints as they are passed on: an empty mapping stands for what does not count as given. -/
def hintsPassed (v : Value) : Value :=
  if v.truthy then v else .ofFields []

/-- The arguments that a request of a kind passes on to its transaction. -/
def Kind.passed (k : Kind) (arg : String → Value) : Except Fault Arguments := do
  let same (names : List String) : Arguments := names.map fun name => (name, arg name)
  let hints : String × Value := ("column_types", hintsPassed (arg k.factoryHints))
  let closing := same ["idempotent", "statement_reuse_policy", "schema"]
  match k with
  | .insert | .insertIgnore => return same ["table_name", "rows"] ++ hints :: closing
  | .upsert =>
    let target ← coerceTarget (arg "conflict_target")
    return same ["table_name", "rows", "update_columns"] ++ ("conflict_target", target) :: hints
      :: closing
  | .raw => return same ["sql", "params", "types", "idempotent", "statement_reuse_policy"]
  | .delete =>
    return same ["table_name", "identifier_column", "identifiers", "identifier_type"] ++ closing
  | .deleteLimited =>
    return same ["table_name", "identifier_column", "identifiers", "limit", "identifier_type"]
      ++ closing
  | .bulkUpdate =>
    return same ["table_name", "identifier_column", "identifiers", "values", "identifier_type"]
      ++ hints :: closing
  | .caseUpdate =>
    return same ["table_name", "rows", "identifier_column", "update_columns", "identifier_type"]
      ++ hints :: closing

/-- Builds a transaction of a kind from the arguments of a request. -/
def Kind.make (k : Kind) (args : Arguments) : Except Fault Built := do
  let arg ← k.factorySignature.bind args
  k.construct (← k.passed arg)

/-- Builds the transaction that a request asks for. -/
def create (kind : Value) (args : Arguments) : Except Fault Built := do
  refuseReserved args
  let k ← Kind.ofValue kind
  k.make (← resolvePolicy args)

end PgWrite
