import PgWrite.Signature
import PgWrite.Transaction.Basic

/-!
# Arguments of transactions

What has to be given for a transaction of each kind, and what may be left out. A request for a
transaction has a list of arguments of its own, in which the type hints of an update with branches
have a name of their own too.
-/

namespace PgWrite

namespace Kind

/-- The caller's word on repetition when none is given: true where a repetition changes nothing. -/
def idempotentByDefault : Kind → Bool
  | .delete | .deleteLimited | .bulkUpdate | .caseUpdate => true
  | _ => false

/-- The arguments of a transaction of a kind. -/
def parameters (k : Kind) : List Parameter :=
  let schema := Signature.optional "schema" .null
  let options := [Signature.optional "idempotent" (.bool k.idempotentByDefault),
    Signature.optional "statement_reuse_policy" (.policy .none)]
  let columnTypes := Signature.optional "column_types" .null
  let identifierType := Signature.optional "identifier_type" .null
  let deletes := ["table_name", "identifier_column", "identifiers"]
  match k with
  | .insert | .insertIgnore =>
    ["table_name", "rows"].map Signature.required ++ columnTypes :: options ++ [schema]
  | .upsert =>
    ["table_name", "rows", "update_columns", "conflict_target"].map Signature.required
      ++ columnTypes :: options ++ [schema]
  | .raw =>
    Signature.required "sql" :: Signature.optional "params" (.ofList [])
      :: Signature.optional "types" (.ofList []) :: options
  | .delete => deletes.map Signature.required ++ identifierType :: options ++ [schema]
  | .deleteLimited =>
    (deletes ++ ["limit"]).map Signature.required ++ identifierType :: options ++ [schema]
  | .bulkUpdate =>
    (deletes ++ ["values"]).map Signature.required ++ identifierType :: columnTypes :: options
      ++ [schema]
  | .caseUpdate =>
    ["table_name", "rows", "identifier_column", "update_columns"].map Signature.required
      ++ identifierType :: columnTypes :: options ++ [schema]

/-- The signature of a transaction of a kind. -/
def signature (k : Kind) : Signature where
  callable := k.typeName ++ ".__init__"
  parameters := k.parameters

/-- The name of the type hints in a request to the factory. -/
def factoryHints : Kind → String
  | .caseUpdate => "update_column_types"
  | _ => "column_types"

/-- The arguments of a request of a kind to the factory. -/
def factoryParameters (k : Kind) : List Parameter :=
  let given (names : List String) := names.map Signature.required
  let left (names : List String) := names.map fun name => Signature.optional name .null
  let empty (names : List String) := names.map fun name => Signature.optional name (.ofList [])
  let options (idempotent : Bool) :=
    [Signature.optional "idempotent" (.bool idempotent),
      Signature.optional "statement_reuse_policy" (.policy .none)]
  match k with
  | .insert | .insertIgnore => given ["table_name", "rows"] ++ left ["column_types"]
      ++ options false ++ left ["schema"]
  | .upsert => given ["table_name", "rows", "update_columns", "conflict_target"]
      ++ left ["column_types"] ++ options false ++ left ["schema"]
  | .raw => given ["sql"] ++ empty ["params", "types"] ++ options false
  | .delete => given ["table_name", "identifier_column", "identifiers"]
      ++ left ["identifier_type"] ++ options true ++ left ["schema"]
  | .deleteLimited => given ["table_name", "identifier_column", "identifiers", "limit"]
      ++ left ["identifier_type"] ++ options true ++ left ["schema"]
  | .bulkUpdate => given ["table_name", "identifier_column", "identifiers", "values"]
      ++ left ["identifier_type", "column_types"] ++ options true ++ left ["schema"]
  | .caseUpdate => given ["table_name", "rows", "identifier_column", "update_columns"]
      ++ left ["identifier_type", "update_column_types"] ++ options true ++ left ["schema"]

/-- The signature of a request of a kind to the factory. -/
def factorySignature (k : Kind) : Signature where
  callable := "PostgreSQLTransactionsFactory.create_" ++ k.name
  parameters := k.factoryParameters

end Kind

end PgWrite
