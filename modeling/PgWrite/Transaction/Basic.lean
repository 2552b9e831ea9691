import PgWrite.Value.Equality

/-!
# Transactions

A transaction is one write request with its collections already read-only: rows and mappings
are ordered entries, names and identifiers are lists. Only the limit of a capped delete has
been checked to be an integer; every other field is kept as it was given until the
transaction is compiled.
-/

namespace PgWrite

/-- What every transaction carries beside its statement. -/
structure Options where
  /-- The caller's word on whether a repetition changes nothing. -/
  idempotent : Value
  policy : Value

/-- An insert of several rows. -/
structure Insert where
  table : Value
  rows : List Row
  hints : Row
  schema : Value
  options : Options

/-- An insert that overwrites rows in conflict. -/
structure Upsert where
  table : Value
  rows : List Row
  assigned : List Value
  target : Value
  hints : Row
  schema : Value
  options : Options

/-- SQL text of the caller's own. -/
structure RawSql where
  sql : Value
  params : List Value
  types : List Value
  options : Options

/-- A delete by identifiers. -/
structure Delete where
  table : Value
  column : Value
  identifiers : List Value
  type : Value
  schema : Value
  options : Options

/-- A delete of at most so many physical rows. -/
structure DeleteLimited extends Delete where
  limit : Int

/-- An update that gives the same values to every row. -/
structure BulkUpdate where
  table : Value
  column : Value
  identifiers : List Value
  values : Row
  type : Value
  hints : Row
  schema : Value
  options : Options

/-- An update that gives every row its own values. -/
structure CaseUpdate where
  table : Value
  rows : List Row
  column : Value
  assigned : List Value
  type : Value
  hints : Row
  schema : Value
  options : Options

/-- A write request of one of eight kinds. -/
inductive Transaction where
  | insert (t : Insert)
  | insertIgnore (t : Insert)
  | upsert (t : Upsert)
  | raw (t : RawSql)
  | delete (t : Delete)
  | deleteLimited (t : DeleteLimited)
  | bulkUpdate (t : BulkUpdate)
  | caseUpdate (t : CaseUpdate)

/-- The kinds of transactions. -/
inductive Kind where
  | insert
  | insertIgnore
  | upsert
  | raw
  | delete
  | deleteLimited
  | bulkUpdate
  | caseUpdate
  deriving DecidableEq, Repr

namespace Kind

/-- The kinds in the order in which they are listed. -/
def all : List Kind :=
  [.insert, .insertIgnore, .upsert, .raw, .delete, .deleteLimited, .bulkUpdate, .caseUpdate]

/-- The name of a kind in documents. -/
def name : Kind → String
  | .insert => "insert"
  | .insertIgnore => "insert_ignore"
  | .upsert => "insert_on_conflict_update"
  | .raw => "sql"
  | .delete => "delete"
  | .deleteLimited => "delete_with_limit"
  | .bulkUpdate => "update"
  | .caseUpdate => "update_when_then"

/-- The kind with a name in documents. -/
def ofName? (s : String) : Option Kind :=
  all.find? fun k => k.name = s

/-- The name of the transactions of a kind. -/
def typeName : Kind → String
  | .insert => "InsertTransaction"
  | .insertIgnore => "InsertIgnoreTransaction"
  | .upsert => "UpsertTransaction"
  | .raw => "RawSqlTransaction"
  | .delete => "DeleteTransaction"
  | .deleteLimited => "DeleteWithLimitTransaction"
  | .bulkUpdate => "BulkUpdateTransaction"
  | .caseUpdate => "CaseUpdateTransaction"

/-- The kind whose transactions have a name. -/
def ofTypeName? (s : String) : Option Kind :=
  all.find? fun k => k.typeName = s

/-- The name of a kind in log events. -/
def eventName : Kind → String
  | .insert => "insert"
  | .insertIgnore => "insert_ignore"
  | .upsert => "upsert"
  | .raw => "raw_sql"
  | .delete => "delete"
  | .deleteLimited => "delete_with_limit"
  | .bulkUpdate => "bulk_update"
  | .caseUpdate => "case_update"

/-- A kind is found again by its name. -/
@[simp] theorem ofName?_name (k : Kind) : ofName? k.name = some k := by
  cases k <;> rfl

/-- Transactions tell their kind by their name. -/
@[simp] theorem ofTypeName?_typeName (k : Kind) : ofTypeName? k.typeName = some k := by
  cases k <;> rfl

end Kind

namespace Transaction

/-- The kind of a transaction. -/
def kind : Transaction → Kind
  | .insert _ => .insert
  | .insertIgnore _ => .insertIgnore
  | .upsert _ => .upsert
  | .raw _ => .raw
  | .delete _ => .delete
  | .deleteLimited _ => .deleteLimited
  | .bulkUpdate _ => .bulkUpdate
  | .caseUpdate _ => .caseUpdate

/-- The options of a transaction. -/
def options : Transaction → Options
  | .insert t => t.options
  | .insertIgnore t => t.options
  | .upsert t => t.options
  | .raw t => t.options
  | .delete t => t.options
  | .deleteLimited t => t.options
  | .bulkUpdate t => t.options
  | .caseUpdate t => t.options

/-- The caller's word on whether a repetition changes nothing. -/
def idempotent (t : Transaction) : Value :=
  t.options.idempotent

end Transaction

/-- The limit is not below the number of identifiers, so it spares no distinct one. -/
def DeleteLimited.coversIdentifiers (t : DeleteLimited) : Bool :=
  (t.identifiers.length : Int) ≤ t.limit

namespace Transaction

/-- The fields of a transaction in the order of their declaration. -/
def fields : Transaction → List (String × Value)
  | .insert t => insertFields t
  | .insertIgnore t => insertFields t
  | .upsert t =>
    [("table_name", t.table), ("rows", rowsValue t.rows), ("update_columns", .tuple t.assigned),
      ("conflict_target", t.target), ("column_types", .frozen t.hints)]
      ++ closing t.options t.schema
  | .raw t =>
    [("sql", t.sql), ("params", .tuple t.params), ("types", .tuple t.types),
      ("idempotent", t.options.idempotent), ("statement_reuse_policy", t.options.policy)]
  | .delete t => deleteFields t [] ++ closing t.options t.schema
  | .deleteLimited t =>
    deleteFields t.toDelete [("limit", .int t.limit)] ++ closing t.options t.schema
  | .bulkUpdate t =>
    [("table_name", t.table), ("identifier_column", t.column),
      ("identifiers", .tuple t.identifiers), ("values", .frozen t.values),
      ("identifier_type", t.type), ("column_types", .frozen t.hints)]
      ++ closing t.options t.schema
  | .caseUpdate t =>
    [("table_name", t.table), ("rows", rowsValue t.rows), ("identifier_column", t.column),
      ("update_columns", .tuple t.assigned), ("identifier_type", t.type),
      ("column_types", .frozen t.hints)]
      ++ closing t.options t.schema
where
  /-- Rows passed as a value. -/
  rowsValue (rows : List Row) : Value :=
    .tuple (rows.map .frozen)
  /-- The fields that most transactions end with. -/
  closing (o : Options) (schema : Value) : List (String × Value) :=
    [("idempotent", o.idempotent), ("statement_reuse_policy", o.policy), ("schema", schema)]
  /-- The fields of an insert. -/
  insertFields (t : Insert) : List (String × Value) :=
    [("table_name", t.table), ("rows", rowsValue t.rows), ("column_types", .frozen t.hints)]
      ++ closing t.options t.schema
  /-- The fields of a delete, with more behind the identifiers. -/
  deleteFields (t : Delete) (more : List (String × Value)) : List (String × Value) :=
    [("table_name", t.table), ("identifier_column", t.column),
      ("identifiers", .tuple t.identifiers)]
      ++ more ++ [("identifier_type", t.type)]

/-- The transaction passed as a value. -/
def toValue (t : Transaction) : Value :=
  .record t.kind.typeName t.fields

end Transaction

end PgWrite
