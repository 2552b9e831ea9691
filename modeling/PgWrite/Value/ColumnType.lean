import PgWrite.Value.Basic

/-!
# Column types

The column types of the clause library go by name. An instance of a type is written as the
words that stand for it in a statement. Two types cannot be instantiated as they are: one
needs the type of its elements, the other is only meant to be extended.
-/

namespace PgWrite

/-- How an instance of a column type comes about. -/
inductive Instantiation where
  /-- An instance stands in a statement as these words. -/
  | words (s : String)
  | needsArguments
  | extensionOnly
  deriving DecidableEq, Repr

namespace SqlType

/-- The column types with their instantiation. -/
def known : List (String × Instantiation) :=
  [("ARRAY", .needsArguments), ("BIGINT", .words "BIGINT"), ("BINARY", .words "BINARY"),
    ("BLOB", .words "BLOB"), ("BOOLEAN", .words "BOOLEAN"), ("BigInteger", .words "BIGINT"),
    ("Boolean", .words "BOOLEAN"), ("CHAR", .words "CHAR"), ("CLOB", .words "CLOB"),
    ("DATE", .words "DATE"), ("DATETIME", .words "DATETIME"), ("DECIMAL", .words "DECIMAL"),
    ("DOUBLE", .words "DOUBLE"), ("DOUBLE_PRECISION", .words "DOUBLE PRECISION"),
    ("Date", .words "DATE"), ("DateTime", .words "DATETIME"), ("Double", .words "DOUBLE"),
    ("Enum", .words "VARCHAR"), ("FLOAT", .words "FLOAT"), ("Float", .words "FLOAT"),
    ("INTEGER", .words "INTEGER"), ("Integer", .words "INTEGER"), ("Interval", .words "DATETIME"),
    ("JSON", .words "JSON"), ("LargeBinary", .words "BLOB"), ("NCHAR", .words "NCHAR"),
    ("NUMERIC", .words "NUMERIC"), ("NVARCHAR", .words "NVARCHAR"), ("Numeric", .words "NUMERIC"),
    ("PickleType", .words "BLOB"), ("REAL", .words "REAL"), ("SMALLINT", .words "SMALLINT"),
    ("SmallInteger", .words "SMALLINT"), ("String", .words "VARCHAR"), ("TEXT", .words "TEXT"),
    ("TIME", .words "TIME"), ("TIMESTAMP", .words "TIMESTAMP"), ("Text", .words "TEXT"),
    ("Time", .words "TIME"), ("TupleType", .words "TupleType()"),
    ("TypeDecorator", .extensionOnly), ("UUID", .words "UUID"), ("Unicode", .words "VARCHAR"),
    ("UnicodeText", .words "TEXT"), ("Uuid", .words "CHAR(32)"),
    ("VARBINARY", .words "VARBINARY"), ("VARCHAR", .words "VARCHAR")]

/-- The name of the column type that goes by a name; one type has a short name too. -/
def properName (name : String) : String :=
  if name = "INT" then "INTEGER" else name

/-- The column type that goes by a name. -/
def ofName? (name : String) : Option SqlType :=
  (known.lookup (properName name)).map fun _ => { name := properName name, occurrence := none }

/-- How an instance of a column type comes about. -/
def instantiation (t : SqlType) : Instantiation :=
  (known.lookup t.name).getD .extensionOnly

/-- The words for an instance of a column type. -/
def statementWords (t : SqlType) : String :=
  match t.instantiation with
  | .words s => s
  | _ => t.name

/-- The path of the module that a column type is shown with. -/
def modulePath (t : SqlType) : String :=
  if t.instantiation = .extensionOnly then "sqlalchemy.sql.type_api" else "sqlalchemy.sql.sqltypes"

end SqlType

end PgWrite
