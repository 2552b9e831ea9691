import PgWrite.Signature
import PgWrite.Sql.MarkerStyle
import PgWrite.Sql.Identifier
import PgWrite.Value.Equality

/-!
# Queries

A query is what a transaction hands to an executor: SQL text with question marks, the values
in the order of the marks, one type hint to a value, and the reuse policy. Values and hints
are always equally many.
-/

namespace PgWrite

/-- A compiled statement with its parameters. -/
structure Query where
  sql : Value
  params : List Value
  types : List Value
  policy : Value

namespace Query

/-- A query whose values and type hints are equally many. -/
def build (sql : Value) (params types : List Value) (policy : Value) : Except Fault Query :=
  if params.length = types.length then .ok { sql, params, types, policy }
  else .error (.invalid (.typeCountMismatch params.length types.length))

/-- What a query takes. -/
def signature : Signature where
  callable := "Query.__init__"
  parameters := [Signature.required "sql", Signature.optional "params" (.ofList []),
    Signature.optional "types" (.ofList []),
    Signature.optional "statement_reuse_policy" (.policy .none)]

/-- A query from named arguments. -/
def construct (args : Arguments) : Except Fault Query := do
  let arg ← signature.bind args
  let params ← (arg "params").elements
  let types ← (arg "types").elements
  build (arg "sql") params types (arg "statement_reuse_policy")

/-- SQL text given as a value; an empty container reads as empty text. -/
def textOf (sql : Value) : Except Fault String :=
  match sql.text?, sql with
  | some s, _ => .ok s
  | none, .list _ [] => .ok ""
  | none, .map _ [] => .ok ""
  | none, .bytes [] => .ok ""
  | none, .list _ _ => .error (.noOperation sql.kindWord)
  | none, .map _ _ => .error .missingKey
  | none, _ => .error (.wrongKind sql.kindWord)

/-- The characters of a list that is read as text: quotes as they are, all else as one letter. -/
def quotesOf (items : List Value) : List Char :=
  items.map fun item => match item.text? with
    | some "'" => '\''
    | some "\"" => '"'
    | _ => 'x'

/-- Quoted regions fill a text. -/
def fillsQuotes : Nat → List Char → Bool
  | _, [] => true
  | turns + 1, c :: rest =>
    (c = '\'' || c = '"') && fillsQuotes turns (closeQuoted c false rest).2
  | 0, _ => false

/-- SQL text given as a value, to be joined from its parts. Of a list, quoted regions are looked
at before anything is joined. -/
def joinableTextOf (sql : Value) : Except Fault String :=
  match sql with
  | .list _ (item :: items) =>
    if fillsQuotes (items.length + 1) (quotesOf (item :: items)) then
      .error (.wrongKind sql.kindWord)
    else .error (.noOperation sql.kindWord)
  | _ => textOf sql

/-- The named style of SQL text given as a value. -/
def namedOf (sql : Value) (params : List Value) (stem : String) : Except Fault NamedSql := do
  namedStyle (← joinableTextOf sql) params stem

/-- The query in the format style. -/
def format (q : Query) : Except Fault (String × List Value) :=
  (textOf q.sql).map fun s => (formatStyle s, q.params)

/-- The query in the named style. -/
def named (q : Query) (stem : String) : Except Fault NamedSql :=
  namedOf q.sql q.params stem

/-- The fields of a query in order. -/
def fields (q : Query) : List (String × Value) :=
  [("sql", q.sql), ("params", .tuple q.params), ("types", .tuple q.types),
    ("statement_reuse_policy", q.policy)]

/-- The query passed as a value. -/
def toValue (q : Query) : Value :=
  .record "Query" q.fields

end Query

end PgWrite
