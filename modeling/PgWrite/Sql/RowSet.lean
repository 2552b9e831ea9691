import PgWrite.Sql.Clause
import PgWrite.Sql.Identifier
import PgWrite.Value.Equality

/-!
# Row sets

Rows that are inserted together have one set of columns, in the order of the first row;
later rows may give the same columns in any order. The parameters are the cells row by row,
each row in column order, and every parameter has the type hint of its column.
-/

namespace PgWrite

/-- Rows flattened for a VALUES list. -/
structure RowSet where
  columns : List Value
  rows : Nat
  params : List Value
  types : List Value

/-- The texts of names; the place of the first value that is no text is reported. -/
def namesFrom (index : Nat) : List Value → Except Fault (List String)
  | [] => .ok []
  | v :: vs => match v.text? with
    | some s => (namesFrom (index + 1) vs).map (s :: ·)
    | none => .error (.notJoinable index v.kindWord)

/-- The texts of names. -/
def namesOf (values : List Value) : Except Fault (List String) :=
  namesFrom 0 values

namespace Row

/-- The columns that a row lacks, in their order. -/
def missing (columns : List Value) (row : Row) : List Value :=
  columns.filter fun c => !row.has c

/-- The keys of a row that are no columns, in the row's order. -/
def unexpected (columns : List Value) (row : Row) : List Value :=
  row.keys.filter fun k => !k.isAmong columns

end Row

namespace RowSet

/-- Checks that rows have exactly the given columns; `index` counts them. -/
def checkRows (columns : List Value) : Nat → List Row → Except Fault Unit
  | _, [] => .ok ()
  | index, row :: rest =>
    let missing := row.missing columns
    let unexpected := row.unexpected columns
    if missing.isEmpty && unexpected.isEmpty then checkRows columns (index + 1) rest
    else do
      let missing ← namesOf missing
      let unexpected ← namesOf unexpected
      .error (.invalid (.rowDiffers index missing unexpected))

/-- The columns of rows: the keys of the first row, which are not none. -/
def columnsOf : List Row → Except Fault (List Value)
  | [] => .error (.invalid .emptyRows)
  | first :: _ => if first.isEmpty then .error (.invalid .noColumns) else .ok first.keys

/-- Checks that type hints are given for columns only. -/
def checkHints (columns : List Value) (hints : List Value) : Except Fault Unit :=
  let unknown := hints.filter fun k => !k.isAmong columns
  if unknown.isEmpty then .ok ()
  else do .error (.invalid (.unknownRowHints (← namesOf unknown)))

/-- The cells of a row in column order. -/
def cells (columns : List Value) (row : Row) : List Value :=
  columns.map fun c => (row.get? c).getD .null

/-- The type hints of the columns. -/
def hintsFor (columns : List Value) (hints : Row) : List Value :=
  columns.map fun c => (hints.get? c).getD .null

/-- Flattens rows of the given columns. -/
def flatten (columns : List Value) (rows : List Row) (hints : Row) : RowSet where
  columns := columns
  rows := rows.length
  params := rows.flatMap (cells columns)
  types := rows.flatMap fun _ => hintsFor columns hints

/-- Flattens rows after checking their shape and the columns of the type hints. -/
def compile (rows : List Row) (hints : Row) : Except Fault RowSet := do
  let columns ← columnsOf rows
  checkRows columns 1 (rows.drop 1)
  checkHints columns hints.keys
  return flatten columns rows hints

/-- The VALUES list of a row set. -/
def valuesSql (s : RowSet) : String :=
  Clause.values s.rows s.columns.length

/-- The leading values that are mappings, as rows, and whether all are. -/
def leadingRows : List Value → List Row × Bool
  | [] => ([], true)
  | .map _ entries :: rest =>
    let (rows, all) := leadingRows rest
    (entries :: rows, all)
  | _ :: _ => ([], false)

/-- Rows that have not been made read-only yet: the first value that is no mapping is refused
at its place among the other checks. -/
def compileValues (rows hints : Value) : Except Fault RowSet := do
  let items ← match rows with
    | .list _ items => .ok items
    | .text s => .ok (Value.characters s)
    | .policy p => .ok (Value.characters p.name)
    | .bytes octets => .ok (octets.map fun o => .int o.toNat)
    | .map _ [] => .ok []
    | .map _ _ => .error .missingKey
    | v => if v.truthy then .error (.wrongKind v.kindWord) else .ok []
  let (given, all) := leadingRows items
  if given.isEmpty && !all then throw (.noOperation "row")
  let columns ← columnsOf given
  checkRows columns 1 (given.drop 1)
  if !all then throw (.noOperation "row")
  if !hints.truthy then return flatten columns given []
  match hints with
  | .map _ hints =>
    checkHints columns (Row.keys hints)
    return flatten columns given hints
  | v =>
    let keys ← v.elements
    match keys.find? fun k => k.digest?.isNone with
    | some k => throw (.unhashable k.kindWord)
    | none =>
      checkHints columns keys
      throw (.noOperation v.kindWord)

end RowSet

end PgWrite
