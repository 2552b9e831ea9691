import PgWrite.Sql.RowSet
import PgWrite.Sql.Statement
import PgWrite.Signature
import PgWrite.Transaction.Freeze

/-!
# Conflict targets

A conflict target is a list of columns, which is not empty, or a named constraint. The
columns must be among the inserted ones; what a constraint covers is not known here, so
nothing is asked of it.
-/

namespace PgWrite

/-- A target over a list of columns, which is not empty. -/
def columnsTarget (columns : Value) : Except Fault Value := do
  match ← freezeNames "columns" columns with
  | [] => .error (.invalid .emptyTargetColumns)
  | names => return .columnsTarget names

/-- A target on a constraint, which counts as given. -/
def constraintTarget (constraint : Value) : Except Fault Value :=
  if constraint.truthy then .ok (.constraintTarget constraint)
  else .error (.invalid .emptyConstraint)

/-- The target of a mapping with exactly one of `columns` and `constraint`. -/
def targetOfEntries (entries : Row) : Except Fault Value :=
  match entries.field? "columns", entries.field? "constraint" with
  | some columns, none => columnsTarget columns
  | none, some constraint => constraintTarget constraint
  | _, _ => .error (.invalid .notATarget)

/-- A target, or a mapping that stands for one, as a target. -/
def coerceTarget (v : Value) : Except Fault Value :=
  match v with
  | .columnsTarget _ => .ok v
  | .constraintTarget _ => .ok v
  | .map _ entries => targetOfEntries entries
  | .frozen entries => targetOfEntries entries
  | _ => .error (.invalid .notATarget)

/-- The names that are not among the columns; each name must be fit as a key. -/
def missingAmong (columns : List Value) : List Value → Except Fault (List Value)
  | [] => .ok []
  | name :: rest => do
    name.requireKey
    let missing ← missingAmong columns rest
    return if name.isAmong columns then missing else name :: missing

/-- The conflict target that a value stands for. -/
def targetOf : Value → Except Fault (ConflictTarget Value)
  | .columnsTarget columns => .ok (.columns columns)
  | .constraintTarget constraint => .ok (.constraint constraint)
  | v => .error (.noOperation v.kindWord)

/-- The columns of a target that are not among the inserted ones. -/
def ConflictTarget.missing (columns : List Value) :
    ConflictTarget Value → Except Fault (List Value)
  | .columns names => missingAmong columns names
  | .constraint _ => .ok []

/-- A target over a list of columns from named arguments. -/
def columnsTargetOf (args : Arguments) : Except Fault Value := do
  let signature : Signature :=
    { callable := "ColumnsConflictTarget.__init__", parameters := [Signature.required "columns"] }
  columnsTarget ((← signature.bind args) "columns")

/-- A target on a constraint from named arguments. -/
def constraintTargetOf (args : Arguments) : Except Fault Value := do
  let signature : Signature :=
    { callable := "ConstraintConflictTarget.__init__"
      parameters := [Signature.required "constraint_name"] }
  constraintTarget ((← signature.bind args) "constraint_name")

namespace ConflictTarget

/-- The clause of a target under a quoter. -/
def sql (q : Quoter) (target : ConflictTarget Value) : Except Fault String :=
  (target.quoted q).map text

/-- The values of a collection that is looked up in. -/
def lookedUp (available : Value) : Except Fault (List Value) := do
  let values ← available.elements
  values.forM Value.requireKey
  return values

/-- Checks that the columns of a target are among those that are available. -/
def check (available : Value) (target : ConflictTarget Value) : Except Fault Unit := do
  match target with
  | .columns names =>
    match ← namesOf (← missingAmong (← lookedUp available) names) with
    | [] => return
    | missing => throw (.invalid (.missingColumns [] missing))
  | .constraint _ => return

end ConflictTarget

end PgWrite
