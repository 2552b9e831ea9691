import PgWrite.Config.Settings
import PgWrite.Session.Held
import PgWrite.Transaction.Compile
import PgWrite.Transaction.Request

/-!
# Sessions

A session is a sequence of steps over variables, an environment and the settings read from
it. Settings are read once and kept until they are cleared, so a later change of the
environment is not seen before. A step that fails changes nothing but that settings it asked
for have been read, and the session goes on.
-/

namespace PgWrite

/-- A place that is reached from a variable. -/
structure HeldPlace where
  holder : String
  field : Option String
  path : List Value

/-- The arguments of a call: given values, and variables whose values are passed. -/
structure CallArguments where
  given : Arguments
  passed : List (String × String)

/-- A step of a session. -/
inductive Step where
  | set (holder : String) (v : Value)
  | look (holder : String)
  | put (place : HeldPlace) (key value : Value)
  | append (place : HeldPlace) (value : Value)
  | delete (place : HeldPlace) (key : Value)
  | create (holder : Option String) (kind : Value) (args : CallArguments)
  | construct (holder : Option String) (typeName : String) (args : CallArguments)
  | columnsTarget (holder : Option String) (columns : Value)
  | constraintTarget (holder : Option String) (constraint : Value)
  | compile (holder : String) (result : Option String) (quoter : Quoter)
  | fields (holder : String)
  | setField (holder field : String)
  | deleteField (holder field : String)
  | equal (a b : String)
  | equalDigests (a b : String)
  | idempotent (holder : String)
  | coversIdentifiers (holder : String)
  | format (holder : String)
  | named (holder : String) (stem : Value)
  | logs
  | setVariable (name value : Value)
  | settings
  | clearSettings
  | rules

/-- What a step answers. -/
inductive StepAnswer where
  | done
  | flag (b : Bool)
  | name (s : String)
  | held (h : Held)
  | value (v : Value)
  | fields (fields : List (String × Value))
  | format (sql : String) (params : List Value)
  | named (n : NamedSql)
  | lines (lines : List String)
  | settings (s : Settings)
  | rules (r : Rules)

/-- The state of a session. -/
structure Session where
  held : List (String × Held)
  environment : Variables
  files : Files
  /-- The settings, if they have been read. -/
  settings : Option Settings
  /-- The events since the log was last shown. -/
  events : List LogEvent

namespace Session

/-- A session with nothing held. -/
def start (environment : Variables) (files : Files) : Session :=
  { held := [], environment, files, settings := none, events := [] }

/-- What a variable holds. -/
def get (s : Session) (holder : String) : Except Fault Held :=
  match s.held.lookup holder with
  | some h => .ok h
  | none => .error .missingKey

/-- Lets a variable, if one is named, hold something else. -/
def assign (s : Session) (holder : Option String) (h : Held) : Session :=
  match holder with
  | some name => { s with held := (name, h) :: s.held.filter fun (n, _) => n ≠ name }
  | none => s

/-- What a place leads to. -/
def reach (s : Session) (place : HeldPlace) : Except Fault Value := do
  let h ← s.get place.holder
  let start ← match place.field with
    | none => pure h.toValue
    | some name => match h.fields?.bind (·.lookup name) with
      | some field => pure field
      | none => throw (.noOperation h.kindWord)
  start.follow place.path

/-- Gives a container new contents wherever it is held. -/
def change (s : Session) (changed : Nat × Value) : Session :=
  { s with held := s.held.map fun (name, h) =>
      (name, h.mapValues (Value.withContents changed.1 changed.2)) }

/-- The arguments of a call with the values of variables filled in. -/
def argumentsOf (s : Session) (args : CallArguments) : Except Fault Arguments := do
  let passed ← args.passed.mapM fun (name, holder) => do
    return (name, (← s.get holder).toValue)
  return setFields args.given passed

/-- Keeps a transaction that has been built. -/
def keepBuilt (s : Session) (holder : Option String) (b : Built) : StepAnswer × Session :=
  (.name b.transaction.kind.typeName,
    { s.assign holder (.transaction b.transaction) with events := s.events ++ b.events })

/-- Keeps a conflict target. -/
def keepTarget (s : Session) (holder : Option String) (v : Value) : StepAnswer × Session :=
  (.value v, s.assign holder (.value v))

/-- Builds what goes by a name from arguments. -/
def construct (s : Session) (holder : Option String) (typeName : String) (args : Arguments) :
    Except Fault (StepAnswer × Session) :=
  match Kind.ofTypeName? typeName with
  | some k => (k.construct args).map (s.keepBuilt holder)
  | none =>
    let named (h : Held) : StepAnswer × Session := (.name typeName, s.assign holder h)
    if typeName = "Query" then (Query.construct args).map fun q => named (.query q)
    else if typeName = "ColumnsConflictTarget" then
      (columnsTargetOf args).map fun v => named (.value v)
    else if typeName = "ConstraintConflictTarget" then
      (constraintTargetOf args).map fun v => named (.value v)
    else .error .missingKey

/-- Refuses a change of a field: what has fields is read-only, and nothing else has any. -/
def refuseField (s : Session) (holder : String) (fault : Fault) :
    Except Fault (StepAnswer × Session) := do
  let h ← s.get holder
  match h.fields? with
  | some _ => throw fault
  | none => throw (.noOperation h.kindWord)

/-- The transaction that a variable holds. -/
def transaction (s : Session) (holder : String) : Except Fault Transaction := do
  match ← s.get holder with
  | .transaction t => return t
  | h => throw (.noOperation h.kindWord)

/-- The query that a variable holds. -/
def query (s : Session) (holder : String) : Except Fault Query := do
  match ← s.get holder with
  | .query q => return q
  | h => throw (.noOperation h.kindWord)

/-- The settings, read now if they have not been read yet. -/
def currentSettings (s : Session) : Except Fault (Settings × Session) :=
  match s.settings with
  | some settings => .ok (settings, s)
  | none => do
    let settings ← Settings.load [] s.environment []
    return (settings, { s with settings := some settings })

/-- Performs a step. -/
def perform (s : Session) : Step → Except Fault (StepAnswer × Session)
  | .set holder v => .ok (.done, s.assign (some holder) (.value v))
  | .look holder => (s.get holder).map fun h => (.held h, s)
  | .put place key value => do return (.done, s.change (← (← s.reach place).put key value))
  | .append place value => do return (.done, s.change (← (← s.reach place).append value))
  | .delete place key => do return (.done, s.change (← (← s.reach place).delete key))
  | .create holder kind args => do
    return s.keepBuilt holder (← PgWrite.create kind (← s.argumentsOf args))
  | .construct holder typeName args => do s.construct holder typeName (← s.argumentsOf args)
  | .columnsTarget holder columns => do
    return s.keepTarget holder (← PgWrite.columnsTarget columns)
  | .constraintTarget holder constraint => do
    return s.keepTarget holder (← PgWrite.constraintTarget constraint)
  | .compile holder result quoter => do
    let (q, event) ← (← s.transaction holder).compile quoter
    return (.held (.query q), { s.assign result (.query q) with events := s.events ++ [event] })
  | .fields holder => do
    let h ← s.get holder
    match h.fields? with
    | some fields => return (.fields fields, s)
    | none => throw (.noOperation h.kindWord)
  | .setField holder field => s.refuseField holder (.frozenField field)
  | .deleteField holder field => s.refuseField holder (.frozenFieldDeleted field)
  | .equal a b => do return (.flag ((← s.get a).same (← s.get b)), s)
  | .equalDigests a b => do
    let first ← s.get a
    let second ← s.get b
    match first.toValue.digest?, second.toValue.digest? with
    | some d, some e => return (.flag (d == e), s)
    | none, _ => throw (.unhashable first.kindWord)
    | _, none => throw (.unhashable second.kindWord)
  | .idempotent holder => do return (.value (← s.transaction holder).idempotent, s)
  | .coversIdentifiers holder => do
    match ← s.transaction holder with
    | .deleteLimited t => return (.flag t.coversIdentifiers, s)
    | t => throw (.noOperation t.kind.typeName)
  | .format holder => do
    let (sql, params) ← (← s.query holder).format
    return (.format sql params, s)
  | .named holder stem => do return (.named (← (← s.query holder).named stem.display), s)
  | .logs => .ok (.lines (logLines LogLevel.debug.severity s.events), { s with events := [] })
  | .setVariable name value => do
    return (.done, { s with environment := ← s.environment.set name value })
  | .settings => do
    let (settings, s) ← s.currentSettings
    return (.settings settings, s)
  | .clearSettings => .ok (.done, { s with settings := none })
  | .rules => do
    let (settings, _) ← s.currentSettings
    return (.rules (← settings.rules s.files), s)

/-- The session with the settings read, if a step asks for them. -/
def prepared (s : Session) (step : Step) : Session :=
  match step, s.currentSettings with
  | .settings, .ok (_, s) => s
  | .rules, .ok (_, s) => s
  | _, _ => s

/-- Performs steps one after the other. A step that fails, or that could not be told in the
first place, changes nothing. -/
def run : Session → List (Except Fault Step) → List (Except Fault StepAnswer)
  | _, [] => []
  | s, .error fault :: rest => .error fault :: run s rest
  | s, .ok step :: rest =>
    let s := s.prepared step
    match s.perform step with
    | .ok (answer, s) => .ok answer :: run s rest
    | .error fault => .error fault :: run s rest

end Session

end PgWrite
