import PgWrite.Fault
import PgWrite.Log.Redaction
import PgWrite.Value.Equality
import PgWrite.Value.Json

/-!
# Log events

A log event is a name with fields, sent by a logger at a level. Its record holds the fields,
then the event, the level and the logger; a field that bears one of these names keeps its
place and takes the new value. The record is redacted and written as one line of ASCII JSON,
without its time.
-/

namespace PgWrite

/-- How weighty an event is. -/
inductive LogLevel where
  | debug
  | info
  | warning
  | error
  | critical
  deriving DecidableEq, Repr

namespace LogLevel

/-- The written name of a level. -/
def name : LogLevel → String
  | .debug => "debug"
  | .info => "info"
  | .warning => "warning"
  | .error => "error"
  | .critical => "critical"

/-- The number by which levels are compared. -/
def severity : LogLevel → Int
  | .debug => 10
  | .info => 20
  | .warning => 30
  | .error => 40
  | .critical => 50

end LogLevel

/-- A way to send an event. -/
inductive LogCall where
  | at (level : LogLevel)
  /-- The report of an error with its stack. -/
  | withStack
  /-- The other name of the highest level. -/
  | fatal
  deriving DecidableEq, Repr

namespace LogCall

/-- The call with a written name. -/
def ofName? (s : String) : Option LogCall :=
  if s = "debug" then some (.at .debug)
  else if s = "info" then some (.at .info)
  else if s = "warning" ∨ s = "warn" then some (.at .warning)
  else if s = "error" then some (.at .error)
  else if s = "critical" then some (.at .critical)
  else if s = "exception" then some .withStack
  else if s = "fatal" then some .fatal
  else none

/-- The name by which faults call a call. -/
def label : LogCall → String
  | .at level => level.name
  | .withStack => "exception"
  | .fatal => "fatal"

/-- The level at which a call sends. -/
def level : LogCall → LogLevel
  | .at level => level
  | .withStack => .error
  | .fatal => .critical

end LogCall

/-- An event with its fields. -/
structure LogEvent where
  logger : String
  level : LogLevel
  fields : List (String × Value)
  event : Value

namespace LogEvent

/-- Fields that are never shown: the time of an event, and the wish for a stack to be shown. -/
def hiddenFields : List String :=
  ["timestamp", "exc_info"]

/-- The record of an event before redaction; an event without a name leaves it out. -/
def record (e : LogEvent) : List (String × Value) :=
  let shown := e.fields.filter fun (name, _) => !hiddenFields.contains name
  let named := match e.event with
    | .null => shown
    | event => setField "event" event shown
  setFields named [("level", .text e.level.name), ("logger", .text e.logger)]

/-- The line written for an event. -/
def line (e : LogEvent) : String :=
  (redactValue (.ofFields e.record)).json .ascii

end LogEvent

/-- A logger, with the fields that it adds to every event. -/
structure Logger where
  name : String
  bound : List (String × Value)

/-- The logger of the whole package. -/
def packageLogger : String :=
  "pg_transactions"

namespace Logger

/-- The name of the logger above all others. -/
def rootName : String := "root"

/-- The name of a logger: what is empty names the one above all others. -/
def nameOf (v : Value) : Except Fault String :=
  match v.truthy, v.text? with
  | false, _ => .ok rootName
  | true, some name => .ok name
  | true, none => .error (.wrongKind v.kindWord)

/-- A logger without fields of its own. -/
def named (name : Value) : Except Fault Logger := do
  return { name := ← nameOf name, bound := [] }

/-- A logger that adds fields to every event. Its name is given by itself or as a field, but
not twice; without one it is the logger of the package. -/
def bind (name : Option Value) (fields : List (String × Value)) : Except Fault Logger := do
  let bound := fields.filter fun (field, _) => field ≠ "name"
  let name ← match name, fields.lookup "name" with
    | some _, some _ => throw (.repeatedArgument "bind_context" "name")
    | some v, none => pure v
    | none, some v => pure v
    | none, none => pure (.text packageLogger)
  if (bound.lookup "self").isSome then
    throw (.repeatedArgument "BoundLoggerLazyProxy.bind" "self")
  return { name := ← nameOf name, bound }

/-- An event of a logger; its own fields take the place of bound ones of the same name. The name
of the event itself is no field. -/
def send (logger : Logger) (call : LogCall) (event : Value) (fields : List (String × Value)) :
    Except Fault LogEvent :=
  match fields.find? fun (name, _) => name = "event" || name = "self" with
  | some (name, _) => .error (.repeatedArgument ("BoundLogger." ++ call.label) name)
  | none =>
    if (fields.lookup "method_name").isSome then
      .error (.repeatedArgument "BoundLogger._proxy_to_logger" "method_name")
    else .ok {
      logger := logger.name, level := call.level, fields := setFields logger.bound fields, event }

/-- The level of a number; the lowest number is a level at which nothing can be sent. -/
def levelOfNumber (number : Value) : Except Fault LogLevel :=
  if number.digest?.isNone then .error (.unhashable number.kindWord)
  else
    let levels : List LogLevel := [.debug, .info, .warning, .error, .critical]
    match levels.find? fun level => number.wholeNumber? = some level.severity with
    | some level => .ok level
    | none =>
      if number.wholeNumber? = some 0 then .error (.noOperation "Logger")
      else .error .missingKey

/-- An event whose level is given as a number, and its name among the fields. -/
def sendNumbered (logger : Logger) (number : Value) (fields : List (String × Value)) :
    Except Fault LogEvent := do
  if let some (name, _) := fields.find? fun (name, _) => name = "level" || name = "self" then
    throw (.repeatedArgument "BoundLogger.log" name)
  let level ← levelOfNumber number
  let event := (fields.lookup "event").getD .null
  logger.send (.at level) event (fields.filter fun (name, _) => name ≠ "event")

end Logger

/-- A logger is the package logger or lies below it. -/
def isPackageLogger (name : String) : Bool :=
  name = packageLogger || (packageLogger ++ ".").toList.isPrefixOf name.toList

/-- The lines that events leave behind at a threshold. -/
def logLines (threshold : Int) (events : List LogEvent) : List String :=
  let kept := events.filter fun e => threshold ≤ e.level.severity && isPackageLogger e.logger
  kept.map LogEvent.line

end PgWrite
