import PgWrite.Cli.Command
import PgWrite.Config.Settings
import PgWrite.Errors.GivenSignal
import PgWrite.Transaction.Compile
import PgWrite.Transaction.Request
import PgWrite.Value.Json
import PgWrite.Value.JsonDocument

/-!
# Running commands

A command ends with a status and what it writes. A document that asks for something
impossible ends with an error message and status two, and so does a rule file that cannot be
used. Other faults are passed on to the caller, and so is that of an answer with a character
that the output cannot write.
-/

namespace PgWrite.Cli

/-! ## Output -/

/-- The characters that an output can write, with all of ASCII among them. -/
structure Charset where
  writes : Char → Bool
  ascii : ∀ c : Char, c.toNat < 0x80 → writes c = true

namespace Charset

/-- A text in memory takes every character. -/
def memory : Charset where
  writes _ := true
  ascii _ _ := rfl

/-- UTF-8 has every character, but no half of a surrogate pair. -/
def utf8 : Charset where
  writes c := (Text.half? c).isNone
  ascii c h := by
    have hshift : c.toNat - Text.halfShift = 0 :=
      Nat.sub_eq_zero_of_le (Nat.le_trans (Nat.le_of_lt h) (by decide))
    simp [Text.half?, hshift]

/-- Every character of a text can be written. -/
def writesText (s : Charset) (text : String) : Bool :=
  text.toList.all s.writes

/-- Prints a text; one that cannot be written is not begun. -/
def print (s : Charset) (text : String) : Except Fault String :=
  if s.writesText text then .ok text else .error .notEncodable

/-- What is written of an error message: a character that is missing is told by its number. -/
def escaped (s : Charset) (message : String) : String :=
  String.ofList (message.toList.flatMap fun c => if s.writes c then [c] else numberedEscape c)

end Charset

/-! ## Commands -/

/-- What a command line is run against. -/
structure World where
  environment : Variables
  files : Files
  /-- Further variables for the settings. -/
  fileVariables : EnvFile.FileVariables
  input : String
  /-- What the standard output can write. -/
  output : Charset := .memory

/-- How a command ends. -/
structure Outcome where
  status : Nat
  out : String
  err : String
  /-- The lines that are left in the log. -/
  log : List String

/-- The lines of events when all of them are wanted. -/
def allLines (events : List LogEvent) : List String :=
  logLines LogLevel.debug.severity events

/-- A command that ends with an error message. -/
def failed (message : String) (log : List String) : Outcome :=
  { status := 2, out := "", err := "Error: " ++ message ++ "\n", log }

/-- The report on the rule file of settings, if they name one. -/
def ruleFileReport (w : World) (s : Settings) : Except Fault (List String) :=
  match s.ruleFile.filter (· ≠ "") with
  | some path => (RuleFile.load w.files path).map fun f => [f.report path]
  | none => .ok []

/-- Gives the verdict on an error. -/
def classify (w : World) (e : GivenSignal) : Except Fault Outcome := do
  let settings ← Settings.load [] w.environment w.fileVariables
  match settings.rules w.files, ruleFileReport w settings with
  | .ok rules, .ok report =>
    let verdict ← e.classify rules.given
    let out ← w.output.print (verdict.name ++ "\n")
    return { status := 0, out, err := "", log := report ++ allLines [verdictEvent e verdict] }
  | .error (.config cause), _ => return failed (Fault.config cause).message []
  | .error fault, _ => throw fault
  | .ok _, .error fault => throw fault

/-- The path asks for a directory: nothing, or a single dot, stands behind its last stroke. -/
def asksDirectory (path : String) : Bool :=
  let last := (path.toList.reverse.takeWhile (· ≠ '/'))
  last = [] || last = ['.']

/-- The text of a file that holds a document. -/
def documentText (w : World) (source : String) : Except Fault String :=
  if source = "-" then .ok w.input
  else if !Text.hasOctets source.toList then .error .notEncodable
  else if source.toList.contains '\x00' then .error .unusablePath
  else if asksDirectory source then .error .unreadableDocument
  else match w.files.find (Path.ofText source) with
    | .file octets => match decodeText? octets with
      | some text => .ok text
      | none => .error .undecodable
    | _ => .error .unreadableDocument

/-- The kind and the arguments of a document. -/
def readDocument (text : String) : Except Fault (Value × Arguments) :=
  match Value.ofJson text with
  | .error .malformed => .error .unreadableDocument
  | .error .tooManyDigits => .error .notNumeral
  | .error .tooDeep => .error .tooDeep
  | .ok (.map _ entries) => match Row.field? entries "kind" with
    | some kind => .ok (kind, (Row.fields entries).filter fun (name, _) => name ≠ "kind")
    | none => .error (.invalid .documentWithoutKind)
  | .ok _ => .error (.invalid .documentNotObject)

/-- The line that describes a compiled document. -/
def description (t : Transaction) (q : Query) : String :=
  (Value.ofFields [("sql", q.sql), ("params", .ofList q.params), ("types", .ofList q.types),
    ("statement_reuse_policy", q.policy), ("idempotent", t.idempotent)]).json .plain ++ "\n"

/-- The report on a document that has been compiled. -/
def completedEvent (kind : Value) (q : Query) : LogEvent where
  logger := "pg_transactions.cli.__main__"
  level := .info
  fields := [("kind", kind), ("param_count", .int q.params.length)]
  event := .text "cli.compile.completed"

/-- A document that has been compiled. -/
structure Compiled where
  kind : Value
  transaction : Transaction
  query : Query
  /-- The events of building and compiling. -/
  events : List LogEvent

/-- Builds and compiles what a document describes. -/
def compileDocument (text : String) : Except Fault Compiled := do
  let (kind, args) ← readDocument text
  let built ← create kind args
  let (query, event) ← built.transaction.compile .standard
  return { kind, transaction := built.transaction, query, events := built.events ++ [event] }

/-- Faults of a document that are reported to the user. -/
def isReported : Fault → Bool
  | .invalid _ => true
  | .unexpectedArgument .. => true
  | .repeatedArgument .. => true
  | .missingArguments .. => true
  | .notIterable _ => true
  | .unhashable _ => true
  | .notJoinable .. => true
  | .entryNotSequence _ => true
  | .wrongKind _ => true
  | .unreadableDocument => true
  | _ => false

/-- Compiles a document. -/
def compile (w : World) (source : String) : Except Fault Outcome :=
  match documentText w source >>= compileDocument with
  | .ok c => do
    let out ← w.output.print (description c.transaction c.query)
    return {
      status := 0, out, err := ""
      log := allLines (c.events ++ [completedEvent c.kind c.query]) }
  | .error fault => if isReported fault then .ok (failed fault.message []) else .error fault

/-- Runs a command. -/
def Command.run (w : World) : Command → Except Fault Outcome
  | .classify signal => Cli.classify w signal
  | .compile source => Cli.compile w source

/-- The last line of a text that is not blank. -/
def lastLine (text : String) : String :=
  let body := Text.trim Text.isBlank text.toList
  String.ofList ((body.reverse.takeWhile (· ≠ '\n')).reverse)

/-- The status of a refused command line, and the last line that it writes. -/
def Refusal.outcome : Refusal → Nat × String
  | .help => (0, "")
  | .error program message => (2, lastLine (program ++ ": error: " ++ message))

end PgWrite.Cli
