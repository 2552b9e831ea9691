import PgWrite.Cli.Usage
import PgWrite.Errors.GivenSignal

/-!
# Commands

There are two commands: one gives the verdict on an error, the other compiles a document. The
first plain word of a command line names the command, and the words behind it belong to the
command. Words that neither level knows are refused together, those in front of the command
first.
-/

namespace PgWrite.Cli

/-- A command with what it is given. -/
inductive Command where
  | classify (signal : GivenSignal)
  /-- A single dash names the standard input. -/
  | compile (source : String)

/-- The form of a command line up to the command. -/
def mainForm : Form where
  program := "pg_transactions.cli"
  options := helpOptions
  takesFile := false

/-- The form of the verdict on an error. -/
def classifyForm : Form where
  program := mainForm.program ++ " classify"
  options := helpOptions ++
    [("--sqlstate", .text "sqlstate"), ("--driver-code", .number "driver_code"),
      ("--message", .text "message")]
  takesFile := false

/-- The form of a compilation. -/
def compileForm : Form where
  program := mainForm.program ++ " compile"
  options := helpOptions
  takesFile := true

/-- The command that a name and the words behind it ask for, with the words that fit nowhere. -/
def commandOf (name : String) (line : List String) : Except Refusal (Command × List String) :=
  if name = "classify" then do
    let g ← classifyForm.given line
    return (.classify {
      sqlstate := (g.values.lookup "sqlstate").getD .null
      driverCode := (g.values.lookup "driver_code").getD .null
      message := (g.values.lookup "message").getD (.text "") }, g.extras)
  else if name = "compile" then do
    let g ← compileForm.given line
    return (.compile (g.file.getD "-"), g.extras)
  else
    optionError mainForm "command"
      ("invalid choice: " ++ quotedText name ++ " (choose from 'classify', 'compile')")

/-- Fails if words fit nowhere. -/
def refuseExtras (extras : List String) : Except Refusal Unit :=
  if extras.isEmpty then .ok ()
  else mainForm.error ("unrecognized arguments: " ++ Text.joined " " extras)

/-- The command of words, seen with the words as they were written. -/
def commandOfWords (extras : List String) : List Word → List String → Except Refusal Command
  | .unknown s :: words, _ :: line => commandOfWords (extras ++ [s]) words line
  | .option o :: words, _ => do
    let _ ← Given.nothing.takeOption mainForm o words
    throw .help
  | .marker :: _ :: _, line => do
    let (command, _) ← commandOf "--" line
    return command
  | .plain name :: _, _ :: line => do
    let (command, more) ← commandOf name line
    refuseExtras (extras ++ more)
    return command
  | _, _ => mainForm.error "the following arguments are required: command"

/-- The command of a command line. -/
def Command.ofLine (line : List String) : Except Refusal Command := do
  commandOfWords [] (← mainForm.words line) line

end PgWrite.Cli
