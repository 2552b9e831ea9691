import PgWrite.Cli.Run
import PgWrite.Config.EnvFilePath

/-!
# The program

The program reads its command line, the variables that settings are taken from, and the files
that these name, and leaves everything else to the command. A fault that no command reports
ends it with status one.
-/

namespace PgWrite.Cli

/-- The variables that are looked at. -/
def knownVariables : List String :=
  ["HOME", "PGTX_ENV_FILE", "ENVIRONMENT", "LOG_LEVEL", "PGTX_HEURISTICS_CONFIG"]
    ++ RuleLists.names.toList.map fun name => "PGTX_" ++ name.toUpper

/-- The variables that are set. -/
def readVariables : IO Variables :=
  knownVariables.filterMapM fun name => do
    return (← IO.getEnv name).map fun value => (name, value)

/-- What stands at a path, if anything does. -/
def readEntry (path : String) : IO Files := do
  match ← (IO.FS.readBinFile path).toBaseIO with
  | .ok octets => return Files.ofList [(path, .file octets.toList)]
  | .error (.inappropriateType ..) => return Files.ofList [(path, .directory)]
  | .error _ => return []

/-- The rule file that settings name. -/
def ruleFileOf (w : World) : List String :=
  match Settings.load [] w.environment w.fileVariables with
  | .ok s => s.ruleFile.toList
  | .error _ => []

/-- The files that a command reads. -/
def filesOf (w : World) : Command → List String
  | .classify .. => ruleFileOf w
  | .compile source => [source]

/-- The world of a command. -/
def readWorld (command : Command) : IO World := do
  let environment ← readVariables
  let places : HomePlaces :=
    { project := Path.ofText ".", home := "/", accounts := [] }
  let settingsFile := (places.settingsEnvFile environment).toOption
  let input ← match command with
    | .compile "-" => (← IO.getStdin).readToEnd
    | _ => pure ""
  let settled ← (settingsFile.map Path.text).toList.mapM readEntry
  let known := settingsFile.map (Settings.variablesAt environment settled.flatten)
  let fileVariables := (known.bind Except.toOption).getD []
  let w : World := { environment, files := [], fileVariables, input, output := .utf8 }
  let files ← (filesOf w command).mapM readEntry
  return { w with files := files.flatten }

/-- Runs a command and writes what it writes. -/
def perform (command : Command) : IO UInt32 := do
  match command.run (← readWorld command) with
  | .ok o =>
    IO.print o.out
    IO.eprint (Charset.utf8.escaped o.err)
    return o.status.toUInt32
  | .error fault =>
    IO.eprintln ("Error: " ++ fault.message)
    return 1

end PgWrite.Cli

/-- Runs the command that a command line asks for. -/
def main (line : List String) : IO UInt32 := do
  match PgWrite.Cli.Command.ofLine line with
  | .ok command => PgWrite.Cli.perform command
  | .error refusal =>
    let (status, message) := refusal.outcome
    IO.eprintln message
    return status.toUInt32
