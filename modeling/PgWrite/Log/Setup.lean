import PgWrite.Config.Settings
import PgWrite.Log.Event

/-!
# Setting up the log

The threshold of the log is the level that the settings name, in any case; an unknown name
stands for the level of information. Settings that do not fit must not keep the log from
starting, so the variable itself is looked at then. A log file is written only if a variable
asks for it, one file to a day. A name of the log that is no level may stand for a pattern.
-/

namespace PgWrite

/-- The threshold of every named level. -/
def levelNumbers : List (String × Int) :=
  [("NOTSET", 0), ("DEBUG", 10), ("INFO", 20), ("WARN", 30), ("WARNING", 30), ("ERROR", 40),
    ("CRITICAL", 50), ("FATAL", 50)]

/-- The capital of a letter, as far as the names of levels need it. -/
def capital (c : Char) : Char :=
  if c = 'ı' then 'I' else if c = 'ſ' then 'S' else c.toUpper

/-- The pattern of log lines without a time. -/
def basicFormat : String :=
  "%(levelname)s:%(name)s:%(message)s"

/-- What a name stands for among the names of the log: mostly the number of a level. -/
def levelOf (name : String) : Value :=
  let word := String.ofList (name.toList.map capital)
  if word = "BASIC_FORMAT" then .text basicFormat
  else .int ((levelNumbers.lookup word).getD 20)

/-- The threshold of the log under an environment. -/
def logThreshold (env : Variables) : Value :=
  match Settings.load [] env [] with
  | .ok s => levelOf s.logLevel
  | .error _ => levelOf ((env.lookup "LOG_LEVEL").getD "INFO")

/-- The severity that counts where none is set for the package. -/
def commonSeverity : Int := 30

/-- The severity that a threshold stands for: a number, or the exact name of a level. -/
def severityOf (threshold : Value) : Except Fault Int := do
  let n ← match threshold.text?, threshold.int? with
    | some name, _ => match levelNumbers.lookup name with
      | some n => pure n
      | none => throw .notNumeral
    | none, some n => pure n
    | none, none => throw (.wrongKind threshold.kindWord)
  return if n = 0 then commonSeverity else n

/-- The words with which a log file is asked for. -/
def affirmations : List String :=
  ["1", "true", "yes"]

/-- How a log file is kept. -/
structure LogFile where
  path : String
  /-- When a new file is begun. -/
  rotation : String
  backups : Nat
  encoding : String

/-- How many directories can be made in one another at once. -/
def maxLevels : Nat := 980

/-- Makes a directory with all above it; a file in its place or on the way is in the way. -/
def makeDirectory (files : Files) (p : Path) : Except Fault Unit :=
  match files.find p with
  | .file _ => .error .fileExists
  | .throughFile => .error .notDirectory
  | .tooLong => .error .pathTooLong
  | .directory => .ok ()
  | .absent =>
    if maxLevels < p.parts.length then .error .tooDeep
    else if p.parts.any fun part => Files.maxName < Files.octetCount part then
      .error .pathTooLong
    else .ok ()

/-- The log file that an environment asks for. -/
def logFile (env : Variables) (files : Files) : Except Fault (Option LogFile) :=
  if affirmations.contains (Text.lower ((env.lookup "LOG_TO_FILE").getD "")) then do
    let directory := Path.ofText ((env.lookup "LOG_FILE_DIR").getD "logs")
    makeDirectory files directory
    let name := Path.ofText "pg-transactions-YYYYMMDD.log"
    if Files.maxPath < Files.octetCount (directory.append name).text.toList then
      throw .pathTooLong
    let file : Path := { root := directory.root, parts := (directory.append name).resolved }
    return some { path := file.text, rotation := "MIDNIGHT", backups := 30, encoding := "utf-8" }
  else .ok none

end PgWrite
