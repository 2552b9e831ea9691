import PgWrite.Config.EnvFile
import PgWrite.Config.EnvFilePath
import PgWrite.Config.Variables
import PgWrite.Config.RuleFile
import PgWrite.Value.Elements
import PgWrite.Value.JsonDocument

/-!
# Settings

Every setting is taken from the first source that gives it: the arguments of a call, the
variables of the environment, the variables of files, and then the built-in value. Names are
found without regard to case. A rule list in a variable is written as JSON, in which null
gives nothing; text that is no JSON is no list, and JSON that lies too deep in itself is
refused wherever it stands. The lists of the settings outrank those of the rule file that the
settings name, list by list.
-/

namespace PgWrite

/-- The settings of the library. -/
structure Settings where
  environment : String
  logLevel : String
  /-- The path of a file with rule lists. -/
  ruleFile : Option String
  lists : RuleOverrides

/-- Where settings are looked up, by the name of the setting. -/
abbrev SettingSource := String → Option Given

namespace SettingSource

/-- The last of the entries with a name, whatever its case. -/
def lastNamed? {α : Type} (entries : List (String × α)) (name : String) : Option α :=
  (entries.reverse.find? fun (n, _) => Text.lower n = Text.lower name).map (·.2)

/-- The arguments of a call; one that bears the very name of a setting comes first. -/
def ofArguments (args : List (String × Value)) : SettingSource :=
  fun name => ((args.lookup name).or (lastNamed? args name)).map Given.ofValue

/-- The last value of a variable, whatever the case of its name. -/
def lookup? (vars : EnvFile.FileVariables) (name : String) : Option String :=
  (lastNamed? vars name).join

/-- Some variable gives a member of a rule list, which is a mapping then. -/
def hasMember (vars : EnvFile.FileVariables) (name : String) : Bool :=
  vars.any fun (n, _) => (Text.lower (name ++ "__")).toList.isPrefixOf (Text.lower n).toList

/-- What JSON in a variable gives; other text gives itself. -/
def ofJsonText (s : String) : Option Given :=
  match Value.ofJson s with
  | .ok .null => none
  | .ok v => some (Given.ofValue v)
  | .error _ => some (.item (.text s))

/-- Variables; those of the library's own start with its mark. -/
def ofVariables (vars : EnvFile.FileVariables) : SettingSource := fun name =>
  let marked := "PGTX_" ++ name
  if RuleLists.names.toList.contains name then
    match lookup? vars marked with
    | some s => ofJsonText s
    | none => if hasMember vars marked then some (.item .other) else none
  else
    let variableName := if name = "heuristics_config" then marked else name
    (lookup? vars variableName).map fun s => .item (.text s)

/-- The JSON of some rule list lies too deep in itself. -/
def tooDeep (vars : EnvFile.FileVariables) : Bool :=
  RuleLists.names.toList.any fun name =>
    match (lookup? vars ("PGTX_" ++ name)).map Value.ofJson with
    | some (.error .tooDeep) => true
    | _ => false

end SettingSource

namespace Settings

/-- What is given for a setting by the first source that gives it. -/
def firstOf (sources : List SettingSource) (name : String) (default : Given) : Given :=
  (sources.findSome? fun source => source name).getD default

/-- The settings that sources give, in the order of their rank. -/
def ofSources (sources : List SettingSource) : Checked Settings :=
  let given := firstOf sources
  let environment := (given "ENVIRONMENT" (.item (.text "dev"))).checkWord "ENVIRONMENT"
    ["dev", "staging", "prod"]
  let logLevel := (given "LOG_LEVEL" (.item (.text "INFO"))).checkText "LOG_LEVEL"
  let ruleFile := (given "heuristics_config" .null).checkOptional "heuristics_config"
  let lists := RuleOverrides.check (RuleLists.names.map fun name => given name .null)
  match environment, logLevel, ruleFile, lists with
  | .ok environment, .ok logLevel, .ok ruleFile, .ok lists =>
    .ok { environment, logLevel, ruleFile, lists }
  | _, _, _, _ =>
    .error (environment.faults ++ logLevel.faults ++ ruleFile.faults ++ Checked.faults lists)

/-- The variables of the file at a path; where no file is, there are none. -/
def variablesAt (env : Variables) (files : Files) (p : Path) :
    Except Fault EnvFile.FileVariables :=
  if p.text.toList.contains '\x00' then .ok []
  else match files.find p with
    | .file octets => match decodeText? octets with
      | some text => .ok (EnvFile.variablesOf env text)
      | none => .error .undecodable
    | .tooLong => .error .pathTooLong
    | _ => .ok []

/-- The paths that are given for files of variables: none, a single one, or several. -/
def givenPaths (given : Value) : Except Fault (List Value) :=
  match given with
  | .null => .ok []
  | v => if v.text?.isSome then .ok [v] else v.elements

/-- The variables of given files; those of later files come last. -/
def fileVariables (places : HomePlaces) (env : Variables) (files : Files) (given : Value) :
    Except Fault EnvFile.FileVariables := do
  (← givenPaths given).foldlM (fun known path => do
    match path.text? with
    | some text =>
      return known ++ (← variablesAt env files (← places.expand env (Path.ofText text)))
    | none => throw (.wrongKind path.kindWord)) []

/-- The settings of arguments, the environment, and the variables of files. -/
def load (args : List (String × Value)) (env : Variables) (fromFiles : EnvFile.FileVariables) :
    Except Fault Settings :=
  let fromEnv : EnvFile.FileVariables := env.map fun (name, value) => (name, some value)
  if SettingSource.tooDeep fromEnv || SettingSource.tooDeep fromFiles then .error .tooDeep
  else
    let sources := [SettingSource.ofArguments args, .ofVariables fromEnv, .ofVariables fromFiles]
    match ofSources sources with
    | .ok s => .ok s
    | .error faults => .error (.schema faults)

/-- The fields of settings in order. -/
def fields (s : Settings) : List (String × Value) :=
  let list (texts : Option (List String)) : Value :=
    match texts with
    | some texts => .ofList (texts.map .text)
    | none => .null
  [("ENVIRONMENT", .text s.environment), ("LOG_LEVEL", .text s.logLevel),
    ("heuristics_config", match s.ruleFile with | some path => .text path | none => .null)]
    ++ (s.lists.map list).named

/-- The overrides of the rule file that the settings name, if they name one. -/
def fileOverrides (s : Settings) (files : Files) : Except Fault RuleOverrides :=
  match s.ruleFile.filter (· ≠ "") with
  | some path => (RuleFile.load files path).map RuleFile.overrides
  | none => .ok noOverrides

/-- The rules of settings: their own lists first, then those of their rule file. -/
def rules (s : Settings) (files : Files) : Except Fault Rules := do
  return Rules.ofOverrides (s.lists.orElse (← s.fileOverrides files))

end Settings

end PgWrite
