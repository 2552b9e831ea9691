import PgWrite.Config.Schema
import PgWrite.Files
import PgWrite.Value.Shown

/-!
# Rule files

A rule file is a YAML mapping with some of the four rule lists; a blank document gives none
of them. Of what can be wrong with it, a missing file, text that is no YAML, a document that
is no mapping and fields that do not fit are faults of the configuration. A directory in its
place, undecodable text, keys that are no text and scalars that contradict their tag are not
told apart from faults elsewhere.
-/

namespace PgWrite

/-- The fault of a rule file that cannot be read as YAML. -/
def Yaml.YamlFault.toFault : Yaml.YamlFault → Fault
  | .malformed => .config .notYaml
  | .badNumber => .notNumeral
  | .hugeNumber => .infiniteNumber
  | .unknownTruth => .missingKey
  | .noDigits => .indexOutOfRange
  | .noDate => .noOperation Value.null.kindWord
  | .wrongNode => .wrongKind (Value.ofList []).kindWord
  | .tooDeep => .tooDeep

/-- The overrides of a rule file, with the names of the lists that it gives. -/
structure RuleFile where
  overrides : RuleOverrides
  names : List String

namespace RuleFile

/-- The fields of a mapping whose keys are all texts. -/
def fieldsOf : List (Yaml.Data × Yaml.Data) → Except Fault (List (String × Given))
  | [] => .ok []
  | (.text name, d) :: rest => (fieldsOf rest).map ((name, Given.ofData d) :: ·)
  | _ :: _ => .error (.wrongKind "dict")

/-- The rule file of a document. -/
def ofData (d : Yaml.Data) : Except Fault RuleFile := do
  match if d.isBlank then Yaml.Data.map [] else d with
  | .map entries =>
    let fields ← fieldsOf entries
    match RuleOverrides.ofFields fields with
    | .ok overrides =>
      return { overrides, names := (fields.map (·.1)).mergeSort fun a b => a ≤ b }
    | .error faults => throw (.config (.schema faults))
  | _ => throw (.config .notMapping)

/-- The rule file of a text. -/
def ofText (text : String) : Except Fault RuleFile :=
  match Yaml.Data.ofText text.toList with
  | .ok d => ofData d
  | .error f => .error f.toFault

/-- Reads the rule file at a path. -/
def load (files : Files) (path : String) : Except Fault RuleFile :=
  if path.toList.contains '\x00' then .error (.config (.notFound path))
  else match files.find (Path.ofText path) with
    | .absent => .error (.config (.notFound path))
    | .throughFile => .error (.config (.notFound path))
    | .tooLong => .error .pathTooLong
    | .directory => .error .isDirectory
    | .file octets => match decodeText? octets with
      | some text => ofText text
      | none => .error .undecodable

/-- Reads the rule file at a path that is given as a value. -/
def loadGiven (files : Files) (path : Value) : Except Fault RuleFile :=
  match path.text? with
  | some text => load files text
  | none => .error (.wrongKind path.kindWord)

/-- The report on a rule file that has been read. -/
def report (f : RuleFile) (path : String) : String :=
  "Loaded heuristics overrides " ++ (Value.ofList (f.names.map .text)).shown ++ " from " ++ path

end RuleFile

end PgWrite
