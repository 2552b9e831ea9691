import PgWrite.Errors.Rules
import PgWrite.Fault
import PgWrite.Text.Half
import PgWrite.Value.Basic
import PgWrite.Yaml.Document

/-!
# Configuration schema

A field of a configuration holds a text, or a list of texts which may be left out. Nothing is
converted: a number is no text, and a text or a mapping is no list. Octets count as the text
they encode. All fields are checked, and all that do not fit are reported with their place,
an element of a list by its index.
-/

namespace PgWrite

/-- A single value given for a configuration. -/
inductive GivenItem where
  | text (s : String)
  | octets (octets : List UInt8)
  | other
  deriving DecidableEq, Repr

/-- What is given for a field of a configuration. -/
inductive Given where
  | null
  | item (i : GivenItem)
  | list (items : List GivenItem)
  deriving DecidableEq, Repr

namespace GivenItem

/-- A value of a call as a single value. -/
def ofValue : Value → GivenItem
  | .text s => .text s
  | .policy p => .text p.name
  | .bytes o => .octets o
  | _ => .other

/-- Data of a file as a single value. -/
def ofData : Yaml.Data → GivenItem
  | .text s => .text s
  | .octets o => .octets o
  | _ => .other

/-- The text of a single value. -/
def text? : GivenItem → Except SchemaFault String
  | .text s => if Text.hasHalf s.toList then .error .undecodable else .ok s
  | .octets o => match String.fromUTF8? ⟨o.toArray⟩ with
    | some s => .ok s
    | none => .error .undecodable
  | .other => .error .notText

end GivenItem

/-- The checked value of a field, or the places at which it does not fit. -/
abbrev Checked (α : Type) := Except SchemaFaults α

/-- The places at which a checked value does not fit. -/
def Checked.faults {α : Type} : Checked α → SchemaFaults
  | .ok _ => []
  | .error faults => faults

namespace Given

/-- What a call gives. -/
def ofValue : Value → Given
  | .null => .null
  | .list _ items => .list (items.map GivenItem.ofValue)
  | v => .item (GivenItem.ofValue v)

/-- What a file gives. -/
def ofData : Yaml.Data → Given
  | .null => .null
  | .list items => .list (items.map GivenItem.ofData)
  | d => .item (GivenItem.ofData d)

/-- The texts of a list; `index` counts its elements. -/
def checkItems (field : String) : Nat → List GivenItem → Checked (List String)
  | _, [] => .ok []
  | index, i :: rest =>
    match i.text?, checkItems field (index + 1) rest with
    | .ok s, .ok texts => .ok (s :: texts)
    | .ok _, .error faults => .error faults
    | .error f, others => .error ((field ++ "." ++ Text.decimal index, f) :: Checked.faults others)

/-- A field that holds a list of texts or nothing. -/
def checkList (field : String) : Given → Checked (Option (List String))
  | .null => .ok none
  | .list items => (checkItems field 0 items).map some
  | .item _ => .error [(field, .notList)]

/-- A field that holds a text. -/
def checkText (field : String) : Given → Checked String
  | .item i => match i.text? with
    | .ok s => .ok s
    | .error f => .error [(field, f)]
  | _ => .error [(field, .notText)]

/-- A field that holds a text or nothing. -/
def checkOptional (field : String) : Given → Checked (Option String)
  | .null => .ok none
  | g => (checkText field g).map some

/-- A field that holds one of some words. -/
def checkWord (field : String) (words : List String) : Given → Checked String
  | .item (.text s) => if words.contains s then .ok s else .error [(field, .notAllowed)]
  | _ => .error [(field, .notAllowed)]

end Given

namespace RuleOverrides

/-- The overrides of what is given for each list, with all places that do not fit. -/
def check (given : RuleLists Given) : Checked RuleOverrides :=
  let lists := RuleLists.zipWith Given.checkList RuleLists.names given
  match lists.toList.flatMap Checked.faults with
  | [] => .ok (lists.map fun list => match list with
    | .ok texts => texts
    | .error _ => none)
  | faults => .error faults

/-- The overrides of named fields; fields of other names are refused, and a name that is no text
stands for the whole configuration. -/
def ofFields (fields : List (String × Given)) : Checked RuleOverrides :=
  if fields.any fun (name, _) => Text.hasHalf name.toList then .error [("", .undecodable)]
  else
  let unknown := fields.filter fun (name, _) => !RuleLists.names.toList.contains name
  let checked := check (RuleLists.names.map fun name => (fields.lookup name).getD .null)
  match Checked.faults checked ++ unknown.map fun (name, _) => (name, .unknownField) with
  | [] => checked
  | faults => .error faults

end RuleOverrides

end PgWrite
