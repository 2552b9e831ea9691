import PgWrite.Fault
import PgWrite.Text.Half
import PgWrite.Value.Basic

/-!
# Environment variables

The environment holds variables with a name and a value, both of them text. A name is not
empty and holds no equality sign, and neither part holds the character zero. The half of a
surrogate pair may only stand there for an octet that is no text.
-/

namespace PgWrite

/-- Variables in order; of those with names that differ in case only the last one counts. -/
abbrev Variables := List (String × String)

namespace Variables

/-- Fails unless a text can be written as octets. -/
def checkOctets (s : String) : Except Fault Unit :=
  if Text.hasOctets s.toList then .ok () else .error .notEncodable

/-- The text of a part of a variable. -/
def partText (v : Value) : Except Fault String := do
  match v.text? with
  | some s => do
    checkOctets s
    return s
  | none => throw (.wrongKind v.kindWord)

/-- Fails unless name and value may be those of a variable. -/
def check (name value : String) : Except Fault Unit :=
  if (name ++ value).toList.contains '\x00' || name.toList.contains '=' then
    .error .unusableVariable
  else if name = "" then .error .namelessVariable
  else .ok ()

/-- Sets a variable to a given value; one that is known keeps its place. -/
def set (env : Variables) (name value : Value) : Except Fault Variables := do
  let name ← partText name
  let value ← partText value
  check name value
  if env.any fun (n, _) => n = name then
    return env.map fun (n, v) => if n = name then (n, value) else (n, v)
  return env ++ [(name, value)]

/-- The variables of given names and values. -/
def ofFields (fields : List (String × Value)) : Except Fault Variables :=
  fields.foldlM (fun env (name, value) => env.set (.text name) value) []

end Variables

end PgWrite
