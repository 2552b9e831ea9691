import PgWrite.Text.Scan
import PgWrite.Value.Basic

/-!
# Redaction

An entry whose key mentions a credential is logged without its value. Keys are searched
without regard to case; the long s and the Kelvin sign count as the letters they fold to.
Mappings inside mappings are searched too, at any depth, while lists are passed over.
-/

namespace PgWrite

/-- A character with its case folded, as far as the sensitive words need it. -/
def foldedChar (c : Char) : Char :=
  if 'A' ≤ c ∧ c ≤ 'Z' then Char.ofNat (c.toNat + 32)
  else if c = 'ſ' then 's'
  else if c = '\u212a' then 'k'
  else c

/-- Words that mark a credential. -/
def sensitiveWords : List String :=
  ["password", "token", "secret"]

/-- The key mentions a credential. -/
def isSensitive (key : String) : Bool :=
  sensitiveWords.any fun word => Text.occursIn word.toList (key.toList.map foldedChar)

/-- What stands in place of a credential. -/
def redacted : Value :=
  .text "[REDACTED]"

mutual

/-- Replaces the credentials in the entries of a mapping, at every depth of mappings. -/
def redactEntries : List (Value × Value) → List (Value × Value)
  | [] => []
  | (key, value) :: rest =>
    (key, if key.text?.any isSensitive then redacted else redactValue value) :: redactEntries rest

/-- Replaces the credentials in a mapping; any other value stays as it is. -/
def redactValue : Value → Value
  | .map identity entries => .map identity (redactEntries entries)
  | v => v

end

end PgWrite
