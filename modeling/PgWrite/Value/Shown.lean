import PgWrite.Number.Shortest
import PgWrite.Text.Half
import PgWrite.Text.Printable
import PgWrite.Value.ColumnType

/-!
# Values in messages

Messages show a value in a form that tells the kinds apart: text stands in quotes, with the
quote in use, the backslash and every character without a printed form escaped. Double quotes
are used exactly for text that holds a single quote and no double one.
-/

namespace PgWrite

/-- The escape of a character by its number, as short as it fits. -/
def numberedEscape (c : Char) : List Char :=
  let unit := Text.unitOf c
  if unit < 0x100 then '\\' :: 'x' :: Text.hexDigits 2 unit
  else if unit < 0x10000 then '\\' :: 'u' :: Text.hexDigits 4 unit
  else '\\' :: 'U' :: Text.hexDigits 8 unit

/-- A character between quotes. -/
def quotedChar (quote : Char) (c : Char) : List Char :=
  if c = quote ∨ c = '\\' then ['\\', c]
  else if c = '\n' then ['\\', 'n']
  else if c = '\r' then ['\\', 'r']
  else if c = '\t' then ['\\', 't']
  else if Text.isPrintable c then [c]
  else numberedEscape c

/-- The quote for a text: a single one, unless only single quotes occur in it. -/
def quoteFor (text : List Char) : Char :=
  if text.contains '\'' && !text.contains '"' then '"' else '\''

/-- Text in quotes. -/
def quotedText (s : String) : String :=
  let quote := quoteFor s.toList
  String.ofList (quote :: s.toList.flatMap (quotedChar quote) ++ [quote])

/-- Octets in quotes: printed ASCII characters as they are, all others by number. -/
def quotedOctets (octets : List UInt8) : String :=
  let chars := octets.map fun o => Char.ofNat o.toNat
  let quote := quoteFor chars
  let escaped (c : Char) : List Char :=
    if c.toNat < 0x80 then quotedChar quote c else numberedEscape c
  String.ofList ('b' :: quote :: chars.flatMap escaped ++ [quote])

/-- Items between brackets; a single item of a tuple is followed by a comma. -/
def tupleText : List String → String
  | [s] => "(" ++ s ++ ",)"
  | items => "(" ++ Text.joined ", " items ++ ")"

namespace Value

mutual

/-- The form of a value in messages. -/
def shown : Value → String
  | .null => "None"
  | .bool b => if b then "True" else "False"
  | .int n => Text.decimal n
  | .float x => x.text
  | .text s => quotedText s
  | .bytes octets => quotedOctets octets
  | .list _ items => "[" ++ Text.joined ", " (shownItems items) ++ "]"
  | .tuple items => tupleText (shownItems items)
  | .map _ entries => "\x7b" ++ Text.joined ", " (shownEntries entries) ++ "\x7d"
  | .frozen entries =>
    "mappingproxy(\x7b" ++ Text.joined ", " (shownEntries entries) ++ "\x7d)"
  | .policy .none => "<StatementReusePolicy.NONE: 'none'>"
  | .policy .perTransaction => "<StatementReusePolicy.PER_TRANSACTION: 'per_transaction'>"
  | .columnsTarget columns =>
    "ColumnsConflictTarget(columns=" ++ tupleText (shownItems columns) ++ ")"
  | .constraintTarget constraint =>
    "ConstraintConflictTarget(constraint_name=" ++ shown constraint ++ ")"
  | .sqlType t => match t.occurrence with
    | none => "<class '" ++ t.modulePath ++ "." ++ t.name ++ "'>"
    | some _ => t.name ++ "()"
  | .record typeName fields =>
    typeName ++ "(" ++ Text.joined ", " (shownFields fields) ++ ")"

/-- The forms of the items of a list. -/
def shownItems : List Value → List String
  | [] => []
  | v :: vs => shown v :: shownItems vs

/-- The forms of the entries of a mapping. -/
def shownEntries : List (Value × Value) → List String
  | [] => []
  | (k, v) :: rest => (shown k ++ ": " ++ shown v) :: shownEntries rest

/-- The forms of the fields of a structure. -/
def shownFields : List (String × Value) → List String
  | [] => []
  | (name, v) :: rest => (name ++ "=" ++ shown v) :: shownFields rest

end

/-- A value as part of a text: text stands for itself, all else has its form in messages. -/
def display : Value → String
  | .text s => s
  | .policy .none => "StatementReusePolicy.NONE"
  | .policy .perTransaction => "StatementReusePolicy.PER_TRANSACTION"
  | .sqlType t => match t.occurrence with
    | none => shown (.sqlType t)
    | some _ => t.statementWords
  | v => shown v

/-- Text is displayed as it is. -/
@[simp] theorem display_text (s : String) : display (.text s) = s := rfl

end Value

end PgWrite
