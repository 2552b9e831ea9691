import PgWrite.Value.Shown

/-!
# Values as JSON text

A value is written on one line, with a blank behind every comma and colon. Text is escaped
by one of two rules: to ASCII, where every other character becomes one or two `\u` units, or
openly, where only quotes, backslashes and control characters are escaped. A key that is no
text is written as the text of its own JSON form.
-/

namespace PgWrite

/-- Which characters of a text are written as escapes. -/
inductive JsonText where
  | ascii
  | plain
  deriving DecidableEq, Repr

/-- The `\u` units of a character: one, or two surrogates beyond the basic plane. -/
def unitEscape (c : Char) : List Char :=
  let unit := Text.unitOf c
  if unit < 0x10000 then '\\' :: 'u' :: Text.hexDigits 4 unit
  else
    let n := c.toNat - 0x10000
    '\\' :: 'u' :: Text.hexDigits 4 (0xd800 + n / 0x400)
      ++ '\\' :: 'u' :: Text.hexDigits 4 (0xdc00 + n % 0x400)

/-- A character between the quotes of a JSON string. -/
def jsonChar (mode : JsonText) (c : Char) : List Char :=
  if c = '"' ∨ c = '\\' then ['\\', c]
  else if c = '\n' then ['\\', 'n']
  else if c = '\r' then ['\\', 'r']
  else if c = '\t' then ['\\', 't']
  else if c = '\x08' then ['\\', 'b']
  else if c = '\x0c' then ['\\', 'f']
  else if c.toNat < 0x20 then unitEscape c
  else if mode = .ascii ∧ 0x7e < c.toNat then unitEscape c
  else [c]

/-- A JSON string. -/
def jsonString (mode : JsonText) (s : String) : String :=
  String.ofList ('"' :: s.toList.flatMap (jsonChar mode) ++ ['"'])

namespace Value

/-- The text of a key. -/
def jsonKey : Value → String
  | .null => "null"
  | .bool b => if b then "true" else "false"
  | .int n => Text.decimal n
  | .float x => x.textWith "Infinity" "NaN"
  | v => v.text?.getD v.shown

mutual

/-- A value as JSON text; a value without a JSON form is written as the text of its form in
messages. -/
def json (mode : JsonText) : Value → String
  | .null => "null"
  | .bool b => if b then "true" else "false"
  | .int n => Text.decimal n
  | .float x => x.textWith "Infinity" "NaN"
  | .text s => jsonString mode s
  | .policy p => jsonString mode p.name
  | .list _ items => "[" ++ Text.joined ", " (jsonItems mode items) ++ "]"
  | .tuple items => "[" ++ Text.joined ", " (jsonItems mode items) ++ "]"
  | .map _ entries => "\x7b" ++ Text.joined ", " (jsonEntries mode entries) ++ "\x7d"
  | v => jsonString mode (shown v)

/-- The JSON texts of the items of a list. -/
def jsonItems (mode : JsonText) : List Value → List String
  | [] => []
  | v :: vs => json mode v :: jsonItems mode vs

/-- The JSON texts of the entries of a mapping. -/
def jsonEntries (mode : JsonText) : List (Value × Value) → List String
  | [] => []
  | (k, v) :: rest => (jsonString mode (jsonKey k) ++ ": " ++ json mode v) :: jsonEntries mode rest

end

end Value

end PgWrite
