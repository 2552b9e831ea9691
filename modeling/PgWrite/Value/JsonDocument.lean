import PgWrite.Number.Numeral
import PgWrite.Text.Half
import PgWrite.Value.Basic

/-!
# Values from JSON text

A document is one value between blanks. Numbers with neither fraction nor exponent are
integers, all others binary numbers; the words for infinite and undefined numbers are read
too, the latter always as the same occurrence. Of two entries with one key the later value
stands in the place of the first. Text between quotes may hold no control characters, and
two units of a surrogate pair are one character. Lists and mappings may lie in one another
only so deep.
-/

namespace PgWrite

/-- Why a text is no document. -/
inductive JsonFault where
  | malformed
  /-- An integer has more digits than can be read. -/
  | tooManyDigits
  /-- Lists and mappings lie too deep in one another. -/
  | tooDeep
  deriving DecidableEq, Repr

namespace JsonDocument

/-- Blanks between the parts of a document. -/
def isBlank (c : Char) : Bool :=
  c = ' ' || c = '\t' || c = '\n' || c = '\r'

/-- The text behind its leading blanks. -/
def skipBlanks (text : List Char) : List Char :=
  text.dropWhile isBlank

/-- The character of a one-letter escape. -/
def escaped? (c : Char) : Option Char :=
  match c with
  | '"' => some '"' | '\\' => some '\\' | '/' => some '/' | 'b' => some '\x08'
  | 'f' => some '\x0c' | 'n' => some '\n' | 'r' => some '\r' | 't' => some '\t'
  | _ => none

/-- The unit that four hexadecimal digits stand for, and the text behind them. -/
def readUnit (text : List Char) : Except JsonFault (Nat × List Char) :=
  match text.take 4, Text.hexNumber? (text.take 4) with
  | [_, _, _, _], some n => .ok (n, text.drop 4)
  | _, _ => .error .malformed

/-- The character of a unit, joined with a second unit if both are a surrogate pair; half of a
pair alone has a character that stands for it. -/
def readUnits (text : List Char) : Except JsonFault (Char × List Char) := do
  let (high, rest) ← readUnit text
  if 0xd800 ≤ high && high < 0xdc00 then
    match rest with
    | '\\' :: 'u' :: more =>
      let (low, behind) ← readUnit more
      if 0xdc00 ≤ low && low < 0xe000 then
        return (Char.ofNat (0x10000 + (high - 0xd800) * 0x400 + (low - 0xdc00)), behind)
    | _ => pure ()
  return (if 0xd800 ≤ high && high < 0xe000 then Text.ofHalf high else Char.ofNat high, rest)

/-- The text up to the closing quote, and what is behind it. -/
def readString : Nat → List Char → Except JsonFault (List Char × List Char)
  | _, [] => .error .malformed
  | 0, _ => .error .malformed
  | fuel + 1, c :: rest =>
    if c = '"' then .ok ([], rest)
    else if c = '\\' then
      match rest with
      | 'u' :: more => do
        let (ch, behind) ← readUnits more
        let (text, behind) ← readString fuel behind
        return (ch :: text, behind)
      | e :: more =>
        match escaped? e with
        | some ch => do
          let (text, behind) ← readString fuel more
          return (ch :: text, behind)
        | none => .error .malformed
      | [] => .error .malformed
    else if c.toNat < 0x20 then .error .malformed
    else do
      let (text, behind) ← readString fuel rest
      return (c :: text, behind)

/-- A string behind its opening quote; `fuel` bounds its length. -/
def readText (fuel : Nat) (rest : List Char) : Except JsonFault (String × List Char) :=
  (readString fuel rest).map fun (text, behind) => (String.ofList text, behind)

/-- The digits in front of a point: a single zero, or digits that do not start with one. -/
def takeWhole (text : List Char) : List Char × List Char :=
  match text with
  | '0' :: rest => (['0'], rest)
  | _ => (text.takeWhile Char.isDigit, text.dropWhile Char.isDigit)

/-- A number. -/
def readNumber (text : List Char) : Except JsonFault (Value × List Char) :=
  let (negative, body) := match text with
    | '-' :: rest => (true, rest)
    | _ => (false, text)
  let (whole, rest) := takeWhole body
  let (fraction, rest) := Numeral.takeFraction rest
  let (exponent, rest) := Numeral.takeExponent rest
  let numeral : Numeral := { negative, whole, fraction, exponent }
  if whole.isEmpty then .error .malformed
  else if fraction.isSome || exponent.isSome then .ok (.float numeral.toBinary64, rest)
  else if maxDigits < whole.length then .error .tooManyDigits
  else .ok (.int numeral.toInt, rest)

/-- How many lists and mappings may lie in one another. -/
def maxNesting : Nat := 985

/-- The words that stand for values. -/
def words : List (String × Value) :=
  [("null", .null), ("true", .bool true), ("false", .bool false), ("NaN", .float (.undefined 0)),
    ("Infinity", .float (.infinite false)), ("-Infinity", .float (.infinite true))]

/-- A word or a number. -/
def readAtom (text : List Char) : Except JsonFault (Value × List Char) :=
  let read := words.findSome? fun (word, v) =>
    (Text.dropStart? word.toList text).map fun rest => (v, rest)
  match read with
  | some reading => .ok reading
  | none => readNumber text

mutual

/-- A value; so many more lists and mappings may lie in one another. -/
def readValue : Nat → Nat → List Char → Except JsonFault (Value × List Char)
  | 0, _, _ => .error .malformed
  | fuel + 1, nesting, text => match text, nesting with
    | '"' :: rest, _ => (readText (fuel + 1) rest).map fun (s, behind) => (.text s, behind)
    | '[' :: _, 0 => .error .tooDeep
    | '[' :: rest, nesting + 1 =>
      match skipBlanks rest with
      | ']' :: behind => .ok (.list 0 [], behind)
      | items => do
        let (items, behind) ← readItems fuel nesting items
        return (.list 0 items, behind)
    | '\x7b' :: _, 0 => .error .tooDeep
    | '\x7b' :: rest, nesting + 1 =>
      match skipBlanks rest with
      | '\x7d' :: behind => .ok (.map 0 [], behind)
      | entries => do
        let (entries, behind) ← readEntries fuel nesting entries []
        return (.ofFields entries, behind)
    | _, _ => readAtom text

/-- The items of a list up to its closing bracket. -/
def readItems : Nat → Nat → List Char → Except JsonFault (List Value × List Char)
  | 0, _, _ => .error .malformed
  | fuel + 1, nesting, text => do
    let (item, behind) ← readValue fuel nesting text
    match skipBlanks behind with
    | ',' :: rest => do
      let (items, behind) ← readItems fuel nesting (skipBlanks rest)
      return (item :: items, behind)
    | ']' :: rest => return ([item], rest)
    | _ => .error .malformed

/-- The entries of a mapping up to its closing bracket, behind those read so far. -/
def readEntries : Nat → Nat → List Char → List (String × Value) →
    Except JsonFault (List (String × Value) × List Char)
  | 0, _, _, _ => .error .malformed
  | fuel + 1, nesting, text, entries => match text with
    | '"' :: rest => do
      let (key, behind) ← readText (fuel + 1) rest
      match skipBlanks behind with
      | ':' :: rest => do
        let (value, behind) ← readValue fuel nesting (skipBlanks rest)
        let entries := setField key value entries
        match skipBlanks behind with
        | ',' :: rest => readEntries fuel nesting (skipBlanks rest) entries
        | '\x7d' :: rest => return (entries, rest)
        | _ => .error .malformed
      | _ => .error .malformed
    | _ => .error .malformed

end

end JsonDocument

/-- The value of a JSON text. -/
def Value.ofJson (text : String) : Except JsonFault Value := do
  let body := text.toList
  let (value, behind) ← JsonDocument.readValue (2 * body.length + 2) JsonDocument.maxNesting
    (JsonDocument.skipBlanks body)
  if (JsonDocument.skipBlanks behind).isEmpty then return value
  throw .malformed

end PgWrite
