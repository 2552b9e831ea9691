import PgWrite.Number.Binary64
import PgWrite.Text.DecimalDigit
import PgWrite.Text.Scan

/-!
# Numerals

Reading numbers from text. An integer may have blanks around it, a sign, leading zeros and
single underscores between its digits; the digits may be of any script. A decimal numeral has
an integer part, a fraction and an exponent, and stands for the nearest binary number.
-/

namespace PgWrite

/-- The value of a digit in a base. -/
def digitIn? (base : Nat) (c : Char) : Option Nat :=
  (Text.hexValue? c).filter (· < base)

/-- Digits of a base with single underscores between them, as a number behind the digits read
so far, and how many there are. -/
def readDigits (base value count : Nat) : List Char → Option (Nat × Nat)
  | [] => some (value, count)
  | '_' :: c :: rest =>
    match digitIn? base c with
    | some d => if count = 0 then none else readDigits base (value * base + d) (count + 1) rest
    | none => none
  | c :: rest =>
    match digitIn? base c with
    | some d => readDigits base (value * base + d) (count + 1) rest
    | none => none

/-- The number of digits that a decimal numeral may have. -/
def maxDigits : Nat := 4300

/-- The leading sign of a text, and the text behind it. -/
def takeSign (text : List Char) : Bool × List Char :=
  match text with
  | '-' :: rest => (true, rest)
  | '+' :: rest => (false, rest)
  | _ => (false, text)

/-- The letter that marks a base behind a zero. -/
def baseMark? (base : Nat) : Option Char :=
  if base = 2 then some 'b' else if base = 8 then some 'o' else if base = 16 then some 'x' else none

/-- The text behind the mark of its base, and one underscore, if they stand here. -/
def dropBaseMark (base : Nat) (text : List Char) : List Char :=
  match text with
  | '0' :: mark :: rest =>
    if baseMark? base = some mark.toLower then
      match rest with
      | '_' :: digits => digits
      | _ => rest
    else text
  | _ => text

/-- The integer written in a base in a text, between blanks. -/
def readIntegerIn? (base : Nat) (text : List Char) : Option Int :=
  let (negative, body) := takeSign (Text.numeralText text)
  match readDigits base 0 0 (dropBaseMark base body) with
  | some (n, count) =>
    if count = 0 ∨ (base = 10 ∧ maxDigits < count) then none
    else some (if negative then -(n : Int) else n)
  | none => none

/-- The decimal integer written in a text, between blanks. -/
def readInteger? (text : List Char) : Option Int :=
  readIntegerIn? 10 text

/-- A decimal numeral in its parts. -/
structure Numeral where
  negative : Bool
  whole : List Char
  fraction : Option (List Char)
  exponent : Option (Bool × List Char)
  deriving Repr

namespace Numeral

/-- The exponent at the start of a text, if a whole one stands there, and the text behind it. -/
def takeExponent (text : List Char) : Option (Bool × List Char) × List Char :=
  match text with
  | c :: rest =>
    if c = 'e' ∨ c = 'E' then
      let (negative, rest) := takeSign rest
      let digits := rest.takeWhile Char.isDigit
      if digits.isEmpty then (none, text)
      else (some (negative, digits), rest.dropWhile Char.isDigit)
    else (none, text)
  | [] => (none, [])

/-- The fraction at the start of a text, if a point and a digit stand there. -/
def takeFraction (text : List Char) : Option (List Char) × List Char :=
  match text with
  | '.' :: rest =>
    let digits := rest.takeWhile Char.isDigit
    if digits.isEmpty then (none, text) else (some digits, rest.dropWhile Char.isDigit)
  | _ => (none, text)

/-- The exponent as an integer; long ones are cut to a number that is as extreme. -/
def exponentValue (n : Numeral) : Int :=
  match n.exponent with
  | none => 0
  | some (negative, digits) =>
    let significant := digits.dropWhile (· = '0')
    let e : Nat := if 18 < significant.length then Nat.pow 10 18 else Text.digitsValue significant
    if negative then -(e : Int) else e

/-- The binary number nearest to a numeral. -/
def toBinary64 (n : Numeral) : Binary64 :=
  let fraction := n.fraction.getD []
  Binary64.ofDecimal n.negative (Text.digitsValue (n.whole ++ fraction))
    (n.exponentValue - fraction.length)

/-- The integer of a numeral with neither fraction nor exponent. -/
def toInt (n : Numeral) : Int :=
  let value : Int := Text.digitsValue n.whole
  if n.negative then -value else value

end Numeral

/-- Text without its underscores, all of which must stand between digits; `afterDigit` says
whether a digit stands in front of the text. -/
def dropUnderscores? (afterDigit : Bool) : List Char → Option (List Char)
  | [] => some []
  | '_' :: c :: rest =>
    if afterDigit && c.isDigit then (dropUnderscores? true rest).map (c :: ·) else none
  | c :: rest =>
    if c = '_' then none else (dropUnderscores? c.isDigit rest).map (c :: ·)

/-- The number written in a text, between blanks: a numeral whose point may stand at either
end, or the word for an infinite or an undefined one, in any case. -/
def readNumber? (occurrence : Nat) (text : List Char) : Option Binary64 := do
  let (negative, body) := takeSign (← dropUnderscores? false (Text.numeralText text))
  let word := String.ofList (body.map Char.toLower)
  if word = "inf" || word = "infinity" then some (.infinite negative)
  else if word = "nan" then some (.undefined occurrence)
  else
    let whole := body.takeWhile Char.isDigit
    let (fraction, rest) := match body.dropWhile Char.isDigit with
      | '.' :: rest => (rest.takeWhile Char.isDigit, rest.dropWhile Char.isDigit)
      | rest => ([], rest)
    let (exponent, rest) := Numeral.takeExponent rest
    if (whole.isEmpty && fraction.isEmpty) || !rest.isEmpty then none
    else some (Numeral.toBinary64 { negative, whole, fraction := some fraction, exponent })

end PgWrite
