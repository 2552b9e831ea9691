import PgWrite.Number.Numeral
import PgWrite.Yaml.Moment

/-!
# Kinds of scalars

What a plain scalar without a tag stands for follows from its text: a truth value, a number
with or without a point, a date, nothing, a merge or a default mark, and text otherwise.
Underscores may stand between digits, and a number may be written by sixties behind colons.
Integers with a leading zero are octal, so digits beyond seven make them text. One line break
at the end of the text does not count.
-/

namespace PgWrite.Yaml

/-- What a node stands for. -/
inductive NodeKind where
  | null
  | bool
  | int
  | float
  | date
  | merge
  | default
  | text
  | octets
  | sequence
  | mapping
  | orderedMapping
  | pairs
  | set
  /-- A kind that cannot be built. -/
  | unknown
  deriving DecidableEq, Repr

/-- The written truth values. -/
def truthWords : List String :=
  ["yes", "Yes", "YES", "no", "No", "NO", "true", "True", "TRUE", "false", "False", "FALSE",
    "on", "On", "ON", "off", "Off", "OFF"]

/-- A decimal digit or an underscore. -/
def isSpacedDigit (c : Char) : Bool :=
  c.isDigit || c = '_'

/-- The text behind a sign, if there is one. -/
def dropSign (text : List Char) : List Char :=
  (takeSign text).2

/-- Groups of one or two digits below sixty behind colons, up to the end or a last group. -/
def areSixties (text : List Char) : Bool :=
  let groups := Text.splitAtChar ':' text
  1 < groups.length && (groups.drop 1).all fun g => match g with
    | [d] => d.isDigit
    | [t, d] => '0' ≤ t && t ≤ '5' && d.isDigit
    | _ => false

/-- The text in front of the first colon. -/
def beforeColon (text : List Char) : List Char :=
  text.takeWhile (· ≠ ':')

/-- An integer, by its written form. -/
def looksInt (text : List Char) : Bool :=
  match dropSign text with
  | ['0'] => true
  | '0' :: 'b' :: rest => !rest.isEmpty && rest.all fun c => c = '0' || c = '1' || c = '_'
  | '0' :: 'x' :: rest => !rest.isEmpty && rest.all fun c => (Text.hexValue? c).isSome || c = '_'
  | '0' :: rest => rest.all fun c => ('0' ≤ c && c ≤ '7') || c = '_'
  | c :: rest =>
    c.isDigit && (rest.all isSpacedDigit
      || ((beforeColon rest).all isSpacedDigit && areSixties rest))
  | [] => false

/-- An exponent with a sign, or nothing. -/
def looksExponent : List Char → Bool
  | [] => true
  | e :: sign :: digits =>
    (e = 'e' || e = 'E') && (sign = '+' || sign = '-') && !digits.isEmpty && digits.all Char.isDigit
  | _ => false

/-- A number with a point, by its written form. -/
def looksFloat (text : List Char) : Bool :=
  let body := dropSign text
  match body with
  | '.' :: d :: rest =>
    (body = text && d.isDigit && looksExponent (rest.dropWhile isSpacedDigit))
      || [".inf", ".Inf", ".INF"].contains (String.ofList body)
      || (body = text && [".nan", ".NaN", ".NAN"].contains (String.ofList body))
  | d :: _ =>
    let whole := body.takeWhile isSpacedDigit
    match body.dropWhile isSpacedDigit with
    | '.' :: rest => d.isDigit && looksExponent (rest.dropWhile isSpacedDigit)
    | ':' :: _ =>
      let sixties := body.takeWhile (· ≠ '.')
      match body.dropWhile (· ≠ '.') with
      | _ :: rest =>
        d.isDigit && rest.all isSpacedDigit && (beforeColon sixties) = whole && areSixties sixties
      | [] => false
    | _ => false
  | [] => false

/-- A date without a time has two digits for month and day if it has no tag. -/
def looksDate (text : List Char) : Bool :=
  match Moment.read? text with
  | some moment => moment.clock.isSome || text.length = 10
  | none => false

/-- What a plain scalar without a tag stands for, apart from a line break at its end. -/
def wordKind (text : List Char) : NodeKind :=
  let word := String.ofList text
  if truthWords.contains word then .bool
  else if looksFloat text then .float
  else if looksInt text then .int
  else if word = "<<" then .merge
  else if ["", "~", "null", "Null", "NULL"].contains word then .null
  else if looksDate text then .date
  else if word = "=" then .default
  else if ["!", "&", "*"].contains word then .unknown
  else .text

/-- What a plain scalar without a tag stands for. A line break alone is text. -/
def plainKind (text : List Char) : NodeKind :=
  if text = ['\n'] then .text else wordKind (withoutLastBreak text)

end PgWrite.Yaml
