import PgWrite.Number.Numeral
import PgWrite.Yaml.Cursor
import PgWrite.Yaml.ScalarKind

/-!
# Data of a YAML text

Data are scalars, lists and mappings. A scalar is read by its kind: an integer in the base
that its start shows, a number by sixties from groups behind colons, a truth value by its
word. Numbers and dates that a tag forces on an unfit text are faults of their own, told apart
from texts that are not well formed.
-/

namespace PgWrite.Yaml

/-- Data of a text. -/
inductive Data where
  | null
  | bool (b : Bool)
  | int (n : Int)
  | float (x : Binary64)
  | date (m : Moment)
  | text (s : String)
  | octets (octets : List UInt8)
  | list (items : List Data)
  | map (entries : List (Data × Data))
  /-- A collection whose inside is not looked at. -/
  | collection
  deriving Inhabited

namespace Data

/-- Data that does not count as given. -/
def isBlank : Data → Bool
  | .null => true
  | .bool b => !b
  | .int n => n = 0
  | .float x => x.isZero
  | .text s => s = ""
  | .octets o => o.isEmpty
  | .list items => items.isEmpty
  | .map entries => entries.isEmpty
  | _ => false

/-- The number that a truth value or an integer stands for. -/
def toInt? : Data → Option Int
  | .bool b => some (if b then 1 else 0)
  | .int n => some n
  | .float x => x.toInt?
  | _ => none

/-- The undefined number that is written by its own word. -/
def undefinedNumber : Binary64 := .undefined 0

/-- An undefined number that comes from somewhere else. -/
def otherUndefined : Binary64 := .undefined 1

/-- Two scalars are the same key; numbers of all kinds are compared by value, and of the
undefined ones only that of its own word is the same as itself. -/
def same : Data → Data → Bool
  | .null, .null => true
  | .text s, .text t => s = t
  | .octets o, .octets p => o = p
  | .date m, .date n => m.same n
  | .float x, .float y => x.same y && x ≠ otherUndefined
  | d, e => d.toInt?.isSome && d.toInt? = e.toInt?

end Data

/-- The integer that a text holds in a base. -/
def integerIn (base : Nat) (text : List Char) : Except YamlFault Int :=
  match readIntegerIn? base text with
  | some n => .ok n
  | none => .error .badNumber

/-- An integer without underscores and sign; one that starts with a zero shows its base. -/
def unsignedInteger (text : List Char) : Except YamlFault Int :=
  match text with
  | [] => .error .noDigits
  | ['0'] => .ok 0
  | '0' :: 'b' :: digits => integerIn 2 digits
  | '0' :: 'x' :: digits => integerIn 16 digits
  | '0' :: _ => integerIn 8 text
  | _ =>
    if text.contains ':' then do
      let groups ← (Text.splitAtChar ':' text).mapM (integerIn 10)
      return groups.foldl (fun n group => n * 60 + group) 0
    else integerIn 10 text

/-- A number with its underscores dropped, in parts: whether it is negative, and its text. -/
def signedParts (text : List Char) : Except YamlFault (Bool × List Char) :=
  match text.filter (· ≠ '_') with
  | [] => .error .noDigits
  | digits => .ok (takeSign digits)

/-- The integer of a text. -/
def readInt (text : List Char) : Except YamlFault Data := do
  let (negative, digits) ← signedParts text
  let n ← unsignedInteger digits
  return .int (if negative then -n else n)

/-- The number that a text holds. -/
def numberOf (text : List Char) : Except YamlFault Binary64 :=
  match readNumber? 1 text with
  | some x => .ok x
  | none => .error .badNumber

/-- The sum of groups by sixties, the last one first; `weight` is that of the next group, which
must be in the range of the numbers. -/
def sumSixties (weight : Nat) (sum : Binary64) : List Binary64 → Except YamlFault Binary64
  | [] => .ok sum
  | group :: groups =>
    match Binary64.ofInt weight with
    | .infinite _ => .error .hugeNumber
    | w => sumSixties (weight * 60) (sum.add 1 (group.mul 1 w)) groups

/-- A number without underscores and sign. -/
def unsignedNumber (text : List Char) : Except YamlFault Binary64 :=
  if text = ".inf".toList then .ok (.infinite false)
  else if text = ".nan".toList then .ok Data.undefinedNumber
  else if text.contains ':' then do
    let groups ← (Text.splitAtChar ':' text).mapM numberOf
    sumSixties 1 (Binary64.zero false) groups.reverse
  else numberOf text

/-- The number of a text. -/
def readFloat (text : List Char) : Except YamlFault Data := do
  let (negative, body) ← signedParts (text.map Char.toLower)
  let x ← unsignedNumber body
  return .float (if negative then x.neg else x)

/-- The truth value of a word in any case. -/
def readTruth (text : List Char) : Except YamlFault Data :=
  let word := String.ofList (text.map Char.toLower)
  if ["yes", "true", "on"].contains word then .ok (.bool true)
  else if ["no", "false", "off"].contains word then .ok (.bool false)
  else .error .unknownTruth

/-- The date of a text. -/
def readDate (text : List Char) : Except YamlFault Data :=
  match Moment.read? (withoutLastBreak text) with
  | some moment => if moment.isValid then .ok (.date moment) else .error .badNumber
  | none => .error .noDate

/-- The six bits that a character stands for. -/
def sextet? (c : Char) : Option Nat :=
  if c.isUpper then some (c.toNat - 'A'.toNat)
  else if c.isLower then some (c.toNat - 'a'.toNat + 26)
  else if c.isDigit then some (c.toNat - '0'.toNat + 52)
  else if c = '+' then some 62
  else if c = '/' then some 63
  else none

/-- The octets that sextets stand for. `place` counts the sextets within a group of four,
`held` are the bits that no octet holds yet, `padding` the marks that fill a group up. -/
def joinSextets (place held padding : Nat) : List Char → Except YamlFault (List UInt8)
  | [] => if place = 0 then .ok [] else .error .malformed
  | c :: rest =>
    if c = '=' then
      if 2 ≤ place && 4 ≤ place + padding + 1 then .ok []
      else joinSextets place held (if 2 ≤ place then padding + 1 else padding) rest
    else match sextet? c with
      | none => joinSextets place held padding rest
      | some bits =>
        let held := held * 64 + bits
        match place with
        | 0 => joinSextets 1 held 0 rest
        | 1 => (joinSextets 2 (held % 16) 0 rest).map ((held / 16).toUInt8 :: ·)
        | 2 => (joinSextets 3 (held % 4) 0 rest).map ((held / 4).toUInt8 :: ·)
        | _ => (joinSextets 0 0 0 rest).map (held.toUInt8 :: ·)

/-- The octets of a text of sextets; other ASCII characters are passed over. -/
def readOctets (text : List Char) : Except YamlFault Data :=
  if text.all fun c => c.toNat < 128 then (joinSextets 0 0 0 text).map .octets
  else .error .malformed

/-- The data of a scalar of a kind. -/
def Data.ofScalar (kind : NodeKind) (text : List Char) : Except YamlFault Data :=
  match kind with
  | .null => .ok .null
  | .bool => readTruth text
  | .int => readInt text
  | .float => readFloat text
  | .date => readDate text
  | .text => .ok (.text (String.ofList text))
  | .octets => readOctets text
  | _ => .error .malformed

end PgWrite.Yaml
