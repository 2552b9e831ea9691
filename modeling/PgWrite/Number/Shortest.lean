import PgWrite.Number.Binary64
import PgWrite.Text.Scan

/-!
# Shortest decimal text of a number

A finite number is written with the fewest significant digits that read back as the same
number, and of the texts with that many digits with the one nearest to it. The digits are
placed positionally from `10 ^ (-4)` up to below `10 ^ 16`, with a decimal point always
present, and in scientific notation with a signed exponent of two digits or more elsewhere.
-/

namespace PgWrite

namespace Binary64

/-- The decimal exponent of the leading digit of a positive quotient. -/
def leadingPlace (num den : Nat) : Int :=
  let estimate : Int := (Nat.toDigits 10 num).length - (Nat.toDigits 10 den).length
  let reached := if estimate < 0 then den ≤ num * Nat.pow 10 estimate.natAbs
    else den * Nat.pow 10 estimate.natAbs ≤ num
  if reached then estimate else estimate - 1

/-- A quotient divided by a power of ten, as a quotient of natural numbers. -/
def scaleByTen (num den : Nat) (place : Int) : Nat × Nat :=
  if place < 0 then (num * Nat.pow 10 place.natAbs, den)
  else (num, den * Nat.pow 10 place.natAbs)

/-- The multiple of `10 ^ place` nearest to a quotient among those that read back as the number. -/
def nearestOnGrid? (x : Binary64) (num den : Nat) (place : Int) : Option Nat :=
  let (n, d) := scaleByTen num den place
  let below := n / d
  let negative := match x with | .finite s _ _ => s | _ => false
  let reads (digits : Nat) : Bool := decide (ofDecimal negative digits place = x)
  match reads below, reads (below + 1) with
  | true, true => some (roundQuotient n d)
  | true, false => some below
  | false, true => some (below + 1)
  | false, false => none

/-- Searches the decimal grids from coarse to fine for one on which the number reads back. -/
def searchGrids (x : Binary64) (num den : Nat) (top : Int) : Nat → Nat → Nat × Int
  | 0, places => let (n, d) := scaleByTen num den (top - places)
    (roundQuotient n d, top - places)
  | more + 1, places =>
    match nearestOnGrid? x num den (top - places) with
    | some digits => (digits, top - places)
    | none => searchGrids x num den top more (places + 1)

/-- Fewest digits and their last place: the number reads back from `digits * 10 ^ place`. -/
def shortestDigits (x : Binary64) (significand : Nat) (exponent : Int) : Nat × Int :=
  let (num, den) := quotient significand exponent
  searchGrids x num den (leadingPlace num den) 17 0

/-- Digits without the zeros at their end, and the place of the last one left. -/
def dropZeros : Nat → Nat → Int → Nat × Int
  | 0, digits, place => (digits, place)
  | fuel + 1, digits, place =>
    if digits ≠ 0 ∧ digits % 10 = 0 then dropZeros fuel (digits / 10) (place + 1)
    else (digits, place)

/-- Digits with a point behind the one of place zero. -/
def positional (digits : List Char) (place : Int) : List Char :=
  if 0 ≤ place then digits ++ List.replicate place.toNat '0' ++ ['.', '0']
  else
    let fraction := place.natAbs
    let padded := List.replicate (fraction + 1 - digits.length) '0' ++ digits
    let whole := padded.length - fraction
    padded.take whole ++ '.' :: padded.drop whole

/-- The first digit, the others behind a point, and the exponent of the first. -/
def scientific (digits : List Char) (lead : Int) : List Char :=
  let mantissa := match digits with
    | [] => []
    | [d] => [d]
    | d :: rest => d :: '.' :: rest
  let exponent := Text.decimalDigits lead.natAbs
  mantissa ++ ['e', if lead < 0 then '-' else '+']
    ++ List.replicate (2 - exponent.length) '0' ++ exponent

/-- The shortest text of a number; `infinity` and `undefined` are the words for the others. -/
def textWith (infinity undefinedWord : String) : Binary64 → String
  | .undefined _ => undefinedWord
  | .infinite negative => if negative then "-" ++ infinity else infinity
  | .finite negative significand exponent =>
    let sign := if negative then "-" else ""
    if significand = 0 then sign ++ "0.0"
    else
      let (digits, place) :=
        shortestDigits (.finite negative significand exponent) significand exponent
      let (digits, place) := dropZeros 20 digits place
      let figures := Text.decimalDigits digits
      let lead := place + figures.length - 1
      sign ++ String.ofList
        (if -4 ≤ lead ∧ lead < 16 then positional figures place else scientific figures lead)

/-- The shortest text of a number. -/
def text (x : Binary64) : String :=
  x.textWith "inf" "nan"

end Binary64

end PgWrite
