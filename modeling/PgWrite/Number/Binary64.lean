/-!
# Binary floating point numbers

A finite number is an exact dyadic value: an integer significand below `2 ^ 53` scaled by a
power of two not below `2 ^ (-1074)`. Rounding takes a quotient of natural numbers to the
nearest such value, ties to the even significand, so every operation is exact integer
arithmetic. An undefined result carries the identity of its occurrence, because two of them
count as the same only if they are one and the same occurrence.
-/

namespace PgWrite

/-- A number of the binary64 format. -/
inductive Binary64 where
  /-- `significand * 2 ^ exponent`, negated if `negative`. -/
  | finite (negative : Bool) (significand : Nat) (exponent : Int)
  | infinite (negative : Bool)
  | undefined (occurrence : Nat)
  deriving DecidableEq, Repr, Inhabited

namespace Binary64

/-- Zero with a sign. -/
def zero (negative : Bool) : Binary64 :=
  .finite negative 0 (-1074)

/-- Quotient rounded to the nearest natural number, a half to the even neighbour. -/
def roundQuotient (num den : Nat) : Nat :=
  let q := num / den
  let twice := 2 * (num % den)
  if den < twice ∨ (twice = den ∧ q % 2 = 1) then q + 1 else q

/-- `num / den` divided by a power of two, as a quotient of natural numbers. -/
def scaleByTwo (num den : Nat) (exponent : Int) : Nat × Nat :=
  if exponent < 0 then (num * Nat.pow 2 exponent.natAbs, den)
  else (num, den * Nat.pow 2 exponent.natAbs)

/-- The binary exponent at which a positive quotient has 53 significant bits, or the least. -/
def exponentFor (num den : Nat) : Int :=
  let estimate : Int := Nat.log2 num - Nat.log2 den - 52
  let (n, d) := scaleByTwo num den estimate
  let exact := if n / d < Nat.pow 2 52 then estimate - 1 else estimate
  max exact (-1074)

/-- The number nearest to a positive quotient. -/
def ofQuotient (negative : Bool) (num den : Nat) : Binary64 :=
  let exponent := exponentFor num den
  let (n, d) := scaleByTwo num den exponent
  let significand := roundQuotient n d
  let (significand, exponent) :=
    if significand = Nat.pow 2 53 then (Nat.pow 2 52, exponent + 1) else (significand, exponent)
  if 971 < exponent then .infinite negative else .finite negative significand exponent

/-- The number nearest to `digits * 10 ^ exponent`. -/
def ofDecimal (negative : Bool) (digits : Nat) (exponent : Int) : Binary64 :=
  if digits = 0 then zero negative
  else
    let magnitude : Int := (Nat.toDigits 10 digits).length + exponent
    if 310 < magnitude then .infinite negative
    else if magnitude < -330 then zero negative
    else if exponent < 0 then ofQuotient negative digits (Nat.pow 10 exponent.natAbs)
    else ofQuotient negative (digits * Nat.pow 10 exponent.natAbs) 1

/-- The magnitude of a finite number as a quotient. -/
def quotient (significand : Nat) (exponent : Int) : Nat × Nat :=
  if exponent < 0 then (significand, Nat.pow 2 exponent.natAbs)
  else (significand * Nat.pow 2 exponent.natAbs, 1)

/-- The number nearest to `value * 2 ^ exponent`; a zero takes the given sign. -/
def ofDyadic (negativeZero : Bool) (value exponent : Int) : Binary64 :=
  if value = 0 then zero negativeZero
  else
    let (num, den) := quotient value.natAbs exponent
    ofQuotient (value < 0) num den

/-- The number nearest to an integer. -/
def ofInt (n : Int) : Binary64 :=
  ofDyadic false n 0

/-- The significand with its sign. -/
def signedBy (negative : Bool) (significand : Nat) : Int :=
  if negative then -significand else significand

/-- The sum of two numbers; `occurrence` marks one that is not defined. -/
def add (occurrence : Nat) : Binary64 → Binary64 → Binary64
  | .finite s m e, .finite t n f =>
    let least := min e f
    ofDyadic (s && t)
      (signedBy s m * Int.pow 2 (e - least).natAbs + signedBy t n * Int.pow 2 (f - least).natAbs)
      least
  | .infinite s, .infinite t => if s = t then .infinite s else .undefined occurrence
  | .infinite s, .finite _ _ _ => .infinite s
  | .finite _ _ _, .infinite t => .infinite t
  | _, _ => .undefined occurrence

/-- The product of two numbers; `occurrence` marks one that is not defined. -/
def mul (occurrence : Nat) : Binary64 → Binary64 → Binary64
  | .finite s m e, .finite t n f =>
    ofDyadic (s != t) (signedBy s m * signedBy t n) (e + f)
  | .infinite s, .infinite t => .infinite (s != t)
  | .infinite s, .finite t n _ => if n = 0 then .undefined occurrence else .infinite (s != t)
  | .finite s m _, .infinite t => if m = 0 then .undefined occurrence else .infinite (s != t)
  | _, _ => .undefined occurrence

/-- The number with the other sign. -/
def neg : Binary64 → Binary64
  | .finite s m e => .finite (!s) m e
  | .infinite s => .infinite (!s)
  | .undefined occurrence => .undefined occurrence

/-- The integer that a number equals, if it is one. -/
def toInt? : Binary64 → Option Int
  | .finite negative significand exponent =>
    let (num, den) := quotient significand exponent
    if num % den = 0 then
      some (if negative then -((num / den : Nat) : Int) else ((num / den : Nat) : Int))
    else none
  | _ => none

/-- The integer part of a finite number, toward zero. -/
def truncate? : Binary64 → Option Int
  | .finite negative significand exponent =>
    let (num, den) := quotient significand exponent
    some (if negative then -((num / den : Nat) : Int) else ((num / den : Nat) : Int))
  | _ => none

/-- Positive or negative zero. -/
def isZero : Binary64 → Bool
  | .finite _ 0 _ => true
  | _ => false

/-- Equality of numbers; the two zeros are equal, an undefined result equals its own occurrence. -/
def same : Binary64 → Binary64 → Bool
  | .undefined a, .undefined b => a = b
  | a, b => (a.isZero && b.isZero) || a = b

end Binary64

end PgWrite
