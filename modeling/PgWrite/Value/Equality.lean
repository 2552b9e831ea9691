import PgWrite.Text.Half
import PgWrite.Value.Basic

/-!
# Equality of values

Numbers are equal by their exact value whatever their kind, with truth values as zero and
one. Lists are equal item by item, mappings entry by entry in any order. An undefined number
equals only its own occurrence.

Values that may serve as a key have a digest, and equal values have equal digests: a number
is reduced modulo the Mersenne prime `2 ^ 61 - 1`.
-/

namespace PgWrite

namespace Value

/-- The integer that a number equals, if it is one. -/
def wholeNumber? : Value → Option Int
  | .int n => some n
  | .bool b => some (if b then 1 else 0)
  | .float x => x.toInt?
  | _ => none

/-- Equality of values without parts. -/
def sameAtom (a b : Value) : Bool :=
  match a.text?, b.text? with
  | some s, some t => s = t
  | some _, none => false
  | none, some _ => false
  | none, none =>
    match a.wholeNumber?, b.wholeNumber? with
    | some m, some n => m = n
    | some _, none => false
    | none, some _ => false
    | none, none =>
      match a, b with
      | .null, .null => true
      | .float x, .float y => x.same y
      | .bytes x, .bytes y => x = y
      | .sqlType x, .sqlType y => x = y
      | _, _ => false

mutual

/-- Equality of values. -/
def same : Value → Value → Bool
  | .list _ xs, b => match b with
    | .list _ ys => sameItems xs ys
    | _ => false
  | .tuple xs, b => match b with
    | .tuple ys => sameItems xs ys
    | _ => false
  | .map _ xs, b => match b with
    | .map _ ys => xs.length = ys.length && sameEntries xs ys
    | .frozen ys => xs.length = ys.length && sameEntries xs ys
    | _ => false
  | .frozen xs, b => match b with
    | .map _ ys => xs.length = ys.length && sameEntries xs ys
    | .frozen ys => xs.length = ys.length && sameEntries xs ys
    | _ => false
  | .columnsTarget xs, b => match b with
    | .columnsTarget ys => sameItems xs ys
    | _ => false
  | .constraintTarget x, b => match b with
    | .constraintTarget y => same x y
    | _ => false
  | .record s xs, b => match b with
    | .record t ys => s = t && sameFields xs ys
    | _ => false
  | a, b => sameAtom a b

/-- Equality item by item. -/
def sameItems : List Value → List Value → Bool
  | [], ys => ys.isEmpty
  | x :: xs, ys => match ys with
    | [] => false
    | y :: ys => same x y && sameItems xs ys

/-- Every entry of the first mapping has an equal entry in the second. -/
def sameEntries : List (Value × Value) → List (Value × Value) → Bool
  | [], _ => true
  | (k, x) :: xs, ys =>
    (match ys.find? (fun e => same k e.1) with
      | some (_, y) => same x y
      | none => false) && sameEntries xs ys

/-- Equality field by field. -/
def sameFields : List (String × Value) → List (String × Value) → Bool
  | [], ys => ys.isEmpty
  | (k, x) :: xs, ys => match ys with
    | [] => false
    | (l, y) :: ys => k = l && same x y && sameFields xs ys

end

/-- What equal keys have in common. -/
inductive Digest where
  | number (n : Int)
  | octets (o : List UInt8)
  | mark (kind : String) (occurrence : Option Nat)
  | sequence (parts : List Digest)
  deriving BEq, Repr, Inhabited

/-- The digest of an integer: its remainder by the Mersenne prime, with minus one left out. -/
def digestInt (n : Int) : Digest :=
  let r : Int := (n.natAbs % (Nat.pow 2 61 - 1) : Nat)
  let r := if n < 0 then -r else r
  .number (if r = -1 then -2 else r)

/-- The digest of a number given as a quotient: a modular quotient, which exists as the prime is
odd. -/
def digestFloat : Binary64 → Digest
  | .undefined k => .mark "nan" (some k)
  | .infinite negative => .number (if negative then -314159 else 314159)
  | .finite negative significand exponent =>
    let p := Nat.pow 2 61 - 1
    let shift := (exponent % 61).toNat
    let r : Int := ((significand % p) * Nat.pow 2 shift % p : Nat)
    let r := if negative then -r else r
    .number (if r = -1 then -2 else r)

/-- A number in octets, the lowest first. -/
def lowFirst : Nat → Nat → List UInt8
  | 0, _ => []
  | width + 1, n => n.toUInt8 :: lowFirst width (n / 256)

/-- The octets in which the characters of a text are held, all in the width of the widest. -/
def heldOctets (text : List Char) : List UInt8 :=
  let units := text.map Text.unitOf
  let width := if units.all (· < 0x100) then 1 else if units.all (· < 0x10000) then 2 else 4
  units.flatMap (lowFirst width)

/-- The digest of a text is that of the octets in which it is held. -/
def digestText (s : String) : Digest :=
  if s = "" then .number 0 else .octets (heldOctets s.toList)

mutual

/-- The digest of a value that may serve as a key; lists and mappings have none. -/
def digest? : Value → Option Digest
  | .null => some (.mark "null" none)
  | .bool b => some (.number (if b then 1 else 0))
  | .int n => some (digestInt n)
  | .float x => some (digestFloat x)
  | .text s => some (digestText s)
  | .bytes o => some (if o.isEmpty then .number 0 else .octets o)
  | .policy p => some (digestText p.name)
  | .sqlType t => some (.mark t.name t.occurrence)
  | .list _ _ => none
  | .tuple items => (digestAll? items).map .sequence
  | .map _ _ => none
  | .frozen _ => none
  | .columnsTarget columns => (digestAll? columns).map fun ds => .sequence [.sequence ds]
  | .constraintTarget constraint => (digest? constraint).map fun d => .sequence [d]
  | .record _ fields => (digestFields? fields).map .sequence

/-- The digests of all values of a list. -/
def digestAll? : List Value → Option (List Digest)
  | [] => some []
  | v :: vs => match digest? v, digestAll? vs with
    | some d, some ds => some (d :: ds)
    | _, _ => none

/-- The digests of the values of all fields. -/
def digestFields? : List (String × Value) → Option (List Digest)
  | [] => some []
  | (_, v) :: rest => match digest? v, digestFields? rest with
    | some d, some ds => some (d :: ds)
    | _, _ => none

end

/-- Some value of the list is equal to the given one. -/
def isAmong (v : Value) (values : List Value) : Bool :=
  values.any fun w => w.same v

end Value

/-- The value of a key. -/
def Row.get? (row : Row) (key : Value) : Option Value :=
  (row.find? fun e => e.1.same key).map (·.2)

/-- The row has the key. -/
def Row.has (row : Row) (key : Value) : Bool :=
  row.any fun e => e.1.same key

/-- The keys in order. -/
def Row.keys (row : Row) : List Value :=
  row.map (·.1)

/-- Sets the value of a key; a new key goes to the end, a known one keeps its place. -/
def Row.insert (row : Row) (key value : Value) : Row :=
  match row with
  | [] => [(key, value)]
  | (k, v) :: rest => if k.same key then (k, value) :: rest else (k, v) :: Row.insert rest key value

/-- Rows are equal entry by entry in any order. -/
def Row.same (a b : Row) : Bool :=
  a.length = b.length && a.all fun (k, v) => match Row.get? b k with
    | some w => v.same w
    | none => false

end PgWrite
