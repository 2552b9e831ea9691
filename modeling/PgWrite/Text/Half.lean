/-!
# Halves of surrogate pairs

Text from documents may hold one half of a surrogate pair without the other. No character has
the number of such a half, so it stands in a text as the private character sixteen planes
above. It has no printed form, it is no letter, and UTF-8 has no octets for it. Only between
the program and its system some halves stand for octets that are no text.
-/

namespace PgWrite.Text

/-- How far the character for a half lies above the half. -/
def halfShift : Nat := 0x100000

/-- The character that stands for a half. -/
def ofHalf (unit : Nat) : Char :=
  Char.ofNat (halfShift + unit)

/-- The half that a character stands for. -/
def half? (c : Char) : Option Nat :=
  let unit := c.toNat - halfShift
  if 0xd800 ≤ unit ∧ unit < 0xe000 then some unit else none

/-- The number of a character, which is that of the half where it stands for one. -/
def unitOf (c : Char) : Nat :=
  (half? c).getD c.toNat

/-- Some character of a text stands for a half, so the text has no octets. -/
def hasHalf (text : List Char) : Bool :=
  text.any fun c => (half? c).isSome

/-- The half of a surrogate pair stands for an octet beyond ASCII. -/
def isOctetHalf (unit : Nat) : Bool :=
  0xdc80 ≤ unit && unit ≤ 0xdcff

/-- The octets of a text can be given to the system: halves stand for octets that are no text. -/
def hasOctets (text : List Char) : Bool :=
  text.all fun c => (half? c).all isOctetHalf

end PgWrite.Text
