/-!
# Ranges of characters

A character class is an ascending list of inclusive code point ranges. The walk stops at
the first range that ends at or after the character, so the early classes (the ASCII
characters) are decided in a few steps.
-/

namespace PgWrite.Text

/-- Membership of a code point in an ascending list of inclusive ranges. -/
def inRanges (n : Nat) : List (Nat × Nat) → Bool
  | [] => false
  | (low, high) :: rest =>
    if n < low then false else if n ≤ high then true else inRanges n rest

end PgWrite.Text
