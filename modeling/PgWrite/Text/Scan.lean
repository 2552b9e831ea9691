/-!
# Text as a list of characters

Small operations on lists of characters that scanning and printing share. Each search
returns the text it passed together with the text it left, so nothing is lost on the way.
-/

namespace PgWrite.Text

/-- Pieces written one after the other with a separator between neighbours. -/
def joined (separator : String) : List String → String
  | [] => ""
  | [s] => s
  | s :: t :: rest => s ++ separator ++ joined separator (t :: rest)

/-- The elements of `needle` occur side by side somewhere in the list. -/
def occursIn {α : Type} [BEq α] (needle : List α) : List α → Bool
  | [] => needle.isEmpty
  | c :: rest => needle.isPrefixOf (c :: rest) || occursIn needle rest

/-- The text after `start`, if it begins with it. -/
def dropStart? : List Char → List Char → Option (List Char)
  | [], text => some text
  | _ :: _, [] => none
  | d :: start, c :: text => if d = c then dropStart? start text else none

/-- Splits just behind the first occurrence of `needle`; without one, behind the whole text. -/
def splitThrough (needle : List Char) : List Char → List Char × List Char
  | [] => ([], [])
  | c :: rest =>
    if needle.isPrefixOf (c :: rest) then
      ((c :: rest).take needle.length, (c :: rest).drop needle.length)
    else
      let (passed, left) := splitThrough needle rest
      (c :: passed, left)

/-- Fields between the occurrences of one character. -/
def splitAtChar (separator : Char) : List Char → List (List Char)
  | [] => [[]]
  | c :: rest =>
    if c = separator then [] :: splitAtChar separator rest
    else match splitAtChar separator rest with
      | [] => [[c]]
      | field :: fields => (c :: field) :: fields

/-- Text without the leading and trailing characters of a class. -/
def trim (blank : Char → Bool) (text : List Char) : List Char :=
  ((text.dropWhile blank).reverse.dropWhile blank).reverse

/-- Decimal digits of a natural number. -/
def decimalDigits (n : Nat) : List Char :=
  Nat.toDigits 10 n

/-- Decimal text of an integer. -/
def decimal (n : Int) : String :=
  if n < 0 then "-" ++ String.ofList (decimalDigits n.natAbs)
  else String.ofList (decimalDigits n.natAbs)

/-- The number written by a run of decimal digits. -/
def digitsValue (digits : List Char) : Nat :=
  digits.foldl (fun n c => n * 10 + (c.toNat - '0'.toNat)) 0

/-- Lower-case hexadecimal digits of a code, filled up with zeros to a width. -/
def hexDigits (width n : Nat) : List Char :=
  let digits := Nat.toDigits 16 n
  List.replicate (width - digits.length) '0' ++ digits

/-- The value of one hexadecimal digit. -/
def hexValue? (c : Char) : Option Nat :=
  if '0' ≤ c ∧ c ≤ '9' then some (c.toNat - '0'.toNat)
  else if 'a' ≤ c ∧ c ≤ 'f' then some (c.toNat - 'a'.toNat + 10)
  else if 'A' ≤ c ∧ c ≤ 'F' then some (c.toNat - 'A'.toNat + 10)
  else none

/-- The number written by hexadecimal digits, none if another character is among them. -/
def hexNumber? (digits : List Char) : Option Nat :=
  digits.foldl (fun n c => n.bind fun n => (hexValue? c).map (n * 16 + ·)) (some 0)

/-- To occur in a list is to be a part of it. -/
theorem occursIn_iff_infix {α : Type} [BEq α] [LawfulBEq α] {needle text : List α} :
    occursIn needle text = true ↔ needle <:+: text := by
  induction text with
  | nil => rw [occursIn, List.isEmpty_iff, List.infix_nil]
  | cons c rest ih =>
    rw [occursIn, Bool.or_eq_true, ih, List.isPrefixOf_iff_prefix, List.infix_cons_iff]

/-- Joining the split halves gives the text back. -/
theorem splitThrough_append (needle text : List Char) :
    (splitThrough needle text).1 ++ (splitThrough needle text).2 = text := by
  induction text with
  | nil => rfl
  | cons c rest ih =>
    simp only [splitThrough]
    split
    · exact List.take_append_drop _ _
    · simp only [List.cons_append, ih]

end PgWrite.Text
