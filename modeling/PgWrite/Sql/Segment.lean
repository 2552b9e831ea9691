import PgWrite.Text.Alphanumeric
import PgWrite.Text.Scan

/-!
# Segments of SQL text

SQL text is cut from left to right into regions, markers and single characters. A region is
a quoted identifier, a string literal, a dollar-quoted body or a comment; one that is not
closed reaches to the end of the text. A marker is a question mark outside every region. The
cut loses nothing: the sources of the segments are the text.
-/

namespace PgWrite

/-- Splits behind the closing quote. A doubled quote does not close; nor does a character
behind a backslash, where `escapes` holds. -/
def closeQuoted (quote : Char) (escapes : Bool) : List Char → List Char × List Char
  | [] => ([], [])
  | [c] => ([c], [])
  | c :: d :: rest =>
    if (escapes && c = '\\') || (c = quote && d = quote) then
      let (body, left) := closeQuoted quote escapes rest
      (c :: d :: body, left)
    else if c = quote then ([c], d :: rest)
    else
      let (body, left) := closeQuoted quote escapes (d :: rest)
      (c :: body, left)

/-- Splits behind the end of a comment that lies `depth` comments deep. -/
def closeComment : Nat → List Char → List Char × List Char
  | _, [] => ([], [])
  | _, [c] => ([c], [])
  | depth, c :: d :: rest =>
    if c = '/' ∧ d = '*' then
      let (body, left) := closeComment (depth + 1) rest
      (c :: d :: body, left)
    else if c = '*' ∧ d = '/' then
      match depth with
      | 0 => ([c, d], rest)
      | depth + 1 =>
        let (body, left) := closeComment depth rest
        (c :: d :: body, left)
    else
      let (body, left) := closeComment depth (d :: rest)
      (c :: body, left)

/-- The letters, digits and underscore of a dollar-quote tag. -/
def isTagChar (c : Char) : Bool :=
  c.isAlphanum || c = '_'

/-- The delimiter behind an opening dollar sign: the tag with the second dollar sign. -/
def dollarTag? (text : List Char) : Option (List Char) :=
  let tag := text.takeWhile isTagChar
  match text.dropWhile isTagChar with
  | '$' :: _ => if (tag.head?.any (·.isDigit)) then none else some (tag ++ ['$'])
  | _ => none

/-- The text before ends in an `E` that no word runs into. -/
def opensEscapes : List Char → Bool
  | [] => false
  | [c] => c = 'E' || c = 'e'
  | c :: d :: _ => (c = 'E' || c = 'e') && !Text.isWordChar d

/-- The text before ends in a word character. -/
def endsInWord (before : List Char) : Bool :=
  before.head?.any Text.isWordChar

/-- A split with more characters in front. -/
def putInFront (front : List Char) (split : List Char × List Char) : List Char × List Char :=
  (front ++ split.1, split.2)

/-- The region that opens with the text, and the text behind it; `before` is read backwards. -/
def region? (before : List Char) : List Char → Option (List Char × List Char)
  | [] => none
  | '\'' :: rest => some (putInFront ['\''] (closeQuoted '\'' (opensEscapes before) rest))
  | '"' :: rest => some (putInFront ['"'] (closeQuoted '"' false rest))
  | '-' :: '-' :: rest =>
    some (putInFront ['-', '-'] (rest.takeWhile (· ≠ '\n'), rest.dropWhile (· ≠ '\n')))
  | '/' :: '*' :: rest => some (putInFront ['/', '*'] (closeComment 0 rest))
  | '$' :: rest =>
    if endsInWord before then none
    else match dollarTag? rest with
      | none => none
      | some tag =>
        some (putInFront ('$' :: tag) (Text.splitThrough ('$' :: tag) (rest.drop tag.length)))
  | _ :: _ => none

/-- Splitting behind a quote loses nothing. -/
theorem closeQuoted_append (quote : Char) (escapes : Bool) (text : List Char) :
    (closeQuoted quote escapes text).1 ++ (closeQuoted quote escapes text).2 = text := by
  fun_induction closeQuoted quote escapes text <;> simp_all

/-- Splitting behind a comment loses nothing. -/
theorem closeComment_append (depth : Nat) (text : List Char) :
    (closeComment depth text).1 ++ (closeComment depth text).2 = text := by
  fun_induction closeComment depth text <;> simp_all

/-- A delimiter stands at the start of the text in which it was found. -/
theorem take_dollarTag {text tag : List Char} (h : dollarTag? text = some tag) :
    tag ++ text.drop tag.length = text := by
  unfold dollarTag? at h
  dsimp only at h
  split at h
  · rename_i rest heq
    split at h
    · exact absurd h (by simp)
    · have htag : text.takeWhile isTagChar ++ ['$'] = tag := by simpa using h
      have hsplit : tag ++ rest = text := by
        rw [← htag, List.append_assoc, List.singleton_append, ← heq]
        exact List.takeWhile_append_dropWhile
      have hdrop : text.drop tag.length = rest := by
        rw [← hsplit, List.drop_left]
      rw [hdrop, hsplit]
  · exact absurd h (by simp)

/-- A region and the text behind it are the text, and the region is not empty. -/
theorem region?_append {before text region left : List Char}
    (h : region? before text = some (region, left)) : region ++ left = text ∧ region ≠ [] := by
  unfold region? at h
  split at h
  · exact absurd h (by simp)
  all_goals try
    simp only [Option.some.injEq, Prod.mk.injEq, putInFront] at h
    obtain ⟨rfl, rfl⟩ := h
  · simp [closeQuoted_append]
  · simp [closeQuoted_append]
  · rename_i rest
    simp [List.takeWhile_append_dropWhile]
  · simp [closeComment_append]
  · rename_i rest
    split at h
    · exact absurd h (by simp)
    · split at h
      · exact absurd h (by simp)
      · rename_i tag htag
        simp only [Option.some.injEq, Prod.mk.injEq, putInFront] at h
        obtain ⟨rfl, rfl⟩ := h
        refine ⟨?_, by simp⟩
        have hs := Text.splitThrough_append ('$' :: tag) (rest.drop tag.length)
        rw [List.append_assoc, hs, List.cons_append, take_dollarTag htag]
  · exact absurd h (by simp)

/-- The text behind a region is shorter. -/
theorem length_lt_of_region? {before text region left : List Char}
    (h : region? before text = some (region, left)) : left.length < text.length := by
  obtain ⟨happ, hne⟩ := region?_append h
  rw [← happ, List.length_append]
  exact Nat.lt_add_of_pos_left (List.length_pos_iff.mpr hne)

/-- A piece of SQL text. -/
inductive Segment where
  | region (text : List Char)
  /-- A question mark outside every region, and whether a colon follows it. -/
  | marker (beforeColon : Bool)
  | plain (c : Char)
  deriving DecidableEq, Repr

namespace Segment

/-- The characters of a segment. -/
def source : Segment → List Char
  | .region text => text
  | .marker _ => ['?']
  | .plain c => [c]

/-- The segment is a marker. -/
def isMarker : Segment → Bool
  | .marker _ => true
  | _ => false

end Segment

/-- The segments of a text that follows `before`, which is read backwards. -/
def segmentsFrom (before text : List Char) : List Segment :=
  match text with
  | [] => []
  | c :: rest =>
    match _h : region? before (c :: rest) with
    | some (region, left) => .region region :: segmentsFrom (region.reverse ++ before) left
    | none =>
      (if c = '?' then .marker (rest.head? = some ':') else .plain c)
        :: segmentsFrom (c :: before) rest
termination_by text.length
decreasing_by
  · exact length_lt_of_region? (by assumption)
  · simp

/-- The segments of a text. -/
def segments (sql : String) : List Segment :=
  segmentsFrom [] sql.toList

/-- The segments lose nothing and reorder nothing. -/
theorem flatMap_source_segmentsFrom (before text : List Char) :
    (segmentsFrom before text).flatMap Segment.source = text := by
  fun_induction segmentsFrom before text with
  | case1 => rfl
  | case2 before c rest region left h ih =>
    simp only [List.flatMap_cons, Segment.source, ih]
    exact (region?_append h).1
  | case3 before c rest h ih =>
    simp only [List.flatMap_cons, ih]
    split <;> simp_all [Segment.source]

end PgWrite
