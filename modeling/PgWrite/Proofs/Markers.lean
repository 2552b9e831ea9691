import PgWrite.Proofs.Outline
import PgWrite.Proofs.TemplateReading
import PgWrite.Sql.MarkerStyle

/-!
# Markers of compiled statements

The scanner that finds markers knows quoted names, literals, dollar quotes and comments; the
statements know only where they put question marks. Both agree: a quoted name is one region,
whatever it contains, no other region opens, and the markers are the marks of the template. So both
marker styles replace exactly those marks, from left to right.
-/

namespace PgWrite

open Lexeme

/-- A character behind which no region opens, and which is no marker. -/
def isInert (c : Char) : Bool :=
  !(['\'', '"', '-', '/', '$', '?'].contains c)

/-- Characters of words are inert. -/
theorem isInert_of_isTagChar {c : Char} (h : isTagChar c = true) : isInert c = true := by
  cases hc : isInert c with
  | true => rfl
  | false =>
    simp only [isInert, Bool.not_eq_false', List.contains_eq_mem, decide_eq_true_eq, List.mem_cons,
      List.not_mem_nil, or_false] at hc
    rcases hc with rfl | rfl | rfl | rfl | rfl | rfl <;> exact absurd h (by decide)

/-- The symbols of statements are inert. -/
theorem isInert_of_regular {c : Char} (h : (Lexeme.symbol c).regular = true) :
    isInert c = true := by
  simp only [regular, Bool.or_eq_true, decide_eq_true_eq] at h
  rcases h with (((rfl | rfl) | rfl) | rfl) | rfl <;> decide

/-! ## One step of the scanner -/

/-- A region is cut off in one piece. -/
theorem segmentsFrom_region {before text region left : List Char}
    (h : region? before text = some (region, left)) :
    segmentsFrom before text = .region region :: segmentsFrom (region.reverse ++ before) left := by
  cases text with
  | nil => cases h
  | cons c rest =>
    rw [segmentsFrom]
    split
    · rename_i heq
      rw [h] at heq
      cases heq
      rfl
    · rename_i heq
      rw [h] at heq
      cases heq

/-- Where no region opens, one character is cut off. -/
theorem segmentsFrom_char {c : Char} {before rest : List Char}
    (h : region? before (c :: rest) = none) :
    segmentsFrom before (c :: rest) =
      (if c = '?' then .marker (rest.head? = some ':') else .plain c)
        :: segmentsFrom (c :: before) rest := by
  rw [segmentsFrom]
  split
  · rename_i heq
    rw [h] at heq
    cases heq
  · rfl

/-- An inert character is cut off by itself. -/
theorem segmentsFrom_inert {c : Char} (h : isInert c = true) (before rest : List Char) :
    segmentsFrom before (c :: rest) = .plain c :: segmentsFrom (c :: before) rest := by
  simp only [isInert, Bool.not_eq_true', List.contains_eq_mem, decide_eq_false_iff_not,
    List.mem_cons, List.not_mem_nil, or_false, not_or] at h
  obtain ⟨hq, hd, hm, hs, hdol, hmark⟩ := h
  have hregion : region? before (c :: rest) = none := by
    unfold region?
    split <;> simp_all
  rw [segmentsFrom_char hregion, if_neg hmark]

/-- Inert characters are cut off one by one. -/
theorem segmentsFrom_run {run : List Char} (h : ∀ c ∈ run, isInert c = true)
    (before rest : List Char) :
    segmentsFrom before (run ++ rest) =
      run.map .plain ++ segmentsFrom (run.reverse ++ before) rest := by
  induction run generalizing before with
  | nil => rfl
  | cons c run ih =>
    rw [List.cons_append, segmentsFrom_inert (h c (List.mem_cons_self ..)),
      ih fun d hd => h d (List.mem_cons_of_mem _ hd)]
    simp

/-- Doubled quotes do not close what is quoted: the end is looked for behind them. -/
theorem closeQuoted_doubled_append (quote : Char) (content rest : List Char) :
    closeQuoted quote false (doubled quote content ++ rest) =
      putInFront (doubled quote content) (closeQuoted quote false rest) := by
  induction content with
  | nil => rfl
  | cons c content ih =>
    by_cases hc : c = quote
    · subst hc
      simp [doubled, closeQuoted, ih, putInFront]
    · rw [doubled, if_neg hc, List.cons_append]
      cases htail : doubled quote content ++ rest with
      | nil =>
        obtain ⟨hcontent, rfl⟩ := List.append_eq_nil_iff.mp htail
        rw [hcontent]
        rfl
      | cons d tail =>
        rw [htail] at ih
        simp [closeQuoted, hc, ih, putInFront]

/-- A quote that stands alone closes what is quoted. -/
theorem closeQuoted_quote (quote : Char) {rest : List Char} (h : ∀ c ∈ rest.head?, c ≠ quote) :
    closeQuoted quote false (quote :: rest) = ([quote], rest) := by
  cases rest with
  | nil => rfl
  | cons c rest => simp [closeQuoted, h c rfl]

/-- What is quoted ends at the first quote behind the doubled ones. -/
theorem closeQuoted_doubled (quote : Char) (content : List Char) {rest : List Char}
    (h : ∀ c ∈ rest.head?, c ≠ quote) :
    closeQuoted quote false (doubled quote content ++ quote :: rest) =
      (doubled quote content ++ [quote], rest) := by
  rw [closeQuoted_doubled_append, closeQuoted_quote quote h, putInFront]

/-- A quoted name is one region, unless another quote runs into it. -/
theorem region?_name (name : String) (before : List Char) {rest : List Char}
    (h : ∀ c ∈ rest.head?, c ≠ '"') :
    region? before ((quotedName name).toList ++ rest) = some ((quotedName name).toList, rest) := by
  simp [toList_quotedName, region?, putInFront, closeQuoted_doubled '"' name.toList h]

/-- A quoted name is cut off in one piece. -/
theorem segmentsFrom_name (name : String) (before : List Char) {rest : List Char}
    (h : ∀ c ∈ rest.head?, endsLexeme c = true) :
    segmentsFrom before ((quotedName name).toList ++ rest) =
      .region (quotedName name).toList ::
        segmentsFrom ((quotedName name).toList.reverse ++ before) rest := by
  have hquote : ∀ c ∈ rest.head?, c ≠ '"' := by
    rintro c hc rfl
    exact absurd (h '"' hc) (by decide)
  exact segmentsFrom_region (region?_name name before hquote)

/-- A question mark is a marker; no colon stands behind the marks of a statement. -/
theorem segmentsFrom_mark (before : List Char) {rest : List Char}
    (h : ∀ c ∈ rest.head?, endsLexeme c = true) :
    segmentsFrom before ('?' :: rest) = .marker false :: segmentsFrom ('?' :: before) rest := by
  have hcolon : rest.head? ≠ some ':' := fun he => absurd (h ':' he) (by decide)
  rw [segmentsFrom_char rfl, if_pos rfl, decide_eq_false hcolon]

/-- A minus sign before a digit begins no comment. -/
theorem segmentsFrom_minus {c : Char} (h : c.isDigit = true) (before rest : List Char) :
    segmentsFrom before ('-' :: c :: rest) =
      .plain '-' :: segmentsFrom ('-' :: before) (c :: rest) := by
  have hne : c ≠ '-' := (isTagChar_ne (isTagChar_of_isDigit h)).2.2.1
  have hregion : region? before ('-' :: c :: rest) = none := by
    unfold region?
    split <;> simp_all
  rw [segmentsFrom_char hregion, if_neg (by decide)]

namespace Lexeme

/-- The segments of a lexeme. -/
def pieces : Lexeme → List Segment
  | .name s => [.region (quotedName s).toList]
  | .mark => [.marker false]
  | l => l.text.map .plain

/-- The segments of lexemes that are written one after the other. -/
def segmented (glued : Bool) : List Lexeme → List Segment
  | [] => []
  | l :: rest =>
    (if glued || l.closes then [] else [.plain ' ']) ++ l.pieces ++ segmented l.opens rest

/-- A numeral is cut into its characters. -/
theorem segmentsFrom_integer (n : Int) (before rest : List Char) :
    ∃ before', segmentsFrom before ((Text.decimal n).toList ++ rest) =
      (Text.decimal n).toList.map .plain ++ segmentsFrom before' rest := by
  have hrun : ∀ d ∈ Text.decimalDigits n.natAbs, d.isDigit = true :=
    fun d hd => Nat.isDigit_of_mem_toDigits (by decide) (by decide) hd
  have hinert : ∀ d ∈ Text.decimalDigits n.natAbs, isInert d = true :=
    fun d hd => isInert_of_isTagChar (isTagChar_of_isDigit (hrun d hd))
  by_cases hn : n < 0
  · obtain ⟨c, tail, hct⟩ : ∃ c tail, Text.decimalDigits n.natAbs = c :: tail :=
      List.exists_cons_of_ne_nil Nat.toDigits_ne_nil
    have hc : c.isDigit = true := hrun c (by rw [hct]; exact List.mem_cons_self ..)
    have htext : (Text.decimal n).toList = '-' :: c :: tail := by
      simp [Text.decimal, hn, hct]
    rw [hct] at hinert
    have hdigits := segmentsFrom_run hinert ('-' :: before) rest
    refine ⟨(c :: tail).reverse ++ '-' :: before, ?_⟩
    rw [htext, List.cons_append, List.cons_append, segmentsFrom_minus hc, ← List.cons_append,
      hdigits]
    rfl
  · have htext : (Text.decimal n).toList = Text.decimalDigits n.natAbs := by
      simp [Text.decimal, hn]
    rw [htext]
    exact ⟨_, segmentsFrom_run hinert before rest⟩

/-- A lexeme is cut into its segments before any text that cannot run into it. -/
theorem segmentsFrom_text {l : Lexeme} (hl : l.regular = true) (before : List Char)
    {rest : List Char} (hrest : l.opens = false → ∀ c ∈ rest.head?, endsLexeme c = true) :
    ∃ before', segmentsFrom before (l.text ++ rest) = l.pieces ++ segmentsFrom before' rest := by
  cases l with
  | word s =>
    simp only [regular, Bool.and_eq_true, List.all_eq_true] at hl
    have hinert : ∀ c ∈ s.toList, isInert c = true :=
      fun c hc => isInert_of_isTagChar (hl.1.2 c hc)
    exact ⟨_, segmentsFrom_run hinert before rest⟩
  | name s => exact ⟨_, segmentsFrom_name s before (hrest rfl)⟩
  | symbol c => exact ⟨_, segmentsFrom_inert (isInert_of_regular hl) before rest⟩
  | integer n => exact segmentsFrom_integer n before rest
  | mark => exact ⟨_, segmentsFrom_mark before (hrest rfl)⟩

/-- What is written is cut lexeme by lexeme, whatever stands before it. -/
theorem segmentsFrom_written {lexemes : List Lexeme} (h : ∀ l ∈ lexemes, l.regular = true)
    (glued : Bool) (before : List Char) :
    segmentsFrom before (written glued lexemes) = segmented glued lexemes := by
  induction lexemes generalizing glued before with
  | nil => simp [written, segmented, segmentsFrom]
  | cons l rest ih =>
    have hfollow : l.opens = false → ∀ c ∈ (written l.opens rest).head?, endsLexeme c = true :=
      fun ho => endsLexeme_written ho rest
    have hbehind (before : List Char) : segmentsFrom before (l.text ++ written l.opens rest) =
        l.pieces ++ segmented l.opens rest := by
      obtain ⟨before', hcut⟩ := segmentsFrom_text (h l (List.mem_cons_self ..)) before hfollow
      rw [hcut, ih fun m hm => h m (List.mem_cons_of_mem _ hm)]
    rw [written, segmented, List.append_assoc, List.append_assoc]
    split
    · exact hbehind before
    · rw [List.singleton_append, segmentsFrom_inert (by decide), hbehind]
      rfl

end Lexeme

end PgWrite
