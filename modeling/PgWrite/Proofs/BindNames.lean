import PgWrite.Proofs.Paramstyle
import PgWrite.Sql.Bind

/-!
# Bind names in compiled statements

A clause library looks for binds in the whole text, quoted names included. In the named style of a
statement it finds the name of every mark in its order, and between them whatever a quoted name
would yield if it stood by itself: quotes, and the characters around names, neither hide a bind nor
make one.
-/

namespace PgWrite

open Lexeme

/-- A character that no bind name reaches across. -/
def partsBinds (c : Char) : Bool :=
  !Text.isWordChar c && c ≠ ':'

/-- What ends lexemes parts bind names. -/
theorem partsBinds_of_endsLexeme {c : Char} (h : endsLexeme c = true) : partsBinds c = true := by
  simp only [endsLexeme, Bool.or_eq_true, decide_eq_true_eq] at h
  rcases h with ((rfl | rfl) | rfl) | rfl <;> decide

/-- Decimal digits are word characters. -/
theorem isWordChar_of_isDigit {c : Char} (h : c.isDigit = true) : Text.isWordChar c = true := by
  simp only [Char.isDigit, Bool.and_eq_true, decide_eq_true_eq, UInt32.le_iff_toNat_le] at h
  have hlow : ¬ c.toNat < 48 := Nat.not_lt.mpr h.1
  have hhigh : c.toNat ≤ 57 := h.2
  have hranges : Text.isAlphanumeric c = true := by
    rw [Text.isAlphanumeric, Text.alphanumericRanges, Text.inRanges, if_neg hlow, if_pos hhigh]
  rw [Text.isWordChar, hranges, Bool.true_or]

/-- A run does not reach across a character outside its class. -/
theorem takeWhile_append_cons {α : Type} {p : α → Bool} {b : α} (hb : p b = false)
    (text rest : List α) : (text ++ b :: rest).takeWhile p = text.takeWhile p := by
  induction text with
  | nil => rw [List.nil_append, List.takeWhile_cons_of_neg (by simp [hb])]; rfl
  | cons c text ih => by_cases hc : p c = true <;> simp [hc, ih]

/-- What is left behind a run goes on across a character outside its class. -/
theorem dropWhile_append_cons {α : Type} {p : α → Bool} {b : α} (hb : p b = false)
    (text rest : List α) : (text ++ b :: rest).dropWhile p = text.dropWhile p ++ b :: rest := by
  induction text with
  | nil => rw [List.nil_append, List.dropWhile_cons_of_neg (by simp [hb])]; rfl
  | cons c text ih => by_cases hc : p c = true <;> simp [hc, ih]

/-- A name depends on the word at the start of a text, and on whether a colon follows it. -/
theorem bindNameAt?_eq (text : List Char) :
    bindNameAt? text =
      let word := text.takeWhile Text.isWordChar
      let name := if (text.dropWhile Text.isWordChar).head? = some ':' then word.dropLast else word
      if name.isEmpty then none else some name := by
  cases hrest : text.dropWhile Text.isWordChar with
  | nil => simp [bindNameAt?, hrest]
  | cons c rest => by_cases hc : c = ':' <;> simp [bindNameAt?, hrest, hc]

/-- Texts that begin with the same word hold the same name, unless a colon follows one of them. -/
theorem bindNameAt?_congr {text other : List Char}
    (hword : text.takeWhile Text.isWordChar = other.takeWhile Text.isWordChar)
    (hcolon : (text.dropWhile Text.isWordChar).head? = some ':' ↔
      (other.dropWhile Text.isWordChar).head? = some ':') :
    bindNameAt? text = bindNameAt? other := by
  simp only [bindNameAt?_eq, hword, hcolon]

/-- A name is found up to a character that parts it from the text behind. -/
theorem bindNameAt?_append {b : Char} (hb : partsBinds b = true) (text rest : List Char) :
    bindNameAt? (text ++ b :: rest) = bindNameAt? text := by
  simp only [partsBinds, Bool.and_eq_true, Bool.not_eq_true', decide_eq_true_eq] at hb
  obtain ⟨hword, hcolon⟩ := hb
  refine bindNameAt?_congr (takeWhile_append_cons hword text rest) ?_
  rw [dropWhile_append_cons hword]
  cases text.dropWhile Text.isWordChar <;> simp [hcolon]

/-- Binds are found apart on both sides of a character that parts them. -/
theorem bindNamesFrom_append {b : Char} (hb : partsBinds b = true) (before : Option Char)
    (text rest : List Char) :
    bindNamesFrom before (text ++ b :: rest) =
      bindNamesFrom before text ++ bindNamesFrom (some b) rest := by
  induction text generalizing before with
  | nil =>
    simp only [partsBinds, Bool.and_eq_true, decide_eq_true_eq] at hb
    simp [bindNamesFrom, hb.2]
  | cons c text ih =>
    rw [List.cons_append, bindNamesFrom, bindNamesFrom, ih, bindNameAt?_append hb]
    split
    · split <;> rfl
    · rfl

/-- What stands before a text matters only if the text begins with a colon. -/
theorem bindNamesFrom_before {text : List Char} (h : text.head? ≠ some ':')
    (before before' : Option Char) : bindNamesFrom before text = bindNamesFrom before' text := by
  cases text with
  | nil => rfl
  | cons c rest =>
    have hc : c ≠ ':' := by
      rintro rfl
      exact h rfl
    simp [bindNamesFrom, hc]

/-- A character that blocks no bind is as good as none. -/
theorem bindNamesFrom_of_not_blocks {before : Option Char} (h : before.any blocksBind = false)
    (text : List Char) : bindNamesFrom before text = bindNamesFrom none text := by
  cases text with
  | nil => rfl
  | cons c rest =>
    rw [bindNamesFrom, bindNamesFrom, h]
    rfl

/-- Text without colons holds no binds. -/
theorem bindNamesFrom_run {run rest : List Char} (hrun : ∀ c ∈ run, c ≠ ':')
    (hrest : rest.head? ≠ some ':') (before : Option Char) :
    bindNamesFrom before (run ++ rest) = bindNamesFrom none rest := by
  induction run generalizing before with
  | nil => exact bindNamesFrom_before hrest before none
  | cons c run ih =>
    have hc := hrun c (List.mem_cons_self ..)
    have htail := ih fun d hd => hrun d (List.mem_cons_of_mem _ hd)
    simp [bindNamesFrom, hc, htail]

/-- A colon and a name after a character that does not block it: the name is found. -/
theorem bindNamesFrom_name {before : Option Char} (hbefore : before.any blocksBind = false)
    {name rest : List Char} (hne : name ≠ []) (hname : ∀ c ∈ name, Text.isWordChar c = true)
    (hrest : ∀ c ∈ rest.head?, partsBinds c = true) :
    bindNamesFrom before (':' :: (name ++ rest)) =
      String.ofList name :: bindNamesFrom none rest := by
  have hword : ∀ c ∈ rest.head?, Text.isWordChar c = false := by
    intro c hc
    have hparts := hrest c hc
    simp only [partsBinds, Bool.and_eq_true, Bool.not_eq_true'] at hparts
    exact hparts.1
  have hcolon : rest.head? ≠ some ':' := fun he => absurd (hrest ':' he) (by decide)
  have hfound : bindNameAt? (name ++ rest) = some name := by
    rw [bindNameAt?, takeWhile_run hname hword, dropWhile_run hname hword]
    cases rest with
    | nil => simp [hne]
    | cons c rest =>
      have hc : c ≠ ':' := by
        rintro rfl
        exact hcolon rfl
      simp [hc, hne]
  have hplain : ∀ c ∈ name, c ≠ ':' := by
    rintro c hc rfl
    exact absurd (hname ':' hc) (by decide)
  rw [bindNamesFrom, hfound, bindNamesFrom_run hplain hcolon, hbefore]
  rfl

/-- A doubled quote is no part of a bind name. -/
theorem bindNameAt?_doubled (text : List Char) :
    bindNameAt? (doubled '"' text) = bindNameAt? text := by
  have hstep : ∀ text : List Char,
      (doubled '"' text).takeWhile Text.isWordChar = text.takeWhile Text.isWordChar ∧
        (doubled '"' text).dropWhile Text.isWordChar =
          doubled '"' (text.dropWhile Text.isWordChar) := by
    intro text
    induction text with
    | nil => exact ⟨rfl, rfl⟩
    | cons c text ih =>
      by_cases hc : c = '"'
      · subst hc
        exact ⟨rfl, rfl⟩
      · by_cases hw : Text.isWordChar c = true <;> simp [doubled, hc, hw, ih]
  obtain ⟨htake, hdrop⟩ := hstep text
  refine bindNameAt?_congr htake ?_
  rw [hdrop]
  cases text.dropWhile Text.isWordChar with
  | nil => rfl
  | cons d left => by_cases hd : d = '"' <;> simp [doubled, hd]

/-- Doubled quotes neither hide a bind nor make one. -/
theorem bindNamesFrom_doubled (before : Option Char) (text : List Char) :
    bindNamesFrom before (doubled '"' text) = bindNamesFrom before text := by
  induction text generalizing before with
  | nil => rfl
  | cons c text ih =>
    by_cases hc : c = '"'
    · subst hc
      have hsecond : bindNamesFrom (some '"') ('"' :: doubled '"' text) =
          bindNamesFrom (some '"') text := by
        rw [bindNamesFrom, ih]
        rfl
      rw [doubled, if_pos rfl, bindNamesFrom, hsecond]
      rfl
    · rw [doubled, if_neg hc, bindNamesFrom, bindNamesFrom, ih, bindNameAt?_doubled]

/-- A quoted name holds the binds of the name. -/
theorem bindNamesFrom_quotedName (before : Option Char) (name : String) {rest : List Char}
    (hrest : rest.head? ≠ some ':') :
    bindNamesFrom before ((quotedName name).toList ++ rest) =
      bindNames name ++ bindNamesFrom none rest := by
  have htext : (quotedName name).toList ++ rest =
      '"' :: (doubled '"' name.toList ++ '"' :: rest) := by
    simp [toList_quotedName]
  have hopen : bindNamesFrom before ('"' :: (doubled '"' name.toList ++ '"' :: rest)) =
      bindNamesFrom (some '"') (doubled '"' name.toList ++ '"' :: rest) := by
    rw [bindNamesFrom]
    rfl
  have hinner : bindNamesFrom (some '"') name.toList = bindNames name :=
    bindNamesFrom_of_not_blocks (by decide) _
  rw [htext, hopen, bindNamesFrom_append (by decide), bindNamesFrom_doubled, hinner,
    bindNamesFrom_before hrest (some '"') none]

namespace Lexeme

/-- The binds that are found in the name of a lexeme. -/
def nameBinds : Lexeme → List String
  | .name s => PgWrite.bindNames s
  | _ => []

/-- The binds that are found in lexemes whose marks are named, counted from an index on. -/
def bindNames (stem : String) : Nat → List Lexeme → List String
  | _, [] => []
  | index, .mark :: rest => bindName stem index :: bindNames stem (index + 1) rest
  | index, l :: rest => l.nameBinds ++ bindNames stem index rest

/-- Only names hold binds beside the marks. -/
theorem bindNames_cons (stem : String) (index : Nat) {l : Lexeme} (h : l ≠ .mark)
    (rest : List Lexeme) :
    bindNames stem index (l :: rest) = l.nameBinds ++ bindNames stem index rest := by
  cases l with
  | mark => exact absurd rfl h
  | word | name | symbol | integer => rfl

/-- The names of marks consist of word characters. -/
theorem isWordChar_bindName (index : Nat) :
    ∀ c ∈ (bindName "p" index).toList, Text.isWordChar c = true := by
  have hpos : ¬ ((index : Int) < 0) := by omega
  have htext : (bindName "p" index).toList = 'p' :: '_' :: Nat.toDigits 10 index := by
    simp [bindName, Text.decimal, hpos, Text.decimalDigits]
  intro c hc
  rw [htext, List.mem_cons, List.mem_cons] at hc
  rcases hc with rfl | rfl | hc
  · decide
  · decide
  · exact isWordChar_of_isDigit (Nat.isDigit_of_mem_toDigits (by decide) (by decide) hc)

/-- A regular lexeme that is neither a name nor a mark holds no colon. -/
theorem ne_colon_of_regular {l : Lexeme} (hl : l.regular = true) (hname : ∀ s, l ≠ .name s) :
    ∀ c ∈ l.text, c ≠ ':' := by
  rintro c hc rfl
  cases l with
  | word s =>
    simp only [regular, Bool.and_eq_true, List.all_eq_true] at hl
    exact absurd (hl.1.2 ':' hc) (by decide)
  | name s => exact absurd rfl (hname s)
  | symbol d =>
    cases List.mem_singleton.mp hc
    exact absurd hl (by decide)
  | integer n =>
    have hdigits : ∀ d ∈ Text.decimalDigits n.natAbs, d.isDigit = true :=
      fun d hd => Nat.isDigit_of_mem_toDigits (by decide) (by decide) hd
    have hnot : ':' ∉ Text.decimalDigits n.natAbs :=
      fun hmem => absurd (hdigits ':' hmem) (by decide)
    by_cases hn : n < 0 <;> simp [text, Text.decimal, hn, hnot] at hc
  | mark => exact absurd hc (by decide)

/-- The binds of a lexeme that is no mark, before any text that cannot run into it. -/
theorem bindNamesFrom_text {l : Lexeme} (hl : l ≠ .mark) (hregular : l.regular = true)
    (before : Option Char) {rest : List Char} (hrest : l.opens = false →
      ∀ c ∈ rest.head?, endsLexeme c = true) :
    bindNamesFrom before (l.text ++ rest) = l.nameBinds ++ bindNamesFrom none rest := by
  have hcolon (ho : l.opens = false) : rest.head? ≠ some ':' :=
    fun he => absurd (hrest ho ':' he) (by decide)
  cases l with
  | mark => exact absurd rfl hl
  | name s => exact bindNamesFrom_quotedName before s (hcolon rfl)
  | word | integer =>
    exact bindNamesFrom_run (ne_colon_of_regular hregular (by simp)) (hcolon rfl) before
  | symbol c =>
    cases ho : (symbol c).opens with
    | false => exact bindNamesFrom_run (ne_colon_of_regular hregular (by simp)) (hcolon ho) before
    | true =>
      have hblock : (some c).any blocksBind = false ∧ c ≠ ':' := by
        simp only [opens, Bool.or_eq_true, decide_eq_true_eq] at ho
        rcases ho with rfl | rfl <;> decide
      rw [text, List.singleton_append, bindNamesFrom, bindNamesFrom_of_not_blocks hblock.1]
      simp [hblock.2, nameBinds]

/-- A blank parts binds. -/
theorem bindNamesFrom_blank (before : Option Char) (rest : List Char) :
    bindNamesFrom before (' ' :: rest) = bindNamesFrom none rest := by
  have hblank : bindNamesFrom before (' ' :: rest) = bindNamesFrom (some ' ') rest := by
    rw [bindNamesFrom]
    rfl
  rw [hblank, bindNamesFrom_of_not_blocks (by decide)]

/-- The binds of lexemes in the named style. -/
theorem bindNamesFrom_restyled {lexemes : List Lexeme} (h : ∀ l ∈ lexemes, l.regular = true)
    (glued : Bool) (index : Nat) {before : Option Char} (hbefore : before.any blocksBind = false) :
    bindNamesFrom before (restyled (namedMark "p") (fun c => [c]) glued index lexemes) =
      bindNames "p" index lexemes := by
  induction lexemes generalizing glued index before with
  | nil => rfl
  | cons l rest ih =>
    have hrest := fun m hm => h m (List.mem_cons_of_mem _ hm)
    by_cases hl : l = .mark
    · subst hl
      have hfollow := endsLexeme_restyled (namedMark "p") rfl (index + 1) rest
      have hne : (bindName "p" index).toList ≠ [] := by simp [bindName]
      have hmark {before : Option Char} (hbefore : before.any blocksBind = false) :
          bindNamesFrom before (namedMark "p" index
            ++ restyled (namedMark "p") (fun c => [c]) false (index + 1) rest) =
            bindNames "p" index (.mark :: rest) := by
        rw [namedMark, List.cons_append, bindNamesFrom_name hbefore hne (isWordChar_bindName index)
          fun c hc => partsBinds_of_endsLexeme (hfollow c hc), String.ofList_toList,
          ih hrest false _ rfl]
        rfl
      rw [restyled_mark]
      cases glued with
      | true => exact hmark hbefore
      | false =>
        rw [List.append_assoc, if_neg (by simp), List.singleton_append, bindNamesFrom_blank,
          hmark rfl]
    · have hfollow := fun ho : l.opens = false =>
        endsLexeme_restyled (namedMark "p") ho index rest
      have hbehind (before : Option Char) : bindNamesFrom before
          (l.text ++ restyled (namedMark "p") (fun c => [c]) l.opens index rest) =
            bindNames "p" index (l :: rest) := by
        rw [bindNamesFrom_text hl (h l (List.mem_cons_self ..)) before hfollow,
          ih hrest l.opens index rfl, bindNames_cons _ _ hl]
      rw [restyled_cons _ _ hl, List.flatMap_singleton', List.append_assoc]
      split
      · exact hbehind before
      · rw [List.singleton_append, bindNamesFrom_blank, hbehind none]

end Lexeme

end PgWrite
