import PgWrite.Sql.Identifier
import PgWrite.Sql.Segment

/-!
# Lexemes of SQL text

A reference reading of SQL text: quoted identifiers, bare words, integers, question marks and
single symbols. Beside it stands one way to write lexemes, with a blank between neighbours
except inside brackets and around dots. What is written is read back, whatever characters
the names consist of, so a name can never run into the text around it.
-/

namespace PgWrite

/-- A lexeme of SQL text. -/
inductive Lexeme where
  | word (text : String)
  /-- A quoted identifier, given by the name that it stands for. -/
  | name (text : String)
  | symbol (c : Char)
  | integer (n : Int)
  | mark
  deriving DecidableEq, Repr

/-- Reads a quoted identifier behind its opening quote: the name, and the text behind the closing
quote. Two quotes stand for one of the name. -/
def readName : List Char → Option (List Char × List Char)
  | [] => none
  | '"' :: '"' :: rest => (readName rest).map fun (name, left) => ('"' :: name, left)
  | '"' :: rest => some ([], rest)
  | c :: rest => (readName rest).map fun (name, left) => (c :: name, left)

/-- The lexeme that begins with a character, and the text behind it. -/
def lexeme? (c : Char) (rest : List Char) : Option (Lexeme × List Char) :=
  if c = '"' then (readName rest).map fun (name, left) => (.name (String.ofList name), left)
  else if c = '?' then some (.mark, rest)
  else if c.isDigit then
    some (.integer (Nat.ofDigitChars 10 (c :: rest.takeWhile Char.isDigit) 0),
      rest.dropWhile Char.isDigit)
  else if c = '-' && rest.head?.any Char.isDigit then
    some (.integer (-(Nat.ofDigitChars 10 (rest.takeWhile Char.isDigit) 0)),
      rest.dropWhile Char.isDigit)
  else if isTagChar c then
    some (.word (String.ofList (c :: rest.takeWhile isTagChar)), rest.dropWhile isTagChar)
  else some (.symbol c, rest)

/-- The text behind a quoted identifier is no longer than the text behind its opening quote. -/
theorem length_le_of_readName {text name left : List Char}
    (h : readName text = some (name, left)) : left.length ≤ text.length := by
  fun_induction readName text generalizing name with
  | case1 => cases h
  | case2 rest ih =>
    obtain ⟨⟨n, l⟩, hr, he⟩ := Option.map_eq_some_iff.mp h
    cases he
    have := ih hr
    simp only [List.length_cons]
    omega
  | case3 rest _ =>
    cases h
    simp
  | case4 c rest _ _ ih =>
    obtain ⟨⟨n, l⟩, hr, he⟩ := Option.map_eq_some_iff.mp h
    cases he
    have := ih hr
    simp only [List.length_cons]
    omega

/-- A lexeme takes at least the character that it begins with. -/
theorem length_le_of_lexeme? {c : Char} {rest left : List Char} {l : Lexeme}
    (h : lexeme? c rest = some (l, left)) : left.length ≤ rest.length := by
  have hdrop (p : Char → Bool) : (rest.dropWhile p).length ≤ rest.length :=
    (List.dropWhile_sublist p).length_le
  unfold lexeme? at h
  split at h
  · obtain ⟨⟨n, l⟩, hr, he⟩ := Option.map_eq_some_iff.mp h
    cases he
    exact length_le_of_readName hr
  · split at h
    · cases h
      exact Nat.le_refl _
    · split at h
      · cases h
        exact hdrop _
      · split at h
        · cases h
          exact hdrop _
        · split at h
          · cases h
            exact hdrop _
          · cases h
            exact Nat.le_refl _

/-- The lexemes of a text; none if a quoted identifier is not closed. -/
def lexemes? (text : List Char) : Option (List Lexeme) :=
  match text with
  | [] => some []
  | c :: rest =>
    if c.isWhitespace then lexemes? rest
    else
      match _h : lexeme? c rest with
      | some (l, left) => (lexemes? left).map (l :: ·)
      | none => none
termination_by text.length
decreasing_by
  · simp
  · have := length_le_of_lexeme? (by assumption)
    simp only [List.length_cons]
    omega

namespace Lexeme

/-- The text of a lexeme. -/
def text : Lexeme → List Char
  | .word s => s.toList
  | .name s => (quotedName s).toList
  | .symbol c => [c]
  | .integer n => (Text.decimal n).toList
  | .mark => ['?']

/-- No blank stands behind the lexeme. -/
def opens : Lexeme → Bool
  | .symbol c => c = '(' || c = '.'
  | _ => false

/-- No blank stands before the lexeme. -/
def closes : Lexeme → Bool
  | .symbol c => c = ')' || c = ',' || c = '.'
  | _ => false

/-- The lexemes that statements are made of. Names and integers may be any. -/
def regular : Lexeme → Bool
  | .word s => !s.toList.isEmpty && s.toList.all isTagChar && !s.toList.head?.any Char.isDigit
  | .symbol c => c = '(' || c = ')' || c = ',' || c = '.' || c = '='
  | _ => true

/-- Lexemes written one after the other, each behind a blank if it needs one; `glued` says that
the first one needs none. -/
def written (glued : Bool) : List Lexeme → List Char
  | [] => []
  | l :: rest => (if glued || l.closes then [] else [' ']) ++ l.text ++ written l.opens rest

section

variable {α : Type} (mark : Nat → List α) (char : Char → List α)

/-- Lexemes written with a form for every mark, the marks counted from an index on, and a form for
every other character. -/
def restyled (glued : Bool) : Nat → List Lexeme → List α
  | _, [] => []
  | index, .mark :: rest =>
    (if glued then [] else char ' ') ++ mark index ++ restyled false (index + 1) rest
  | index, l :: rest =>
    (if glued || l.closes then [] else char ' ') ++ l.text.flatMap char
      ++ restyled l.opens index rest

/-- A mark in front is given the form of its number. -/
theorem restyled_mark (glued : Bool) (index : Nat) (rest : List Lexeme) :
    restyled mark char glued index (.mark :: rest) =
      (if glued then [] else char ' ') ++ mark index ++ restyled mark char false (index + 1) rest :=
  rfl

/-- Any other lexeme in front keeps its characters. -/
theorem restyled_cons {l : Lexeme} (h : l ≠ .mark) (glued : Bool) (index : Nat)
    (rest : List Lexeme) :
    restyled mark char glued index (l :: rest) =
      (if glued || l.closes then [] else char ' ') ++ l.text.flatMap char
        ++ restyled mark char l.opens index rest := by
  cases l with
  | mark => exact absurd rfl h
  | word | name | symbol | integer => rfl

end

/-- Question marks for marks and every other character as it is: the text as it is written. -/
theorem restyled_written (glued : Bool) (index : Nat) (lexemes : List Lexeme) :
    restyled (fun _ => ['?']) (fun c => [c]) glued index lexemes = written glued lexemes := by
  induction lexemes generalizing glued index with
  | nil => rfl
  | cons l rest ih =>
    by_cases hl : l = .mark
    · subst hl
      rw [restyled_mark, ih, written]
      cases glued <;> rfl
    · rw [restyled_cons _ _ hl, ih, written, List.flatMap_singleton']

end Lexeme

/-- A character that may follow a lexeme without running into it. -/
def endsLexeme (c : Char) : Bool :=
  c = ' ' || c = ')' || c = ',' || c = '.'

/-- Doubled quotes are read as the quotes of the name. -/
theorem readName_doubled (name : List Char) {rest : List Char}
    (h : ∀ c ∈ rest.head?, endsLexeme c) :
    readName (doubled '"' name ++ '"' :: rest) = some (name, rest) := by
  induction name with
  | nil =>
    cases rest with
    | nil => rfl
    | cons c rest =>
      have hc : endsLexeme c = true := h c rfl
      have hne : c ≠ '"' := by rintro rfl; exact absurd hc (by decide)
      simp [doubled, readName, hne]
  | cons c name ih =>
    by_cases hc : c = '"'
    · subst hc
      simp [doubled, readName, ih]
    · simp [doubled, readName, hc, ih]

/-- A run of a class is taken up to the text behind it that leaves the class. -/
theorem takeWhile_run {α : Type} {p : α → Bool} {run rest : List α} (hrun : ∀ c ∈ run, p c = true)
    (hrest : ∀ c ∈ rest.head?, p c = false) : (run ++ rest).takeWhile p = run := by
  rw [List.takeWhile_append_of_pos hrun]
  cases rest with
  | nil => simp
  | cons c rest => rw [List.takeWhile_cons_of_neg (by simp [hrest c rfl]), List.append_nil]

/-- What is left behind a run of a class. -/
theorem dropWhile_run {α : Type} {p : α → Bool} {run rest : List α} (hrun : ∀ c ∈ run, p c = true)
    (hrest : ∀ c ∈ rest.head?, p c = false) : (run ++ rest).dropWhile p = rest := by
  rw [List.dropWhile_append_of_pos hrun]
  cases rest with
  | nil => rfl
  | cons c rest => rw [List.dropWhile_cons_of_neg (by simp [hrest c rfl])]

/-- A character that ends lexemes belongs to no word and no number. -/
theorem isTagChar_of_endsLexeme {c : Char} (h : endsLexeme c = true) : isTagChar c = false := by
  simp only [endsLexeme, Bool.or_eq_true, decide_eq_true_eq] at h
  rcases h with ((rfl | rfl) | rfl) | rfl <;> decide

/-- Digits belong to words. -/
theorem isTagChar_of_isDigit {c : Char} (h : c.isDigit = true) : isTagChar c = true := by
  simp [isTagChar, Char.isAlphanum, h]

/-- A character that belongs to words opens neither a name nor a mark nor a negative number. -/
theorem isTagChar_ne {c : Char} (h : isTagChar c = true) :
    c ≠ '"' ∧ c ≠ '?' ∧ c ≠ '-' ∧ c.isWhitespace = false := by
  refine ⟨?_, ?_, ?_, ?_⟩
  · rintro rfl
    exact absurd h (by decide)
  · rintro rfl
    exact absurd h (by decide)
  · rintro rfl
    exact absurd h (by decide)
  · cases hw : c.isWhitespace with
    | false => rfl
    | true =>
      simp only [Char.isWhitespace, Bool.or_eq_true, decide_eq_true_eq] at hw
      rcases hw with ((rfl | rfl) | rfl) | rfl <;> exact absurd h (by decide)

/-- A bare word is read back. -/
theorem lexeme?_word {c : Char} {tail rest : List Char} (hc : c.isDigit = false)
    (hrun : ∀ d ∈ c :: tail, isTagChar d = true) (hrest : ∀ d ∈ rest.head?, endsLexeme d = true) :
    lexeme? c (tail ++ rest) = some (.word (String.ofList (c :: tail)), rest) := by
  have hcc := hrun c (List.mem_cons_self ..)
  obtain ⟨hq, hm, hd, _⟩ := isTagChar_ne hcc
  have htail : ∀ d ∈ tail, isTagChar d = true := fun d hd => hrun d (List.mem_cons_of_mem _ hd)
  have hend : ∀ d ∈ rest.head?, isTagChar d = false :=
    fun d hd => isTagChar_of_endsLexeme (hrest d hd)
  simp only [lexeme?, if_neg hq, if_neg hm, hc, hd, hcc, decide_false, Bool.false_and,
    Bool.false_eq_true, if_false, if_true, takeWhile_run htail hend, dropWhile_run htail hend]

/-- A numeral is read back; it begins with a digit or with a sign before one. -/
theorem lexeme?_integer (n : Int) {rest : List Char}
    (hrest : ∀ d ∈ rest.head?, endsLexeme d = true) :
    ∃ c tail, (Text.decimal n).toList ++ rest = c :: tail ∧ c.isWhitespace = false ∧
      lexeme? c tail = some (.integer n, rest) := by
  have hend : ∀ d ∈ rest.head?, d.isDigit = false := by
    intro d hd
    cases hdig : d.isDigit with
    | false => rfl
    | true =>
      have := isTagChar_of_endsLexeme (hrest d hd)
      rw [isTagChar_of_isDigit hdig] at this
      cases this
  have hrun : ∀ d ∈ Text.decimalDigits n.natAbs, d.isDigit = true :=
    fun d hd => Nat.isDigit_of_mem_toDigits (by decide) (by decide) hd
  have hvalue : Nat.ofDigitChars 10 (Text.decimalDigits n.natAbs) 0 = n.natAbs :=
    Nat.ofDigitChars_ten_toDigits
  obtain ⟨c, tail, hct⟩ : ∃ c tail, Text.decimalDigits n.natAbs = c :: tail :=
    List.exists_cons_of_ne_nil Nat.toDigits_ne_nil
  have hc : c.isDigit = true := hrun c (by rw [hct]; exact List.mem_cons_self ..)
  by_cases hn : n < 0
  · refine ⟨'-', Text.decimalDigits n.natAbs ++ rest, ?_, by decide, ?_⟩
    · simp [Text.decimal, hn]
    · have hhead : (Text.decimalDigits n.natAbs ++ rest).head?.any Char.isDigit = true := by
        simp [hct, hc]
      have hneg : -((n.natAbs : Nat) : Int) = n := by omega
      simp only [lexeme?, takeWhile_run hrun hend, dropWhile_run hrun hend, hhead, hvalue, hneg]
      simp
  · refine ⟨c, tail ++ rest, ?_, (isTagChar_ne (isTagChar_of_isDigit hc)).2.2.2, ?_⟩
    · simp [Text.decimal, hn, hct]
    · obtain ⟨hq, hm, _, _⟩ := isTagChar_ne (isTagChar_of_isDigit hc)
      have htail : ∀ d ∈ tail, d.isDigit = true := by
        intro d hd
        exact hrun d (by rw [hct]; exact List.mem_cons_of_mem _ hd)
      have hpos : ((n.natAbs : Nat) : Int) = n := by omega
      rw [hct] at hvalue
      simp only [lexeme?, if_neg hq, if_neg hm, hc, if_true, takeWhile_run htail hend,
        dropWhile_run htail hend, hvalue, hpos]

namespace Lexeme

/-- Behind a lexeme that takes a blank comes a character that ends it, or nothing, whatever the form
of marks. -/
theorem endsLexeme_restyled (mark : Nat → List Char) {glued : Bool} (hglued : glued = false)
    (index : Nat) (lexemes : List Lexeme) :
    ∀ c ∈ (restyled mark (fun c => [c]) glued index lexemes).head?, endsLexeme c = true := by
  subst hglued
  intro c hc
  cases lexemes with
  | nil => cases hc
  | cons l rest =>
    by_cases hl : l = .mark
    · subst hl
      cases hc
      rfl
    · rw [restyled_cons _ _ hl, List.flatMap_singleton'] at hc
      cases hcloses : l.closes with
      | false =>
        rw [hcloses] at hc
        cases hc
        rfl
      | true =>
        cases l with
        | symbol d =>
          rw [hcloses] at hc
          cases hc
          simp only [closes, Bool.or_eq_true, decide_eq_true_eq] at hcloses
          rcases hcloses with (rfl | rfl) | rfl <;> decide
        | word | name | integer | mark => cases hcloses

/-- The same of the text as it is written. -/
theorem endsLexeme_written {glued : Bool} (hglued : glued = false) (lexemes : List Lexeme) :
    ∀ c ∈ (written glued lexemes).head?, endsLexeme c = true := by
  rw [← restyled_written glued 0 lexemes]
  exact endsLexeme_restyled _ hglued 0 lexemes

/-- A lexeme is read back from before any text that cannot run into it. -/
theorem lexeme?_text {l : Lexeme} (hl : l.regular = true) {rest : List Char}
    (hrest : l.opens = false → ∀ c ∈ rest.head?, endsLexeme c = true) :
    ∃ c tail, l.text ++ rest = c :: tail ∧ c.isWhitespace = false ∧
      lexeme? c tail = some (l, rest) := by
  cases l with
  | word s =>
    simp only [regular, Bool.and_eq_true, Bool.not_eq_true', List.isEmpty_eq_false_iff,
      List.all_eq_true] at hl
    obtain ⟨⟨hne, hall⟩, hhead⟩ := hl
    obtain ⟨c, tail, hct⟩ := List.exists_cons_of_ne_nil hne
    rw [hct] at hall hhead
    refine ⟨c, tail ++ rest, by simp [text, hct], (isTagChar_ne (hall c (by simp))).2.2.2, ?_⟩
    rw [lexeme?_word (by simpa using hhead) hall (hrest rfl), ← hct, String.ofList_toList]
  | name s =>
    refine ⟨'"', doubled '"' s.toList ++ '"' :: rest, ?_, by decide, ?_⟩
    · simp [text, toList_quotedName]
    · simp [lexeme?, readName_doubled s.toList (hrest rfl)]
  | symbol c =>
    refine ⟨c, rest, rfl, ?_, ?_⟩ <;>
      simp only [regular, Bool.or_eq_true, decide_eq_true_eq] at hl
    · rcases hl with (((rfl | rfl) | rfl) | rfl) | rfl <;> decide
    · rcases hl with (((rfl | rfl) | rfl) | rfl) | rfl <;> rfl
  | integer n => exact lexeme?_integer n (hrest rfl)
  | mark => exact ⟨'?', rest, rfl, by decide, rfl⟩

/-- What is written is read back. -/
theorem lexemes?_written {lexemes : List Lexeme} (h : ∀ l ∈ lexemes, l.regular = true)
    (glued : Bool) : lexemes? (written glued lexemes) = some lexemes := by
  induction lexemes generalizing glued with
  | nil => simp [written, lexemes?]
  | cons l rest ih =>
    have hfollow : l.opens = false → ∀ c ∈ (written l.opens rest).head?, endsLexeme c = true :=
      fun ho => endsLexeme_written ho rest
    obtain ⟨c, tail, htext, hblank, hread⟩ := lexeme?_text (h l (List.mem_cons_self ..)) hfollow
    have hbehind : lexemes? (l.text ++ written l.opens rest) = some (l :: rest) := by
      rw [htext, lexemes?]
      split
      · simp_all
      · split
        · rename_i heq
          rw [hread] at heq
          cases heq
          rw [ih (fun m hm => h m (List.mem_cons_of_mem _ hm))]
          rfl
        · rename_i heq
          rw [hread] at heq
          cases heq
    rw [written, List.append_assoc]
    split
    · exact hbehind
    · rw [List.singleton_append, lexemes?, if_pos (by decide)]
      exact hbehind

end Lexeme

end PgWrite
