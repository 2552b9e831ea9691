import PgWrite.Proofs.MarkerPlaces
import PgWrite.Proofs.Grammar

/-!
# Where dollar quotes open

The server knows dollar signs inside identifiers and letters beyond ASCII in tags. The scanner looks
at one character before a dollar sign and at ASCII tags behind it. Both close a dollar quote at the
next occurrence of its delimiter, and both open it at the same dollar signs, up to those that are
misread: in an identifier behind another dollar sign, before a tag with a letter beyond ASCII, or
behind a word that is no identifier. A text without these has its markers where the server has them.
-/

namespace PgWrite

/-! ## Closing delimiters -/

/-- The length of a text up to the end of the first occurrence of a needle, or the whole length if
there is none. -/
inductive NextEnd (needle text : List Char) : Nat → Prop where
  | found {k : Nat} (here : needle <+: text.drop k) (first : ∀ m < k, ¬ needle <+: text.drop m) :
    NextEnd needle text (k + needle.length)
  | absent (nowhere : ∀ k, ¬ needle <+: text.drop k) : NextEnd needle text text.length

theorem NextEnd.unique {needle text : List Char} {m n : Nat} (hm : NextEnd needle text m)
    (hn : NextEnd needle text n) : m = n := by
  cases hm with
  | @found k here first =>
    cases hn with
    | @found l here' first' =>
      have hkl : k = l := Nat.le_antisymm
        (Nat.le_of_not_lt fun hlt => first l hlt here')
        (Nat.le_of_not_lt fun hlt => first' k hlt here)
      rw [hkl]
    | absent nowhere => exact absurd here (nowhere k)
  | absent nowhere =>
    cases hn with
    | @found l here' _ => exact absurd here' (nowhere l)
    | absent => rfl

/-- An occurrence is looked for one character after the other. -/
theorem NextEnd.cons {needle text : List Char} {c : Char} {n : Nat}
    (hfront : ¬ needle <+: c :: text) (h : NextEnd needle text n) :
    NextEnd needle (c :: text) (n + 1) := by
  cases h with
  | @found k here first =>
    rw [Nat.add_right_comm]
    refine .found here fun m hm => ?_
    cases m with
    | zero => exact hfront
    | succ m => exact first m (Nat.lt_of_succ_lt_succ hm)
  | absent nowhere =>
    refine .absent fun m => ?_
    cases m with
    | zero => exact hfront
    | succ m => exact nowhere m

/-- The scanner splits behind the first occurrence. -/
theorem nextEnd_splitThrough {needle : List Char} (hne : needle ≠ []) (text : List Char) :
    NextEnd needle text (Text.splitThrough needle text).1.length := by
  induction text with
  | nil =>
    refine .absent fun k hstarts => hne ?_
    rwa [List.drop_nil, List.prefix_nil] at hstarts
  | cons c rest ih =>
    rw [Text.splitThrough]
    split
    · next hstarts =>
      have hstarts := List.isPrefixOf_iff_prefix.mp hstarts
      have hlength : ((c :: rest).take needle.length).length = 0 + needle.length := by
        rw [List.length_take, Nat.zero_add, Nat.min_eq_left hstarts.length_le]
      rw [hlength]
      exact .found hstarts fun m hm => absurd hm (Nat.not_lt_zero m)
    · next hstarts =>
      exact NextEnd.cons (fun h => hstarts (List.isPrefixOf_iff_prefix.mpr h)) ih

/-- A dollar quote with a tag opens at one place, and another one is just past its next
delimiter. -/
structure QuotedWith (tag text : List Char) (i e : Nat) : Prop where
  opens : delimiter tag <+: text.drop i
  closes : ∃ n, NextEnd (delimiter tag) (text.drop (i + (delimiter tag).length)) n ∧
    e = i + (delimiter tag).length + n

namespace QuotedWith

variable {tag text : List Char} {i e e' : Nat}

theorem end_eq (h : QuotedWith tag text i e) (h' : QuotedWith tag text i e') : e = e' := by
  obtain ⟨n, hn, rfl⟩ := h.closes
  obtain ⟨n', hn', rfl⟩ := h'.closes
  rw [hn.unique hn']

/-- Behind a delimiter the scanner finds the end. -/
theorem splitThrough (h : delimiter tag <+: text.drop i) :
    QuotedWith tag text i (i + (delimiter tag).length +
      (Text.splitThrough (delimiter tag) (text.drop (i + (delimiter tag).length))).1.length) :=
  ⟨h, _, nextEnd_splitThrough (List.cons_ne_nil _ _) _, rfl⟩

end QuotedWith

/-! ## Dollar quotes of the scanner -/

/-- A tag is read just if it stands there with a dollar sign behind it. -/
theorem dollarTag?_eq_some_iff {text closing : List Char} :
    dollarTag? text = some closing ↔
      ∃ tag, IsTag tag ∧ closing = tag ++ ['$'] ∧ tag ++ ['$'] <+: text := by
  constructor
  · intro h
    have hstarts : closing <+: text := ⟨_, take_dollarTag h⟩
    unfold dollarTag? at h
    dsimp only at h
    split at h
    · split at h
      · cases h
      · next hdigit =>
        cases h
        refine ⟨_, ⟨fun c hc => ?_, fun c hc => ?_⟩, rfl, hstarts⟩
        · exact List.all_eq_true.mp List.all_takeWhile c hc
        · rw [Option.mem_def.mp hc] at hdigit
          exact Bool.eq_false_iff.mpr hdigit
    · cases h
  · rintro ⟨tag, htag, rfl, rest, rfl⟩
    rw [List.append_assoc]
    exact dollarTag?_delimiter htag rest

/-- Behind a dollar sign stand the tag and the other one. -/
theorem delimiter_prefix_iff {tag text : List Char} {i : Nat} (hc : text[i]? = some '$') :
    delimiter tag <+: text.drop i ↔ tag ++ ['$'] <+: text.drop (i + 1) := by
  rw [drop_of_getElem? hc, delimiter, List.prefix_cons_inj]

/-- At a dollar sign that no word runs into, the scanner opens a dollar quote just if it reads a
tag. -/
theorem region?_dollar {before rest : List Char} (h : endsInWord before = false) :
    region? before ('$' :: rest) = (dollarTag? rest).map fun closing =>
      putInFront ('$' :: closing)
        (Text.splitThrough ('$' :: closing) (rest.drop closing.length)) := by
  rw [region?, h]
  cases dollarTag? rest <;> rfl

/-- At a dollar sign the scanner opens the dollar quotes with ASCII tags, where no word runs into
them. -/
theorem regionEnd?_dollar {text : List Char} {i e : Nat} (hc : text[i]? = some '$') :
    regionEnd? text i = some e ↔
      endsInWord (text.take i).reverse = false ∧ ∃ tag, IsTag tag ∧ QuotedWith tag text i e := by
  cases hword : endsInWord (text.take i).reverse with
  | true =>
    rw [regionEnd?, drop_of_getElem? hc, region?, hword]
    refine iff_of_false (fun h => ?_) fun h => ?_
    · cases h
    · cases h.1
  | false =>
    rw [regionEnd?, drop_of_getElem? hc, region?_dollar hword, and_iff_right rfl]
    cases hclosing : dollarTag? (text.drop (i + 1)) with
    | none =>
      refine iff_of_false (fun h => by cases h) ?_
      rintro ⟨tag, htag, hquoted⟩
      have hread := dollarTag?_eq_some_iff.mpr
        ⟨tag, htag, rfl, (delimiter_prefix_iff hc).mp hquoted.opens⟩
      rw [hclosing] at hread
      cases hread
    | some closing =>
      obtain ⟨tag, htag, rfl, hstarts⟩ := dollarTag?_eq_some_iff.mp hclosing
      have hquoted := QuotedWith.splitThrough ((delimiter_prefix_iff hc).mpr hstarts)
      have hbody : (text.drop (i + 1)).drop (tag ++ ['$']).length =
          text.drop (i + (delimiter tag).length) := by
        rw [List.drop_drop, delimiter, List.length_cons, Nat.add_right_comm, Nat.add_assoc]
      have hend : i + (putInFront (delimiter tag) (Text.splitThrough (delimiter tag)
            ((text.drop (i + 1)).drop (tag ++ ['$']).length))).1.length =
          i + (delimiter tag).length + (Text.splitThrough (delimiter tag)
            (text.drop (i + (delimiter tag).length))).1.length := by
        rw [hbody, putInFront, List.length_append, Nat.add_assoc]
      rw [Option.map_some, Option.map_some, Option.some.injEq]
      constructor
      · rintro rfl
        exact ⟨tag, htag, hend ▸ hquoted⟩
      · rintro ⟨tag', htag', hquoted'⟩
        have hread := dollarTag?_eq_some_iff.mpr
          ⟨tag', htag', rfl, (delimiter_prefix_iff hc).mp hquoted'.opens⟩
        rw [hclosing, Option.some.injEq, List.append_left_inj] at hread
        subst hread
        exact hend.trans (hquoted.end_eq hquoted')

/-! ## Dollar quotes of the server -/

section

variable (foreign : Char → Bool)

/-- The server's letters: those of ASCII, the underscore, and some beyond ASCII. -/
def isLetter (c : Char) : Bool :=
  c.isAlpha || c = '_' || (127 < c.toNat && foreign c)

/-- The characters of the server's words. -/
def isServerWordChar (c : Char) : Bool :=
  isLetter foreign c || c.isDigit

/-- An identifier: a letter, and behind it letters, digits and dollar signs. -/
inductive IsIdentifier : List Char → Prop where
  | mk {c : Char} {rest : List Char} (start : isLetter foreign c = true)
    (tail : ∀ d ∈ rest, isServerWordChar foreign d = true ∨ d = '$') : IsIdentifier (c :: rest)

/-- The text ends in an identifier, which no word runs into. -/
def EndsInIdentifier (text : List Char) : Prop :=
  ∃ before word, text = before ++ word ∧ IsIdentifier foreign word ∧
    ∀ c ∈ before.getLast?, isServerWordChar foreign c = false

/-- A tag of the server: empty, or a word that does not start with a digit. -/
structure IsServerTag (tag : List Char) : Prop where
  word : ∀ c ∈ tag, isServerWordChar foreign c = true
  start : ∀ c ∈ tag.head?, c.isDigit = false

/-- The server opens a dollar quote, where the characters since the last region start at `s`. Other
regions are those of the scanner. -/
def ServerOpens (text : List Char) (s i e : Nat) : Prop :=
  if text[i]? = some '$' then
    ¬ EndsInIdentifier foreign ((text.drop s).take (i - s)) ∧
      ∃ tag, IsServerTag foreign tag ∧ QuotedWith tag text i e
  else
    IsRegion text s i e

/-- A dollar sign at which the scanner and the server differ. -/
inductive Misread (text : List Char) (s i : Nat) : Prop where
  /-- The dollar sign continues an identifier, but behind another dollar sign (or a letter that is
  no word character) the scanner opens a dollar quote. -/
  | identifier {tag : List Char} {e : Nat} (htag : IsTag tag) (hquoted : QuotedWith tag text i e)
    (hidentifier : EndsInIdentifier foreign ((text.drop s).take (i - s)))
    (hword : endsInWord (text.take i).reverse = false)
  /-- The scanner does not know the tag. -/
  | foreignTag {tag : List Char} {e : Nat} (htag : IsServerTag foreign tag)
    (hquoted : QuotedWith tag text i e)
    (hidentifier : ¬ EndsInIdentifier foreign ((text.drop s).take (i - s)))
    (hforeign : ∃ c ∈ tag, 127 < c.toNat)
  /-- A word that is no identifier, such as a number, runs into the dollar sign. -/
  | number {tag : List Char} {e : Nat} (htag : IsServerTag foreign tag)
    (hquoted : QuotedWith tag text i e)
    (hidentifier : ¬ EndsInIdentifier foreign ((text.drop s).take (i - s)))
    (hword : endsInWord (text.take i).reverse = true)

end

variable {foreign : Char → Bool} {text : List Char} {s i e : Nat}

/-- The characters of a tag of the scanner are ASCII. -/
theorem IsTag.toNat_le {tag : List Char} (h : IsTag tag) : ∀ c ∈ tag, c.toNat ≤ 127 := by
  intro c hc
  have hword := h.word c hc
  simp only [isTagChar, Char.isAlphanum, Char.isAlpha, Char.isUpper, Char.isLower, Char.isDigit,
    Bool.or_eq_true, Bool.and_eq_true, decide_eq_true_eq, ge_iff_le,
    UInt32.le_iff_toNat_le] at hword
  rcases hword with hword | rfl
  · have hbounds : ((65 ≤ c.toNat ∧ c.toNat ≤ 90) ∨ 97 ≤ c.toNat ∧ c.toNat ≤ 122) ∨
        48 ≤ c.toNat ∧ c.toNat ≤ 57 := hword
    omega
  · decide

/-- Every tag of the scanner is one of the server. -/
theorem IsTag.server {tag : List Char} (h : IsTag tag) : IsServerTag foreign tag := by
  refine ⟨fun c hc => ?_, h.start⟩
  have hword := h.word c hc
  simp only [isTagChar, Char.isAlphanum, Bool.or_eq_true] at hword
  simp only [isServerWordChar, isLetter, Bool.or_eq_true]
  tauto

/-- The scanner knows the tags without letters beyond ASCII. -/
theorem IsServerTag.ascii {tag : List Char} (h : IsServerTag foreign tag)
    (hascii : ∀ c ∈ tag, c.toNat ≤ 127) : IsTag tag := by
  refine ⟨fun c hc => ?_, h.start⟩
  have hword := h.word c hc
  have hbound : decide (127 < c.toNat) = false := decide_eq_false (Nat.not_lt.mpr (hascii c hc))
  simp only [isServerWordChar, isLetter, hbound, Bool.false_and, Bool.or_false,
    Bool.or_eq_true] at hword
  simp only [isTagChar, Char.isAlphanum, Bool.or_eq_true]
  tauto

/-- There is no dollar sign in a tag. -/
theorem IsServerTag.not_mem_dollar {tag : List Char} (h : IsServerTag foreign tag) : '$' ∉ tag := by
  intro hmem
  have hword := h.word '$' hmem
  simp [isServerWordChar, isLetter] at hword

/-- A dollar quote has one tag. -/
theorem QuotedWith.tag_eq {tag tag' : List Char} {e e' : Nat} (h : QuotedWith tag text i e)
    (h' : QuotedWith tag' text i e') (htag : '$' ∉ tag) (htag' : '$' ∉ tag') : tag = tag' := by
  have htext {t : List Char} (ht : '$' ∉ t) (hstarts : delimiter t <+: text.drop i) :
      (text.drop (i + 1)).takeWhile (· ≠ '$') = t := by
    obtain ⟨rest, hrest⟩ := hstarts
    have htail : text.drop (i + 1) = t ++ '$' :: rest := by
      rw [← List.drop_drop, ← hrest, delimiter, List.cons_append, List.append_assoc]
      rfl
    have hrun : ∀ c ∈ t, decide (c ≠ '$') = true :=
      fun c hc => decide_eq_true fun heq => ht (heq ▸ hc)
    rw [htail, takeWhile_run hrun]
    rintro c ⟨⟩
    rfl
  rw [← htext htag h.opens, htext htag' h'.opens]

/-- At a dollar sign the scanner and the server agree just if it is not misread. -/
theorem agree_iff_not_misread (hc : text[i]? = some '$') :
    (∀ e, IsRegion text s i e ↔ ServerOpens foreign text s i e) ↔ ¬ Misread foreign text s i := by
  simp only [IsRegion, regionEnd?_dollar hc, ServerOpens, if_pos hc]
  constructor
  · rintro hagree (⟨htag, hquoted, hidentifier, hword⟩ |
      ⟨htag, hquoted, hidentifier, c, hmem, hforeign⟩ | ⟨htag, hquoted, hidentifier, hword⟩)
    · exact ((hagree _).mp ⟨hword, _, htag, hquoted⟩).1 hidentifier
    · obtain ⟨-, tag', htag', hquoted'⟩ := (hagree _).mpr ⟨hidentifier, _, htag, hquoted⟩
      have hserver : IsServerTag foreign tag' := htag'.server
      obtain rfl := hquoted.tag_eq hquoted' htag.not_mem_dollar hserver.not_mem_dollar
      exact Nat.not_le_of_lt hforeign (htag'.toNat_le c hmem)
    · have hfree := ((hagree _).mpr ⟨hidentifier, _, htag, hquoted⟩).1
      rw [hword] at hfree
      cases hfree
  · intro hnot e
    constructor
    · rintro ⟨hword, tag, htag, hquoted⟩
      exact ⟨fun hidentifier => hnot (.identifier htag hquoted hidentifier hword), tag, htag.server,
        hquoted⟩
    · rintro ⟨hidentifier, tag, htag, hquoted⟩
      refine ⟨Bool.eq_false_iff.mpr fun hword => hnot (.number htag hquoted hidentifier hword), tag,
        htag.ascii fun c hmem => Nat.le_of_not_lt fun hforeign => ?_, hquoted⟩
      exact hnot (.foreignTag htag hquoted hidentifier ⟨c, hmem, hforeign⟩)

/-- What is misread is a dollar sign. -/
theorem Misread.dollar (h : Misread foreign text s i) : text[i]? = some '$' := by
  obtain ⟨tag, e, hquoted⟩ : ∃ tag e, QuotedWith tag text i e := by
    rcases h with ⟨_, hquoted, _⟩ | ⟨_, hquoted, _⟩ | ⟨_, hquoted, _⟩ <;> exact ⟨_, _, hquoted⟩
  obtain ⟨rest, hrest⟩ := hquoted.opens
  rw [← List.head?_drop, ← hrest]
  rfl

/-- At the start of an ASCII text no dollar sign is misread. -/
theorem not_misread_zero (hascii : ∀ c ∈ text, c.toNat ≤ 127) : ¬ Misread foreign text s 0 := by
  rintro (⟨_, _, ⟨before, word, htext, hword, _⟩, _⟩ | ⟨_, hquoted, _, c, hmem, hforeign⟩ |
    ⟨_, _, _, hword⟩)
  · have hempty : word = [] := by simp_all
    rw [hempty] at hword
    cases hword
  · have hin : c ∈ text :=
      hquoted.opens.subset (List.mem_cons_of_mem _ (List.mem_append_left _ hmem))
    exact Nat.not_le_of_lt hforeign (hascii c hin)
  · cases hword

/-- Elsewhere they agree. -/
theorem agree_of_ne_dollar (hc : text[i]? ≠ some '$') :
    IsRegion text s i e ↔ ServerOpens foreign text s i e := by
  rw [ServerOpens, if_neg hc]

/-! ## Two scans -/

section

variable {Opens Opens' : Nat → Nat → Nat → Prop}

/-- Under rules that agree along a scan, the other scan comes to the same places. -/
theorem scans_iff_of_agree (h : ∀ s i, Scans text Opens s i → ∀ e, Opens s i e ↔ Opens' s i e) :
    Scans text Opens s i ↔ Scans text Opens' s i := by
  constructor
  · intro hscan
    induction hscan with
    | start => exact .start
    | region hscan hopens ih => exact ih.region ((h _ _ hscan _).mp hopens)
    | char hscan hi hclosed ih =>
      exact ih.char hi fun e hopens => hclosed e ((h _ _ hscan e).mpr hopens)
  · intro hscan
    induction hscan with
    | start => exact .start
    | region _ hopens ih => exact ih.region ((h _ _ ih _).mpr hopens)
    | char _ hi hclosed ih =>
      exact ih.char hi fun e hopens => hclosed e ((h _ _ ih e).mp hopens)

theorem inRegion_iff_of_agree (h : ∀ s i, Scans text Opens s i → ∀ e, Opens s i e ↔ Opens' s i e) :
    InRegion text Opens i ↔ InRegion text Opens' i := by
  constructor
  · rintro ⟨s, a, e, hscan, hopens, hin⟩
    exact ⟨s, a, e, (scans_iff_of_agree h).mp hscan, (h s a hscan e).mp hopens, hin⟩
  · rintro ⟨s, a, e, hscan, hopens, hin⟩
    have hscan := (scans_iff_of_agree h).mpr hscan
    exact ⟨s, a, e, hscan, (h s a hscan e).mpr hopens, hin⟩

end

/-- At a dollar sign the scanner opens a dollar quote just if no word runs into it and an ASCII tag
stands there with its delimiter, and goes on just past the next delimiter. This is what the server
does, just if the dollar sign is not misread. A text whose scan comes to no misread dollar sign has
its markers where the server has them. -/
theorem dollarQuotes_open (foreign : Char → Bool) (sql : String) :
    (∀ s i, sql.toList[i]? = some '$' →
      (∀ e, IsRegion sql.toList s i e ↔ endsInWord (sql.toList.take i).reverse = false ∧
        ∃ tag, IsTag tag ∧ QuotedWith tag sql.toList i e) ∧
      ((∀ e, IsRegion sql.toList s i e ↔ ServerOpens foreign sql.toList s i e) ↔
        ¬ Misread foreign sql.toList s i)) ∧
    ((∀ s i, Scans sql.toList (IsRegion sql.toList) s i → ¬ Misread foreign sql.toList s i) →
      ∀ i, i ∈ markerPlaces sql ↔
        sql.toList[i]? = some '?' ∧ ¬ InRegion sql.toList (ServerOpens foreign sql.toList) i) := by
  refine ⟨fun s i hc => ⟨fun e => regionEnd?_dollar hc, agree_iff_not_misread hc⟩, ?_⟩
  intro hnone i
  have hagree : ∀ s i, Scans sql.toList (IsRegion sql.toList) s i →
      ∀ e, IsRegion sql.toList s i e ↔ ServerOpens foreign sql.toList s i e := by
    intro s i hscan e
    by_cases hc : sql.toList[i]? = some '$'
    · exact (agree_iff_not_misread hc).mpr (hnone s i hscan) e
    · exact agree_of_ne_dollar hc
  rw [mem_markerPlaces, inRegion_iff_of_agree hagree]

/-- A dollar quote with an ASCII tag and a marker behind it are read, but not the dollar signs of a
name, where the scanner opens a dollar quote. -/
theorem tripleDollar_misread :
    (∀ i, i ∈ markerPlaces "$a$?$a$,?" ↔ "$a$?$a$,?".toList[i]? = some '?' ∧
      ¬ InRegion "$a$?$a$,?".toList (ServerOpens (fun _ => true) "$a$?$a$,?".toList) i) ∧
    IsRegion "a$$$,?".toList 0 2 6 ∧ Misread (fun _ => true) "a$$$,?".toList 0 2 := by
  have hread : ∀ s i, Scans "$a$?$a$,?".toList (IsRegion "$a$?$a$,?".toList) s i →
      ¬ Misread (fun _ => true) "$a$?$a$,?".toList s i := by
    intro s i hscan hmisread
    rcases Nat.eq_zero_or_pos i with rfl | hpos
    · exact not_misread_zero (by simp) hmisread
    -- the scan goes on behind the dollar quote, and there is no dollar sign left
    · have hbehind : 7 ≤ i := Scans.start.nextPlace_le hscan hpos
      have hleft : '$' ∈ "$a$?$a$,?".toList.drop 7 :=
        List.mem_of_getElem? (i := i - 7) (by
          rw [List.getElem?_drop, Nat.add_sub_cancel' hbehind]
          exact hmisread.dollar)
      exact absurd hleft (by decide)
  have hdollar : "a$$$,?".toList[2]? = some '$' := rfl
  have hregion : IsRegion "a$$$,?".toList 0 2 6 := by
    unfold IsRegion
    cbv
  have hidentifier : EndsInIdentifier (fun _ => true) (("a$$$,?".toList.drop 0).take 2) :=
    ⟨[], ['a', '$'], rfl, .mk rfl (by simp), by simp⟩
  refine ⟨(dollarQuotes_open (fun _ => true) "$a$?$a$,?").2 hread, hregion, ?_⟩
  by_contra hnot
  have hagree := ((dollarQuotes_open (fun _ => true) "a$$$,?").1 0 2 hdollar).2.mpr hnot
  have hserver := (hagree 6).mp hregion
  rw [ServerOpens, if_pos hdollar] at hserver
  exact hserver.1 hidentifier

end PgWrite
