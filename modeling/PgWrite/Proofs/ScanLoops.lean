import Mathlib.Data.List.Infix
import PgWrite.Proofs.DollarQuotes

/-!
# The loops of the scanner

The scanner as loops over the places of a text: one looks for the end of what is quoted, one for the
end of a comment, and one goes over the text from region to region. A turn of a loop may go two
places further, and it fails if it reads a character outside the text. No turn fails, and every turn
that goes on goes to a later place, so each loop ends within one turn more than there are
characters, and it ends with the text where nothing closes. What the loops find are the regions and
the segments of the text, and the segments are the text.
-/

namespace PgWrite

/-! ## Loops -/

/-- What a loop comes to within so many turns. A turn goes on in another state, leaves with a
result, or fails, and then the loop comes to nothing, as it does if it takes more turns. -/
def runFor {σ ρ : Type} (turn : σ → Option (σ ⊕ ρ)) : Nat → σ → Option ρ
  | 0, _ => none
  | turns + 1, s => (turn s).bind fun
    | .inl next => runFor turn turns next
    | .inr result => some result

section

variable {σ ρ : Type} {turn : σ → Option (σ ⊕ ρ)} {turns : Nat} {s next : σ} {result : ρ}

theorem runFor_next (h : turn s = some (.inl next)) (hturns : 0 < turns) :
    runFor turn turns s = runFor turn (turns - 1) next := by
  obtain ⟨turns, rfl⟩ := Nat.exists_eq_add_one_of_ne_zero (Nat.ne_of_gt hturns)
  rw [runFor, h, Option.bind_some, Nat.add_sub_cancel]

theorem runFor_leave (h : turn s = some (.inr result)) (hturns : 0 < turns) :
    runFor turn turns s = some result := by
  obtain ⟨turns, rfl⟩ := Nat.exists_eq_add_one_of_ne_zero (Nat.ne_of_gt hturns)
  rw [runFor, h, Option.bind_some]

end

/-- No turn fails. A turn within the text goes on at a later place, or leaves with a place behind
the one where it started; a turn behind the text leaves with its end. -/
def Advances {σ : Type} (length : Nat) (place : σ → Nat) (turn : σ → Option (σ ⊕ Nat)) : Prop :=
  ∀ s, (∃ next, turn s = some (.inl next) ∧ place s < length ∧ place s < place next) ∨
    ∃ e, turn s = some (.inr e) ∧ min (place s + 1) length ≤ e ∧ e ≤ length

/-- A loop that advances ends within one turn more than there are places left. -/
theorem Advances.exists_runFor {σ : Type} {length : Nat} {place : σ → Nat}
    {turn : σ → Option (σ ⊕ Nat)} (h : Advances length place turn) {turns : Nat} (s : σ)
    (hturns : length - place s < turns) :
    ∃ e, runFor turn turns s = some e ∧ min (place s + 1) length ≤ e ∧ e ≤ length := by
  induction turns generalizing s with
  | zero => omega
  | succ turns ih =>
    rcases h s with ⟨next, hnext, hlt, hlater⟩ | ⟨e, hleave, hbounds⟩
    · obtain ⟨e, he, hlow, hhigh⟩ := ih next (by omega)
      refine ⟨e, ?_, by omega, hhigh⟩
      rw [runFor_next hnext (Nat.succ_pos turns)]
      exact he
    · exact ⟨e, runFor_leave hleave (Nat.succ_pos turns), hbounds⟩

/-! ## Reading a text by place -/

section

variable (text : List Char)

/-- The characters stand in the text from a place on; a place outside the text is no failure. -/
def startsAt (needle : List Char) (i : Nat) : Bool :=
  needle.isPrefixOf (text.drop i)

/-- The number of characters before the first occurrence. -/
def occurrence? (needle : List Char) (text : List Char) : Option Nat :=
  text.tails.findIdx? (needle.isPrefixOf ·)

/-- The place of the first occurrence from a place on. -/
def placeFrom? (needle : List Char) (i : Nat) : Option Nat :=
  (occurrence? needle (text.drop i)).map (i + ·)

/-- An `E` stands before the place, and no word runs into it. -/
def escapesAt (i : Nat) : Option Bool :=
  if i = 0 then some false
  else text[i - 1]?.bind fun c =>
    if c = 'E' || c = 'e' then
      if i = 1 then some true else text[i - 2]?.map fun d => !Text.isWordChar d
    else some false

/-- A word character stands before the place. -/
def wordBefore (i : Nat) : Option Bool :=
  if i = 0 then some false else text[i - 1]?.map Text.isWordChar

/-- A quote stands behind the place. -/
def quoteBehind (quote : Char) (i : Nat) : Option Bool :=
  if i + 1 < text.length then text[i + 1]?.map fun d => decide (d = quote) else some false

/-! ## The loops -/

/-- A turn of the search for the end of what is quoted. -/
def quotedTurn (quote : Char) (escapes : Bool) (i : Nat) : Option (Nat ⊕ Nat) :=
  if i < text.length then
    text[i]?.bind fun c =>
      if escapes && c = '\\' then some (.inl (i + 2))
      else if c = quote then
        (quoteBehind text quote i).map fun doubled => if doubled then .inl (i + 2) else .inr (i + 1)
      else some (.inl (i + 1))
  else some (.inr text.length)

/-- A turn of the search for the end of a comment, with the number of comments that are open. -/
def commentTurn : Nat × Int → Option ((Nat × Int) ⊕ Nat)
  | (i, depth) =>
    if i < text.length then
      if startsAt text ['/', '*'] i then some (.inl (i + 2, depth + 1))
      else if startsAt text ['*', '/'] i then
        if depth - 1 = 0 then some (.inr (i + 2)) else some (.inl (i + 2, depth - 1))
      else some (.inl (i + 1, depth))
    else some (.inr text.length)

/-- The end of the region that opens at a place, looked for in at most so many turns; a failure is
told from a place where no region opens. -/
def opaqueEnd (turns : Nat) (i : Nat) : Option (Option Nat) :=
  text[i]?.bind fun c =>
    if c = '\'' then
      (escapesAt text i).bind fun escapes =>
        (runFor (quotedTurn text c escapes) turns (i + 1)).map some
    else if c = '"' then (runFor (quotedTurn text c false) turns (i + 1)).map some
    else if startsAt text ['-', '-'] i then
      some (some ((placeFrom? text ['\n'] i).getD text.length))
    else if startsAt text ['/', '*'] i then (runFor (commentTurn text) turns (i, 0)).map some
    else if c = '$' then
      (wordBefore text i).map fun word =>
        if word then none
        else (dollarTag? (text.drop (i + 1))).map fun closing =>
          ((placeFrom? text ('$' :: closing) (i + ('$' :: closing).length)).map
            (· + ('$' :: closing).length)).getD text.length
    else some none

/-- A turn of the scan: behind the region that opens at the place, or one character further. The
segments that the scan has come by are kept. -/
def scanTurn (turns : Nat) :
    Nat × List Segment → Option ((Nat × List Segment) ⊕ List Segment)
  | (i, passed) =>
    if i < text.length then
      (opaqueEnd text turns i).bind fun
        | some e => some (.inl (e, passed ++ [.region ((text.take e).drop i)]))
        | none => text[i]?.map fun c => .inl (i + 1, passed ++
            [if c = '?' then .marker (startsAt text [':'] (i + 1)) else .plain c])
    else some (.inr passed)

end

/-! ## Every loop advances -/

variable {text : List Char} {i : Nat}

theorem length_le_of_startsAt {needle : List Char} (hne : needle ≠ [])
    (h : startsAt text needle i = true) : i + needle.length ≤ text.length := by
  have hle := (List.isPrefixOf_iff_prefix.mp h).length_le
  have hpos := List.length_pos_iff.mpr hne
  rw [List.length_drop] at hle
  omega

theorem exists_quoteBehind (text : List Char) (quote : Char) (i : Nat) :
    ∃ doubled, quoteBehind text quote i = some doubled := by
  unfold quoteBehind
  split
  · next h => exact ⟨_, by rw [List.getElem?_eq_getElem h, Option.map_some]⟩
  · exact ⟨false, rfl⟩

/-- The search for the end of what is quoted advances, also over a backslash at the very end. -/
theorem quotedTurn_advances (text : List Char) (quote : Char) (escapes : Bool) :
    Advances text.length id (quotedTurn text quote escapes) := by
  intro i
  rw [quotedTurn, id]
  by_cases hi : i < text.length
  · rw [if_pos hi, List.getElem?_eq_getElem hi, Option.bind_some]
    split
    · exact .inl ⟨i + 2, rfl, hi, by rw [id]; omega⟩
    · split
      · obtain ⟨doubled, hdoubled⟩ := exists_quoteBehind text quote i
        rw [hdoubled, Option.map_some]
        cases doubled with
        | true => exact .inl ⟨i + 2, rfl, hi, by rw [id]; omega⟩
        | false => exact .inr ⟨i + 1, rfl, by omega, hi⟩
      · exact .inl ⟨i + 1, rfl, hi, by rw [id]; omega⟩
  · rw [if_neg hi]
    exact .inr ⟨text.length, rfl, by omega, Nat.le_refl _⟩

/-- The search for the end of a comment advances, however many comments are open. -/
theorem commentTurn_advances (text : List Char) :
    Advances text.length Prod.fst (commentTurn text) := by
  rintro ⟨i, depth⟩
  rw [commentTurn]
  by_cases hi : i < text.length
  · rw [if_pos hi]
    split
    · exact .inl ⟨_, rfl, hi, by dsimp only; omega⟩
    · split
      · next hcloses =>
        have hle : i + 2 ≤ text.length := length_le_of_startsAt (List.cons_ne_nil _ _) hcloses
        split
        · exact .inr ⟨_, rfl, by dsimp only; omega, hle⟩
        · exact .inl ⟨_, rfl, hi, by dsimp only; omega⟩
      · exact .inl ⟨_, rfl, hi, by dsimp only; omega⟩
  · rw [if_neg hi]
    exact .inr ⟨text.length, rfl, by dsimp only; omega, Nat.le_refl _⟩

/-! ## What the loops find -/

theorem startsAt_of_drop {needle rest : List Char} (h : text.drop i = rest) :
    startsAt text needle i = needle.isPrefixOf rest := by
  rw [startsAt, h]

/-- The characters from a place on, read one by one. -/
theorem read_of_drop {c : Char} {rest : List Char} (h : text.drop i = c :: rest) :
    i < text.length ∧ text[i]? = some c ∧ text.drop (i + 1) = rest := by
  refine ⟨?_, ?_, ?_⟩
  · by_contra hge
    rw [List.drop_eq_nil_of_le (Nat.le_of_not_lt hge)] at h
    cases h
  · rw [← List.head?_drop, h]
    rfl
  · rw [← List.drop_drop, h]
    rfl

/-- Two characters are read at once. -/
theorem read_two_of_drop {c d : Char} {rest : List Char} (h : text.drop i = c :: d :: rest) :
    i + 2 ≤ text.length ∧ text.drop (i + 2) = rest := by
  obtain ⟨-, -, hbehind⟩ := read_of_drop h
  obtain ⟨hlt, -, hrest⟩ := read_of_drop hbehind
  exact ⟨hlt, hrest⟩

theorem length_of_drop {rest : List Char} (hi : i ≤ text.length) (h : text.drop i = rest) :
    i + rest.length = text.length := by
  rw [← h, List.length_drop]
  omega

/-- The end of a text, counted from behind its first character. -/
theorem add_length_cons (i : Nat) (c : Char) (rest : List Char) :
    i + (c :: rest).length = i + 1 + rest.length := by
  rw [List.length_cons, Nat.add_right_comm, Nat.add_assoc]

theorem quoteBehind_eq {quote : Char} {rest : List Char} (h : text.drop (i + 1) = rest) :
    quoteBehind text quote i = some (decide (rest.head? = some quote)) := by
  rw [quoteBehind, ← h, List.head?_drop]
  split
  · next hi =>
    rw [List.getElem?_eq_getElem hi, Option.map_some]
    simp
  · next hi =>
    rw [List.getElem?_eq_none (Nat.le_of_not_lt hi)]
    rfl

theorem quotedTurn_char {quote c : Char} {escapes : Bool} {rest : List Char}
    (h : text.drop i = c :: rest) :
    quotedTurn text quote escapes i = some (
      if escapes && c = '\\' then .inl (i + 2)
      else if c = quote then if rest.head? = some quote then .inl (i + 2) else .inr (i + 1)
      else .inl (i + 1)) := by
  obtain ⟨hi, hc, hrest⟩ := read_of_drop h
  rw [quotedTurn, if_pos hi, hc, Option.bind_some, quoteBehind_eq hrest]
  split
  · rfl
  · split
    · simp
    · rfl

theorem quotedTurn_end {quote : Char} {escapes : Bool} (h : text.length ≤ i) :
    quotedTurn text quote escapes i = some (.inr text.length) := by
  rw [quotedTurn, if_neg (Nat.not_lt.mpr h)]

/-- The search ends behind the closing quote. -/
theorem runFor_quotedTurn {quote : Char} {escapes : Bool} {rest : List Char} {turns : Nat}
    (hi : i ≤ text.length) (h : text.drop i = rest) (hturns : rest.length < turns) :
    runFor (quotedTurn text quote escapes) turns i =
      some (i + (closeQuoted quote escapes rest).1.length) := by
  fun_induction closeQuoted quote escapes rest generalizing i turns with
  | case1 =>
    have hlength : i = text.length := length_of_drop hi h
    rw [runFor_leave (quotedTurn_end (Nat.le_of_eq hlength.symm)) hturns, ← hlength]
    rfl
  | case2 c =>
    have hlength : i + 1 = text.length := length_of_drop hi h
    have hpos : 0 < turns := Nat.zero_lt_of_lt hturns
    have hturn : quotedTurn text quote escapes i = _ := quotedTurn_char h
    have hend {j : Nat} (hj : i < j) :
        runFor (quotedTurn text quote escapes) (turns - 1) j = some (i + 1) := by
      rw [hlength]
      exact runFor_leave (quotedTurn_end (by omega)) (Nat.sub_pos_of_lt hturns)
    -- a backslash at the very end leads behind the end of the text
    split at hturn
    · rw [runFor_next hturn hpos, hend (by omega)]
      rfl
    · split at hturn
      · exact runFor_leave hturn hpos
      · rw [runFor_next hturn hpos, hend (by omega)]
        rfl
  | case3 c d rest hskip body left hclose ih =>
    have hturn : quotedTurn text quote escapes i = some (.inl (i + 2)) := by
      rw [quotedTurn_char h]
      split
      · rfl
      · simp_all
    obtain ⟨hlt, hrest⟩ := read_two_of_drop h
    rw [List.length_cons, List.length_cons] at hturns
    rw [runFor_next hturn (by omega), ih hlt hrest (by omega), hclose]
    simp only [add_length_cons]
  | case4 d rest hskip =>
    have hturn : quotedTurn text quote escapes i = some (.inr (i + 1)) := by
      rw [quotedTurn_char h]
      simp_all
    exact runFor_leave hturn (Nat.zero_lt_of_lt hturns)
  | case5 c d rest hskip hquote body left hclose ih =>
    have hturn : quotedTurn text quote escapes i = some (.inl (i + 1)) := by
      rw [quotedTurn_char h]
      simp_all
    obtain ⟨hlt, -, hrest⟩ := read_of_drop h
    rw [List.length_cons] at hturns
    rw [runFor_next hturn (by omega), ih hlt hrest (by omega), hclose]
    simp only [add_length_cons]

theorem isPrefixOf_pair {a b c d : Char} {rest : List Char} :
    [a, b].isPrefixOf (c :: d :: rest) = true ↔ c = a ∧ d = b := by
  rw [List.isPrefixOf_iff_prefix, List.cons_prefix_cons, List.cons_prefix_cons, eq_comm,
    eq_comm (a := b), and_iff_left (List.nil_prefix)]

theorem commentTurn_end {depth : Int} (h : text.length ≤ i) :
    commentTurn text (i, depth) = some (.inr text.length) := by
  rw [commentTurn, if_neg (Nat.not_lt.mpr h)]

theorem commentTurn_other {depth : Int} {rest : List Char} (h : text.drop i = rest)
    (hne : rest ≠ []) (hopens : ['/', '*'].isPrefixOf rest = false)
    (hcloses : ['*', '/'].isPrefixOf rest = false) :
    commentTurn text (i, depth) = some (.inl (i + 1, depth)) := by
  obtain ⟨c, tail, rfl⟩ := List.exists_cons_of_ne_nil hne
  rw [commentTurn, if_pos (read_of_drop h).1, startsAt_of_drop h, startsAt_of_drop h, hopens,
    hcloses]
  rfl

theorem commentTurn_opens {depth : Int} {rest : List Char} (h : text.drop i = '/' :: '*' :: rest) :
    commentTurn text (i, depth) = some (.inl (i + 2, depth + 1)) := by
  rw [commentTurn, if_pos (read_of_drop h).1, startsAt_of_drop h]
  rfl

theorem commentTurn_closes {depth : Int} {rest : List Char}
    (h : text.drop i = '*' :: '/' :: rest) :
    commentTurn text (i, depth) =
      some (if depth - 1 = 0 then .inr (i + 2) else .inl (i + 2, depth - 1)) := by
  rw [commentTurn, if_pos (read_of_drop h).1, startsAt_of_drop h, startsAt_of_drop h,
    apply_ite some]
  rfl

/-- The search ends behind the comment that is open, with those inside it. -/
theorem runFor_commentTurn {depth : Nat} {rest : List Char} {turns : Nat}
    (hi : i ≤ text.length) (h : text.drop i = rest) (hturns : rest.length < turns) :
    runFor (commentTurn text) turns (i, depth + 1) =
      some (i + (closeComment depth rest).1.length) := by
  fun_induction closeComment depth rest generalizing i turns with
  | case1 =>
    have hlength : i = text.length := length_of_drop hi h
    rw [runFor_leave (commentTurn_end (Nat.le_of_eq hlength.symm)) hturns, ← hlength]
    rfl
  | case2 depth c =>
    have hlength : i + 1 = text.length := length_of_drop hi h
    have hturn : commentTurn text (i, depth + 1) = some (.inl (i + 1, depth + 1)) :=
      commentTurn_other h (List.cons_ne_nil _ _) (by simp [List.isPrefixOf])
        (by simp [List.isPrefixOf])
    have hend : commentTurn text (i + 1, depth + 1) = some (.inr (i + 1)) := by
      rw [commentTurn_end (Nat.le_of_eq hlength.symm), hlength]
    rw [runFor_next hturn (Nat.zero_lt_of_lt hturns)]
    exact runFor_leave hend (Nat.sub_pos_of_lt hturns)
  | case3 depth c d rest hopens body left hclose ih =>
    obtain ⟨rfl, rfl⟩ := hopens
    obtain ⟨hlt, hrest⟩ := read_two_of_drop h
    rw [List.length_cons, List.length_cons] at hturns
    have hrun : runFor (commentTurn text) (turns - 1) (i + 2, (depth : Int) + 1 + 1) = _ :=
      ih hlt hrest (by omega)
    rw [runFor_next (commentTurn_opens h) (by omega), hrun, hclose]
    simp only [add_length_cons]
  | case4 c d rest _ hcloses =>
    obtain ⟨rfl, rfl⟩ := hcloses
    have hturn : commentTurn text (i, ((0 : Nat) : Int) + 1) = some (.inr (i + 2)) := by
      rw [commentTurn_closes h, if_pos (by simp)]
    exact runFor_leave hturn (Nat.zero_lt_of_lt hturns)
  | case5 c d rest _ hcloses depth body left hclose ih =>
    obtain ⟨rfl, rfl⟩ := hcloses
    obtain ⟨hlt, hrest⟩ := read_two_of_drop h
    rw [List.length_cons, List.length_cons] at hturns
    have hturn : commentTurn text (i, (depth.succ : Int) + 1) = some (.inl (i + 2, depth + 1)) := by
      rw [commentTurn_closes h, Int.add_sub_cancel, if_neg (by omega), Nat.cast_succ]
    rw [runFor_next hturn (by omega), ih hlt hrest (by omega), hclose]
    simp only [add_length_cons]
  | case6 depth c d rest hopens hcloses body left hclose ih =>
    obtain ⟨hlt, -, hrest⟩ := read_of_drop h
    rw [List.length_cons] at hturns
    have hturn : commentTurn text (i, depth + 1) = some (.inl (i + 1, depth + 1)) :=
      commentTurn_other h (List.cons_ne_nil _ _)
        (Bool.eq_false_iff.mpr fun hstarts => hopens (isPrefixOf_pair.mp hstarts))
        (Bool.eq_false_iff.mpr fun hstarts => hcloses (isPrefixOf_pair.mp hstarts))
    rw [runFor_next hturn (by omega), ih hlt hrest (by omega), hclose]
    simp only [add_length_cons]

/-! ## The characters before a place -/

theorem escapesAt_eq (hi : i < text.length) :
    escapesAt text i = some (opensEscapes (text.take i).reverse) := by
  match i with
  | 0 => rfl
  | 1 =>
    have h := List.getElem?_eq_getElem (Nat.lt_of_succ_lt hi)
    rw [reverse_take_of_getElem? h, escapesAt, if_neg Nat.one_ne_zero, Nat.sub_self, h,
      Option.bind_some, if_pos rfl, List.take_zero, List.reverse_nil, opensEscapes]
    split <;> simp_all
  | i + 2 =>
    have h := List.getElem?_eq_getElem (Nat.lt_of_succ_lt hi)
    have h' := List.getElem?_eq_getElem (Nat.lt_of_succ_lt (Nat.lt_of_succ_lt hi))
    rw [reverse_take_of_getElem? h, reverse_take_of_getElem? h', escapesAt,
      if_neg (Nat.succ_ne_zero _)]
    simp only [Nat.add_sub_cancel, Nat.add_one_sub_one, h, h', Option.bind_some, opensEscapes,
      Option.map_some]
    split <;> simp_all

theorem wordBefore_eq (hi : i < text.length) :
    wordBefore text i = some (endsInWord (text.take i).reverse) := by
  cases i with
  | zero => rfl
  | succ i =>
    have h := List.getElem?_eq_getElem (Nat.lt_of_succ_lt hi)
    rw [reverse_take_of_getElem? h, wordBefore, if_neg (Nat.succ_ne_zero i), Nat.add_sub_cancel, h,
      Option.map_some]
    rfl

/-! ## Searches that may fail -/

/-- A delimiter that is missing closes at the end of the text. -/
theorem length_splitThrough {needle : List Char} (hne : needle ≠ []) (text : List Char) :
    (Text.splitThrough needle text).1.length =
      ((occurrence? needle text).map (· + needle.length)).getD text.length := by
  induction text with
  | nil =>
    obtain ⟨c, rest, rfl⟩ := List.exists_cons_of_ne_nil hne
    rfl
  | cons c rest ih =>
    rw [Text.splitThrough, occurrence?, List.tails, List.findIdx?_cons]
    split
    · next hstarts =>
      have hle := (List.isPrefixOf_iff_prefix.mp hstarts).length_le
      rw [List.length_take, Nat.min_eq_left hle, Option.map_some, Option.getD_some, Nat.zero_add]
    · rw [List.length_cons, ih, ← occurrence?]
      cases occurrence? needle rest with
      | none => rfl
      | some k => exact Nat.add_right_comm k needle.length 1

/-- A line that is not ended goes on to the end of the text. -/
theorem length_takeWhile_line (text : List Char) :
    (text.takeWhile (· ≠ '\n')).length = (occurrence? ['\n'] text).getD text.length := by
  induction text with
  | nil => rfl
  | cons c rest ih =>
    rw [occurrence?, List.tails, List.findIdx?_cons, ← occurrence?]
    by_cases hc : c = '\n'
    · subst hc
      rfl
    · have hstarts : ['\n'].isPrefixOf (c :: rest) = false := by
        simp [List.isPrefixOf, Ne.symm hc]
      rw [List.takeWhile_cons_of_pos (by simpa using hc), List.length_cons, ih, hstarts]
      cases occurrence? ['\n'] rest <;> rfl

/-- A search from a place on finds a place behind it, or nothing. -/
theorem getD_placeFrom? (needle : List Char) (hi : i ≤ text.length) (k : Nat) :
    ((placeFrom? text needle i).map (· + k)).getD text.length =
      i + ((occurrence? needle (text.drop i)).map (· + k)).getD (text.drop i).length := by
  rw [placeFrom?, List.length_drop]
  cases occurrence? needle (text.drop i) with
  | none => exact (Nat.add_sub_cancel' hi).symm
  | some n => exact Nat.add_assoc i n k

/-- A line comment ends before the next line, or with the text. -/
theorem line_end (hi : i ≤ text.length) :
    (placeFrom? text ['\n'] i).getD text.length =
      i + ((text.drop i).takeWhile (· ≠ '\n')).length := by
  have h := getD_placeFrom? ['\n'] hi 0
  simp only [Nat.add_zero, Option.map_id'] at h
  rw [h, length_takeWhile_line]

/-- A dollar quote ends behind the next delimiter, or with the text. -/
theorem delimiter_end {needle : List Char} (hne : needle ≠ []) (hi : i ≤ text.length) :
    ((placeFrom? text needle i).map (· + needle.length)).getD text.length =
      i + (Text.splitThrough needle (text.drop i)).1.length := by
  rw [getD_placeFrom? needle hi, length_splitThrough hne]

/-! ## The scanner -/

theorem length_putInFront (front : List Char) (split : List Char × List Char) :
    (putInFront front split).1.length = front.length + split.1.length :=
  List.length_append

/-- The end of a region of a known form. -/
theorem regionEnd?_of_drop {rest front : List Char} {split : List Char × List Char}
    (h : text.drop i = rest)
    (hregion : region? (text.take i).reverse rest = some (putInFront front split)) :
    regionEnd? text i = some (i + front.length + split.1.length) := by
  rw [regionEnd?, h, hregion, Option.map_some, length_putInFront, Nat.add_assoc]

section

variable {turns : Nat} {rest : List Char}

theorem opaqueEnd_literal (h : text.drop i = '\'' :: rest) (hturns : text.length < turns) :
    opaqueEnd text turns i = some (regionEnd? text i) := by
  obtain ⟨hi, hc, hrest⟩ := read_of_drop h
  have hlength : i + 1 + rest.length = text.length := length_of_drop hi hrest
  rw [opaqueEnd, hc, Option.bind_some, if_pos rfl, escapesAt_eq hi, Option.bind_some,
    runFor_quotedTurn hi hrest (by omega), regionEnd?_of_drop h rfl]
  rfl

theorem opaqueEnd_name (h : text.drop i = '"' :: rest) (hturns : text.length < turns) :
    opaqueEnd text turns i = some (regionEnd? text i) := by
  obtain ⟨hi, hc, hrest⟩ := read_of_drop h
  have hlength : i + 1 + rest.length = text.length := length_of_drop hi hrest
  rw [opaqueEnd, hc, Option.bind_some, if_neg (by decide), if_pos rfl,
    runFor_quotedTurn hi hrest (by omega), regionEnd?_of_drop h rfl]
  rfl

theorem opaqueEnd_lineComment (h : text.drop i = '-' :: '-' :: rest) :
    opaqueEnd text turns i = some (regionEnd? text i) := by
  obtain ⟨hi, hc, -⟩ := read_of_drop h
  have hstarts : startsAt text ['-', '-'] i = true := by
    rw [startsAt_of_drop h]
    rfl
  have hline := line_end (Nat.le_of_lt hi)
  rw [h, List.takeWhile_cons_of_pos rfl, List.takeWhile_cons_of_pos rfl] at hline
  rw [opaqueEnd, hc, Option.bind_some, if_neg (by decide), if_neg (by decide), if_pos hstarts,
    regionEnd?_of_drop h rfl, hline]
  simp only [add_length_cons, List.length_nil, Nat.add_zero]

theorem opaqueEnd_blockComment (h : text.drop i = '/' :: '*' :: rest)
    (hturns : text.length < turns) : opaqueEnd text turns i = some (regionEnd? text i) := by
  obtain ⟨hi, hc, -⟩ := read_of_drop h
  obtain ⟨hlt, hrest⟩ := read_two_of_drop h
  have hlength : i + 2 + rest.length = text.length := length_of_drop hlt hrest
  have hstarts : startsAt text ['/', '*'] i = true := by
    rw [startsAt_of_drop h]
    rfl
  have hnoline : ¬ startsAt text ['-', '-'] i = true := by
    rw [startsAt_of_drop h, isPrefixOf_pair]
    decide
  have hrun : runFor (commentTurn text) (turns - 1) (i + 2, ((0 : Nat) : Int) + 1) = _ :=
    runFor_commentTurn hlt hrest (by omega)
  rw [opaqueEnd, hc, Option.bind_some, if_neg (by decide), if_neg (by decide), if_neg hnoline,
    if_pos hstarts, runFor_next (commentTurn_opens h) (by omega), regionEnd?_of_drop h rfl]
  exact congrArg (Option.map some) hrun

theorem opaqueEnd_dollar (h : text.drop i = '$' :: rest) :
    opaqueEnd text turns i = some (regionEnd? text i) := by
  obtain ⟨hi, hc, hrest⟩ := read_of_drop h
  have hnoline : ¬ startsAt text ['-', '-'] i = true := by
    rw [startsAt_of_drop h]
    simp [List.isPrefixOf]
  have hnoblock : ¬ startsAt text ['/', '*'] i = true := by
    rw [startsAt_of_drop h]
    simp [List.isPrefixOf]
  rw [opaqueEnd, hc, Option.bind_some, if_neg (by decide), if_neg (by decide), if_neg hnoline,
    if_neg hnoblock, if_pos rfl, wordBefore_eq hi, Option.map_some, hrest]
  cases hword : endsInWord (text.take i).reverse with
  | true =>
    rw [regionEnd?, h, region?, hword]
    rfl
  | false =>
    cases htag : dollarTag? rest with
    | none =>
      rw [regionEnd?, h, region?_dollar hword, htag]
      rfl
    | some closing =>
      have hregion : region? (text.take i).reverse ('$' :: rest) = _ := region?_dollar hword
      rw [htag] at hregion
      have hbehind : i + ('$' :: closing).length ≤ text.length := by
        have hle := congrArg List.length (take_dollarTag htag)
        have hlength : i + 1 + rest.length = text.length := length_of_drop hi hrest
        rw [List.length_append] at hle
        rw [List.length_cons]
        omega
      have hbody : text.drop (i + ('$' :: closing).length) = rest.drop closing.length := by
        rw [List.length_cons, Nat.add_comm closing.length, ← Nat.add_assoc, ← List.drop_drop, hrest]
      rw [regionEnd?_of_drop h hregion, ← hbody, ← delimiter_end (List.cons_ne_nil _ _) hbehind]
      rfl

/-- Where the scanner opens no region, it looks for the end of none. -/
theorem opaqueEnd_other {c : Char} (h : text.drop i = c :: rest) (hc : c ∉ ['\'', '"', '$'])
    (hnoline : ¬ startsAt text ['-', '-'] i = true)
    (hnoblock : ¬ startsAt text ['/', '*'] i = true) :
    opaqueEnd text turns i = some (regionEnd? text i) := by
  obtain ⟨hi, hread, -⟩ := read_of_drop h
  simp only [List.mem_cons, List.not_mem_nil, or_false, not_or] at hc
  obtain ⟨hliteral, hname, hdollar⟩ := hc
  have hregion : region? (text.take i).reverse (c :: rest) = none := by
    rw [startsAt_of_drop h] at hnoline hnoblock
    unfold region?
    split <;> simp_all
  rw [opaqueEnd, hread, Option.bind_some, if_neg hliteral, if_neg hname, if_neg hnoline,
    if_neg hnoblock, if_neg hdollar, regionEnd?, h, hregion]
  rfl

end

/-- Within a text the loops find the end of the region that opens at a place. -/
theorem opaqueEnd_eq {turns : Nat} (hi : i < text.length) (hturns : text.length < turns) :
    opaqueEnd text turns i = some (regionEnd? text i) := by
  obtain ⟨c, rest, h⟩ : ∃ c rest, text.drop i = c :: rest := ⟨_, _, List.drop_eq_getElem_cons hi⟩
  by_cases hline : startsAt text ['-', '-'] i = true
  · obtain ⟨tail, htail⟩ := List.isPrefixOf_iff_prefix.mp hline
    exact opaqueEnd_lineComment htail.symm
  by_cases hblock : startsAt text ['/', '*'] i = true
  · obtain ⟨tail, htail⟩ := List.isPrefixOf_iff_prefix.mp hblock
    exact opaqueEnd_blockComment htail.symm hturns
  by_cases hc : c ∈ ['\'', '"', '$']
  · simp only [List.mem_cons, List.not_mem_nil, or_false] at hc
    rcases hc with rfl | rfl | rfl
    · exact opaqueEnd_literal h hturns
    · exact opaqueEnd_name h hturns
    · exact opaqueEnd_dollar h
  · exact opaqueEnd_other h hc hline hblock

/-! ## The scan -/

theorem startsAt_colon (text : List Char) (i : Nat) :
    startsAt text [':'] i = decide (text[i]? = some ':') := by
  rw [startsAt, ← List.head?_drop]
  cases text.drop i with
  | nil => rfl
  | cons c rest =>
    by_cases hc : c = ':'
    · subst hc
      rfl
    · simp [List.isPrefixOf, hc, Ne.symm hc]

theorem scanTurn_end {turns : Nat} {passed : List Segment} (h : text.length ≤ i) :
    scanTurn text turns (i, passed) = some (.inr passed) := by
  rw [scanTurn, if_neg (Nat.not_lt.mpr h)]

theorem scanTurn_region {turns e : Nat} {passed : List Segment} (hturns : text.length < turns)
    (h : regionEnd? text i = some e) :
    scanTurn text turns (i, passed) =
      some (.inl (e, passed ++ [.region ((text.drop i).take (e - i))])) := by
  have hbounds := regionEnd?_bounds h
  have hi : i < text.length := Nat.lt_of_lt_of_le hbounds.1 hbounds.2
  rw [scanTurn, if_pos hi, opaqueEnd_eq hi hturns, h, Option.bind_some]
  simp only [List.drop_take]

theorem scanTurn_char {turns : Nat} {passed : List Segment} {c : Char}
    (hturns : text.length < turns) (hc : text[i]? = some c) (h : regionEnd? text i = none) :
    scanTurn text turns (i, passed) = some (.inl (i + 1, passed ++
      [if c = '?' then .marker (text[i + 1]? = some ':') else .plain c])) := by
  have hi : i < text.length := (List.getElem?_eq_some_iff.mp hc).1
  rw [scanTurn, if_pos hi, opaqueEnd_eq hi hturns, h, Option.bind_some, hc, Option.map_some,
    startsAt_colon]

/-- From any place on the scan comes by the segments of the text. -/
theorem runFor_scanTurn {turns left : Nat} (hturns : text.length < turns) (passed : List Segment)
    (hleft : text.length - i < left) :
    runFor (scanTurn text turns) left (i, passed) = some (passed ++ segmentsAt text i) := by
  have hpos : 0 < left := Nat.zero_lt_of_lt hleft
  induction i using scan_induction text generalizing left passed with
  | ended i hi =>
    rw [runFor_leave (scanTurn_end hi) hpos, segmentsAt_end hi, List.append_nil]
  | region i e h ih =>
    have hbounds := regionEnd?_bounds h
    rw [runFor_next (scanTurn_region hturns h) hpos, ih _ (by omega) (by omega),
      segmentsAt_region h, List.append_assoc]
    rfl
  | char i c hc h ih =>
    have hi : i < text.length := (List.getElem?_eq_some_iff.mp hc).1
    rw [runFor_next (scanTurn_char hturns hc h) hpos, ih _ (by omega) (by omega),
      segmentsAt_char hc h, List.append_assoc]
    rfl

/-- With more turns than there are characters every loop of the scanner ends, and no turn of it
reads outside the text: the search for the end of what is quoted and of a comment, from wherever it
starts, with a place in the text that is behind its start; the search for the end of the region that
opens at a place, which ends behind the place and not behind the text; and the scan, which comes by
the segments of the text. These are the text, in order and with nothing left out. -/
theorem scan_advances (sql : String) {turns : Nat} (hturns : sql.length < turns) :
    (∀ i < sql.length,
      opaqueEnd sql.toList turns i = some (regionEnd? sql.toList i) ∧
      ∀ e, opaqueEnd sql.toList turns i = some (some e) → i < e ∧ e ≤ sql.length) ∧
    (∀ (quote : Char) (escapes : Bool), ∀ start < sql.length, ∃ e,
      runFor (quotedTurn sql.toList quote escapes) turns (start + 1) = some e ∧
        start < e ∧ e ≤ sql.length) ∧
    (∀ depth : Int, ∀ start < sql.length, ∃ e,
      runFor (commentTurn sql.toList) turns (start, depth) = some e ∧
        start < e ∧ e ≤ sql.length) ∧
    runFor (scanTurn sql.toList turns) turns (0, []) = some (segments sql) ∧
    (segments sql).flatMap Segment.source = sql.toList := by
  rw [← String.length_toList] at hturns ⊢
  refine ⟨fun i hi => ?_, ?_, ?_, ?_, flatMap_source_segmentsFrom [] sql.toList⟩
  · have hend := opaqueEnd_eq hi hturns
    refine ⟨hend, fun e he => ?_⟩
    rw [hend, Option.some.injEq] at he
    exact regionEnd?_bounds he
  · intro quote escapes start hstart
    obtain ⟨e, he, hlow, hhigh⟩ := (quotedTurn_advances sql.toList quote escapes).exists_runFor
      (start + 1) (Nat.lt_of_le_of_lt (Nat.sub_le _ _) hturns)
    rw [id] at hlow
    exact ⟨e, he, by omega, hhigh⟩
  · intro depth start hstart
    obtain ⟨e, he, hlow, hhigh⟩ := (commentTurn_advances sql.toList).exists_runFor
      (start, depth) (Nat.lt_of_le_of_lt (Nat.sub_le _ _) hturns)
    exact ⟨e, he, by dsimp only at hlow; omega, hhigh⟩
  · exact runFor_scanTurn hturns [] (by omega)

/-- A marker, and behind it an escape literal whose last character is a backslash. -/
def openLiteral : String :=
  "? E'?\\"

/-- A comment that is closed once too few. -/
def openComment : String :=
  "?/*/*?*/"

/-- What nothing closes goes on to the end of the text, with the marker inside it. -/
theorem openTexts_scanned :
    opaqueEnd openLiteral.toList 7 3 = some (some 6) ∧
    runFor (scanTurn openLiteral.toList 7) 7 (0, []) =
      some [.marker false, .plain ' ', .plain 'E', .region ['\'', '?', '\\']] ∧
    opaqueEnd openComment.toList 9 1 = some (some 8) ∧
    runFor (scanTurn openComment.toList 9) 9 (0, []) =
      some [.marker false, .region "/*/*?*/".toList] := by
  obtain ⟨hliteral, -, -, hliteralScan, -⟩ := scan_advances openLiteral (Nat.lt_succ_self 6)
  obtain ⟨hcomment, -, -, hcommentScan, -⟩ := scan_advances openComment (Nat.lt_succ_self 8)
  refine ⟨?_, ?_, ?_, ?_⟩
  · rw [(hliteral 3 (by decide)).1]
    decide
  · rw [hliteralScan]
    cbv
  · rw [(hcomment 1 (by decide)).1]
    decide
  · rw [hcommentScan]
    cbv

end PgWrite
