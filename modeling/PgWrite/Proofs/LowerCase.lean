import PgWrite.Text.Lowercase
import PgWrite.Text.Scan

/-!
# Lower case in context

Only the capital sigma looks at its neighbours when it is put into lower case. So a text without
one has the same small letters wherever it stands, and what is found in them is found in the small
letters of every text around it. The sigma does not see the case of the letters of ASCII beside it,
so texts that differ in that case alone have the same small letters.
-/

namespace PgWrite.Text

/-- Every character but the capital sigma has the same small form between any neighbours. -/
theorem lowerChar_congr {c : Char} (h : c ≠ 'Σ') (before after before' after' : List Char) :
    lowerChar before c after = lowerChar before' c after' := by
  unfold lowerChar
  simp only [if_neg h]

/-- Text without a capital sigma is put into lower case by itself, whatever stands around it. -/
theorem lowerFrom_append {text : List Char} (h : 'Σ' ∉ text) (before before' after : List Char) :
    lowerFrom before (text ++ after) =
      lowerFrom before' text ++ lowerFrom (text.reverse ++ before) after := by
  induction text generalizing before before' with
  | nil => rfl
  | cons c rest ih =>
    obtain ⟨hc, hrest⟩ := not_or.mp (mt List.mem_cons.mpr h)
    have hchar : lowerChar before c (rest ++ after) = lowerChar before' c rest :=
      lowerChar_congr (Ne.symm hc) ..
    simp only [List.cons_append, lowerFrom, hchar, ih hrest (c :: before) (c :: before'),
      List.reverse_cons, List.append_assoc, List.nil_append]

/-- The small letters of a text end in those of any part at its end, seen behind the others. -/
theorem exists_lowerFrom_append (before start rest : List Char) :
    ∃ lowered, lowerFrom before (start ++ rest) =
      lowered ++ lowerFrom (start.reverse ++ before) rest := by
  induction start generalizing before with
  | nil => exact ⟨[], rfl⟩
  | cons c start ih =>
    obtain ⟨lowered, h⟩ := ih (c :: before)
    refine ⟨lowerChar before c (start ++ rest) ++ lowered, ?_⟩
    simp only [List.cons_append, lowerFrom, h, List.reverse_cons, List.append_assoc,
      List.nil_append]

/-- A part without a capital sigma is found again in lower case. -/
theorem lower_infix {part whole : String} (hsigma : 'Σ' ∉ part.toList)
    (h : part.toList <:+: whole.toList) : (lower part).toList <:+: (lower whole).toList := by
  obtain ⟨start, rest, hwhole⟩ := h
  obtain ⟨lowered, hstart⟩ := exists_lowerFrom_append [] start (part.toList ++ rest)
  have hpart := lowerFrom_append hsigma (start.reverse ++ []) [] rest
  refine ⟨lowered, lowerFrom (part.toList.reverse ++ (start.reverse ++ [])) rest, ?_⟩
  rw [lower, lower, String.toList_ofList, String.toList_ofList, ← hwhole, List.append_assoc start,
    hstart, hpart, List.append_assoc]

/-- Every character has a small form. -/
theorem lowerChar_ne_nil (before : List Char) (c : Char) (after : List Char) :
    lowerChar before c after ≠ [] := by
  unfold lowerChar
  split
  · exact List.cons_ne_nil _ _
  · split
    · exact List.cons_ne_nil _ _
    · split <;> exact List.cons_ne_nil _ _

/-- Only the empty text is empty in lower case. -/
@[simp] theorem lower_eq_empty {s : String} : lower s = "" ↔ s = "" := by
  rw [lower, ← String.toList_eq_nil_iff, ← String.toList_eq_nil_iff, String.toList_ofList]
  cases s.toList with
  | nil => exact iff_of_true rfl rfl
  | cons c rest =>
    refine iff_of_false ?_ (List.cons_ne_nil _ _)
    rw [lowerFrom, List.append_eq_nil_iff]
    exact fun h => lowerChar_ne_nil [] c rest h.1

/-! ## Letters of ASCII -/

/-- Only characters of ASCII are changed by taking its small letters. -/
theorem toLower_eq_or_lt (c : Char) : c.toLower = c ∨ c.toNat < 128 := by
  unfold Char.toLower
  split
  · rename_i hcapital
    have hle : c.toNat ≤ 90 := hcapital.2
    exact .inr (by omega)
  · exact .inl rfl

/-- What does not tell the letters of ASCII apart by their case, does not do so for any
character. -/
theorem toLower_congr {β : Type} {f : Char → β}
    (h : ∀ n : Fin 128, f (Char.ofNat n).toLower = f (Char.ofNat n)) (c : Char) :
    f c.toLower = f c := by
  rcases toLower_eq_or_lt c with hsame | hlt
  · rw [hsame]
  · have hc := h ⟨c.toNat, hlt⟩
    rwa [Char.ofNat_toNat] at hc

/-- The letters of ASCII are cased in either case, and no case rule ignores them. -/
theorem meetsCased_map_toLower (text : List Char) :
    meetsCased (text.map Char.toLower) = meetsCased text := by
  induction text with
  | nil => rfl
  | cons c rest ih =>
    have hignorable : inRanges c.toLower.toNat caseIgnorableRanges =
        inRanges c.toNat caseIgnorableRanges :=
      toLower_congr (f := fun c => inRanges c.toNat caseIgnorableRanges) (by decide +kernel) c
    have hcased : inRanges c.toLower.toNat casedRanges = inRanges c.toNat casedRanges :=
      toLower_congr (f := fun c => inRanges c.toNat casedRanges) (by decide +kernel) c
    rw [List.map_cons, meetsCased, meetsCased, hignorable, hcased, ih]

theorem lowerChar_toLower (before : List Char) (c : Char) (after : List Char) :
    lowerChar (before.map Char.toLower) c.toLower (after.map Char.toLower) =
      lowerChar before c after := by
  by_cases hsigma : c = 'Σ'
  · subst hsigma
    have hsame : Char.toLower 'Σ' = 'Σ' := rfl
    rw [hsame, lowerChar, lowerChar, meetsCased_map_toLower, meetsCased_map_toLower]
  · have hother : c.toLower ≠ 'Σ' := by
      rwa [ne_eq, ← beq_iff_eq, toLower_congr (f := (· == 'Σ')) (by decide +kernel) c, beq_iff_eq]
    rw [lowerChar_congr hother _ _ [] [], lowerChar_congr hsigma before after [] []]
    exact toLower_congr (f := fun c => lowerChar [] c []) (by decide +kernel) c

/-- Text with letters of ASCII in either case has the same small letters. -/
theorem lowerFrom_map_toLower (before text : List Char) :
    lowerFrom (before.map Char.toLower) (text.map Char.toLower) = lowerFrom before text := by
  induction text generalizing before with
  | nil => rfl
  | cons c rest ih =>
    rw [List.map_cons, lowerFrom, lowerFrom, lowerChar_toLower, ← List.map_cons, ih]

/-- The case of the letters of ASCII is lost in lower case. -/
theorem lower_toLower (s : String) : lower s.toLower = lower s := by
  have hchars : s.toLower.toList = s.toList.map Char.toLower := String.toList_map
  rw [lower, lower, hchars]
  exact congrArg String.ofList (lowerFrom_map_toLower [] s.toList)

end PgWrite.Text
