import Mathlib.Tactic.SplitIfs
import PgWrite.Value.Json

/-!
# JSON text is one line

No line end is written into the JSON text of a value: a line end inside a text is escaped, the
numbers are written with digits and signs only, and what stands between the parts are commas,
colons, brackets and blanks.
-/

namespace PgWrite

/-! ## Numbers -/

/-- The digits of a number to any base are single letters and figures. -/
theorem newline_not_mem_toDigits {base : Nat} (hbase : 1 < base) (n : Nat) :
    '\n' ∉ Nat.toDigits base n := by
  induction n using Nat.strongRecOn with
  | ind n ih =>
    have hdigit (k : Nat) : '\n' ∉ [k.digitChar] := by
      rw [List.mem_singleton]
      exact (Nat.digitChar_ne '\n' (by decide)).symm
    rw [Nat.toDigits_eq_if hbase]
    split
    · exact hdigit n
    · rename_i hle
      have hless : n / base < n := Nat.div_lt_self (by omega) hbase
      rw [List.mem_append, not_or]
      exact ⟨ih _ hless, hdigit _⟩

theorem Text.newline_not_mem_decimal (n : Int) : '\n' ∉ (Text.decimal n).toList := by
  have hdigits : '\n' ∉ Text.decimalDigits n.natAbs := newline_not_mem_toDigits (by decide) _
  unfold Text.decimal
  split <;> simpa using hdigits

theorem Text.newline_not_mem_hexDigits (width n : Nat) : '\n' ∉ Text.hexDigits width n := by
  have hdigits : '\n' ∉ Nat.toDigits 16 n := newline_not_mem_toDigits (by decide) _
  simp [Text.hexDigits, List.mem_replicate, hdigits]

namespace Binary64

theorem newline_not_mem_positional {digits : List Char} (h : '\n' ∉ digits) (place : Int) :
    '\n' ∉ positional digits place := by
  unfold positional
  split
  · simp [List.mem_replicate, h]
  · have hpadded : '\n' ∉ List.replicate (place.natAbs + 1 - digits.length) '0' ++ digits := by
      simp [List.mem_replicate, h]
    simp only [List.mem_append, List.mem_cons, not_or]
    exact ⟨fun hmem => hpadded (List.mem_of_mem_take hmem), by decide,
      fun hmem => hpadded (List.mem_of_mem_drop hmem)⟩

theorem newline_not_mem_scientific {digits : List Char} (h : '\n' ∉ digits) (lead : Int) :
    '\n' ∉ scientific digits lead := by
  have hexponent : '\n' ∉ Text.decimalDigits lead.natAbs := newline_not_mem_toDigits (by decide) _
  have hsign : '\n' ∉ ['e', if lead < 0 then '-' else '+'] := by
    split <;> decide
  have hzeros : '\n' ∉ List.replicate (2 - (Text.decimalDigits lead.natAbs).length) '0' := by
    simp [List.mem_replicate]
  rcases digits with _ | ⟨d, _ | ⟨e, rest⟩⟩ <;>
    simp_all [scientific]

/-- A number is written on the line of the words for what is no finite number. -/
theorem newline_not_mem_textWith {infinity undefinedWord : String}
    (hinfinity : '\n' ∉ infinity.toList) (hundefined : '\n' ∉ undefinedWord.toList) (x : Binary64) :
    '\n' ∉ (x.textWith infinity undefinedWord).toList := by
  cases x with
  | undefined => exact hundefined
  | infinite negative => cases negative <;> simp [textWith, hinfinity]
  | finite negative significand exponent =>
    have hsign : '\n' ∉ (if negative then "-" else "").toList := by
      cases negative <;> decide
    by_cases hzero : significand = 0
    · simp [textWith, hzero, hsign]
    · have hfigures (n : Nat) : '\n' ∉ Text.decimalDigits n :=
        newline_not_mem_toDigits (by decide) n
      simp only [textWith, if_neg hzero, String.toList_append, String.toList_ofList,
        List.mem_append, not_or]
      refine ⟨hsign, ?_⟩
      split
      · exact newline_not_mem_positional (hfigures _) _
      · exact newline_not_mem_scientific (hfigures _) _

end Binary64

/-! ## Texts and lists -/

theorem newline_not_mem_unitEscape (c : Char) : '\n' ∉ unitEscape c := by
  have hunit (n : Nat) : '\n' ∉ '\\' :: 'u' :: Text.hexDigits 4 n := by
    simp [Text.newline_not_mem_hexDigits]
  have hpair (m n : Nat) :
      '\n' ∉ '\\' :: 'u' :: Text.hexDigits 4 m ++ '\\' :: 'u' :: Text.hexDigits 4 n := by
    rw [List.mem_append, not_or]
    exact ⟨hunit m, hunit n⟩
  unfold unitEscape
  dsimp only
  split
  · exact hunit _
  · exact hpair _ _

/-- No escape holds the line end itself. -/
theorem newline_not_mem_jsonChar (mode : JsonText) (c : Char) : '\n' ∉ jsonChar mode c := by
  unfold jsonChar
  split_ifs with hquote hline
  · rcases hquote with rfl | rfl <;> simp
  · simp
  · simp
  · simp
  · simp
  · simp
  · exact newline_not_mem_unitEscape c
  · exact newline_not_mem_unitEscape c
  · rw [List.mem_singleton]
    exact fun he => hline he.symm

theorem newline_not_mem_jsonString (mode : JsonText) (s : String) :
    '\n' ∉ (jsonString mode s).toList := by
  have hchars : '\n' ∉ s.toList.flatMap (jsonChar mode) := by
    rw [List.mem_flatMap]
    rintro ⟨c, -, hc⟩
    exact newline_not_mem_jsonChar mode c hc
  simp only [jsonString, String.toList_ofList, List.mem_append, List.mem_cons, List.not_mem_nil,
    or_false, not_or]
  exact ⟨⟨by decide, hchars⟩, by decide⟩

/-- Parts on one line are joined on one line. -/
theorem newline_not_mem_joined {separator : String} {parts : List String}
    (hseparator : '\n' ∉ separator.toList) (h : ∀ part ∈ parts, '\n' ∉ part.toList) :
    '\n' ∉ (Text.joined separator parts).toList := by
  fun_induction Text.joined separator parts with
  | case1 => simp
  | case2 s => exact h s (List.mem_singleton_self s)
  | case3 s t rest ih =>
    have hs := h s (List.mem_cons_self ..)
    have hrest := ih fun part hpart => h part (List.mem_cons_of_mem _ hpart)
    simp only [String.toList_append, List.mem_append, not_or]
    exact ⟨⟨hs, hseparator⟩, hrest⟩

namespace Value

mutual

/-- A value is written on one line. -/
theorem newline_not_mem_json (mode : JsonText) (v : Value) : '\n' ∉ (v.json mode).toList := by
  have comma : '\n' ∉ ", ".toList := by decide
  cases v with
  | null => simp [json]
  | bool b => cases b <;> simp [json]
  | int n => exact Text.newline_not_mem_decimal n
  | float x => exact Binary64.newline_not_mem_textWith (by decide) (by decide) x
  | list _ items =>
    have hitems := newline_not_mem_joined comma (newline_not_mem_jsonItems mode items)
    simpa [json] using hitems
  | tuple items =>
    have hitems := newline_not_mem_joined comma (newline_not_mem_jsonItems mode items)
    simpa [json] using hitems
  | map _ entries =>
    have hentries := newline_not_mem_joined comma (newline_not_mem_jsonEntries mode entries)
    simpa [json] using hentries
  | text | policy | bytes | frozen | columnsTarget | constraintTarget | sqlType | record =>
    exact newline_not_mem_jsonString mode _

theorem newline_not_mem_jsonItems (mode : JsonText) (items : List Value) :
    ∀ part ∈ jsonItems mode items, '\n' ∉ part.toList := by
  cases items with
  | nil => exact List.forall_mem_nil _
  | cons v vs =>
    rw [jsonItems, List.forall_mem_cons]
    exact ⟨newline_not_mem_json mode v, newline_not_mem_jsonItems mode vs⟩

theorem newline_not_mem_jsonEntries (mode : JsonText) (entries : List (Value × Value)) :
    ∀ part ∈ jsonEntries mode entries, '\n' ∉ part.toList := by
  cases entries with
  | nil => exact List.forall_mem_nil _
  | cons entry rest =>
    obtain ⟨k, v⟩ := entry
    have hkey := newline_not_mem_jsonString mode (jsonKey k)
    have hvalue := newline_not_mem_json mode v
    rw [jsonEntries, List.forall_mem_cons]
    exact ⟨by simp [hkey, hvalue], newline_not_mem_jsonEntries mode rest⟩

end

end Value

end PgWrite
