import PgWrite.Proofs.TextClause

/-!
# Places of markers

The scan of a text from left to right, told by places: it goes on one character further, or behind
the region that opens where it stands. The markers are the question marks outside every region of
the scan, and the named style replaces the characters at their places and no others. The names are
told apart by their numbers, so no value takes the place of another one.
-/

namespace PgWrite

/-! ## Regions by place -/

/-- The end of the region that opens at a place of a text. -/
def regionEnd? (text : List Char) (i : Nat) : Option Nat :=
  (region? (text.take i).reverse (text.drop i)).map fun split => i + split.1.length

/-- A region is not empty and ends in the text. -/
theorem regionEnd?_bounds {text : List Char} {i e : Nat} (h : regionEnd? text i = some e) :
    i < e ∧ e ≤ text.length := by
  obtain ⟨⟨region, left⟩, hregion, rfl⟩ := Option.map_eq_some_iff.mp h
  obtain ⟨happend, hne⟩ := region?_append hregion
  have hlength := congrArg List.length happend
  have hpos := List.length_pos_iff.mpr hne
  rw [List.length_append, List.length_drop] at hlength
  dsimp only
  omega

/-- A region reaches from the place where it opens to its end. -/
theorem add_length_region {text : List Char} {i e : Nat} (h : regionEnd? text i = some e) :
    i + ((text.drop i).take (e - i)).length = e := by
  have hbounds := regionEnd?_bounds h
  rw [List.length_take, List.length_drop]
  omega

/-- The text from a place on begins with the character there. -/
theorem drop_of_getElem? {α : Type} {text : List α} {i : Nat} {c : α} (h : text[i]? = some c) :
    text.drop i = c :: text.drop (i + 1) := by
  obtain ⟨hi, rfl⟩ := List.getElem?_eq_some_iff.mp h
  exact List.drop_eq_getElem_cons hi

/-- The text before the next place, read backwards, begins with the character there. -/
theorem reverse_take_of_getElem? {text : List Char} {i : Nat} {c : Char} (h : text[i]? = some c) :
    (text.take (i + 1)).reverse = c :: (text.take i).reverse := by
  rw [List.take_add_one, h, Option.toList_some, List.reverse_append]
  rfl

/-- The segments of a text from a place on. -/
def segmentsAt (text : List Char) (i : Nat) : List Segment :=
  segmentsFrom (text.take i).reverse (text.drop i)

theorem segmentsAt_end {text : List Char} {i : Nat} (h : text.length ≤ i) :
    segmentsAt text i = [] := by
  rw [segmentsAt, List.drop_eq_nil_of_le h, segmentsFrom]

theorem segmentsAt_region {text : List Char} {i e : Nat} (h : regionEnd? text i = some e) :
    segmentsAt text i = .region ((text.drop i).take (e - i)) :: segmentsAt text e := by
  obtain ⟨⟨region, left⟩, hregion, rfl⟩ := Option.map_eq_some_iff.mp h
  have happend : region ++ left = text.drop i := (region?_append hregion).1
  have hfront : text.take (i + region.length) = text.take i ++ region := by
    rw [List.take_add, ← happend, List.take_left]
  have hback : text.drop (i + region.length) = left := by
    rw [← List.drop_drop, ← happend, List.drop_left]
  rw [segmentsAt, segmentsFrom_region hregion, segmentsAt, hfront, hback, List.reverse_append,
    Nat.add_sub_cancel_left, ← happend, List.take_left]

theorem segmentsAt_char {text : List Char} {i : Nat} {c : Char} (hc : text[i]? = some c)
    (h : regionEnd? text i = none) :
    segmentsAt text i =
      (if c = '?' then .marker (text[i + 1]? = some ':') else .plain c)
        :: segmentsAt text (i + 1) := by
  have hregion : region? (text.take i).reverse (c :: text.drop (i + 1)) = none := by
    rw [← drop_of_getElem? hc]
    exact Option.map_eq_none_iff.mp h
  rw [segmentsAt, drop_of_getElem? hc, segmentsFrom_char hregion, segmentsAt,
    reverse_take_of_getElem? hc, List.head?_drop]

/-- Induction along the segments of a text, from its end back to any place. -/
theorem scan_induction (text : List Char) {motive : Nat → Prop}
    (ended : ∀ i, text.length ≤ i → motive i)
    (region : ∀ i e, regionEnd? text i = some e → motive e → motive i)
    (char : ∀ i c, text[i]? = some c → regionEnd? text i = none → motive (i + 1) → motive i)
    (i : Nat) : motive i := by
  induction hleft : text.length - i using Nat.strong_induction_on generalizing i with
  | _ left ih =>
    rcases Nat.lt_or_ge i text.length with hlt | hge
    · cases h : regionEnd? text i with
      | some e =>
        have hbounds := regionEnd?_bounds h
        exact region i e h (ih (text.length - e) (by omega) e rfl)
      | none =>
        exact char i _ (List.getElem?_eq_getElem hlt) h
          (ih (text.length - (i + 1)) (by omega) (i + 1) rfl)
    · exact ended i hge

/-! ## The scan -/

/-- A scan from left to right, under rules that say which regions open, comes to the place `i`,
and cuts off the characters from the place `s` to it one by one. -/
inductive Scans (text : List Char) (Opens : Nat → Nat → Nat → Prop) : Nat → Nat → Prop where
  | start : Scans text Opens 0 0
  /-- Behind a region the scan starts anew. -/
  | region {s i e : Nat} (h : Scans text Opens s i) (hopens : Opens s i e) : Scans text Opens e e
  | char {s i : Nat} (h : Scans text Opens s i) (hi : i < text.length)
      (hclosed : ∀ e, ¬ Opens s i e) : Scans text Opens s (i + 1)

/-- The place lies in a region of the scan. -/
def InRegion (text : List Char) (Opens : Nat → Nat → Nat → Prop) (i : Nat) : Prop :=
  ∃ s a e, Scans text Opens s a ∧ Opens s a e ∧ a ≤ i ∧ i < e

/-- The scanner opens a region from one place to another, wherever its characters start. -/
def IsRegion (text : List Char) (_start i e : Nat) : Prop :=
  regionEnd? text i = some e

theorem regionEnd?_eq_none_iff {text : List Char} {s i : Nat} :
    regionEnd? text i = none ↔ ∀ e, ¬ IsRegion text s i e :=
  Option.eq_none_iff_forall_ne_some

/-- Where the scanner goes on from a place: behind the region that opens there, or one character
further. -/
def nextPlace (text : List Char) (i : Nat) : Nat :=
  (regionEnd? text i).getD (i + 1)

theorem lt_nextPlace (text : List Char) (i : Nat) : i < nextPlace text i := by
  cases h : regionEnd? text i with
  | some e =>
    rw [nextPlace, h]
    exact (regionEnd?_bounds h).1
  | none =>
    rw [nextPlace, h]
    exact Nat.lt_succ_self i

namespace Scans

variable {text : List Char} {s s' i j : Nat}

/-- The scanner goes on from a place that it has come to. -/
theorem next (h : Scans text (IsRegion text) s i) (hi : i < text.length) :
    ∃ s', Scans text (IsRegion text) s' (nextPlace text i) := by
  cases hopens : regionEnd? text i with
  | some e =>
    rw [nextPlace, hopens]
    exact ⟨e, h.region hopens⟩
  | none =>
    rw [nextPlace, hopens]
    exact ⟨s, h.char hi (regionEnd?_eq_none_iff.mp hopens)⟩

/-- A place behind the start is the next one of a place before it. -/
theorem exists_previous (h : Scans text (IsRegion text) s i) (hi : i ≠ 0) :
    ∃ s' j, Scans text (IsRegion text) s' j ∧ nextPlace text j = i := by
  cases h with
  | start => exact absurd rfl hi
  | @region s j _ h hopens =>
    have hopens : regionEnd? text j = some _ := hopens
    refine ⟨s, j, h, ?_⟩
    rw [nextPlace, hopens]
    rfl
  | @char _ j h _ hclosed =>
    refine ⟨s, j, h, ?_⟩
    rw [nextPlace, regionEnd?_eq_none_iff.mpr hclosed]
    rfl

/-- The scanner comes to no place between another one and the next. -/
theorem nextPlace_le (hi : Scans text (IsRegion text) s i) (hj : Scans text (IsRegion text) s' j)
    (hlt : i < j) : nextPlace text i ≤ j := by
  induction j using Nat.strong_induction_on generalizing i s s' with
  | _ j ih =>
    obtain ⟨s'', k, hk, hnext⟩ := hj.exists_previous (Nat.ne_zero_of_lt hlt)
    have hkj : k < j := hnext ▸ lt_nextPlace text k
    rcases Nat.lt_trichotomy i k with hik | rfl | hki
    · exact Nat.le_of_lt (Nat.lt_of_le_of_lt (ih k hkj hi hk hik) hkj)
    · exact Nat.le_of_eq hnext
    -- a place between the previous one and this one would come behind this one
    · have hji : nextPlace text k ≤ i := ih i hlt hk hi hki
      rw [hnext] at hji
      exact absurd hji (Nat.not_le_of_lt hlt)

end Scans

/-- Every place is passed. -/
theorem exists_scans_le {text : List Char} {i : Nat} (hi : i < text.length) :
    ∃ s j, Scans text (IsRegion text) s j ∧ j ≤ i ∧ i < nextPlace text j := by
  induction i with
  | zero => exact ⟨0, 0, .start, Nat.le_refl 0, lt_nextPlace text 0⟩
  | succ i ih =>
    obtain ⟨s, j, hscan, hle, hlt⟩ := ih (Nat.lt_of_succ_lt hi)
    rcases Nat.eq_or_lt_of_le (Nat.succ_le_of_lt hlt) with heq | hbehind
    · obtain ⟨s', hnext⟩ := hscan.next (Nat.lt_of_le_of_lt hle (Nat.lt_of_succ_lt hi))
      rw [← heq] at hnext
      exact ⟨s', i + 1, hnext, Nat.le_refl _, lt_nextPlace text (i + 1)⟩
    · exact ⟨s, j, hscan, Nat.le_succ_of_le hle, hbehind⟩

/-- A place lies outside every region just if the scanner comes to it and opens no region there. -/
theorem not_inRegion_iff {text : List Char} {i : Nat} (hi : i < text.length) :
    ¬ InRegion text (IsRegion text) i ↔
      (∃ s, Scans text (IsRegion text) s i) ∧ regionEnd? text i = none := by
  constructor
  · intro hout
    obtain ⟨s, j, hscan, hle, hlt⟩ := exists_scans_le hi
    cases hopens : regionEnd? text j with
    | some e =>
      rw [nextPlace, hopens] at hlt
      exact absurd ⟨s, j, e, hscan, hopens, hle, hlt⟩ hout
    | none =>
      rw [nextPlace, hopens] at hlt
      obtain rfl : j = i := Nat.le_antisymm hle (Nat.le_of_lt_succ hlt)
      exact ⟨⟨s, hscan⟩, hopens⟩
  · rintro ⟨⟨s, hscan⟩, hclosed⟩ ⟨s', j, e, hj, hopens, hle, hlt⟩
    have hopens : regionEnd? text j = some e := hopens
    rcases Nat.eq_or_lt_of_le hle with rfl | hbefore
    · rw [hclosed] at hopens
      cases hopens
    · have hnext := hj.nextPlace_le hscan hbefore
      rw [nextPlace, hopens] at hnext
      exact absurd hlt (Nat.not_lt_of_le hnext)

/-! ## Places of markers -/

/-- The places of the markers among segments, the first of which stands at a place. -/
def markerPlacesFrom : Nat → List Segment → List Nat
  | _, [] => []
  | i, .marker _ :: rest => i :: markerPlacesFrom (i + 1) rest
  | i, s :: rest => markerPlacesFrom (i + s.source.length) rest

theorem le_of_mem_markerPlacesFrom {parts : List Segment} {first i : Nat}
    (h : i ∈ markerPlacesFrom first parts) : first ≤ i := by
  fun_induction markerPlacesFrom first parts with
  | case1 => cases h
  | case2 first b rest ih =>
    rcases List.mem_cons.mp h with rfl | h
    · exact Nat.le_refl _
    · exact Nat.le_of_succ_le (ih h)
  | case3 first s rest _ ih => exact Nat.le_trans (Nat.le_add_right _ _) (ih h)

theorem pairwise_markerPlacesFrom (first : Nat) (parts : List Segment) :
    (markerPlacesFrom first parts).Pairwise (· < ·) := by
  fun_induction markerPlacesFrom first parts with
  | case1 => exact List.Pairwise.nil
  | case2 first b rest ih =>
    exact List.pairwise_cons.mpr ⟨fun _ h => le_of_mem_markerPlacesFrom h, ih⟩
  | case3 first s rest _ ih => exact ih

theorem length_markerPlacesFrom (first : Nat) (parts : List Segment) :
    (markerPlacesFrom first parts).length = parts.countP Segment.isMarker := by
  fun_induction markerPlacesFrom first parts with
  | case1 => rfl
  | case2 first b rest ih => rw [List.length_cons, ih, List.countP_cons_of_pos rfl]
  | case3 first s rest hs ih =>
    have hmarker : ¬ s.isMarker = true := by
      cases s with
      | marker b => exact absurd rfl (hs b)
      | region text | plain c => nofun
    rw [ih, List.countP_cons_of_neg hmarker]

/-- The places of the markers from a place of a text on. -/
def markerPlacesAt (text : List Char) (i : Nat) : List Nat :=
  markerPlacesFrom i (segmentsAt text i)

/-- The places of the markers of a text. -/
def markerPlaces (sql : String) : List Nat :=
  markerPlacesAt sql.toList 0

theorem markerPlacesAt_end {text : List Char} {i : Nat} (h : text.length ≤ i) :
    markerPlacesAt text i = [] := by
  rw [markerPlacesAt, segmentsAt_end h]
  rfl

theorem markerPlacesAt_region {text : List Char} {i e : Nat} (h : regionEnd? text i = some e) :
    markerPlacesAt text i = markerPlacesAt text e := by
  rw [markerPlacesAt, segmentsAt_region h, markerPlacesFrom, Segment.source, add_length_region h,
    markerPlacesAt]
  rintro b ⟨⟩

theorem markerPlacesAt_char {text : List Char} {i : Nat} {c : Char} (hc : text[i]? = some c)
    (h : regionEnd? text i = none) :
    markerPlacesAt text i = (if c = '?' then [i] else []) ++ markerPlacesAt text (i + 1) := by
  rw [markerPlacesAt, segmentsAt_char hc h]
  split <;> rfl

/-- As many places as markers. -/
theorem length_markerPlaces (sql : String) : (markerPlaces sql).length = markerCount sql :=
  length_markerPlacesFrom 0 (segments sql)

/-- At a marker stands a question mark, and the scanner comes there and opens no region. -/
theorem exists_scans_of_mem {text : List Char} {s i j : Nat}
    (hscan : Scans text (IsRegion text) s i) (hj : j ∈ markerPlacesAt text i) :
    text[j]? = some '?' ∧ (∃ s', Scans text (IsRegion text) s' j) ∧ regionEnd? text j = none := by
  induction i using scan_induction text generalizing s with
  | ended i hi =>
    rw [markerPlacesAt_end hi] at hj
    cases hj
  | region i e h ih =>
    rw [markerPlacesAt_region h] at hj
    exact ih (hscan.region h) hj
  | char i c hc h ih =>
    have hlt : i < text.length := (List.getElem?_eq_some_iff.mp hc).1
    rw [markerPlacesAt_char hc h, List.mem_append] at hj
    rcases hj with hj | hj
    · by_cases hmark : c = '?'
      · subst hmark
        obtain rfl := List.mem_singleton.mp hj
        exact ⟨hc, ⟨s, hscan⟩, h⟩
      · rw [if_neg hmark] at hj
        cases hj
    · exact ih (hscan.char hlt (regionEnd?_eq_none_iff.mp h)) hj

/-- The markers behind a place that the scanner comes to are markers of the text. -/
theorem markerPlacesAt_subset {text : List Char} {s i : Nat}
    (h : Scans text (IsRegion text) s i) : markerPlacesAt text i ⊆ markerPlacesAt text 0 := by
  induction h with
  | start => exact List.Subset.refl _
  | region _ hopens ih => rwa [markerPlacesAt_region hopens] at ih
  | char _ hi hclosed ih =>
    rw [markerPlacesAt_char (List.getElem?_eq_getElem hi) (regionEnd?_eq_none_iff.mpr hclosed)]
      at ih
    exact fun j hj => ih (List.mem_append_right _ hj)

/-- The markers are the question marks outside every region. -/
theorem mem_markerPlaces {sql : String} {i : Nat} :
    i ∈ markerPlaces sql ↔
      sql.toList[i]? = some '?' ∧ ¬ InRegion sql.toList (IsRegion sql.toList) i := by
  constructor
  · intro hi
    obtain ⟨hmark, hscan⟩ := exists_scans_of_mem .start hi
    have hlt := (List.getElem?_eq_some_iff.mp hmark).1
    exact ⟨hmark, (not_inRegion_iff hlt).mpr hscan⟩
  · rintro ⟨hmark, hout⟩
    have hlt := (List.getElem?_eq_some_iff.mp hmark).1
    obtain ⟨⟨s, hscan⟩, hclosed⟩ := (not_inRegion_iff hlt).mp hout
    refine markerPlacesAt_subset hscan ?_
    rw [markerPlacesAt_char hmark hclosed]
    exact List.mem_cons_self ..

/-! ## Substitution -/

/-- A text whose first character stands at `first`, with other text in place of the characters at
some places. -/
def replacedAt {α : Type} (places : List Nat) (mark : Nat → List α) (first : Nat)
    (text : List α) : List α :=
  (text.zipIdx first).flatMap fun (c, i) => if i ∈ places then mark i else [c]

/-- A text with a named mark at each of some places, the marks numbered in the order of the places.
A mark before a colon stands in parentheses. -/
def substituted (stem : String) (places : List Nat) (text : List Char) : List Char :=
  replacedAt places
    (fun i => namedMarker stem (places.idxOf i) (text[i + 1]? = some ':')) 0 text

section

variable {α : Type} {places : List Nat} {mark : Nat → List α} {first : Nat} {text rest : List α}

theorem replacedAt_append : replacedAt places mark first (text ++ rest) =
    replacedAt places mark first text ++ replacedAt places mark (first + text.length) rest := by
  rw [replacedAt, List.zipIdx_append, List.flatMap_append]
  rfl

theorem replacedAt_cons {c : α} : replacedAt places mark first (c :: rest) =
    (if first ∈ places then mark first else [c]) ++ replacedAt places mark (first + 1) rest := by
  rw [replacedAt, List.zipIdx_cons, List.flatMap_cons]
  rfl

/-- Characters at other places are kept. -/
theorem replacedAt_of_not_mem (h : ∀ i ∈ places, i < first ∨ first + text.length ≤ i) :
    replacedAt places mark first text = text := by
  induction text generalizing first with
  | nil => rfl
  | cons c text ih =>
    rw [List.length_cons] at h
    have hfirst : first ∉ places := by
      intro hmem
      have := h first hmem
      omega
    have hrest : ∀ i ∈ places, i < first + 1 ∨ first + 1 + text.length ≤ i := by
      intro i hi
      have := h i hi
      omega
    rw [replacedAt_cons, if_neg hfirst, ih hrest, List.singleton_append]

end

/-- A region without places in it is kept. -/
theorem replacedAt_region {places : List Nat} {mark : Nat → List Char} {text : List Char}
    {i e : Nat} (h : regionEnd? text i = some e) (hoff : ∀ j ∈ places, j < i ∨ e ≤ j) :
    replacedAt places mark i (text.drop i) =
      (text.drop i).take (e - i) ++ replacedAt places mark e (text.drop e) := by
  have hend := add_length_region h
  have hdrop : (text.drop i).take (e - i) ++ text.drop e = text.drop i := by
    have hleft : (text.drop i).drop (e - i) = text.drop e := by
      rw [List.drop_drop, Nat.add_sub_cancel' (Nat.le_of_lt (regionEnd?_bounds h).1)]
    rw [← hleft, List.take_append_drop]
  conv => lhs; rw [← hdrop]
  rw [replacedAt_append, hend, replacedAt_of_not_mem]
  rwa [hend]

/-- The named style of a text from a place on, where `passed` are the markers before it. -/
theorem nameMarkers_segmentsAt (stem : String) (text : List Char) (i : Nat)
    {places passed : List Nat} (hplaces : places = passed ++ markerPlacesAt text i)
    (hpassed : ∀ j ∈ passed, j < i) :
    nameMarkers stem passed.length (segmentsAt text i) =
      replacedAt places
        (fun j => namedMarker stem (places.idxOf j) (text[j + 1]? = some ':')) i (text.drop i) := by
  induction i using scan_induction text generalizing passed with
  | ended i hi =>
    rw [segmentsAt_end hi, List.drop_eq_nil_of_le hi]
    rfl
  | region i e h ih =>
    rw [markerPlacesAt_region h] at hplaces
    have hoff : ∀ j ∈ places, j < i ∨ e ≤ j := by
      intro j hj
      rw [hplaces, List.mem_append] at hj
      exact hj.imp (hpassed j) le_of_mem_markerPlacesFrom
    have hnamed (region : List Char) (rest : List Segment) :
        nameMarkers stem passed.length (.region region :: rest) =
          region ++ nameMarkers stem passed.length rest := rfl
    have hlt := (regionEnd?_bounds h).1
    rw [segmentsAt_region h, hnamed, replacedAt_region h hoff,
      ih hplaces fun j hj => Nat.lt_trans (hpassed j hj) hlt]
  | char i c hc h ih =>
    have hnot : i ∉ passed := fun hmem => Nat.lt_irrefl i (hpassed i hmem)
    rw [markerPlacesAt_char hc h] at hplaces
    rw [segmentsAt_char hc h, drop_of_getElem? hc, replacedAt_cons]
    by_cases hmark : c = '?'
    · rw [if_pos hmark] at hplaces ⊢
      have hbefore : ∀ j ∈ passed ++ [i], j < i + 1 := by
        intro j hj
        rcases List.mem_append.mp hj with hj | hj
        · exact Nat.lt_succ_of_lt (hpassed j hj)
        · exact List.mem_singleton.mp hj ▸ Nat.lt_succ_self i
      have hnext := ih (by rw [hplaces, List.append_assoc]) hbefore
      have hmem : i ∈ places := by
        rw [hplaces]
        exact List.mem_append_right _ (List.mem_cons_self ..)
      have hindex : places.idxOf i = passed.length := by
        rw [hplaces, List.idxOf_append_of_notMem hnot, List.singleton_append, List.idxOf_cons_self,
          Nat.add_zero]
      rw [List.length_append, List.length_singleton] at hnext
      rw [nameMarkers, hnext, if_pos hmem, hindex]
    · rw [if_neg hmark] at hplaces ⊢
      have hnext := ih hplaces fun j hj => Nat.lt_succ_of_lt (hpassed j hj)
      have hmem : i ∉ places := by
        rw [hplaces, List.nil_append, List.mem_append, not_or]
        exact ⟨hnot, fun hj => Nat.not_succ_le_self i (le_of_mem_markerPlacesFrom hj)⟩
      have hnamed (rest : List Segment) : nameMarkers stem passed.length (.plain c :: rest) =
          c :: nameMarkers stem passed.length rest := rfl
      rw [hnamed, hnext, if_neg hmem, List.singleton_append]

/-- The named style succeeds just if there are as many parameters as question marks outside every
region, and tells both numbers if it fails. It replaces the characters at these places by names,
numbered in their order, and keeps all others. The names are different and each has the value of its
number, so with as many types beside them no value and no type is lost or moved. -/
theorem namedStyle_substitutes (sql : String) (params : List Value) (stem : String) :
    ((markerPlaces sql).Pairwise (· < ·) ∧ ∀ i, i ∈ markerPlaces sql ↔
      sql.toList[i]? = some '?' ∧ ¬ InRegion sql.toList (IsRegion sql.toList) i) ∧
    namedStyle sql params stem =
      (if (markerPlaces sql).length = params.length then
        .ok { sql := String.ofList (substituted stem (markerPlaces sql) sql.toList)
              values := indexedParams stem params }
      else
        .error (.invalid (.markerCountMismatch (markerPlaces sql).length params.length))) ∧
    (InvalidInput.markerCountMismatch (markerPlaces sql).length params.length).message =
      "Placeholder count (" ++ Text.decimal (markerPlaces sql).length ++
        ") does not match parameter count (" ++ Text.decimal params.length ++ ")." ∧
    ((indexedParams stem params).map (·.1) = (List.range params.length).map (bindName stem) ∧
      ((indexedParams stem params).map (·.1)).Nodup ∧
      ∀ j, (indexedParams stem params).lookup (bindName stem j) = params[j]?) ∧
    ∀ types : List Value, types.length = params.length →
      ((indexedParams stem params).zip types).unzip = (indexedParams stem params, types) := by
  have hnamed : nameMarkers stem 0 (segments sql) =
      substituted stem (markerPlaces sql) sql.toList :=
    nameMarkers_segmentsAt stem sql.toList 0 (List.nil_append _).symm fun j hj => by cases hj
  have hkeys : (indexedParams stem params).map (·.1) =
      (List.range params.length).map (bindName stem) := by
    rw [indexedParams, map_fst_indexedFrom, List.range_eq_range']
  refine ⟨⟨pairwise_markerPlacesFrom _ _, fun i => mem_markerPlaces⟩, ?_, rfl, ⟨hkeys, ?_, ?_⟩, ?_⟩
  · rw [namedStyle, length_markerPlaces, hnamed]
  · rw [hkeys]
    exact nodup_map_bindName stem params.length
  · intro j
    have hlookup := lookup_indexedFrom stem 0 params j
    rwa [Nat.zero_add] at hlookup
  · intro types htypes
    refine List.unzip_zip ?_
    rw [indexedParams, length_indexedFrom, htypes]

/-- A marker before a cast and another one, beside question marks in a name and in a literal. -/
theorem castMarker_substituted :
    markerPlaces "\"?\"=?::x,'?',?" = [4, 13] ∧
      namedStyle "\"?\"=?::x,'?',?" [.int 7, .null] "p" =
        .ok { sql := "\"?\"=(:p_0)::x,'?',:p_1", values := [("p_0", .int 7), ("p_1", .null)] } ∧
      ([("p_0", Value.int 7), ("p_1", .null)].zip [Value.text "x", .null]).unzip =
        ([("p_0", .int 7), ("p_1", .null)], [.text "x", .null]) := by
  have hvalues : indexedParams "p" [.int 7, .null] = [("p_0", .int 7), ("p_1", .null)] := by cbv
  -- evaluation goes through all facts at hand, so the others are put aside
  have htext : String.ofList (substituted "p" [4, 13] "\"?\"=?::x,'?',?".toList) =
      "\"?\"=(:p_0)::x,'?',:p_1" := by
    clear hvalues
    cbv
  have hplaces : markerPlaces "\"?\"=?::x,'?',?" = [4, 13] := by
    clear hvalues htext
    cbv
  obtain ⟨-, hnamed, -, -, hzip⟩ :=
    namedStyle_substitutes "\"?\"=?::x,'?',?" [.int 7, .null] "p"
  have hunzip := hzip [.text "x", .null] rfl
  rw [hvalues] at hunzip
  rw [hplaces, htext, hvalues] at hnamed
  exact ⟨hplaces, hnamed, hunzip⟩

end PgWrite
