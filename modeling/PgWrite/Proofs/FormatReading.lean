import PgWrite.Proofs.Paramstyle

/-!
# The format style loses nothing

Any text is read back from its format style, also one whose literals, comments or dollar quotes are
not closed: a doubled percent sign is a percent sign, a directive is a question mark. The directives
stand for the markers, so the same reading tells what the named style makes of the text and how many
parameters it takes.
-/

namespace PgWrite

/-- The characters of a segment, with nothing in place of a marker. -/
def Segment.marked : Segment → List (Option Char)
  | .marker _ => [none]
  | s => s.source.map some

/-- The characters of a text, with nothing in place of its markers. -/
def markedText (sql : String) : List (Option Char) :=
  (segments sql).flatMap Segment.marked

/-- Characters with names put in place of the markers, which are numbered from an index on. -/
def nameMarked (stem : String) : Nat → List (Option Char) → List Char
  | _, [] => []
  | index, none :: rest =>
    namedMarker stem index (rest.head? = some (some ':')) ++ nameMarked stem (index + 1) rest
  | index, some c :: rest => c :: nameMarked stem index rest

/-! ## Reading the format style -/

namespace Segment

@[simp] theorem marked_marker (beforeColon : Bool) : (marker beforeColon).marked = [none] := rfl

@[simp] theorem marked_region (text : List Char) : (region text).marked = text.map some := rfl

@[simp] theorem marked_plain (c : Char) : (plain c).marked = [some c] := rfl

/-- A segment is read back. -/
theorem readFormat_format (s : Segment) (rest : List Char) :
    readFormat (s.format ++ rest) = (readFormat rest).map (s.marked ++ ·) := by
  cases s with
  | marker b => rfl
  | region text =>
    rw [format_of_unmarked rfl, readFormat_flatMap, ← List.map_eq_flatMap, marked_region]
    rfl
  | plain c => exact readFormat_formatted c rest

end Segment

/-- Segments are read back. -/
theorem readFormat_flatMap_format (parts : List Segment) :
    readFormat (parts.flatMap Segment.format) = some (parts.flatMap Segment.marked) := by
  induction parts with
  | nil => rfl
  | cons s parts ih =>
    rw [List.flatMap_cons, Segment.readFormat_format, ih, List.flatMap_cons]
    rfl

/-- With question marks for the markers the characters are the source. -/
theorem map_getD_marked (s : Segment) : s.marked.map (fun c => c.getD '?') = s.source := by
  cases s with
  | marker b => rfl
  | region text | plain c => simp [Segment.marked, Segment.source]

/-- With question marks for the markers the characters are the text. -/
theorem map_getD_flatMap_marked (before text : List Char) :
    ((segmentsFrom before text).flatMap Segment.marked).map (fun c => c.getD '?') = text := by
  rw [List.map_flatMap, funext map_getD_marked, flatMap_source_segmentsFrom]

/-! ## The named style of a reading -/

/-- A colon is no marker: it stands at the front of a text exactly if it does in the reading. -/
theorem head?_flatMap_marked (before text : List Char) :
    ((segmentsFrom before text).flatMap Segment.marked).head? = some (some ':') ↔
      text.head? = some ':' := by
  have htext := map_getD_flatMap_marked before text
  cases hread : (segmentsFrom before text).flatMap Segment.marked with
  | nil =>
    rw [hread] at htext
    simp [← htext]
  | cons c rest =>
    rw [hread] at htext
    cases c with
    | none => simp [← htext]
    | some c => simp [← htext]

/-- Characters outside the markers keep their places in the named style. -/
theorem nameMarked_map_some (stem : String) (index : Nat) (text : List Char)
    (rest : List (Option Char)) :
    nameMarked stem index (text.map some ++ rest) = text ++ nameMarked stem index rest := by
  induction text with
  | nil => rfl
  | cons c text ih => rw [List.map_cons, List.cons_append, nameMarked, ih, List.cons_append]

/-- The named style names the markers of the reading. -/
theorem nameMarkers_segmentsFrom (stem : String) (index : Nat) (before text : List Char) :
    nameMarkers stem index (segmentsFrom before text) =
      nameMarked stem index ((segmentsFrom before text).flatMap Segment.marked) := by
  fun_induction segmentsFrom before text generalizing index with
  | case1 => rfl
  | case2 before c rest region left h ih =>
    have hregion (rest : List Segment) : nameMarkers stem index (.region region :: rest) =
        region ++ nameMarkers stem index rest := rfl
    rw [hregion, ih, List.flatMap_cons, Segment.marked_region, nameMarked_map_some]
  | case3 before c rest h ih =>
    by_cases hc : c = '?'
    · -- the scanner looks ahead for a colon in the text, the reading at the next segment
      have hcolon := head?_flatMap_marked (c :: before) rest
      rw [if_pos hc, nameMarkers, ih, List.flatMap_cons, Segment.marked_marker,
        List.singleton_append, nameMarked, decide_eq_decide.mpr hcolon]
    · have hplain (rest : List Segment) : nameMarkers stem index (.plain c :: rest) =
          c :: nameMarkers stem index rest := rfl
      rw [if_neg hc, hplain, ih, List.flatMap_cons, Segment.marked_plain, List.singleton_append,
        nameMarked]

/-- The scanner counts the markers of the reading. -/
theorem countP_isMarker_eq (parts : List Segment) :
    parts.countP Segment.isMarker = (parts.flatMap Segment.marked).count none := by
  induction parts with
  | nil => rfl
  | cons s parts ih =>
    have hsource (text : List Char) : (text.map some).count none = 0 := by
      simp [List.count_eq_zero]
    rw [List.countP_cons, ih, List.flatMap_cons, List.count_append, Nat.add_comm]
    cases s with
    | marker b => rfl
    | region text => rw [Segment.marked_region, hsource]; rfl
    | plain c => rfl

/-- Every text is read back from its format style, with a directive for each of its markers: no
percent sign stands alone. The named style takes as many parameters as there are directives, and
names the characters that are read from directives. -/
theorem formatStyle_reads_back (sql : String) :
    readFormat (formatStyle sql).toList = some (markedText sql) ∧
      (markedText sql).map (fun c => c.getD '?') = sql.toList ∧
      ∀ (params : List Value) (stem : String),
        namedStyle sql params stem =
          if params.length = (markedText sql).count none then
            .ok { sql := String.ofList (nameMarked stem 0 (markedText sql))
                  values := indexedParams stem params }
          else .error (.invalid
            (.markerCountMismatch ((markedText sql).count none) params.length)) := by
  refine ⟨?_, map_getD_flatMap_marked [] sql.toList, fun params stem => ?_⟩
  · rw [formatStyle, String.toList_ofList, readFormat_flatMap_format, markedText]
  · have hcount : markerCount sql = (markedText sql).count none := countP_isMarker_eq _
    have hnamed : nameMarkers stem 0 (segments sql) = nameMarked stem 0 (markedText sql) :=
      nameMarkers_segmentsFrom stem 0 [] sql.toList
    simp only [namedStyle, hcount, hnamed, eq_comm]

example : formatStyle "%? '%?" = "%%%s '%%?" := by cbv

end PgWrite
