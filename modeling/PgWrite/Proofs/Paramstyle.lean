import PgWrite.Proofs.Markers

/-!
# Marker styles of compiled statements

A statement is restyled by its template: every mark gets a form by its number, every other character
one of its own. Both marker styles of a compiled statement are such forms, since the scanner finds
exactly the marks. Text in the format style can be read back, with a directive for every mark.
-/

namespace PgWrite

open Lexeme

/-- The text of a statement with a form for every mark, the marks counted from zero on, and a form
for every other character. -/
def Statement.restyled {α : Type} (s : Statement String) (mark : Nat → List α)
    (char : Char → List α) : List α :=
  Lexeme.restyled mark char true 0 s.template

/-! ## Marks -/

namespace Lexeme

@[simp] theorem count_mark_listed (parts : List (List Lexeme)) :
    (listed parts).count .mark = (parts.map fun p => p.count .mark).sum := by
  induction parts with
  | nil => rfl
  | cons p parts ih =>
    cases parts with
    | nil => simp [listed]
    | cons q parts =>
      rw [listed_cons_cons, List.count_append, List.count_cons_of_ne (by simp), ih]
      rfl

@[simp] theorem count_mark_bracketed (inner : List Lexeme) :
    (bracketed inner).count .mark = inner.count .mark := by
  simp [bracketed]

@[simp] theorem count_mark_words (texts : List String) : (words texts).count .mark = 0 := by
  simp [words, List.count_eq_zero]

@[simp] theorem count_mark_marks (count : Nat) : (marks count).count .mark = count := by
  simp [marks]

@[simp] theorem count_mark_names (texts : List String) : (names texts).count .mark = 0 := by
  simp [names, Function.comp_def, List.map_const']

@[simp] theorem count_mark_among (column : String) (count : Nat) :
    (among column count).count .mark = count := by
  simp [among]

@[simp] theorem count_mark_choice (discriminator : String) (column : String × Nat) :
    (choice discriminator column).count .mark = 2 * column.2 := by
  simp [choice, branch, List.count_flatten, Nat.mul_comm]

@[simp] theorem count_mark_table (ref : TableRef String) : ref.lexemes.count .mark = 0 := by
  unfold TableRef.lexemes
  split <;> simp

@[simp] theorem count_mark_conflicts (conflicts : ConflictRule String) :
    conflicts.lexemes.count .mark = 0 := by
  cases conflicts with
  | fail => rfl
  | skip => simp [ConflictRule.lexemes]
  | overwrite target columns =>
    cases target <;>
      simp [ConflictRule.lexemes, ConflictTarget.lexemes, overwritten, Function.comp_def,
        List.map_const']

end Lexeme

/-- The marks of a template are the question marks of its statement. -/
theorem Statement.count_mark_template (s : Statement String) :
    s.template.count .mark = s.marks := by
  cases s with
  | insert table columns rows conflicts => simp [template, insertion, Statement.marks]
  | delete table column count => simp [template, Statement.marks]
  | deleteLimited table column count limit => simp [template, selection, Statement.marks]
  | update table columns column count =>
    simp [template, Statement.marks, assigned, Function.comp_def, List.map_const']
  | caseUpdate table discriminator branches count =>
    simp [template, Statement.marks, Function.comp_def]

namespace Lexeme

/-- The markers that the scanner finds are the marks. -/
theorem countP_isMarker_segmented (glued : Bool) (lexemes : List Lexeme) :
    (segmented glued lexemes).countP Segment.isMarker = lexemes.count .mark := by
  induction lexemes generalizing glued with
  | nil => rfl
  | cons l rest ih =>
    have hblank : ((if glued || l.closes then [] else [Segment.plain ' ']).countP
        Segment.isMarker) = 0 := by
      split <;> rfl
    have hplain (text : List Char) : (text.map Segment.plain).countP Segment.isMarker = 0 := by
      simp [List.countP_eq_zero, Segment.isMarker]
    rw [segmented, List.countP_append, List.countP_append, hblank, ih]
    cases l with
    | mark => simp [pieces, Segment.isMarker, Nat.add_comm]
    | name s => simp [pieces, Segment.isMarker]
    | word | symbol | integer => simp [pieces, hplain]

end Lexeme

/-- The text of a statement is cut lexeme by lexeme. -/
theorem Statement.segments_render {s : Statement String} (h : s.Filled) :
    segments s.render = segmented true s.template := by
  rw [segments, toList_render h]
  exact segmentsFrom_written (fun l hl => List.all_eq_true.mp s.all_regular_template l hl) true []

/-- The scanner finds the question marks of a statement. -/
theorem Statement.markerCount_render {s : Statement String} (h : s.Filled) :
    markerCount s.render = s.marks := by
  rw [markerCount, segments_render h, countP_isMarker_segmented, count_mark_template]

/-! ## The named style -/

/-- The named form of the mark with an index. -/
def namedMark (stem : String) (index : Nat) : List Char :=
  ':' :: (bindName stem index).toList

/-- Segments without markers keep their characters. -/
theorem nameMarkers_append (stem : String) (index : Nat) {front : List Segment}
    (h : ∀ s ∈ front, s.isMarker = false) (rest : List Segment) :
    nameMarkers stem index (front ++ rest) =
      front.flatMap Segment.source ++ nameMarkers stem index rest := by
  induction front with
  | nil => rfl
  | cons s front ih =>
    have hs := h s (List.mem_cons_self ..)
    have hrest := ih fun t ht => h t (List.mem_cons_of_mem _ ht)
    cases s with
    | marker b => cases hs
    | region text | plain c =>
      rw [List.cons_append, List.flatMap_cons, List.append_assoc, ← hrest]
      rfl

namespace Lexeme

/-- Only marks are cut into markers. -/
theorem isMarker_pieces {l : Lexeme} (h : l ≠ .mark) : ∀ s ∈ l.pieces, s.isMarker = false := by
  intro s hs
  cases l with
  | mark => exact absurd rfl h
  | name text =>
    rw [List.mem_singleton.mp hs]
    rfl
  | word | symbol | integer =>
    obtain ⟨c, _, rfl⟩ := List.mem_map.mp hs
    rfl

/-- The pieces of a lexeme are its text. -/
theorem flatMap_source_pieces (l : Lexeme) : l.pieces.flatMap Segment.source = l.text := by
  cases l with
  | mark => rfl
  | name s => simp [pieces, text, Segment.source]
  | word | symbol | integer => simp [pieces, text, Segment.source, List.flatMap_map]

/-- The named style names the marks. -/
theorem nameMarkers_segmented (stem : String) (glued : Bool) (index : Nat)
    (lexemes : List Lexeme) :
    nameMarkers stem index (segmented glued lexemes) =
      restyled (namedMark stem) (fun c => [c]) glued index lexemes := by
  induction lexemes generalizing glued index with
  | nil => rfl
  | cons l rest ih =>
    have hblank : ∀ s ∈ (if glued || l.closes then [] else [Segment.plain ' ']),
        s.isMarker = false := by
      intro s hs
      split at hs
      · cases hs
      · rw [List.mem_singleton.mp hs]
        rfl
    rw [segmented, List.append_assoc, nameMarkers_append stem index hblank]
    by_cases hl : l = .mark
    · subst hl
      have hmark : nameMarkers stem index (pieces .mark ++ segmented (opens .mark) rest) =
          namedMark stem index ++ nameMarkers stem (index + 1) (segmented (opens .mark) rest) := rfl
      rw [hmark, restyled_mark, ih]
      cases glued <;> rfl
    · rw [nameMarkers_append stem index (isMarker_pieces hl), flatMap_source_pieces,
        restyled_cons _ _ hl, ih, List.flatMap_singleton']
      split <;> simp [Segment.source]

end Lexeme

/-- Bind names tell their indices. -/
theorem bindName_injective {stem : String} {i j : Nat} (h : bindName stem i = bindName stem j) :
    i = j := by
  have hdigits (k : Nat) : (bindName stem k).toList = stem.toList ++ '_' :: Nat.toDigits 10 k := by
    have hpos : ¬ ((k : Int) < 0) := by omega
    simp [bindName, Text.decimal, hpos, Text.decimalDigits]
  have hsame : Nat.toDigits 10 i = Nat.toDigits 10 j := by
    have htext := congrArg String.toList h
    rw [hdigits, hdigits] at htext
    exact (List.cons.inj (List.append_cancel_left htext)).2
  rw [← Nat.ofDigitChars_ten_toDigits (n := i), hsame, Nat.ofDigitChars_ten_toDigits]

/-- As many names as values. -/
theorem length_indexedFrom (stem : String) (first : Nat) (values : List Value) :
    (indexedFrom stem first values).length = values.length := by
  induction values generalizing first with
  | nil => rfl
  | cons v values ih => rw [indexedFrom, List.length_cons, List.length_cons, ih]

/-- A value is found under the name of its index. -/
theorem lookup_indexedFrom (stem : String) (first : Nat) (values : List Value) (index : Nat) :
    (indexedFrom stem first values).lookup (bindName stem (first + index)) = values[index]? := by
  induction values generalizing first index with
  | nil => rfl
  | cons v values ih =>
    cases index with
    | zero => simp [indexedFrom]
    | succ index =>
      have hne : (bindName stem (first + (index + 1)) == bindName stem first) = false := by
        rw [beq_eq_false_iff_ne]
        intro he
        have := bindName_injective he
        omega
      have hnext : first + (index + 1) = first + 1 + index := by omega
      rw [indexedFrom, List.lookup_cons, hne, hnext]
      exact ih (first + 1) index

/-! ## The format style -/

/-- A character of a text in the format style. -/
def formatted (c : Char) : List Char :=
  if c = '%' then [c, c] else [c]

/-- Reads text in the format style: directives, and the characters between them. A percent sign
before anything else is refused. -/
def readFormat : List Char → Option (List (Option Char))
  | [] => some []
  | '%' :: '%' :: rest => (readFormat rest).map (some '%' :: ·)
  | '%' :: 's' :: rest => (readFormat rest).map (none :: ·)
  | '%' :: _ => none
  | c :: rest => (readFormat rest).map (some c :: ·)

/-- Percent signs are doubled character by character. -/
theorem doublePercents_eq_flatMap (text : List Char) :
    doublePercents text = text.flatMap formatted := by
  induction text with
  | nil => rfl
  | cons c text ih =>
    by_cases hc : c = '%' <;> simp [doublePercents, formatted, hc, ih]

/-- A segment that is no marker keeps its characters. -/
theorem Segment.format_of_unmarked {s : Segment} (h : s.isMarker = false) :
    s.format = s.source.flatMap formatted := by
  cases s with
  | marker b => cases h
  | region text => exact doublePercents_eq_flatMap text
  | plain c => exact doublePercents_eq_flatMap [c]

/-- Segments without markers keep their characters. -/
theorem flatMap_format_of_unmarked {parts : List Segment} (h : ∀ s ∈ parts, s.isMarker = false) :
    parts.flatMap Segment.format = (parts.flatMap Segment.source).flatMap formatted := by
  induction parts with
  | nil => rfl
  | cons s parts ih =>
    rw [List.flatMap_cons, List.flatMap_cons, List.flatMap_append,
      Segment.format_of_unmarked (h s (List.mem_cons_self ..)),
      ih fun t ht => h t (List.mem_cons_of_mem _ ht)]

/-- A character is read back. -/
theorem readFormat_formatted (c : Char) (rest : List Char) :
    readFormat (formatted c ++ rest) = (readFormat rest).map (some c :: ·) := by
  by_cases hc : c = '%'
  · subst hc
    rfl
  · simp [formatted, hc, readFormat]

/-- Characters are read back. -/
theorem readFormat_flatMap (text rest : List Char) :
    readFormat (text.flatMap formatted ++ rest) =
      (readFormat rest).map (text.flatMap (fun c => [some c]) ++ ·) := by
  induction text with
  | nil => simp
  | cons c text ih =>
    rw [List.flatMap_cons, List.append_assoc, readFormat_formatted, ih, Option.map_map]
    rfl

namespace Lexeme

/-- The pieces of a lexeme that is no mark keep its characters. -/
theorem flatMap_format_pieces {l : Lexeme} (h : l ≠ .mark) :
    l.pieces.flatMap Segment.format = l.text.flatMap formatted := by
  rw [flatMap_format_of_unmarked (isMarker_pieces h), flatMap_source_pieces]

/-- The format style gives every mark a directive. -/
theorem flatMap_format_segmented (glued : Bool) (index : Nat) (lexemes : List Lexeme) :
    (segmented glued lexemes).flatMap Segment.format =
      restyled (fun _ => ['%', 's']) formatted glued index lexemes := by
  induction lexemes generalizing glued index with
  | nil => rfl
  | cons l rest ih =>
    rw [segmented, List.flatMap_append, List.flatMap_append]
    by_cases hl : l = .mark
    · subst hl
      rw [restyled_mark, ih _ (index + 1)]
      cases glued <;> rfl
    · rw [restyled_cons _ _ hl, ih _ index, flatMap_format_pieces hl]
      split <;> rfl

/-- Text in the format style is read back with a directive for every mark. -/
theorem readFormat_restyled (glued : Bool) (index : Nat) (lexemes : List Lexeme) :
    readFormat (restyled (fun _ => ['%', 's']) formatted glued index lexemes) =
      some (restyled (fun _ => [none]) (fun c => [some c]) glued index lexemes) := by
  induction lexemes generalizing glued index with
  | nil => rfl
  | cons l rest ih =>
    by_cases hl : l = .mark
    · subst hl
      have hdirective (text : List Char) :
          readFormat (['%', 's'] ++ text) = (readFormat text).map (none :: ·) := rfl
      rw [restyled_mark, restyled_mark, List.append_assoc, List.append_assoc]
      cases glued with
      | true => rw [if_pos rfl, if_pos rfl, List.nil_append, hdirective, ih]; rfl
      | false =>
        rw [if_neg (by simp), if_neg (by simp), readFormat_formatted, hdirective, ih]
        rfl
    · rw [restyled_cons _ _ hl, restyled_cons _ _ hl, List.append_assoc, List.append_assoc]
      split
      · rw [List.nil_append, readFormat_flatMap, ih]
        rfl
      · rw [readFormat_formatted, readFormat_flatMap, ih]
        rfl

/-- A directive for every mark. -/
theorem count_none_restyled (glued : Bool) (index : Nat) (lexemes : List Lexeme) :
    (restyled (fun _ => [none]) (fun c => [some c]) glued index lexemes).count none =
      lexemes.count .mark := by
  have hplain (text : List Char) : (text.flatMap fun c => [some c]).count none = 0 := by
    simp [List.count_eq_zero]
  induction lexemes generalizing glued index with
  | nil => rfl
  | cons l rest ih =>
    by_cases hl : l = .mark
    · subst hl
      rw [restyled_mark, List.count_append, List.count_append, ih, List.count_cons_self]
      cases glued <;> simp [Nat.add_comm]
    · rw [restyled_cons _ _ hl, List.count_append, List.count_append, ih, hplain,
        List.count_cons_of_ne hl]
      split <;> simp

end Lexeme

namespace Statement

/-- The named style of a statement names its marks. -/
theorem namedStyle_render {s : Statement String} (h : s.Filled) {params : List Value}
    (hparams : params.length = s.marks) (stem : String) :
    namedStyle s.render params stem =
      .ok { sql := String.ofList (s.restyled (namedMark stem) fun c => [c])
            values := indexedParams stem params } := by
  have hcount : markerCount s.render = params.length := by
    rw [markerCount_render h, hparams]
  rw [namedStyle, hcount, segments_render h, nameMarkers_segmented]
  simp only [if_true, restyled]

/-- The format style of a statement gives its marks directives. -/
theorem formatStyle_render {s : Statement String} (h : s.Filled) :
    formatStyle s.render = String.ofList (s.restyled (fun _ => ['%', 's']) formatted) := by
  rw [formatStyle, segments_render h, flatMap_format_segmented true 0, restyled]

end Statement

/-- The scanner finds one marker for every value of a compiled transaction. The named style puts
their names for its marks and changes nothing else, for every stem, and the format style puts
directives for the same marks. -/
theorem Transaction.compiled_markers_agree {t : Transaction} (hbuilt : t.Constructed)
    (hkind : t.kind ≠ .raw) {q : Query} {event : LogEvent}
    (h : t.compile .standard = .ok (q, event)) :
    ∃ (s : Statement String) (sql : String), t.AsksFor s ∧ q.sql = .text sql ∧
      sql.toList = s.restyled (fun _ => ['?']) (fun c => [c]) ∧
      q.params.length = markerCount sql ∧ q.types.length = markerCount sql ∧
      (∀ stem, ∃ named, q.named stem = .ok named ∧
        named.sql.toList = s.restyled (namedMark stem) (fun c => [c]) ∧
        named.values.length = q.params.length ∧
        ∀ k, named.values.lookup (bindName stem k) = q.params[k]?) ∧
      ∃ format, q.format = .ok (format, q.params) ∧
        format.toList = s.restyled (fun _ => ['%', 's']) formatted ∧
        readFormat format.toList = some (s.restyled (fun _ => [none]) fun c => [some c]) ∧
        (s.restyled (fun _ => [none]) fun c => [some c]).count none = q.params.length := by
  obtain ⟨s, hs, hfilled, hsql, hparams, htypes⟩ := exists_statement hbuilt hkind h
  have hcount := Statement.markerCount_render hfilled
  refine ⟨s, s.render, hs, hsql, ?_, by rw [hcount, hparams], by rw [hcount, htypes], ?_, ?_⟩
  · rw [Statement.toList_render hfilled, Statement.restyled, restyled_written]
  · intro stem
    have hnamed : q.named stem = .ok
        { sql := String.ofList (s.restyled (namedMark stem) fun c => [c])
          values := indexedParams stem q.params } := by
      rw [Query.named, hsql]
      exact Statement.namedStyle_render hfilled hparams stem
    refine ⟨_, hnamed, String.toList_ofList, length_indexedFrom stem 0 q.params, fun k => ?_⟩
    have hlookup := lookup_indexedFrom stem 0 q.params k
    rwa [Nat.zero_add] at hlookup
  · refine ⟨formatStyle s.render, by rw [Query.format, hsql]; rfl, ?_, ?_, ?_⟩
    · rw [Statement.formatStyle_render hfilled, String.toList_ofList]
    · rw [Statement.formatStyle_render hfilled, String.toList_ofList]
      exact readFormat_restyled true 0 s.template
    · rw [Statement.restyled, count_none_restyled, Statement.count_mark_template, hparams]

/-- An update with names that look like markers, directives and regions. -/
def markedUpdate : Transaction :=
  .bulkUpdate {
    table := .text "t--?"
    column := .text "/* '%s"
    identifiers := [.int 1, .int 2]
    values := [(.text "E'$$ ?", .int 3)]
    type := .null
    hints := []
    schema := .text "\"?"
    options := { idempotent := .null, policy := .policy .none } }

theorem markedUpdate_markers_agree :
    ∃ q event, markedUpdate.compile .standard = .ok (q, event) ∧ q.params.length = 3 ∧
      ∃ (s : Statement String) (sql : String), markedUpdate.AsksFor s ∧ q.sql = .text sql ∧
        markerCount sql = 3 ∧ ∀ stem, ∃ named, q.named stem = .ok named ∧
          named.sql.toList = s.restyled (namedMark stem) (fun c => [c]) := by
  let arg : String → Value := fun name =>
    ([("table_name", .text "t--?"), ("identifier_column", .text "/* '%s"),
      ("identifiers", .ofList [.int 1, .int 2]), ("schema", .text "\"?"),
      ("values", .map 0 [(.text "E'$$ ?", .int 3)]),
      ("statement_reuse_policy", .policy .none)].lookup name).getD .null
  have hbuilt : markedUpdate.Constructed := ⟨.bulkUpdate, "column_types", arg, [], rfl⟩
  have hcompile : ∃ q event, markedUpdate.compile .standard = .ok (q, event) ∧
      q.params.length = 3 := ⟨_, _, rfl, rfl⟩
  obtain ⟨q, event, h, hlength⟩ := hcompile
  obtain ⟨s, sql, hs, hsql, _, hparams, _, hnamed, _⟩ :=
    Transaction.compiled_markers_agree hbuilt (by decide) h
  refine ⟨q, event, h, hlength, s, sql, hs, hsql, by rw [← hparams, hlength], fun stem => ?_⟩
  obtain ⟨named, hok, htext, _⟩ := hnamed stem
  exact ⟨named, hok, htext⟩

end PgWrite
