import PgWrite.Proofs.Refusal

/-!
# Rows in one list

Rows that are inserted together are flattened row by row over the columns of the first one. What
stands at a place of the flat list is found again from the row and the column of the place, whatever
the order in which that row gives its columns. Rows that cannot be flattened are diagnosed: the
first thing that is wrong with them decides the message.
-/

namespace PgWrite

/-- Pieces are joined as the library joins them. -/
theorem Text.joined_eq_intercalate (separator : String) (parts : List String) :
    Text.joined separator parts = separator.intercalate parts := by
  fun_induction Text.joined separator parts with
  | case1 => rfl
  | case2 s => simp
  | case3 s t rest ih => rw [ih, String.intercalate_cons_cons]

/-- Lists of one length in a row: what stands at a place is found by the list and the place in
it. -/
theorem getElem?_flatMap_of_length {α β : Type} {f : α → List β} {width : Nat}
    (hf : ∀ a, (f a).length = width) (items : List α) (i : Nat) {j : Nat} (hj : j < width) :
    (items.flatMap f)[i * width + j]? = items[i]?.bind fun a => (f a)[j]? := by
  induction items generalizing i with
  | nil => simp
  | cons a items ih =>
    rw [List.flatMap_cons]
    cases i with
    | zero => rw [Nat.zero_mul, Nat.zero_add, List.getElem?_append_left (by rw [hf]; exact hj)]; rfl
    | succ i =>
      have hplace : (i + 1) * width + j = width + (i * width + j) := by
        rw [Nat.succ_mul]
        omega
      rw [hplace, List.getElem?_append_right (by rw [hf]; omega), hf, Nat.add_sub_cancel_left, ih i]
      rfl

namespace RowSet

/-! ## The first row that differs -/

section Rows

variable {columns : List Value} {names : List String}

/-- Rows pass just if all of them have the names of the columns. -/
theorem checkRows_eq_ok_iff (hcolumns : Spells columns names) {given : List Row}
    {rows : List (List String)} (h : RowsSpell given rows) (index : Nat) :
    checkRows columns index given = .ok () ↔ ∀ row ∈ rows, row.toFinset = names.toFinset := by
  induction h generalizing index with
  | nil => simp [checkRows]
  | @cons row rowNames given rows hrow _ ih =>
    rw [checkRows_cons hcolumns hrow, List.forall_mem_cons]
    by_cases heq : rowNames.toFinset = names.toFinset
    · rw [if_pos heq, ih (index + 1), and_iff_right heq]
    · rw [if_neg heq]
      exact iff_of_false (fun h => by cases h) fun hall => heq hall.1

/-- The first row with other names is reported, at its place behind the rows that pass. -/
theorem checkRows_of_differs (hcolumns : Spells columns names) {given : List Row}
    {before after : List (List String)} {row : List String}
    (h : RowsSpell given (before ++ row :: after)) (index : Nat)
    (hbefore : ∀ r ∈ before, r.toFinset = names.toFinset)
    (hdiffers : row.toFinset ≠ names.toFinset) :
    checkRows columns index given = .error (.invalid (.rowDiffers (index + before.length)
      (names.filter (· ∉ row)) (row.filter (· ∉ names)))) := by
  induction before generalizing given index with
  | nil =>
    cases h with
    | cons hrow _ => rw [checkRows_cons hcolumns hrow, if_neg hdiffers]; rfl
  | cons r before ih =>
    obtain ⟨hhead, htail⟩ := List.forall_mem_cons.mp hbefore
    cases h with
    | cons hrow hrest =>
      have hplace : index + 1 + before.length = index + (r :: before).length := by
        rw [List.length_cons]
        omega
      rw [checkRows_cons hcolumns hrow, if_pos hhead, ih hrest (index + 1) htail, hplace]

end Rows

/-! ## Diagnosis -/

/-- What is reported on rows and type hints that do not go together, and the names that it is about:
that there is no row, that there is no column, the first row with other columns than the first one,
or the hints for no column. -/
inductive Diagnosed (rows : List (List String)) (hints : List Value) :
    InvalidInput → List String → Prop where
  | noRow (hrows : rows = []) : Diagnosed rows hints .emptyRows []
  | noColumn {rest : List (List String)} (hrows : rows = [] :: rest) :
    Diagnosed rows hints .noColumns []
  | rowDiffers {first row : List String} {before after : List (List String)}
    (hrows : rows = first :: (before ++ row :: after)) (hfirst : first ≠ [])
    (hbefore : ∀ r ∈ before, r.toFinset = first.toFinset)
    (hdiffers : row.toFinset ≠ first.toFinset) :
    Diagnosed rows hints
      (.rowDiffers (before.length + 1) (first.filter (· ∉ row)) (row.filter (· ∉ first)))
      (first.filter (· ∉ row) ++ row.filter (· ∉ first))
  | unknownHints {first : List String} {rest : List (List String)} {unknown : List String}
    (hrows : rows = first :: rest) (hfirst : first ≠ [])
    (hsame : ∀ row ∈ rest, row.toFinset = first.toFinset) (hunknown : unknown ≠ [])
    (hspells : Spells (hints.filter fun k => k.text? ∉ first.map some) unknown) :
    Diagnosed rows hints (.unknownRowHints unknown) unknown

/-- Rows and type hints go together: every row has the columns of the first one, of which there are
some, and every hint is for one of them. -/
structure Uniform (rows : List (List String)) (hints : List Value) : Prop where
  some_row : rows ≠ []
  some_column : rows.headD [] ≠ []
  same : ∀ row ∈ rows, row.toFinset = (rows.headD []).toFinset
  hinted : ∀ k ∈ hints, ∃ name ∈ rows.headD [], k.text? = some name

/-- With some column in the first row, what remains to be checked are the other rows and the
hints. -/
theorem compile_cons {first : Row} {names : List String} (hfirst : Spells first.keys names)
    (hnames : names ≠ []) (rest : List Row) (hints : Row) :
    compile (first :: rest) hints = do
      checkRows first.keys 1 rest
      checkHints first.keys hints.keys
      return flatten first.keys (first :: rest) hints := by
  have hempty : ¬ first.isEmpty = true := by
    rwa [← List.isEmpty_map (f := (·.1)), ← Row.keys, hfirst.isEmpty_iff]
  rw [compile, columnsOf, if_neg hempty]
  rfl

/-- Hints for other names than those of the columns are reported, if all of them are text. -/
theorem checkHints_of_unknown {columns : List Value} {names : List String}
    (hcolumns : Spells columns names) {hints : List Value} {unknown : List String}
    (hunknown : unknown ≠ [])
    (hspells : Spells (hints.filter fun k => k.text? ∉ names.map some) unknown) :
    checkHints columns hints = .error (.invalid (.unknownRowHints unknown)) := by
  have hfilter : (hints.filter fun k => !k.isAmong columns) =
      hints.filter fun k => k.text? ∉ names.map some := by
    simp only [hcolumns.isAmong_eq, decide_not]
  rw [checkHints, hfilter, if_neg (mt hspells.isEmpty_iff.mp hunknown), hspells.namesOf_eq]
  rfl

/-- Hints for columns pass, and no others. -/
theorem checkHints_eq_ok_iff {columns : List Value} {names : List String}
    (hcolumns : Spells columns names) {hints : List Value} :
    checkHints columns hints = .ok () ↔ ∀ k ∈ hints, ∃ name ∈ names, k.text? = some name := by
  rw [checkHints, refuseNames_eq_ok]
  simp only [List.filter_eq_nil_iff, hcolumns.isAmong_eq, List.mem_map, Bool.not_eq_true',
    decide_eq_false_iff_not, not_not]
  exact forall₂_congr fun k _ => exists_congr fun name => and_congr_right' eq_comm

/-- A row without names is empty. -/
theorem eq_nil_of_spells {row : Row} (h : Spells row.keys []) : row = [] :=
  List.map_eq_nil_iff.mp (List.isEmpty_iff.mp (h.isEmpty_iff.mpr rfl))

/-- Rows are flattened just if they and the hints go together. -/
theorem compile_eq_ok_iff {given : List Row} {rows : List (List String)}
    (hrows : RowsSpell given rows) {hints : Row} :
    (∃ s, compile given hints = .ok s) ↔ Uniform rows hints.keys := by
  cases hrows with
  | nil => exact iff_of_false (by rintro ⟨s, ⟨⟩⟩) fun h => h.some_row rfl
  | @cons first names given rows hfirst hrest =>
    by_cases hnames : names = []
    · subst hnames
      obtain rfl : first = [] := eq_nil_of_spells hfirst
      exact iff_of_false (by rintro ⟨s, ⟨⟩⟩) fun h => h.some_column rfl
    · rw [compile_cons hfirst hnames]
      simp only [bind_eq_ok, checkRows_eq_ok_iff hfirst hrest, checkHints_eq_ok_iff hfirst]
      constructor
      · rintro ⟨s, ⟨⟩, hsame, ⟨⟩, hhinted, -⟩
        exact ⟨List.cons_ne_nil _ _, hnames, List.forall_mem_cons.mpr ⟨rfl, hsame⟩, hhinted⟩
      · rintro ⟨-, -, hsame, hhinted⟩
        exact ⟨_, (), (List.forall_mem_cons.mp hsame).2, (), hhinted, rfl⟩

/-- A report names what it is about. -/
theorem Diagnosed.names_eq {rows : List (List String)} {hints : List Value} {cause : InvalidInput}
    {names : List String} (h : Diagnosed rows hints cause names) : cause.names = names := by
  cases h <;> rfl

/-- What is diagnosed is reported. -/
theorem Diagnosed.compile_eq {given : List Row} {rows : List (List String)}
    (hrows : RowsSpell given rows) {hints : Row} {cause : InvalidInput} {names : List String}
    (h : Diagnosed rows hints.keys cause names) :
    compile given hints = .error (.invalid cause) := by
  cases h with
  | noRow hempty =>
    subst hempty
    cases hrows
    rfl
  | noColumn hempty =>
    subst hempty
    cases hrows with
    | cons hfirst hrest =>
      obtain rfl := eq_nil_of_spells hfirst
      rfl
  | rowDiffers hsplit hnames hbefore hdiffers =>
    subst hsplit
    cases hrows with
    | cons hfirst hrest =>
      rw [compile_cons hfirst hnames, checkRows_of_differs hfirst hrest 1 hbefore hdiffers,
        Nat.add_comm]
      rfl
  | unknownHints hcons hnames hsame hunknown hspells =>
    subst hcons
    cases hrows with
    | cons hfirst hrest =>
      rw [compile_cons hfirst hnames, (checkRows_eq_ok_iff hfirst hrest 1).mpr hsame]
      refine bind_eq_error.mpr (.inr ⟨(), rfl, bind_eq_error.mpr (.inl ?_)⟩)
      exact checkHints_of_unknown hfirst hunknown hspells

/-- If rows and hints do not go together there is something to report. -/
theorem exists_diagnosed {rows : List (List String)} {hints : List Value}
    (hhints : ∀ k ∈ hints, k.IsName) (h : ¬ Uniform rows hints) :
    ∃ cause names, Diagnosed rows hints cause names := by
  cases rows with
  | nil => exact ⟨_, _, .noRow rfl⟩
  | cons first rest =>
    by_cases hfirst : first = []
    · exact ⟨_, _, .noColumn (by rw [hfirst])⟩
    -- the first row that differs comes before all hints
    cases hfind : rest.find? fun row => row.toFinset ≠ first.toFinset with
    | some row =>
      obtain ⟨hdiffers, before, after, rfl, hbefore⟩ := List.find?_eq_some_iff_append.mp hfind
      exact ⟨_, _, .rowDiffers rfl hfirst (by simpa using hbefore) (by simpa using hdiffers)⟩
    | none =>
      have hsame : ∀ row ∈ rest, row.toFinset = first.toFinset := by simpa using hfind
      obtain ⟨unknown, hunknown⟩ := Spells.exists_names fun k hk =>
        hhints k (List.mem_of_mem_filter (p := fun k => k.text? ∉ first.map some) hk)
      refine ⟨_, _, .unknownHints rfl hfirst hsame (fun hnone => h ?_) hunknown⟩
      have hall := hunknown.isEmpty_iff.mpr hnone
      refine ⟨List.cons_ne_nil _ _, hfirst, List.forall_mem_cons.mpr ⟨rfl, hsame⟩, ?_⟩
      simpa [List.filter_eq_nil_iff, @eq_comm _ (some _)] using hall

/-! ## Places in the flat lists -/

/-- The columns are those of the first row. -/
theorem spells_firstColumns {given : List Row} {rows : List (List String)}
    (h : RowsSpell given rows) : Spells (firstColumns given) (rows.headD []) := by
  cases h with
  | nil => rfl
  | cons hfirst _ => exact hfirst

/-- The rows that spell names are found at the same places. -/
theorem exists_names_at {given : List Row} {rows : List (List String)} (h : RowsSpell given rows)
    {i : Nat} {row : Row} (hrow : given[i]? = some row) :
    ∃ rowNames ∈ rows, Spells row.keys rowNames := by
  induction h generalizing i with
  | nil => cases hrow
  | @cons first names given rows hfirst _ ih =>
    cases i with
    | zero =>
      obtain rfl : first = row := Option.some.inj hrow
      exact ⟨names, List.mem_cons_self .., hfirst⟩
    | succ i =>
      obtain ⟨rowNames, hmem, hspells⟩ := ih hrow
      exact ⟨rowNames, List.mem_cons_of_mem _ hmem, hspells⟩

/-- A column is found at the place of its name. -/
theorem exists_column_at {columns : List Value} {names : List String} (h : Spells columns names)
    {j : Nat} {name : String} (hname : names[j]? = some name) :
    ∃ c, columns[j]? = some c ∧ c.text? = some name := by
  have hplace : (columns.map Value.text?)[j]? = (names.map some)[j]? := by rw [h]
  rw [List.getElem?_map, List.getElem?_map, hname] at hplace
  exact Option.map_eq_some_iff.mp hplace

/-- A row with a column has a value for it. -/
theorem exists_cell {row : Row} {names : List String} (h : Spells row.keys names) {c : Value}
    {name : String} (hc : c.text? = some name) (hname : name ∈ names) :
    ∃ v, row.get? c = some v := by
  have hhas : row.has c = true := (Row.has_iff h hc).mpr hname
  have hfound : (row.find? fun e => e.1.same c).isSome = true :=
    List.find?_isSome.mpr (List.any_eq_true.mp hhas)
  obtain ⟨entry, hentry⟩ := Option.isSome_iff_exists.mp hfound
  exact ⟨entry.2, by rw [Row.get?, hentry]; rfl⟩

/-- In the flat lists of rows that go together, the place `i * m + j` has the value of the `j`th of
`m` columns in the `i`th row, and the hint for that column. -/
theorem flatten_at {given : List Row} {rows : List (List String)} (hrows : RowsSpell given rows)
    {hints : Row} (h : Uniform rows hints.keys) {i j : Nat} {row : Row} {name : String}
    (hrow : given[i]? = some row) (hname : (rows.headD [])[j]? = some name) :
    ∃ v, row.get? (.text name) = some v ∧
      (flatten (firstColumns given) given hints).params[i * (rows.headD []).length + j]? = some v ∧
      (flatten (firstColumns given) given hints).types[i * (rows.headD []).length + j]? =
        some ((hints.get? (.text name)).getD .null) := by
  have hcolumns : Spells (firstColumns given) (rows.headD []) := spells_firstColumns hrows
  have hwidth : (firstColumns given).length = (rows.headD []).length := hcolumns.length_eq
  obtain ⟨c, hc, hctext⟩ := exists_column_at hcolumns hname
  have htext : (Value.text name).text? = some name := rfl
  obtain ⟨rowNames, hmem, hspells⟩ := exists_names_at hrows hrow
  have hcarried : name ∈ rowNames := by
    rw [← List.mem_toFinset, h.same rowNames hmem, List.mem_toFinset]
    exact List.mem_of_getElem? hname
  obtain ⟨v, hv⟩ := exists_cell hspells htext hcarried
  have hj : j < (firstColumns given).length := (List.getElem?_eq_some_iff.mp hc).1
  refine ⟨v, hv, ?_, ?_⟩
  · have hcell : (cells (firstColumns given) row)[j]? = some v := by
      rw [cells, List.getElem?_map, hc, Option.map_some, Row.get?_congr hctext htext, hv]
      rfl
    have hlength (row : Row) : (cells (firstColumns given) row).length =
        (firstColumns given).length := List.length_map _
    rw [flatten, ← hwidth, getElem?_flatMap_of_length hlength given i hj, hrow, Option.bind_some,
      hcell]
  · have hhint : (hintsFor (firstColumns given) hints)[j]? =
        some ((hints.get? (.text name)).getD .null) := by
      rw [hintsFor, List.getElem?_map, hc, Option.map_some, Row.get?_congr hctext htext]
    have hlength (_ : Row) : (hintsFor (firstColumns given) hints).length =
        (firstColumns given).length := List.length_map _
    rw [flatten, ← hwidth, getElem?_flatMap_of_length hlength given i hj, hrow, Option.bind_some,
      hhint]

/-! ## Rows given as values -/

/-- Mappings are all taken for rows. -/
theorem leadingRows_eq {items : List Value} {given : List Row}
    (h : List.Forall₂ (fun v row => ∃ identity, v = .map identity row) items given) :
    leadingRows items = (given, true) := by
  induction h with
  | nil => rfl
  | cons hv _ ih =>
    obtain ⟨identity, rfl⟩ := hv
    rw [leadingRows, ih]

/-- Rows and hints that are given as mappings are flattened like those that are read-only. -/
theorem compileValues_eq {items : List Value} {given : List Row}
    (h : List.Forall₂ (fun v row => ∃ identity, v = .map identity row) items given)
    (identity : Nat) {v : Value} {hints : Row}
    (hv : (v = .null ∧ hints = []) ∨ ∃ identity, v = .map identity hints) :
    compileValues (.list identity items) v = compile given hints := by
  have hpass (columns : List Value) : checkHints columns (Row.keys []) = .ok () := rfl
  rw [compileValues, compile]
  cases hcolumns : columnsOf given with
  | error fault =>
    simp [leadingRows_eq h, hcolumns, bind, Except.bind]
  | ok columns =>
    cases hrows : checkRows columns 1 given.tail with
    | error fault => simp [leadingRows_eq h, hcolumns, hrows, bind, Except.bind]
    | ok =>
      obtain ⟨rfl, rfl⟩ | ⟨_, rfl⟩ := hv
      · simp [leadingRows_eq h, hcolumns, hrows, Value.truthy, hpass, bind, Except.bind]
      · cases hints <;>
          simp [leadingRows_eq h, hcolumns, hrows, Value.truthy, hpass, bind, Except.bind]

/-- Rows are flattened just if they and the type hints go together. Then the columns are those of
the first row, every row is a tuple of question marks, and at the place of the `j`th column in the
`i`th row stand the value of that row for that column and the hint for it, if there is one.
Otherwise what is diagnosed is reported. Rows that are given as mappings are flattened alike. -/
theorem compile_exactly {given : List Row} {rows : List (List String)}
    (hrows : RowsSpell given rows) (hints : Row) :
    ((∃ s, compile given hints = .ok s) ↔ Uniform rows hints.keys) ∧
    (∀ s, compile given hints = .ok s →
      Spells s.columns (rows.headD []) ∧
      s.valuesSql = ", ".intercalate (List.replicate rows.length
        ("(" ++ ", ".intercalate (List.replicate (rows.headD []).length "?") ++ ")")) ∧
      s.params.length = rows.length * (rows.headD []).length ∧
      s.types.length = rows.length * (rows.headD []).length ∧
      ∀ i row j name, given[i]? = some row → (rows.headD [])[j]? = some name →
        ∃ v, row.get? (.text name) = some v ∧
          s.params[i * (rows.headD []).length + j]? = some v ∧
          s.types[i * (rows.headD []).length + j]? =
            some ((hints.get? (.text name)).getD .null)) ∧
    (∀ cause names, Diagnosed rows hints.keys cause names →
      compile given hints = .error (.invalid cause) ∧ cause.names = names) ∧
    ((∀ k ∈ hints.keys, k.IsName) → ∀ fault, compile given hints = .error fault →
      ∃ cause names, fault = .invalid cause ∧ Diagnosed rows hints.keys cause names) ∧
    ∀ items identity v,
      List.Forall₂ (fun item row => ∃ identity, item = .map identity row) items given →
      (v = .null ∧ hints = []) ∨ (∃ identity, v = .map identity hints) →
      compileValues (.list identity items) v = compile given hints := by
  refine ⟨compile_eq_ok_iff hrows, fun s hs => ?_,
    fun cause names h => ⟨h.compile_eq hrows, h.names_eq⟩, ?_, ?_⟩
  · have huniform : Uniform rows hints.keys := (compile_eq_ok_iff hrows).mp ⟨s, hs⟩
    obtain ⟨-, rfl⟩ := RowSet.compile_eq_ok hs
    have hcolumns : Spells (firstColumns given) (rows.headD []) := spells_firstColumns hrows
    obtain ⟨hparams, htypes⟩ := length_flatten (firstColumns given) given hints
    rw [hrows.length_eq, hcolumns.length_eq] at hparams htypes
    refine ⟨hcolumns, ?_, hparams, htypes, fun i row j name => flatten_at hrows huniform⟩
    simp only [valuesSql, flatten, Clause.values, placeholders, Text.joined_eq_intercalate,
      hrows.length_eq, hcolumns.length_eq]
  · intro hnames fault hfault
    have hnot : ¬ Uniform rows hints.keys := by
      rw [← compile_eq_ok_iff hrows, hfault]
      rintro ⟨s, ⟨⟩⟩
    obtain ⟨cause, names, hcause⟩ := exists_diagnosed hnames hnot
    rw [hcause.compile_eq hrows] at hfault
    exact ⟨cause, names, (Except.error.inj hfault).symm, hcause⟩
  · exact fun items identity v hitems hv => compileValues_eq hitems identity hv

/-- Two rows that give the same columns in different orders. -/
def swappedRows : List Row :=
  [[(.text "id", .int 1), (.text "a", .int 2)], [(.text "a", .int 3), (.text "id", .int 4)]]

/-- The second row is put into the order of the first one, with its hint. -/
theorem swappedRows_compiled :
    RowsSpell swappedRows [["id", "a"], ["a", "id"]] ∧
      ∃ s, compile swappedRows [(.text "id", .text "int8")] = .ok s ∧
        s.valuesSql = "(?, ?), (?, ?)" ∧ s.params[2]? = some (.int 4) ∧
        s.types[2]? = some (.text "int8") := by
  have hrows : RowsSpell swappedRows [["id", "a"], ["a", "id"]] := .cons rfl (.cons rfl .nil)
  have huniform : Uniform [["id", "a"], ["a", "id"]] [.text "id"] :=
    ⟨by decide, by decide, by decide, by simp [Value.text?]⟩
  obtain ⟨hok, hflat, -⟩ := compile_exactly hrows [(.text "id", .text "int8")]
  obtain ⟨s, hs⟩ := hok.mpr huniform
  obtain ⟨-, hsql, -, -, hplaces⟩ := hflat s hs
  obtain ⟨v, hv, hparam, htype⟩ := hplaces 1 _ 0 "id" rfl rfl
  have hcell : Value.int 4 = v := by
    simpa [Row.get?, Value.same, Value.sameAtom, Value.text?] using hv
  have hhint : Row.get? [(.text "id", .text "int8")] (.text "id") = some (.text "int8") := by
    simp [Row.get?, Value.same, Value.sameAtom, Value.text?]
  rw [hhint] at htype
  exact ⟨hrows, s, hs, hsql, hcell ▸ hparam, htype⟩

end RowSet

end PgWrite
