import PgWrite.Proofs.Outline
import PgWrite.Proofs.RequestShape

/-!
# What is refused

A well-typed request is refused for the violations of its own kind and for nothing else: some are
seen when its transaction is built, the others when it is compiled. Beside the stages of building
and compiling stand the conditions, which know names and numbers only. Each stage fails with a
violation exactly under its condition, and otherwise yields what the next stage needs.
-/

namespace PgWrite

/-- The computation fails with a violation where the request is bad; otherwise it succeeds, with a
result as it should be. -/
def Screens {α : Type} (x : Except Fault α) (bad : Prop) (good : α → Prop) : Prop :=
  (bad → ∃ cause, x = .error (.invalid cause)) ∧ (¬ bad → ∃ a, x = .ok a ∧ good a)

namespace Screens

variable {α β : Type} {x : Except Fault α} {f : α → Except Fault β} {bad bad' : Prop}
  {good : α → Prop} {good' : β → Prop}

/-- Success without a check. -/
theorem ok {a : α} (h : good a) : Screens (.ok a) False good :=
  ⟨False.elim, fun _ => ⟨a, rfl, h⟩⟩

/-- Two stages screen for what either of them does. -/
theorem bind (hx : Screens x bad good) (hf : ∀ a, good a → Screens (f a) bad' good') :
    Screens (x >>= f) (bad ∨ bad') good' := by
  constructor
  · intro h
    by_cases hbad : bad
    · obtain ⟨cause, hc⟩ := hx.1 hbad
      exact ⟨cause, by rw [hc]; rfl⟩
    · obtain ⟨a, ha, hgood⟩ := hx.2 hbad
      obtain ⟨cause, hc⟩ := (hf a hgood).1 (h.resolve_left hbad)
      exact ⟨cause, by rw [ha]; exact hc⟩
  · intro h
    obtain ⟨hbad, hbad'⟩ := not_or.mp h
    obtain ⟨a, ha, hgood⟩ := hx.2 hbad
    obtain ⟨b, hb, hgood'⟩ := (hf a hgood).2 hbad'
    exact ⟨b, by rw [ha]; exact hb, hgood'⟩

/-- A stage that succeeds adds no condition. -/
theorem bind_of_ok {a : α} (ha : x = .ok a) (hf : Screens (f a) bad' good') :
    Screens (x >>= f) bad' good' := by
  rw [ha]
  exact hf

theorem congr (h : Screens x bad good) (hbad : bad ↔ bad') : Screens x bad' good :=
  propext hbad ▸ h

/-- A last stage that succeeds adds no condition. -/
theorem bind_ok (hx : Screens x bad good) (hf : ∀ a, good a → Screens (f a) False good') :
    Screens (x >>= f) bad good' :=
  (hx.bind hf).congr (or_iff_left id)

/-- A check in front of a success. -/
theorem before {check : Except Fault Unit} {b : β} (hx : Screens check bad fun _ => True)
    (h : Screens (.ok b) False good') : Screens (check >>= fun _ => .ok b) bad good' :=
  hx.bind_ok fun _ _ => h

/-- A single check. -/
theorem refuseIf {condition : Bool} {cause : InvalidInput} (h : condition = true ↔ bad) :
    Screens (PgWrite.refuseIf condition cause) bad fun _ => True := by
  cases condition with
  | true => exact ⟨fun _ => ⟨cause, rfl⟩, fun hbad => absurd (h.mp rfl) hbad⟩
  | false =>
    exact ⟨fun hbad => absurd (h.mpr hbad) Bool.false_ne_true, fun _ => ⟨(), rfl, trivial⟩⟩

end Screens

/-! ## Building -/

/-- The transaction holds what the request gave. -/
inductive Holds : Transaction → RequestShape → Prop where
  | insert {t : Insert} {rows : List (List String)} {hints : List String}
    (htable : NamesTable t.table t.schema) (hrows : RowsSpell t.rows rows)
    (hhints : Spells t.hints.keys hints) : Holds (.insert t) (.insert rows hints)
  | insertIgnore {t : Insert} {rows : List (List String)} {hints : List String}
    (htable : NamesTable t.table t.schema) (hrows : RowsSpell t.rows rows)
    (hhints : Spells t.hints.keys hints) : Holds (.insertIgnore t) (.insertIgnore rows hints)
  | upsert {t : Upsert} {rows : List (List String)} {assigned : List String}
    {target : ConflictTarget String} {hints : List String}
    (htable : NamesTable t.table t.schema) (hrows : RowsSpell t.rows rows)
    (hassigned : Spells t.assigned assigned) (htarget : t.target.IsTarget target)
    (hhints : Spells t.hints.keys hints) : Holds (.upsert t) (.upsert rows assigned target hints)
  | raw (t : RawSql) : Holds (.raw t) (.raw t.params.length t.types.length)
  | delete {t : Delete} (htable : NamesTable t.table t.schema) (hcolumn : t.column.IsName) :
    Holds (.delete t) (.delete t.identifiers.length)
  | deleteLimited {t : DeleteLimited} (limit : Value) (htable : NamesTable t.table t.schema)
    (hcolumn : t.column.IsName) :
    Holds (.deleteLimited t) (.deleteLimited t.identifiers.length limit)
  | bulkUpdate {t : BulkUpdate} {assigned hints : List String}
    (htable : NamesTable t.table t.schema) (hcolumn : t.column.IsName)
    (hassigned : Spells t.values.keys assigned) (hhints : Spells t.hints.keys hints) :
    Holds (.bulkUpdate t) (.bulkUpdate t.identifiers.length assigned hints)
  | caseUpdate {t : CaseUpdate} {rows : List (List String)} {column : String}
    {assigned hints : List String} (htable : NamesTable t.table t.schema)
    (hrows : RowsSpell t.rows rows) (hcolumn : t.column.IsName)
    (hassigned : Spells t.assigned assigned) (hhints : Spells t.hints.keys hints) :
    Holds (.caseUpdate t) (.caseUpdate rows column assigned hints)

theorem Value.IsList.elements {v : Value} {items : List Value} (h : v.IsList items) :
    v.elements = .ok items := by
  obtain ⟨_, rfl⟩ | rfl := h <;> rfl

theorem Value.IsList.freezeValues {v : Value} {items : List Value} (h : v.IsList items) :
    freezeValues v = .ok items := by
  obtain ⟨_, rfl⟩ | rfl := h <;> rfl

theorem Value.IsNames.freezeNames {v : Value} {names : List String} (h : v.IsNames names)
    (field : String) : ∃ values, freezeNames field v = .ok values ∧ Spells values names := by
  obtain ⟨items, hlist, hspells⟩ := h
  refine ⟨items, ?_, hspells⟩
  obtain ⟨_, rfl⟩ | rfl := hlist <;> rfl

theorem Value.IsMapping.freezeMapping {v : Value} {names : List String} (h : v.IsMapping names) :
    ∃ row, freezeMapping v = .ok row ∧ Spells row.keys names := by
  obtain ⟨entries, hv, hspells⟩ := h
  refine ⟨entries, ?_, hspells⟩
  obtain ⟨_, rfl⟩ | rfl := hv <;> cases entries <;> rfl

theorem Value.IsHints.freezeMapping {v : Value} {names : List String} (h : v.IsHints names) :
    ∃ row, freezeMapping v = .ok row ∧ Spells row.keys names := by
  obtain ⟨rfl, rfl⟩ | h := h
  · exact ⟨[], rfl, rfl⟩
  · exact h.freezeMapping

theorem Value.IsRows.freezeRows {v : Value} {rows : List (List String)} (h : v.IsRows rows) :
    ∃ given, freezeRows v = .ok given ∧ RowsSpell given rows := by
  obtain ⟨items, hlist, hitems⟩ := h
  have hwalk : ∃ given, items.mapM freezeMapping = .ok given ∧ RowsSpell given rows := by
    clear hlist
    induction hitems with
    | nil => exact ⟨[], rfl, .nil⟩
    | cons hrow _ ih =>
      obtain ⟨row, hfreeze, hspells⟩ := hrow.freezeMapping
      obtain ⟨given, hgiven, hrest⟩ := ih
      refine ⟨row :: given, ?_, .cons hspells hrest⟩
      simp only [List.mapM_cons, bind_eq_ok, pure_eq_ok]
      exact ⟨row, hfreeze, given, hgiven, rfl⟩
  obtain ⟨given, hgiven, hspells⟩ := hwalk
  exact ⟨given, bind_eq_ok.mpr ⟨items, hlist.elements, hgiven⟩, hspells⟩

/-- A limit must be a positive integer, and a truth value is none. -/
theorem checkLimit_screens (limit : Value) :
    Screens (checkLimit limit) (¬ ∃ n : Int, limit = .int n ∧ 0 < n) fun _ => True := by
  by_cases h : ∃ n : Int, limit = .int n ∧ 0 < n
  · obtain ⟨n, rfl, hn⟩ := h
    refine ⟨fun hbad => absurd ⟨n, rfl, hn⟩ hbad, fun _ => ⟨n, ?_, trivial⟩⟩
    simp only [checkLimit, if_neg (not_le.mpr hn)]
  · refine ⟨fun _ => ?_, fun hbad => absurd h hbad⟩
    cases limit with
    | int n =>
      have hn : n ≤ 0 := not_lt.mp fun hn => h ⟨n, rfl, hn⟩
      exact ⟨_, by simp only [checkLimit, if_pos hn]; rfl⟩
    | null | bool | float | text | bytes | list | tuple | map | frozen | policy | columnsTarget
    | constraintTarget | sqlType | record => exact ⟨_, rfl⟩

theorem rowsWithout_ne_nil {key : Value} {index : Nat} {rows : List Row} :
    (!(rowsWithout key index rows).isEmpty) = true ↔ ∃ row ∈ rows, ¬ row.has key := by
  induction rows generalizing index with
  | nil => simp [rowsWithout]
  | cons row rows ih =>
    by_cases hrow : row.has key = true
    · simp only [rowsWithout, hrow, if_true, ih, List.exists_mem_cons_iff, not_true_eq_false,
        false_or]
    · simp [rowsWithout, hrow]

/-- A request is refused when its transaction is built exactly for the violations of its kind;
otherwise the transaction holds what the request gave. -/
theorem RequestShape.build_screens {r : RequestShape} {arg : String → Value} (h : r.MadeBy arg) :
    Screens (r.kind.build "column_types" arg) r.Unbuildable fun b =>
      Holds b.transaction r ∧ ∃ p, b.transaction.options.policy = .policy p := by
  cases r with
  | insert rows hints =>
    obtain ⟨hpolicy, htable, hrows, hhints⟩ := h
    obtain ⟨given, hgiven, hspells⟩ := hrows.freezeRows
    obtain ⟨row, hrow, hkeys⟩ := hhints.freezeMapping
    simp only [kind, Kind.build]
    exact .bind_of_ok hgiven (.bind_of_ok hrow (.ok ⟨.insert htable hspells hkeys, hpolicy⟩))
  | insertIgnore rows hints =>
    obtain ⟨hpolicy, htable, hrows, hhints⟩ := h
    obtain ⟨given, hgiven, hspells⟩ := hrows.freezeRows
    obtain ⟨row, hrow, hkeys⟩ := hhints.freezeMapping
    simp only [kind, Kind.build]
    exact .bind_of_ok hgiven (.bind_of_ok hrow (.ok ⟨.insertIgnore htable hspells hkeys, hpolicy⟩))
  | upsert rows assigned target hints =>
    obtain ⟨hpolicy, htable, hrows, hassigned, htarget, hhints⟩ := h
    obtain ⟨given, hgiven, hspells⟩ := hrows.freezeRows
    obtain ⟨columns, hcolumns, hnames⟩ := hassigned.freezeNames "update_columns"
    obtain ⟨row, hrow, hkeys⟩ := hhints.freezeMapping
    simp only [kind, Kind.build]
    refine .bind_of_ok hgiven (.bind_of_ok hcolumns (.bind_of_ok hrow ?_))
    exact (Screens.refuseIf hnames.isEmpty_iff).before
      (.ok ⟨.upsert htable hspells hnames htarget hkeys, hpolicy⟩)
  | raw params types =>
    obtain ⟨hpolicy, ⟨_, hparams, rfl⟩, _, htypes, rfl⟩ := h
    simp only [kind, Kind.build]
    exact .bind_of_ok hparams.elements (.bind_of_ok htypes.elements (.ok ⟨.raw _, hpolicy⟩))
  | delete identifiers =>
    obtain ⟨hpolicy, htable, hcolumn, _, hidentifiers, rfl⟩ := h
    simp only [kind, Kind.build]
    refine .bind_of_ok hidentifiers.freezeValues ?_
    exact (Screens.refuseIf List.isEmpty_iff_length_eq_zero).before
      (.ok ⟨.delete htable hcolumn, hpolicy⟩)
  | deleteLimited identifiers limit =>
    obtain ⟨hpolicy, htable, hcolumn, ⟨_, hidentifiers, rfl⟩, rfl⟩ := h
    simp only [kind, Kind.build]
    refine .bind_of_ok hidentifiers.freezeValues ?_
    refine (Screens.refuseIf List.isEmpty_iff_length_eq_zero).bind fun _ _ => ?_
    refine (checkLimit_screens _).bind_ok fun n _ => ?_
    exact .ok ⟨.deleteLimited _ htable hcolumn, hpolicy⟩
  | bulkUpdate identifiers assigned hints =>
    obtain ⟨hpolicy, htable, hcolumn, ⟨_, hidentifiers, rfl⟩, hvalues, hhints⟩ := h
    obtain ⟨values, hfrozen, hassigned⟩ := hvalues.freezeMapping
    obtain ⟨row, hrow, hkeys⟩ := hhints.freezeMapping
    have hempty : values.isEmpty = true ↔ assigned = [] := by
      rw [← hassigned.isEmpty_iff, Row.keys, List.isEmpty_map]
    simp only [kind, Kind.build]
    refine .bind_of_ok hidentifiers.freezeValues (.bind_of_ok hfrozen (.bind_of_ok hrow ?_))
    refine (Screens.refuseIf List.isEmpty_iff_length_eq_zero).bind fun _ _ => ?_
    exact (Screens.refuseIf hempty).before
      (.ok ⟨.bulkUpdate htable hcolumn hassigned hkeys, hpolicy⟩)
  | caseUpdate rows column assigned hints =>
    obtain ⟨hpolicy, htable, hrows, hcolumn, hassigned, hhints⟩ := h
    obtain ⟨given, hgiven, hspells⟩ := hrows.freezeRows
    obtain ⟨columns, hcolumns, hnames⟩ := hassigned.freezeNames "update_columns"
    obtain ⟨row, hrow, hkeys⟩ := hhints.freezeMapping
    have hname : (arg "identifier_column").IsName := by rw [Value.IsName, hcolumn]; rfl
    have hwithout : (!(rowsWithout (arg "identifier_column") 0 given).isEmpty) = true ↔
        ∃ names ∈ rows, column ∉ names :=
      rowsWithout_ne_nil.trans (hspells.exists_iff fun row names h =>
        not_congr (Row.has_iff h hcolumn))
    simp only [kind, Kind.build]
    -- collections are copied first, and the checks follow in the order of the conditions
    refine .bind_of_ok hgiven (.bind_of_ok hcolumns (.bind_of_ok hrow ?_))
    refine (Screens.refuseIf hspells.isEmpty_iff).bind fun _ _ => ?_
    refine (Screens.refuseIf hnames.isEmpty_iff).bind fun _ _ => ?_
    refine .bind_of_ok (Value.requireKey_of_isName hname) ?_
    exact (Screens.refuseIf hwithout).before
      (.ok ⟨.caseUpdate htable hspells hname hnames hkeys, hpolicy⟩)

/-! ## Compiling -/

/-- A check that no name is unknown; the message lists the unknown ones. -/
theorem Screens.refuseNames {unknown : List Value} {names : List String} {bad : Prop}
    {cause : List String → InvalidInput} (hspells : Spells unknown names) (h : names ≠ [] ↔ bad) :
    Screens (if unknown.isEmpty then .ok () else do .error (.invalid (cause (← namesOf unknown))))
      bad fun _ => True := by
  by_cases hempty : unknown.isEmpty = true
  · rw [if_pos hempty]
    have hnames : names = [] := hspells.isEmpty_iff.mp hempty
    exact ⟨fun hbad => absurd hnames (h.mpr hbad), fun _ => ⟨(), rfl, trivial⟩⟩
  · rw [if_neg hempty, hspells.namesOf_eq]
    exact ⟨fun _ => ⟨_, rfl⟩, fun hbad =>
      absurd (hspells.isEmpty_iff.mpr (not_not.mp (mt h.mp hbad))) hempty⟩

/-- Some name is unknown. -/
theorem filter_unknown_ne_nil {names columns : List String} :
    names.filter (· ∉ columns) ≠ [] ↔ ∃ name ∈ names, name ∉ columns := by
  simp [List.filter_eq_nil_iff]

/-- A row passes if it has the names of the columns; otherwise what it lacks and what it has beside
them is reported, each in its own order. -/
theorem RowSet.checkRows_cons {columns : List Value} {names : List String}
    (hcolumns : Spells columns names) {row : Row} {rowNames : List String}
    (hrow : Spells row.keys rowNames) (index : Nat) (rest : List Row) :
    checkRows columns index (row :: rest) =
      if rowNames.toFinset = names.toFinset then checkRows columns (index + 1) rest
      else .error (.invalid (.rowDiffers index (names.filter (· ∉ rowNames))
        (rowNames.filter (· ∉ names)))) := by
  have hmissing : Spells (row.missing columns) (names.filter (· ∉ rowNames)) := by
    simpa only [Row.missing, Row.has_eq] using hcolumns.unknown hrow
  have hunexpected : Spells (row.unexpected columns) (rowNames.filter (· ∉ names)) :=
    hrow.unknown hcolumns
  have hsame : ((row.missing columns).isEmpty && (row.unexpected columns).isEmpty) = true ↔
      rowNames.toFinset = names.toFinset := by
    rw [Bool.and_eq_true, hmissing.isEmpty_iff, hunexpected.isEmpty_iff]
    simp only [List.filter_eq_nil_iff, decide_not, Bool.not_eq_true', decide_eq_false_iff_not,
      not_not, Finset.ext_iff, List.mem_toFinset, iff_def, forall_and, and_comm]
  rw [checkRows]
  by_cases heq : rowNames.toFinset = names.toFinset
  · rw [if_pos (hsame.mpr heq), if_pos heq]
  · rw [if_neg (mt hsame.mp heq), if_neg heq, hmissing.namesOf_eq, hunexpected.namesOf_eq]
    rfl

/-- Every row must have the columns and no others. -/
theorem RowSet.checkRows_screens {columns : List Value} {names : List String}
    (hcolumns : Spells columns names) {given : List Row} {rows : List (List String)}
    (h : RowsSpell given rows) (index : Nat) :
    Screens (checkRows columns index given) (∃ row ∈ rows, row.toFinset ≠ names.toFinset)
      fun _ => True := by
  induction h generalizing index with
  | nil => exact (Screens.ok trivial).congr (by simp)
  | @cons row rowNames given rows hrow _ ih =>
    rw [checkRows_cons hcolumns hrow]
    by_cases heq : rowNames.toFinset = names.toFinset
    · rw [if_pos heq]
      exact (ih (index + 1)).congr (by simp [heq])
    · rw [if_neg heq]
      exact ⟨fun _ => ⟨_, rfl⟩, fun hbad => absurd ⟨rowNames, List.mem_cons_self .., heq⟩ hbad⟩

/-- Rows compile exactly if they are fit; they are flattened over the columns of the first one. -/
theorem RowSet.compile_screens {given : List Row} {rows : List (List String)}
    (hrows : RowsSpell given rows) {hints : Row} {hintNames : List String}
    (hhints : Spells hints.keys hintNames) :
    Screens (compile given hints) (RowsUnfit rows hintNames) fun s =>
      Spells s.columns (rows.headD []) ∧ s.params.length = s.types.length := by
  cases hrows with
  | nil => exact ⟨fun _ => ⟨_, rfl⟩, fun hbad => absurd (Or.inl rfl) hbad⟩
  | @cons first names given rows hfirst hrest =>
    have hcolumns : Screens (columnsOf (first :: given)) (names = []) (· = first.keys) := by
      have hempty : first.isEmpty = true ↔ names = [] := by
        rw [← hfirst.isEmpty_iff, Row.keys, List.isEmpty_map]
      by_cases hnames : names = []
      · exact ⟨fun _ => ⟨_, by rw [columnsOf, if_pos (hempty.mpr hnames)]⟩, absurd hnames⟩
      · exact ⟨fun hbad => absurd hbad hnames,
          fun _ => ⟨_, by rw [columnsOf, if_neg (mt hempty.mp hnames)], rfl⟩⟩
    have hstages : Screens (compile (first :: given) hints)
        (names = [] ∨ (∃ row ∈ rows, row.toFinset ≠ names.toFinset) ∨
          ∃ name ∈ hintNames, name ∉ names)
        fun s => Spells s.columns names ∧ s.params.length = s.types.length := by
      refine hcolumns.bind ?_
      rintro _ rfl
      refine (checkRows_screens hfirst hrest 1).bind fun _ _ => ?_
      refine (Screens.refuseNames (hhints.unknown hfirst) filter_unknown_ne_nil).before (.ok ?_)
      obtain ⟨hparams, htypes⟩ := length_flatten first.keys (first :: given) hints
      exact ⟨hfirst, hparams.trans htypes.symm⟩
    exact hstages.congr (by simp [RowsUnfit])

/-- The names of a plan can be written, and its values and type hints are equally many. -/
structure Plan.Sound (plan : Plan) : Prop where
  named : plan.statement.Named
  matched : plan.params.length = plan.types.length

theorem Plan.Sound.exists_query {plan : Plan} (h : plan.Sound) (policy : Value) :
    ∃ q, plan.query .standard policy = .ok q ∧ q.policy = policy := by
  obtain ⟨written, hwritten⟩ := Statement.exists_quoted Quoter.standard_writesNames h.named
  exact ⟨_, query_eq_ok_iff.mpr ⟨written, hwritten, h.matched, rfl⟩, rfl⟩

theorem Insert.plan_screens {t : Insert} {rule : ConflictRule Value} (hrule : rule.Named)
    {rows : List (List String)} {hints : List String} (htable : NamesTable t.table t.schema)
    (hrows : RowsSpell t.rows rows) (hhints : Spells t.hints.keys hints) :
    Screens (t.plan rule) (RowsUnfit rows hints) Plan.Sound := by
  refine (RowSet.compile_screens hrows hhints).bind_ok fun s hs => .ok ⟨?_, hs.2⟩
  exact ⟨TableRef.named_ofValues htable.table htable.schema, hs.1.isName, hrule⟩

/-- The columns of a list that are missing are found, as all are text. -/
theorem Spells.missingAmong_eq {values : List Value} {names : List String}
    (h : Spells values names) (columns : List Value) :
    missingAmong columns values = .ok (values.filter fun v => !v.isAmong columns) := by
  have hnames := h.isName
  clear h
  induction values with
  | nil => rfl
  | cons v values ih =>
    obtain ⟨hv, hrest⟩ := List.forall_mem_cons.mp hnames
    rw [missingAmong, Value.requireKey_of_isName hv, ih hrest]
    cases hknown : v.isAmong columns <;> simp [hknown] <;> rfl

/-- A target stands for itself, and its missing columns are found. -/
theorem Value.IsTarget.exists_missing {v : Value} {target : ConflictTarget String}
    (h : v.IsTarget target) {columns : List Value} {names : List String}
    (hcolumns : Spells columns names) :
    ∃ given missing, targetOf v = .ok given ∧ given.Named ∧
      given.missing columns = .ok missing ∧
      Spells missing (target.columnList.filter (· ∉ names)) := by
  cases target with
  | columns chosen =>
    obtain ⟨items, rfl, hitems⟩ := h
    exact ⟨.columns items, _, rfl, hitems.isName, hitems.missingAmong_eq columns,
      hitems.unknown hcolumns⟩
  | constraint name =>
    obtain ⟨w, rfl, hw⟩ := h
    exact ⟨.constraint w, [], rfl, by rw [ConflictTarget.Named, IsName, hw]; rfl, rfl, rfl⟩

theorem Upsert.refuseMissing_screens (update conflict : List String) :
    Screens (plan.refuseMissing update conflict) (update ≠ [] ∨ conflict ≠ []) fun _ => True := by
  cases update with
  | cons name update => exact ⟨fun _ => ⟨_, rfl⟩, by simp⟩
  | nil =>
    cases conflict with
    | cons name conflict => exact ⟨fun _ => ⟨_, rfl⟩, by simp⟩
    | nil => exact (Screens.ok trivial).congr (by simp)

theorem Upsert.plan_screens {t : Upsert} {rows : List (List String)} {assigned : List String}
    {target : ConflictTarget String} {hints : List String} (htable : NamesTable t.table t.schema)
    (hrows : RowsSpell t.rows rows) (hassigned : Spells t.assigned assigned)
    (htarget : t.target.IsTarget target) (hhints : Spells t.hints.keys hints) :
    Screens t.plan (RequestShape.upsert rows assigned target hints).Uncompilable Plan.Sound := by
  refine (RowSet.compile_screens hrows hhints).bind fun s hs => ?_
  obtain ⟨hcolumns, hmatched⟩ := hs
  obtain ⟨given, missing, hgiven, hnamed, hmissing, hconflict⟩ := htarget.exists_missing hcolumns
  refine .bind_of_ok (hassigned.missingAmong_eq s.columns) ?_
  refine .bind_of_ok (hassigned.unknown hcolumns).namesOf_eq (.bind_of_ok hgiven ?_)
  refine .bind_of_ok hmissing (.bind_of_ok hconflict.namesOf_eq ?_)
  refine ((refuseMissing_screens _ _).congr ?_).before (.ok ⟨?_, hmatched⟩)
  · exact or_congr filter_unknown_ne_nil filter_unknown_ne_nil
  · exact ⟨TableRef.named_ofValues htable.table htable.schema, hcolumns.isName, hnamed,
      hassigned.isName⟩

/-- Type hints are for assigned columns only. -/
theorem checkAssignedHints_screens {hints : Row} {columns : List Value}
    {hintNames names : List String} (hhints : Spells hints.keys hintNames)
    (hcolumns : Spells columns names) :
    Screens (checkAssignedHints hints columns) (∃ name ∈ hintNames, name ∉ names)
      fun _ => True :=
  .refuseNames (hhints.unknown hcolumns) filter_unknown_ne_nil

theorem BulkUpdate.plan_screens {t : BulkUpdate} {assigned hints : List String}
    (htable : NamesTable t.table t.schema) (hcolumn : t.column.IsName)
    (hassigned : Spells t.values.keys assigned) (hhints : Spells t.hints.keys hints) :
    Screens t.plan (∃ name ∈ hints, name ∉ assigned) Plan.Sound := by
  refine (checkAssignedHints_screens hhints hassigned).before (.ok ⟨?_, ?_⟩)
  · exact ⟨TableRef.named_ofValues htable.table htable.schema, hassigned.isName, hcolumn⟩
  · simp [RowSet.hintsFor, Row.keys]

/-- Some column has a branch exactly if some row carries one of the columns. -/
theorem CaseUpdate.branches_isEmpty_iff {t : CaseUpdate} {rows : List (List String)}
    {assigned : List String} (hrows : RowsSpell t.rows rows)
    (hassigned : Spells t.assigned assigned) :
    t.branches.isEmpty = true ↔ ∀ c ∈ assigned, ∀ row ∈ rows, c ∉ row := by
  have hcarried (c : Value) (s : String) (hc : c.text? = some s) :
      (t.carrying c).isEmpty = true ↔ ∀ row ∈ rows, s ∉ row := by
    have hexists := hrows.exists_iff fun row names h => Row.has_iff h hc
    simpa [carrying] using not_congr hexists
  rw [← hassigned.forall_iff hcarried]
  simp [branches]

theorem CaseUpdate.plan_screens {t : CaseUpdate} {rows : List (List String)} {column : String}
    {assigned hints : List String} (htable : NamesTable t.table t.schema)
    (hrows : RowsSpell t.rows rows) (hcolumn : t.column.IsName)
    (hassigned : Spells t.assigned assigned) (hhints : Spells t.hints.keys hints) :
    Screens t.plan (RequestShape.caseUpdate rows column assigned hints).Uncompilable
      Plan.Sound := by
  have hempty := branches_isEmpty_iff hrows hassigned
  refine (checkAssignedHints_screens hhints hassigned).bind fun _ _ => ?_
  refine .bind_of_ok hassigned.forM_requireKey ?_
  by_cases hnone : t.branches.isEmpty = true
  -- the message lists the columns without a branch, so these must be text for it to be raised
  · obtain ⟨names, hnames⟩ := Spells.exists_names fun v hv =>
      hassigned.isName v (List.mem_of_mem_filter (p := fun c => (t.carrying c).isEmpty) hv)
    rw [if_pos hnone, unassigned, hnames.namesOf_eq]
    exact ⟨fun _ => ⟨_, rfl⟩, fun hbad => absurd (hempty.mp hnone) hbad⟩
  · rw [if_neg hnone]
    refine (Screens.ok ⟨?_, ?_⟩).congr (iff_of_false id (mt hempty.mpr hnone))
    · refine ⟨TableRef.named_ofValues htable.table htable.schema, hcolumn, fun b hb => ?_⟩
      obtain ⟨c, hc, rfl⟩ := List.mem_map.mp hb
      exact hassigned.isName c (List.mem_of_mem_filter hc)
    · obtain ⟨hparams, htypes⟩ := t.length_branchParams
      simp only [List.length_append, List.length_map, hparams, htypes]

/-- The query of a transaction is refused exactly for the violations that are seen by then. -/
theorem Holds.query_screens {t : Transaction} {r : RequestShape} (h : Holds t r) :
    Screens (t.query .standard) r.Uncompilable fun q => q.policy = t.options.policy := by
  have hwritten {x : Except Fault Plan} {bad : Prop} (hx : Screens x bad Plan.Sound)
      (policy : Value) :
      Screens (x >>= fun plan => plan.query .standard policy) bad fun q => q.policy = policy := by
    refine hx.bind_ok fun plan hplan => ?_
    obtain ⟨q, hq, hpolicy⟩ := hplan.exists_query policy
    exact hq ▸ .ok hpolicy
  cases h with
  | insert htable hrows hhints =>
    have hrule : ConflictRule.fail.Named := trivial
    exact hwritten (Insert.plan_screens hrule htable hrows hhints) _
  | insertIgnore htable hrows hhints =>
    have hrule : ConflictRule.skip.Named := trivial
    exact hwritten (Insert.plan_screens hrule htable hrows hhints) _
  | upsert htable hrows hassigned htarget hhints =>
    exact hwritten (Upsert.plan_screens htable hrows hassigned htarget hhints) _
  | raw t =>
    have hcount : t.params.length = t.hints.length ↔
        ¬ (t.types.length ≠ 0 ∧ t.types.length ≠ t.params.length) := by
      cases htypes : t.types <;> simp [RawSql.hints, htypes, eq_comm]
    simp only [Transaction.query, RawSql.query, Query.build]
    by_cases heq : t.params.length = t.hints.length
    · rw [if_pos heq]
      exact Screens.congr (.ok rfl) (iff_of_false id (hcount.mp heq))
    · rw [if_neg heq]
      exact ⟨fun _ => ⟨_, rfl⟩, fun hbad => absurd (hcount.mpr hbad) heq⟩
  | delete htable hcolumn =>
    have hsound : Plan.Sound (Delete.plan _) :=
      ⟨⟨TableRef.named_ofValues htable.table htable.schema, hcolumn⟩, by simp [Delete.plan]⟩
    exact hwritten (.ok hsound) _
  | deleteLimited limit htable hcolumn =>
    have hsound : Plan.Sound (DeleteLimited.plan _) :=
      ⟨⟨TableRef.named_ofValues htable.table htable.schema, hcolumn⟩, by simp [DeleteLimited.plan]⟩
    exact hwritten (.ok hsound) _
  | bulkUpdate htable hcolumn hassigned hhints =>
    exact hwritten (BulkUpdate.plan_screens htable hcolumn hassigned hhints) _
  | caseUpdate htable hrows hcolumn hassigned hhints =>
    exact hwritten (CaseUpdate.plan_screens htable hrows hcolumn hassigned hhints) _

/-- A transaction with a proper policy that has a query also has its report. -/
theorem Holds.compile_screens {t : Transaction} {r : RequestShape} (h : Holds t r)
    (hpolicy : ∃ p, t.options.policy = .policy p) :
    Screens (t.compile .standard) r.Uncompilable fun _ => True := by
  obtain ⟨p, hp⟩ := hpolicy
  refine h.query_screens.bind_ok fun q hq => ?_
  simp only [Transaction.compiledEvent, hq, hp]
  exact .ok trivial

/-- A well-typed request fails with a violation and with nothing else: when its transaction is built
exactly for the violations of building, and when it is compiled exactly for those of compiling. -/
theorem RequestShape.refused_exactly {r : RequestShape} {args : Arguments} {arg : String → Value}
    (hbind : r.kind.signature.bind args = .ok arg) (htyped : r.MadeBy arg) :
    (r.Unbuildable → ∃ cause, r.kind.construct args = .error (.invalid cause)) ∧
    (¬ r.Unbuildable → ∃ t events, r.kind.construct args = .ok ⟨t, events⟩ ∧
      (r.Uncompilable → ∃ cause, t.compile .standard = .error (.invalid cause)) ∧
      (¬ r.Uncompilable → ∃ q event, t.compile .standard = .ok (q, event))) := by
  have hconstruct : r.kind.construct args = r.kind.build "column_types" arg := by
    rw [Kind.construct, hbind]
    rfl
  rw [hconstruct]
  obtain ⟨hrefused, hbuilt⟩ := build_screens htyped
  refine ⟨hrefused, fun hbuildable => ?_⟩
  obtain ⟨⟨t, events⟩, hok, hholds, hpolicy⟩ := hbuilt hbuildable
  obtain ⟨hbad, hgood⟩ := hholds.compile_screens hpolicy
  refine ⟨t, events, hok, hbad, fun hcompilable => ?_⟩
  obtain ⟨⟨q, event⟩, hq, _⟩ := hgood hcompilable
  exact ⟨q, event, hq⟩

/-- An upsert of one row of two columns that overwrites the given column. -/
def upsertOf (column : String) : Arguments :=
  [("table_name", .text "t"), ("rows", .ofList [.ofFields [("id", .int 1), ("a", .int 2)]]),
    ("update_columns", .ofList [.text column]), ("conflict_target", .columnsTarget [.text "id"])]

/-- The shape of the upsert. -/
def upsertShape (column : String) : RequestShape :=
  .upsert [["id", "a"]] [column] (.columns ["id"]) []

/-- A column that is inserted can be overwritten; any other is refused when the upsert is
compiled. -/
theorem upsertOf_refused :
    (∃ t events, Kind.upsert.construct (upsertOf "a") = .ok ⟨t, events⟩ ∧
      ∃ q event, t.compile .standard = .ok (q, event)) ∧
    (∃ t events, Kind.upsert.construct (upsertOf "b") = .ok ⟨t, events⟩ ∧
      ∃ cause, t.compile .standard = .error (.invalid cause)) := by
  have hmade (column : String) : ∃ arg,
      (upsertShape column).kind.signature.bind (upsertOf column) = .ok arg ∧
        (upsertShape column).MadeBy arg := by
    refine ⟨_, rfl, ⟨.none, rfl⟩, ⟨rfl, .inl rfl⟩, ?_, ?_, ?_, .inl ⟨rfl, rfl⟩⟩
    · exact ⟨_, .inl ⟨0, rfl⟩, .cons ⟨_, .inl ⟨0, rfl⟩, rfl⟩ .nil⟩
    · exact ⟨_, .inl ⟨0, rfl⟩, rfl⟩
    · exact ⟨_, rfl, rfl⟩
  constructor
  · obtain ⟨arg, hbind, htyped⟩ := hmade "a"
    obtain ⟨t, events, hbuilt, _, hcompiled⟩ :=
      (RequestShape.refused_exactly hbind htyped).2 (List.cons_ne_nil _ _)
    refine ⟨t, events, hbuilt, hcompiled ?_⟩
    simp [upsertShape, RequestShape.Uncompilable, RowsUnfit, ConflictTarget.columnList]
  · obtain ⟨arg, hbind, htyped⟩ := hmade "b"
    obtain ⟨t, events, hbuilt, hrefused, _⟩ :=
      (RequestShape.refused_exactly hbind htyped).2 (List.cons_ne_nil _ _)
    exact ⟨t, events, hbuilt, hrefused (.inr (.inl ⟨"b", by simp, by simp⟩))⟩

end PgWrite
