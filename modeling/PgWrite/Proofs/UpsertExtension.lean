import PgWrite.Proofs.Flattening

/-!
# An upsert extends an insert

An upsert flattens its rows as a plain insert does, binds the same values, and puts the handling of
conflicts behind the text of the insert. What is wrong with the rows is reported as for the insert.
Columns that are overwritten or that decide on conflicts, but are not inserted, are looked for
together and reported together.
-/

namespace PgWrite

/-! ## From a plan to a query -/

namespace Transaction

variable {t : Transaction} {q : Quoter}

/-- What is wrong with a plan is wrong with the transaction. -/
theorem compile_of_plan_error {fault : Fault} (h : t.plan? = some (.error fault)) :
    t.compile q = .error fault := by
  rw [compile, query_of_plan? h]
  rfl

/-- A sound plan under a proper policy is compiled to its statement with its values. -/
theorem compile_of_plan (hq : q.WritesNames) {plan : Plan} (h : t.plan? = some (.ok plan))
    (hsound : plan.Sound) {p : ReusePolicy} (hpolicy : t.options.policy = .policy p) :
    ∃ written event, plan.statement.quoted q = .ok written ∧
      t.compile q = .ok (⟨.text (written.textOver plan.statement.width), plan.params, plan.types,
        .policy p⟩, event) := by
  obtain ⟨written, hwritten⟩ := Statement.exists_quoted hq hsound.named
  have hquery : t.query q =
      .ok ⟨.text (written.textOver plan.statement.width), plan.params, plan.types, .policy p⟩ := by
    rw [query_of_plan? h, ← hpolicy]
    exact Plan.query_eq_ok_iff.mpr ⟨written, hwritten, hsound.matched, rfl⟩
  have hreport (query : Query) (h : query.policy = .policy p) :
      ∃ event, t.compiledEvent query = .ok event := exists_compiledEvent_iff.mpr ⟨p, h⟩
  obtain ⟨event, hevent⟩ := hreport ⟨.text (written.textOver plan.statement.width), plan.params,
    plan.types, .policy p⟩ rfl
  exact ⟨written, event, hwritten, compile_eq_ok_iff.mpr ⟨hquery, hevent⟩⟩

end Transaction

namespace Statement

/-- The handling of conflicts stands behind the text of the insert, which is as it was. -/
theorem text_overwrite {q : Quoter} {table : TableRef Value} {columns assigned : List Value}
    {rows : Nat} {target : ConflictTarget Value} {plain written : Statement String}
    (hplain : (insert table columns rows .fail).quoted q = .ok plain)
    (hwritten : (insert table columns rows (.overwrite target assigned)).quoted q = .ok written)
    (width : Nat) :
    ∃ clause names, target.sql q = .ok clause ∧ q.quoteAll assigned = .ok names ∧
      written.textOver width = plain.textOver width ++ " " ++ clause ++ " DO UPDATE SET "
        ++ ", ".intercalate (names.map fun c => c ++ " = EXCLUDED." ++ c) := by
  simp only [quoted, bind_eq_ok, pure_eq_ok] at hplain hwritten
  obtain ⟨ref, href, ws, hws, rfl⟩ := hplain
  obtain ⟨clause, hclause, ref', href', ws', hws', names, hnames, rfl⟩ := hwritten
  obtain rfl : ref = ref' := Except.ok.inj (href.symm.trans href')
  obtain rfl : ws = ws' := Except.ok.inj (hws.symm.trans hws')
  refine ⟨clause.text, names, map_eq_ok.mpr ⟨clause, hclause, rfl⟩, hnames, ?_⟩
  simp only [textOver, Clause.overwrite, Text.joined_eq_intercalate]

end Statement

namespace Upsert

/-- The plain insert of what an upsert inserts. -/
def plainInsert (t : Upsert) (options : Options) : Insert where
  table := t.table
  rows := t.rows
  hints := t.hints
  schema := t.schema
  options := options

/-- The plan of the plain insert is made of the flattened rows. -/
theorem plan?_plainInsert (t : Upsert) (options : Options) :
    (Transaction.insert (t.plainInsert options)).plan? =
      some ((RowSet.compile t.rows t.hints).map fun s => insertPlan t.table t.schema s .fail) := by
  rw [Transaction.plan?, Insert.plan, plainInsert]
  cases RowSet.compile t.rows t.hints <;> rfl

/-- What is reported on update columns and conflict columns that are not inserted. -/
def missingReport (update conflict : List String) : String :=
  let updateReport := "Update columns must exist in rows. Missing: " ++ ", ".intercalate update
  let conflictReport :=
    "Conflict columns must exist in rows. Missing: " ++ ", ".intercalate conflict
  if conflict = [] then updateReport
  else if update = [] then conflictReport
  else updateReport ++ "; " ++ conflictReport

/-- The message on missing columns is the report. -/
theorem message_missingColumns {update conflict : List String}
    (h : update ≠ [] ∨ conflict ≠ []) :
    (InvalidInput.missingColumns update conflict).message = missingReport update conflict := by
  have hupdate (names : List String) (h : names ≠ []) :
      InvalidInput.missingText "Update columns must exist in rows." names =
        ["Update columns must exist in rows. Missing: " ++ ", ".intercalate names] := by
    simp [InvalidInput.missingText, InvalidInput.labelled, h, Text.joined_eq_intercalate]
  have hconflict (names : List String) (h : names ≠ []) :
      InvalidInput.missingText "Conflict columns must exist in rows." names =
        ["Conflict columns must exist in rows. Missing: " ++ ", ".intercalate names] := by
    simp [InvalidInput.missingText, InvalidInput.labelled, h, Text.joined_eq_intercalate]
  have hnone (message : String) : InvalidInput.missingText message [] = [] := rfl
  have hmessage : (InvalidInput.missingColumns update conflict).message =
      Text.joined "; " (InvalidInput.missingText "Update columns must exist in rows." update
        ++ InvalidInput.missingText "Conflict columns must exist in rows." conflict) := rfl
  rw [hmessage]
  simp only [missingReport]
  by_cases hc : conflict = []
  · rw [if_pos hc, hc, hnone, List.append_nil, hupdate _ (h.resolve_right (not_not.mpr hc))]
    simp only [Text.joined]
  · rw [if_neg hc, hconflict _ hc]
    by_cases hu : update = []
    · rw [if_pos hu, hu, hnone, List.nil_append]
      simp only [Text.joined]
    · rw [if_neg hu, hupdate _ hu, List.singleton_append]
      simp only [Text.joined]

/-- Nothing is reported just if nothing is missing. -/
theorem refuseMissing_eq (update conflict : List String) :
    plan.refuseMissing update conflict =
      if update = [] ∧ conflict = [] then .ok ()
      else .error (.invalid (.missingColumns update conflict)) := by
  simp only [plan.refuseMissing, Bool.and_eq_true, List.isEmpty_iff]

/-- With its rows flattened, an upsert fails just for columns that are not inserted. -/
theorem plan_of_rows {t : Upsert} {rows : List (List String)} {assigned : List String}
    {target : ConflictTarget String} (hrows : RowsSpell t.rows rows)
    (hassigned : Spells t.assigned assigned) (htarget : t.target.IsTarget target) {s : RowSet}
    (hs : RowSet.compile t.rows t.hints = .ok s) :
    ∃ given, targetOf t.target = .ok given ∧ given.Named ∧
      t.plan =
        if assigned.filter (· ∉ rows.headD []) = [] ∧
            target.columnList.filter (· ∉ rows.headD []) = [] then
          .ok (insertPlan t.table t.schema s (.overwrite given t.assigned))
        else .error (.invalid (.missingColumns (assigned.filter (· ∉ rows.headD []))
          (target.columnList.filter (· ∉ rows.headD [])))) := by
  have hcolumns : Spells s.columns (rows.headD []) := by
    obtain ⟨-, rfl⟩ := RowSet.compile_eq_ok hs
    exact RowSet.spells_firstColumns hrows
  obtain ⟨given, missing, hgiven, hnamed, hmissing, hconflict⟩ := htarget.exists_missing hcolumns
  refine ⟨given, hgiven, hnamed, ?_⟩
  rw [plan, hs, hgiven]
  show (missingAmong s.columns t.assigned >>= _) = _
  rw [hassigned.missingAmong_eq]
  show (namesOf _ >>= _) = _
  rw [(hassigned.unknown hcolumns).namesOf_eq]
  show (given.missing s.columns >>= _) = _
  rw [hmissing]
  show (namesOf missing >>= _) = _
  rw [hconflict.namesOf_eq]
  show (plan.refuseMissing _ _ >>= _) = _
  rw [refuseMissing_eq]
  split <;> rfl

/-- The plan of rows that are flattened is sound whatever is done with conflicts, if all names are
text. -/
theorem sound_insertPlan {given : List Row} {rows : List (List String)}
    (hrows : RowsSpell given rows) {hints : Row} {s : RowSet}
    (hs : RowSet.compile given hints = .ok s) {table schema : Value}
    (htable : NamesTable table schema) {rule : ConflictRule Value} (hrule : rule.Named) :
    (insertPlan table schema s rule).Sound := by
  obtain ⟨-, rfl⟩ := RowSet.compile_eq_ok hs
  obtain ⟨hparams, htypes⟩ := RowSet.length_flatten (firstColumns given) given hints
  have hcolumns := RowSet.spells_firstColumns hrows
  exact ⟨⟨TableRef.named_ofValues htable.table htable.schema, hcolumns.isName, hrule⟩,
    hparams.trans htypes.symm⟩

/-- With no column missing, an upsert is compiled to the text of the insert with the handling of
conflicts behind it, and to the values of the insert. -/
theorem compile_of_known {q : Quoter} (hq : q.WritesNames) {t : Upsert} {s : RowSet}
    {given : ConflictTarget Value}
    (hplan : t.plan = .ok (insertPlan t.table t.schema s (.overwrite given t.assigned)))
    (hsound : (insertPlan t.table t.schema s (.overwrite given t.assigned)).Sound)
    {policy : ReusePolicy} (hpolicy : t.options.policy = .policy policy) {plain : Statement String}
    (hplain : (insertPlan t.table t.schema s .fail).statement.quoted q = .ok plain) :
    ∃ clause names event, given.sql q = .ok clause ∧ q.quoteAll t.assigned = .ok names ∧
      (Transaction.upsert t).compile q =
        .ok (⟨.text (plain.textOver s.columns.length ++ " " ++ clause ++ " DO UPDATE SET "
          ++ ", ".intercalate (names.map fun c => c ++ " = EXCLUDED." ++ c)), s.params, s.types,
            .policy policy⟩, event) := by
  have hgood : (Transaction.upsert t).plan? =
      some (.ok (insertPlan t.table t.schema s (.overwrite given t.assigned))) :=
    congrArg some hplan
  obtain ⟨written, event, hwritten, hcompiled⟩ :=
    Transaction.compile_of_plan hq hgood hsound hpolicy
  obtain ⟨clause, names, hclause, hnames, hsql⟩ :=
    Statement.text_overwrite hplain hwritten s.columns.length
  refine ⟨clause, names, event, hclause, hnames, ?_⟩
  rw [hcompiled, ← hsql]
  rfl

/-- An upsert over texts extends the plain insert of the same rows. It fails as the insert does. If
the insert is compiled, the upsert fails just if some update column or some column of its target is
not inserted; all of them are reported, the update columns first. Otherwise it binds the values of
the insert, and its text is that of the insert with the handling of conflicts behind it: the clause
of the target and one assignment for each update column, in order. -/
theorem compile_extends_insert {q : Quoter} (hq : q.WritesNames) {t : Upsert}
    {rows : List (List String)} {assigned : List String} {target : ConflictTarget String}
    (htable : NamesTable t.table t.schema) (hrows : RowsSpell t.rows rows)
    (hassigned : Spells t.assigned assigned) (htarget : t.target.IsTarget target)
    {policy : ReusePolicy} (hpolicy : t.options.policy = .policy policy) {options : Options}
    {insertPolicy : ReusePolicy} (hoptions : options.policy = .policy insertPolicy) :
    (∀ fault, (Transaction.insert (t.plainInsert options)).compile q = .error fault →
      (Transaction.upsert t).compile q = .error fault) ∧
    ∀ inserted event,
      (Transaction.insert (t.plainInsert options)).compile q = .ok (inserted, event) →
      let update := assigned.filter (· ∉ rows.headD [])
      let conflict := target.columnList.filter (· ∉ rows.headD [])
      ((∃ fault, (Transaction.upsert t).compile q = .error fault) ↔ update ≠ [] ∨ conflict ≠ []) ∧
      (∀ fault, (Transaction.upsert t).compile q = .error fault →
        ∃ cause, fault = .invalid cause ∧ cause.names = update ++ conflict ∧
          cause.message = missingReport update conflict) ∧
      ∀ upserted event, (Transaction.upsert t).compile q = .ok (upserted, event) →
        upserted.params = inserted.params ∧ upserted.types = inserted.types ∧
        ∃ sql given clause names, inserted.sql = .text sql ∧ targetOf t.target = .ok given ∧
          given.sql q = .ok clause ∧ q.quoteAll t.assigned = .ok names ∧
          names.length = assigned.length ∧
          upserted.sql = .text (sql ++ " " ++ clause ++ " DO UPDATE SET "
            ++ ", ".intercalate (names.map fun c => c ++ " = EXCLUDED." ++ c)) := by
  have hplain := t.plan?_plainInsert options
  cases hs : RowSet.compile t.rows t.hints with
  | error fault =>
    rw [hs] at hplain
    have hinsert : (Transaction.insert (t.plainInsert options)).compile q = .error fault :=
      Transaction.compile_of_plan_error hplain
    have hupsert : (Transaction.upsert t).compile q = .error fault :=
      Transaction.compile_of_plan_error (congrArg some (by rw [plan, hs]; rfl))
    rw [hinsert, hupsert]
    exact ⟨fun _ h => h, fun _ _ h => by cases h⟩
  | ok s =>
    rw [hs] at hplain
    obtain ⟨plain, reported, hplainWritten, hinsert⟩ :=
      Transaction.compile_of_plan hq hplain (sound_insertPlan hrows hs htable trivial) hoptions
    obtain ⟨given, hgiven, hnamed, hplan⟩ := plan_of_rows hrows hassigned htarget hs
    rw [hinsert]
    refine ⟨fun _ h => (by cases h), fun inserted event hinserted => ?_⟩
    obtain ⟨rfl, rfl⟩ := Prod.mk.inj (Except.ok.inj hinserted)
    intro update conflict
    by_cases hnone : update = [] ∧ conflict = []
    · obtain ⟨clause, names, reported, hclause, hnames, hupsert⟩ :=
        compile_of_known hq (hplan.trans (if_pos hnone))
          (sound_insertPlan hrows hs htable ⟨hnamed, hassigned.isName⟩) hpolicy hplainWritten
      obtain ⟨names', hnames', hlength⟩ := hq.list t.assigned hassigned.isName
      obtain rfl : names' = names := Except.ok.inj (hnames'.symm.trans hnames)
      rw [hupsert]
      refine ⟨iff_of_false (by rintro ⟨_, ⟨⟩⟩) fun h => not_and_or.mpr h hnone,
        fun _ h => (by cases h), ?_⟩
      rintro upserted event ⟨⟩
      exact ⟨rfl, rfl, _, given, clause, names', rfl, hgiven, hclause, hnames,
        hlength.trans hassigned.length_eq, rfl⟩
    · have hmissing : update ≠ [] ∨ conflict ≠ [] := not_and_or.mp hnone
      have hrefused : (Transaction.upsert t).compile q =
          .error (.invalid (.missingColumns update conflict)) :=
        Transaction.compile_of_plan_error (congrArg some (hplan.trans (if_neg hnone)))
      rw [hrefused]
      refine ⟨iff_of_true ⟨_, rfl⟩ hmissing, fun fault hfault => ?_, fun _ _ h => by cases h⟩
      exact ⟨_, (Except.error.inj hfault).symm, rfl, message_missingColumns hmissing⟩

/-- An upsert of one row of two columns that overwrites the given column. -/
def overwriting (column : String) : Upsert where
  table := .text "t"
  rows := [[(.text "id", .int 1), (.text "a", .int 2)]]
  assigned := [.text column]
  target := .columnsTarget [.text "id"]
  hints := []
  schema := .null
  options := { idempotent := .bool false, policy := .policy .none }

/-- The insert of the row is compiled, the upsert that overwrites another column is not. -/
theorem overwriting_other_refused :
    ∃ cause, (Transaction.upsert (overwriting "b")).compile .standard = .error (.invalid cause) ∧
      cause.names = ["b"] ∧
      cause.message = "Update columns must exist in rows. Missing: b" := by
  have htable : NamesTable (overwriting "b").table (overwriting "b").schema := ⟨rfl, .inl rfl⟩
  have hrows : RowsSpell (overwriting "b").rows [["id", "a"]] := .cons rfl .nil
  have hassigned : Spells (overwriting "b").assigned ["b"] := rfl
  have htarget : (overwriting "b").target.IsTarget (.columns ["id"]) := ⟨_, rfl, rfl⟩
  have hoptions : (overwriting "b").options.policy = .policy .none := rfl
  obtain ⟨-, hextends⟩ := compile_extends_insert Quoter.standard_writesNames htable hrows hassigned
    htarget hoptions hoptions
  obtain ⟨hfails, hreport, -⟩ := hextends _ _ rfl
  obtain ⟨fault, hfault⟩ := hfails.mpr (.inl (by decide))
  obtain ⟨cause, rfl, hnames, hmessage⟩ := hreport fault hfault
  refine ⟨cause, hfault, hnames, hmessage.trans ?_⟩
  simp [missingReport, ConflictTarget.columnList]

end Upsert

end PgWrite
