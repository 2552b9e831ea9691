import PgWrite.Proofs.Quoting
import PgWrite.Proofs.SetList
import PgWrite.Proofs.UpsertExtension

/-!
# Columns that are assigned twice

The columns of a bulk update are the keys of a mapping, and no two of them are the same. The update
columns of an upsert and of an update with branches are a list, which is accepted or refused by its
members alone: how often a column stands in the list is never asked, and a column that stands in it
twice is assigned twice.
-/

namespace PgWrite

/-! ## The keys of a mapping -/

/-- No two keys of a row are the same. -/
def Row.KeysDiffer (row : Row) : Prop :=
  row.keys.Pairwise fun a b => a.same b = false

/-- A value that is a mapping has no key twice. -/
def Value.KeysDiffer : Value → Prop
  | .map _ entries => Row.KeysDiffer entries
  | .frozen entries => Row.KeysDiffer entries
  | _ => True

/-- Setting a value adds no key but its own. -/
theorem Row.mem_keys_insert {row : Row} {key value k : Value}
    (h : k ∈ (row.insert key value).keys) :
    k = key ∨ k ∈ row.keys := by
  induction row with
  | nil => exact .inl (List.mem_singleton.mp h)
  | cons e rest ih =>
    obtain ⟨first, v⟩ := e
    rw [Row.insert] at h
    by_cases hsame : first.same key = true
    · rw [if_pos hsame] at h
      exact .inr h
    · rw [if_neg hsame] at h
      rcases List.mem_cons.mp h with rfl | hrest
      · exact .inr (List.mem_cons_self ..)
      · exact (ih hrest).imp_right (List.mem_cons_of_mem _)

/-- Setting a value leaves all keys different. -/
theorem Row.KeysDiffer.insert {row : Row} (h : row.KeysDiffer) (key value : Value) :
    (row.insert key value).KeysDiffer := by
  induction row with
  | nil => exact List.pairwise_singleton ..
  | cons e rest ih =>
    obtain ⟨first, v⟩ := e
    obtain ⟨hfirst, hrest⟩ := List.pairwise_cons.mp h
    rw [Row.insert]
    by_cases hsame : first.same key = true
    · rw [if_pos hsame]
      exact h
    · rw [if_neg hsame]
      refine List.pairwise_cons.mpr ⟨fun k hk => ?_, ih hrest⟩
      rcases Row.mem_keys_insert hk with rfl | hk
      · exact Bool.eq_false_iff.mpr hsame
      · exact hfirst k hk

/-- The entries of a list of pairs have different keys. -/
theorem insertPairs_keysDiffer {row result : Row} (h : row.KeysDiffer) {index : Nat}
    {items : List Value} (hok : insertPairs row index items = .ok result) : result.KeysDiffer := by
  induction items generalizing row index with
  | nil =>
    cases hok
    exact h
  | cons item items ih =>
    rw [insertPairs] at hok
    split at hok
    · cases hok
    · obtain ⟨⟨⟩, -, hrest⟩ := bind_eq_ok.mp hok
      exact ih (h.insert _ _) hrest
    · cases hok

theorem Row.keysDiffer_nil : Row.KeysDiffer [] :=
  List.Pairwise.nil

/-- What is taken as a mapping has different keys, if it is none with a key twice. -/
theorem freezeMapping_keysDiffer {v : Value} (hv : v.KeysDiffer) {row : Row}
    (h : freezeMapping v = .ok row) : row.KeysDiffer := by
  unfold freezeMapping at h
  split at h
  · cases h
    exact Row.keysDiffer_nil
  · split at h
    · cases h
      exact hv
    · cases h
      exact hv
    · obtain ⟨items, -, hpairs⟩ := bind_eq_ok.mp h
      exact insertPairs_keysDiffer Row.keysDiffer_nil hpairs

/-- The values of a bulk update that was built have different keys. -/
theorem BulkUpdate.values_keysDiffer {k : Kind} {hints : String} {arg : String → Value}
    (hvalues : (arg "values").KeysDiffer) {t : BulkUpdate} {events : List LogEvent}
    (h : k.build hints arg = .ok ⟨.bulkUpdate t, events⟩) : t.values.KeysDiffer := by
  obtain rfl : Kind.bulkUpdate = k := Kind.kind_of_build h
  simp only [Kind.build, bind_eq_ok, pure_eq_ok] at h
  obtain ⟨identifiers, -, values, hfrozen, hints, -, ⟨⟩, -, ⟨⟩, -, h⟩ := h
  cases h
  exact freezeMapping_keysDiffer hvalues hfrozen

/-- A read-only mapping is taken as it is. -/
theorem freezeMapping_frozen (row : Row) : freezeMapping (.frozen row) = .ok row := by
  cases row <;> rfl

/-! ## A list by its members -/

/-- Values with the same members have the same values among them. -/
theorem Value.isAmong_congr {values values' : List Value} (h : ∀ v, v ∈ values ↔ v ∈ values')
    (v : Value) : v.isAmong values = v.isAmong values' := by
  rw [Bool.eq_iff_iff, isAmong, isAmong, List.any_eq_true, List.any_eq_true]
  exact exists_congr fun w => and_congr_left fun _ => h w

/-- No name is missing just if each of them may serve as a key and is among the columns. -/
theorem missingAmong_eq_nil_iff {columns names : List Value} :
    missingAmong columns names = .ok [] ↔
      ∀ n ∈ names, n.requireKey = .ok () ∧ n.isAmong columns = true := by
  induction names with
  | nil => exact iff_of_true rfl (List.forall_mem_nil _)
  | cons n names ih =>
    rw [List.forall_mem_cons, ← ih, missingAmong]
    constructor
    · intro h
      obtain ⟨⟨⟩, hkey, missing, hrest, h⟩ := by simpa only [bind_eq_ok, pure_eq_ok] using h
      by_cases hknown : n.isAmong columns = true
      · rw [if_pos hknown] at h
        exact ⟨⟨hkey, hknown⟩, h ▸ hrest⟩
      · rw [if_neg hknown] at h
        cases h
    · rintro ⟨⟨hkey, hknown⟩, hrest⟩
      simp only [bind_eq_ok, pure_eq_ok]
      exact ⟨(), hkey, [], hrest, if_pos hknown⟩

/-- There is nothing to list just if no name is. -/
theorem namesOf_eq_nil_iff {values : List Value} : namesOf values = .ok [] ↔ values = [] := by
  refine ⟨fun h => ?_, fun h => h ▸ rfl⟩
  cases values with
  | nil => rfl
  | cons v values =>
    rw [namesOf, namesFrom] at h
    split at h
    · obtain ⟨names, -, hnames⟩ := map_eq_ok.mp h
      cases hnames
    · cases h

/-- An upsert has a plan just if its rows can be flattened and nothing is missing among their
columns. -/
theorem Upsert.plan_eq_ok_iff {t : Upsert} {plan : Plan} :
    t.plan = .ok plan ↔
      ∃ s target, RowSet.compile t.rows t.hints = .ok s ∧
        missingAmong s.columns t.assigned = .ok [] ∧ targetOf t.target = .ok target ∧
        target.missing s.columns = .ok [] ∧
        plan = insertPlan t.table t.schema s (.overwrite target t.assigned) := by
  simp only [Upsert.plan, bind_eq_ok, pure_eq_ok, refuseMissing_eq]
  constructor
  · rintro ⟨s, hs, missing, hmissing, update, hupdate, target, htarget, absent, habsent, conflict,
      hconflict, ⟨⟩, hnone, rfl⟩
    split at hnone
    · rename_i hempty
      obtain ⟨rfl, rfl⟩ := hempty
      obtain rfl := namesOf_eq_nil_iff.mp hupdate
      obtain rfl := namesOf_eq_nil_iff.mp hconflict
      exact ⟨s, target, hs, hmissing, htarget, habsent, rfl⟩
    · cases hnone
  · rintro ⟨s, target, hs, hmissing, htarget, habsent, rfl⟩
    exact ⟨s, hs, [], hmissing, [], rfl, target, htarget, [], habsent, [], rfl, (), rfl, rfl⟩

/-- Type hints pass just if each is for an assigned column. -/
theorem checkAssignedHints_eq_ok_iff {hints : Row} {columns : List Value} :
    checkAssignedHints hints columns = .ok () ↔ ∀ k ∈ hints.keys, k.isAmong columns = true := by
  rw [checkAssignedHints, refuseNames_eq_ok, List.filter_eq_nil_iff]
  simp only [Bool.not_eq_true', Bool.not_eq_false]

/-- An update with branches has a plan just if every type hint is for an assigned column, every
assigned column may serve as a key, and some column has a branch. -/
theorem CaseUpdate.exists_plan_iff {t : CaseUpdate} :
    (∃ plan, t.plan = .ok plan) ↔ (∀ k ∈ t.hints.keys, k.isAmong t.assigned = true) ∧
      (∀ c ∈ t.assigned, c.requireKey = .ok ()) ∧ ∃ c ∈ t.assigned, t.carrying c ≠ [] := by
  have hbranches : t.branches ≠ [] ↔ ∃ c ∈ t.assigned, t.carrying c ≠ [] := by
    simp [branches, List.filter_eq_nil_iff]
  rw [← checkAssignedHints_eq_ok_iff, ← forM_requireKey_iff, ← hbranches]
  constructor
  · rintro ⟨_, hplan⟩
    obtain ⟨-, hne⟩ := plan_eq hplan
    simp only [plan, bind_eq_ok] at hplan
    obtain ⟨⟨⟩, hhints, ⟨⟩, hkeys, -⟩ := hplan
    exact ⟨hhints, hkeys, hne⟩
  · rintro ⟨hhints, hkeys, hne⟩
    simp only [plan, bind_eq_ok, if_neg (mt List.isEmpty_iff.mp hne)]
    exact ⟨_, (), hhints, (), hkeys, rfl⟩

/-! ## Other update columns -/

namespace Transaction

/-- The list of update columns that a transaction was given; a mapping of values is none. -/
def updateColumns : Transaction → List Value
  | .upsert t => t.assigned
  | .caseUpdate t => t.assigned
  | _ => []

/-- The transaction with other update columns. -/
def reassigned (columns : List Value) : Transaction → Transaction
  | .upsert t => .upsert { t with assigned := columns }
  | .caseUpdate t => .caseUpdate { t with assigned := columns }
  | t => t

@[simp] theorem options_reassigned (columns : List Value) (t : Transaction) :
    (t.reassigned columns).options = t.options := by
  cases t <;> rfl

@[simp] theorem kind_reassigned (columns : List Value) (t : Transaction) :
    (t.reassigned columns).kind = t.kind := by
  cases t <;> rfl

variable {t : Transaction} {columns : List Value}

/-- The arguments of a transaction with other update columns. -/
def argumentsWith (columns : List Value) (hints : Row) (arg : String → Value) (name : String) :
    Value :=
  if name = "update_columns" then .tuple columns
  else if name = "column_types" then .frozen hints
  else arg name

/-- A transaction can be built with other update columns, if they are the same members. -/
theorem Constructed.reassigned (h : t.Constructed)
    (hsame : ∀ c, c ∈ columns ↔ c ∈ t.updateColumns) : (t.reassigned columns).Constructed := by
  have hne (hgiven : t.updateColumns ≠ []) : columns.isEmpty = false := by
    obtain ⟨c, hc⟩ := List.exists_mem_of_ne_nil _ hgiven
    exact List.isEmpty_eq_false_iff.mpr (List.ne_nil_of_mem ((hsame c).mpr hc))
  cases t with
  | insert | insertIgnore | raw | delete | deleteLimited | bulkUpdate => exact h
  | upsert t =>
    have hcolumns := hne h.upsert
    obtain ⟨k, hints, arg, events, h⟩ := h
    obtain rfl : Kind.upsert = k := Kind.kind_of_build h
    simp only [Kind.build, bind_eq_ok, pure_eq_ok] at h
    obtain ⟨rows, hrows, assigned, -, types, -, ⟨⟩, -, h⟩ := h
    cases h
    refine ⟨.upsert, "column_types", argumentsWith columns types arg, [], ?_⟩
    simp only [Kind.build, bind_eq_ok, pure_eq_ok]
    exact ⟨rows, hrows, columns, rfl, types, freezeMapping_frozen types, (),
      refuseIf_eq_ok.mpr hcolumns, rfl⟩
  | caseUpdate t =>
    obtain ⟨k, hints, arg, events, h⟩ := h
    obtain rfl : Kind.caseUpdate = k := Kind.kind_of_build h
    simp only [Kind.build, bind_eq_ok, pure_eq_ok] at h
    obtain ⟨rows, hrows, assigned, -, types, -, ⟨⟩, hfilled, ⟨⟩, hassigned, ⟨⟩, hkey, ⟨⟩, hbear, h⟩
      := h
    cases h
    have hcolumns := hne (List.isEmpty_eq_false_iff.mp (refuseIf_eq_ok.mp hassigned))
    refine ⟨.caseUpdate, "column_types", argumentsWith columns types arg, [], ?_⟩
    simp only [Kind.build, bind_eq_ok, pure_eq_ok]
    exact ⟨rows, hrows, columns, rfl, types, freezeMapping_frozen types, (), hfilled, (),
      refuseIf_eq_ok.mpr hcolumns, (), hkey, (), hbear, rfl⟩

/-- A plan stays one with other update columns, if they are the same members; its names are text if
they were. -/
theorem exists_plan_reassigned {plan : Plan} (h : t.plan? = some (.ok plan))
    (hsame : ∀ c, c ∈ columns ↔ c ∈ t.updateColumns) :
    ∃ other, (t.reassigned columns).plan? = some (.ok other) ∧
      (plan.statement.Named → other.statement.Named) := by
  cases t with
  | insert | insertIgnore | raw | delete | deleteLimited | bulkUpdate => exact ⟨plan, h, id⟩
  | upsert t =>
    obtain ⟨s, target, hs, hmissing, htarget, habsent, rfl⟩ :=
      Upsert.plan_eq_ok_iff.mp (Option.some.inj h)
    have hnone : missingAmong s.columns columns = .ok [] := by
      rw [missingAmong_eq_nil_iff] at hmissing ⊢
      exact fun n hn => hmissing n ((hsame n).mp hn)
    refine ⟨insertPlan t.table t.schema s (.overwrite target columns), congrArg some
      (Upsert.plan_eq_ok_iff.mpr ⟨s, target, hs, hnone, htarget, habsent, rfl⟩), ?_⟩
    rintro ⟨htable, hcolumns, htarget, hassigned⟩
    exact ⟨htable, hcolumns, htarget, fun c hc => hassigned c ((hsame c).mp hc)⟩
  | caseUpdate t =>
    have hplan : t.plan = .ok plan := Option.some.inj h
    obtain ⟨hhints, hkeys, c, hc, hcarried⟩ := CaseUpdate.exists_plan_iff.mp ⟨plan, hplan⟩
    obtain ⟨other, hother⟩ := CaseUpdate.exists_plan_iff (t := { t with assigned := columns }).mpr
      ⟨fun k hk => (Value.isAmong_congr hsame k).trans (hhints k hk),
        fun c hc => hkeys c ((hsame c).mp hc), c, (hsame c).mpr hc, hcarried⟩
    refine ⟨other, congrArg some hother, ?_⟩
    obtain ⟨rfl, -⟩ := CaseUpdate.plan_eq hplan
    obtain ⟨rfl, -⟩ := CaseUpdate.plan_eq hother
    rintro ⟨htable, hcolumn, hbranches⟩
    refine ⟨htable, hcolumn, fun b hb => hbranches b ?_⟩
    obtain ⟨c, hc, rfl⟩ := List.mem_map.mp hb
    obtain ⟨hgiven, hbranch⟩ := List.mem_filter.mp hc
    exact List.mem_map.mpr ⟨c, List.mem_filter.mpr ⟨(hsame c).mp hgiven, hbranch⟩, rfl⟩

/-- A transaction compiles just if it has a sound plan and a proper policy. -/
theorem exists_compile_iff (hkind : t.kind ≠ .raw) :
    (∃ q event, t.compile .standard = .ok (q, event)) ↔
      ∃ plan policy, t.plan? = some (.ok plan) ∧ plan.Sound ∧
        t.options.policy = .policy policy := by
  constructor
  · rintro ⟨q, event, h⟩
    obtain ⟨hquery, hevent⟩ := compile_eq_ok_iff.mp h
    obtain ⟨policy, hpolicy⟩ := exists_compiledEvent_iff.mp ⟨event, hevent⟩
    rw [policy_of_query hquery] at hpolicy
    obtain ⟨p, hp⟩ := exists_plan? hkind
    rw [query_of_plan? hp, bind_eq_ok] at hquery
    obtain ⟨plan, rfl, hwritten⟩ := hquery
    obtain ⟨written, hquoted, hmatched, -⟩ := Plan.query_eq_ok_iff.mp hwritten
    exact ⟨plan, policy, hp, ⟨Statement.named_of_quoted hquoted, hmatched⟩, hpolicy⟩
  · rintro ⟨plan, policy, hplan, hsound, hpolicy⟩
    obtain ⟨_, _, -, hcompiled⟩ :=
      compile_of_plan Quoter.standard_writesNames hplan hsound hpolicy
    exact ⟨_, _, hcompiled⟩

/-- A transaction that compiles does so with other update columns, if they are the same members. -/
theorem exists_compile_reassigned (hkind : t.kind ≠ .raw) {q : Query} {event : LogEvent}
    (h : t.compile .standard = .ok (q, event)) (hsame : ∀ c, c ∈ columns ↔ c ∈ t.updateColumns) :
    ∃ q event, (t.reassigned columns).compile .standard = .ok (q, event) := by
  obtain ⟨plan, policy, hplan, hsound, hpolicy⟩ := (exists_compile_iff hkind).mp ⟨q, event, h⟩
  obtain ⟨other, hother, hnamed⟩ := exists_plan_reassigned hplan hsame
  obtain ⟨-, hparams, htypes⟩ := plan?_eq_ok hother
  have hkind' : (t.reassigned columns).kind ≠ .raw := (t.kind_reassigned columns).symm ▸ hkind
  refine (exists_compile_iff hkind').mpr
    ⟨other, policy, hother, ⟨hnamed hsound.named, hparams.trans htypes.symm⟩, ?_⟩
  rw [options_reassigned, hpolicy]

/-- The columns of the SET list are different, if no update column is repeated and the values of a
bulk update have different keys. -/
theorem setColumns_differ {k : Kind} {hints : String} {arg : String → Value}
    {events : List LogEvent} (hbuilt : k.build hints arg = .ok ⟨t, events⟩)
    (hvalues : (arg "values").KeysDiffer)
    (h : t.updateColumns.Pairwise fun a b => a.same b = false) :
    t.setColumns.Pairwise fun a b => a.same b = false := by
  cases t with
  | insert | insertIgnore | raw | delete | deleteLimited => exact List.Pairwise.nil
  | upsert => exact h
  | bulkUpdate t => exact BulkUpdate.values_keysDiffer hvalues hbuilt
  | caseUpdate t => exact h.sublist List.filter_sublist

/-- What an upsert, a bulk update and an update with branches assign. The SET list of the compiled
text has an assignment for each column, in order; it is not empty, and no choice in it lacks a
branch. It names every column once just if no column is set twice, which is so unless an update
column is repeated. Repetition is no reason to refuse a transaction: with any update columns that
have the same members it is built and compiled as well, and it assigns a column as often as it is
set. -/
theorem compiled_assignments {k : Kind} {hints : String} {arg : String → Value} {t : Transaction}
    {events : List LogEvent} (hbuilt : k.build hints arg = .ok ⟨t, events⟩)
    (hkind : k = .upsert ∨ k = .bulkUpdate ∨ k = .caseUpdate) (hvalues : (arg "values").KeysDiffer)
    {q : Query} {event : LogEvent} (h : t.compile .standard = .ok (q, event)) :
    ∃ items, q.setList? = some items ∧ items ≠ [] ∧ (∀ c, .choice c 0 ∉ items) ∧
      Spells t.setColumns (items.map SetItem.column) ∧
      ((items.map SetItem.column).Nodup ↔ t.setColumns.Pairwise fun a b => a.same b = false) ∧
      ((t.updateColumns.Pairwise fun a b => a.same b = false) →
        (items.map SetItem.column).Nodup) ∧
      ∀ columns, (∀ c, c ∈ columns ↔ c ∈ t.updateColumns) →
        (t.reassigned columns).Constructed ∧
        ∃ q event items, (t.reassigned columns).compile .standard = .ok (q, event) ∧
          q.setList? = some items ∧
          Spells (t.reassigned columns).setColumns (items.map SetItem.column) := by
  have hconstructed : t.Constructed := ⟨k, hints, arg, events, hbuilt⟩
  obtain rfl : t.kind = k := Kind.kind_of_build hbuilt
  have hraw : t.kind ≠ .raw := by rcases hkind with hk | hk | hk <;> rw [hk] <;> decide
  obtain ⟨items, hread, hne, hbranches, hspells⟩ := exists_setList hconstructed hkind h
  refine ⟨items, hread, hne, hbranches, hspells, hspells.nodup_iff, fun hdistinct => ?_,
    fun columns hsame => ?_⟩
  · exact hspells.nodup_iff.mpr (setColumns_differ hbuilt hvalues hdistinct)
  · have hother := hconstructed.reassigned hsame
    obtain ⟨q', event', h'⟩ := exists_compile_reassigned hraw h hsame
    obtain ⟨items', hread', -, -, hspells'⟩ :=
      exists_setList hother ((t.kind_reassigned columns).symm ▸ hkind) h'
    exact ⟨hother, q', event', items', h', hread', hspells'⟩

/-- An upsert that lists its update column twice. -/
def twiceUpsert : Upsert where
  table := .text "t"
  rows := [[(.text "id", .int 1), (.text "a", .int 2)]]
  assigned := [.text "a", .text "a"]
  target := .columnsTarget [.text "id"]
  hints := []
  schema := .null
  options := { idempotent := .bool false, policy := .policy .none }

/-- The upsert is compiled, and its SET list names the column twice. -/
theorem twiceUpsert_assigns_twice :
    ∃ q event items, (Transaction.upsert twiceUpsert).compile .standard = .ok (q, event) ∧
      q.setList? = some items ∧ items.map SetItem.column = ["a", "a"] ∧
      ¬ (items.map SetItem.column).Nodup := by
  let arg : String → Value := fun name =>
    ([("table_name", .text "t"), ("rows", .ofList [.ofFields [("id", .int 1), ("a", .int 2)]]),
      ("update_columns", .ofList [.text "a", .text "a"]),
      ("conflict_target", .columnsTarget [.text "id"]), ("idempotent", .bool false),
      ("statement_reuse_policy", .policy .none)].lookup name).getD .null
  have hbuilt : Kind.upsert.build "column_types" arg = .ok ⟨.upsert twiceUpsert, []⟩ := rfl
  let rows : RowSet := ⟨[.text "id", .text "a"], 1, [.int 1, .int 2], [.null, .null]⟩
  have hplan : twiceUpsert.plan = .ok (insertPlan (.text "t") .null rows
      (.overwrite (.columns [.text "id"]) [.text "a", .text "a"])) := by cbv
  obtain ⟨q, event, h⟩ : ∃ q event,
      (Transaction.upsert twiceUpsert).compile .standard = .ok (q, event) := by
    simp only [compile, query, hplan]
    exact ⟨_, _, rfl⟩
  obtain ⟨items, hread, -, -, hspells, hnodup, -⟩ :=
    compiled_assignments hbuilt (.inl rfl) trivial h
  have hnames : (items.map SetItem.column).map some = ["a", "a"].map some := hspells.symm
  have hcolumns := List.map_injective_iff.mpr (Option.some_injective _) hnames
  refine ⟨q, event, items, h, hread, hcolumns, fun hdistinct => ?_⟩
  have hdiffer := List.rel_of_pairwise_cons (hnodup.mp hdistinct) (List.mem_singleton_self _)
  rw [Value.same_eq_of_text rfl rfl] at hdiffer
  cases hdiffer

end Transaction

end PgWrite
