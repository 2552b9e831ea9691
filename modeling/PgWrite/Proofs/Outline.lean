import Mathlib
import PgWrite.Proofs.Success
import PgWrite.Proofs.Template
import PgWrite.Transaction.Build

/-!
# What a transaction asks for

The outline of a transaction is the statement that its fields describe: its own names at their
places and the numbers of its own rows, branches and identifiers. A transaction that was built and
compiles yields the text of its outline, all names being text, and as many values and type hints as
the outline has question marks.
-/

namespace PgWrite

/-- The transaction was built from arguments. -/
def Transaction.Constructed (t : Transaction) : Prop :=
  ∃ kind hints arg events, Kind.build kind hints arg = .ok ⟨t, events⟩

/-- The columns of rows that are inserted together. -/
def firstColumns (rows : List Row) : List Value :=
  (rows.head?.map Row.keys).getD []

/-- The columns that some row carries, each with the number of the rows that carry it. -/
def carriedColumns (rows : List Row) (columns : List Value) : List (Value × Nat) :=
  (columns.map fun c => (c, rows.countP fun row => row.has c)).filter fun b => 0 < b.2

/-- The statement that a transaction asks for; raw SQL asks for none of its own. -/
def Transaction.outline : Transaction → Option (Statement Value)
  | .insert t =>
    some (.insert (.ofValues t.table t.schema) (firstColumns t.rows) t.rows.length .fail)
  | .insertIgnore t =>
    some (.insert (.ofValues t.table t.schema) (firstColumns t.rows) t.rows.length .skip)
  | .upsert t =>
    (targetOf t.target).toOption.map fun target =>
      .insert (.ofValues t.table t.schema) (firstColumns t.rows) t.rows.length
        (.overwrite target t.assigned)
  | .raw _ => none
  | .delete t => some (.delete (.ofValues t.table t.schema) t.column t.identifiers.length)
  | .deleteLimited t =>
    some (.deleteLimited (.ofValues t.table t.schema) t.column t.identifiers.length t.limit)
  | .bulkUpdate t =>
    some (.update (.ofValues t.table t.schema) t.values.keys t.column t.identifiers.length)
  | .caseUpdate t =>
    some (.caseUpdate (.ofValues t.table t.schema) t.column (carriedColumns t.rows t.assigned)
      t.rows.length)

/-- The transaction asks for a statement, name by name. -/
def Transaction.AsksFor (t : Transaction) (s : Statement String) : Prop :=
  ∃ outline, t.outline = some outline ∧ outline.map Value.text? = s.map some

namespace Statement

/-- The number of question marks in a statement. -/
def marks {ν : Type} : Statement ν → Nat
  | .insert _ columns rows _ => rows * columns.length
  | .delete _ _ count => count
  | .deleteLimited _ _ count _ => count
  | .update _ columns _ count => columns.length + count
  | .caseUpdate _ _ branches count => (branches.map fun b => 2 * b.2).sum + count

/-- The kind of the transactions that ask for a statement. -/
def kind {ν : Type} : Statement ν → Kind
  | .insert _ _ _ .fail => .insert
  | .insert _ _ _ .skip => .insertIgnore
  | .insert _ _ _ (.overwrite _ _) => .upsert
  | .delete .. => .delete
  | .deleteLimited .. => .deleteLimited
  | .update .. => .bulkUpdate
  | .caseUpdate .. => .caseUpdate

/-- Names are found again behind `some`. -/
theorem map_getD_map_some (s : Statement String) : (s.map some).map (fun o => o.getD "") = s := by
  have htable (ref : TableRef String) : (ref.map some).map (fun o => o.getD "") = ref := by
    obtain ⟨table, schema⟩ := ref
    cases schema <;> rfl
  have hnames (names : List String) : (names.map some).map (fun o => o.getD "") = names := by
    simp [Function.comp_def]
  have htarget (target : ConflictTarget String) :
      (target.map some).map (fun o => o.getD "") = target := by
    cases target <;> simp [ConflictTarget.map, Function.comp_def]
  cases s with
  | insert table columns rows conflicts =>
    cases conflicts <;> simp only [map, htable, hnames, htarget]
  | delete | deleteLimited | update => simp only [map, htable, hnames, Option.getD_some]
  | caseUpdate table discriminator branches count => simp [map, htable, Function.comp_def]

@[simp] theorem marks_map {ν μ : Type} (f : ν → μ) (s : Statement ν) :
    (s.map f).marks = s.marks := by
  cases s <;> simp [map, marks, Function.comp_def]

@[simp] theorem width_map {ν μ : Type} (f : ν → μ) (s : Statement ν) :
    (s.map f).width = s.width := by
  cases s <;> simp [map, width]

@[simp] theorem kind_map {ν μ : Type} (f : ν → μ) (s : Statement ν) : (s.map f).kind = s.kind := by
  cases s with
  | insert table columns rows conflicts => cases conflicts <;> rfl
  | delete | deleteLimited | update | caseUpdate => rfl

@[simp] theorem filled_map {ν μ : Type} (f : ν → μ) (s : Statement ν) :
    (s.map f).Filled ↔ s.Filled := by
  cases s with
  | insert table columns rows conflicts => cases conflicts <;> simp [map, Filled]
  | caseUpdate table discriminator branches count =>
    have hmap : (∀ b ∈ branches.map (fun b => (f b.1, b.2)), 0 < b.2) ↔
        ∀ b ∈ branches, 0 < b.2 := by
      simp only [List.mem_map, forall_exists_index, and_imp, forall_apply_eq_imp_iff₂]
    simp only [map, Filled, hmap, ne_eq, List.map_eq_nil_iff]
  | delete | deleteLimited | update => simp [map, Filled]

end Statement

/-! ## Checks that were passed -/

theorem refuseIf_eq_ok {c : Bool} {cause : InvalidInput} :
    refuseIf c cause = .ok () ↔ c = false := by
  cases c <;> simp [refuseIf]

/-- A check that no name is unknown is passed just if none is. -/
theorem refuseNames_eq_ok {unknown : List Value} {cause : List String → InvalidInput} :
    (if unknown.isEmpty then .ok ()
      else do .error (.invalid (cause (← namesOf unknown))) : Except Fault Unit) = .ok () ↔
      unknown = [] := by
  rw [← List.isEmpty_iff]
  split
  · exact iff_of_true rfl ‹_›
  · refine iff_of_false (fun h => ?_) ‹_›
    obtain ⟨names, -, herror⟩ := bind_eq_ok.mp h
    cases herror

/-- What is built is of the kind that was asked for. -/
theorem Kind.kind_of_build {k : Kind} {hints : String} {arg : String → Value} {b : Built}
    (h : k.build hints arg = .ok b) : b.transaction.kind = k := by
  cases k with
  | insert | insertIgnore | raw =>
    simp only [build, bind_eq_ok, pure_eq_ok] at h
    obtain ⟨_, _, _, _, rfl⟩ := h
    rfl
  | upsert =>
    simp only [build, bind_eq_ok, pure_eq_ok] at h
    obtain ⟨_, _, _, _, _, _, _, _, rfl⟩ := h
    rfl
  | delete =>
    simp only [build, bind_eq_ok, pure_eq_ok] at h
    obtain ⟨_, _, _, _, rfl⟩ := h
    rfl
  | deleteLimited =>
    simp only [build, bind_eq_ok, pure_eq_ok] at h
    obtain ⟨_, _, _, _, _, _, rfl⟩ := h
    rfl
  | bulkUpdate =>
    simp only [build, bind_eq_ok, pure_eq_ok] at h
    obtain ⟨_, _, _, _, _, _, _, _, _, _, rfl⟩ := h
    rfl
  | caseUpdate =>
    simp only [build, bind_eq_ok, pure_eq_ok] at h
    obtain ⟨_, _, _, _, _, _, _, _, _, _, _, _, _, _, rfl⟩ := h
    rfl

/-- An upsert that was built overwrites some column. -/
theorem Transaction.Constructed.upsert {t : Upsert} (h : (Transaction.upsert t).Constructed) :
    t.assigned ≠ [] := by
  obtain ⟨k, hints, arg, events, h⟩ := h
  obtain rfl : Kind.upsert = k := Kind.kind_of_build h
  simp only [Kind.build, bind_eq_ok, pure_eq_ok] at h
  obtain ⟨rows, _, assigned, _, hints, _, ⟨⟩, hne, h⟩ := h
  cases h
  simpa using refuseIf_eq_ok.mp hne

/-- A bulk update that was built assigns some value. -/
theorem Transaction.Constructed.bulkUpdate {t : BulkUpdate}
    (h : (Transaction.bulkUpdate t).Constructed) : t.values ≠ [] := by
  obtain ⟨k, hints, arg, events, h⟩ := h
  obtain rfl : Kind.bulkUpdate = k := Kind.kind_of_build h
  simp only [Kind.build, bind_eq_ok, pure_eq_ok] at h
  obtain ⟨identifiers, _, values, _, hints, _, ⟨⟩, _, ⟨⟩, hne, h⟩ := h
  cases h
  simpa using refuseIf_eq_ok.mp hne

/-- A bulk update that was built has identifiers. -/
theorem Transaction.Constructed.bulkUpdate_identifiers {t : BulkUpdate}
    (h : (Transaction.bulkUpdate t).Constructed) : t.identifiers ≠ [] := by
  obtain ⟨k, hints, arg, events, h⟩ := h
  obtain rfl : Kind.bulkUpdate = k := Kind.kind_of_build h
  simp only [Kind.build, bind_eq_ok, pure_eq_ok] at h
  obtain ⟨identifiers, _, values, _, hints, _, ⟨⟩, hne, ⟨⟩, _, h⟩ := h
  cases h
  simpa using refuseIf_eq_ok.mp hne

/-- A delete that was built has identifiers. -/
theorem Transaction.Constructed.delete {t : Delete} (h : (Transaction.delete t).Constructed) :
    t.identifiers ≠ [] := by
  obtain ⟨k, hints, arg, events, h⟩ := h
  obtain rfl : Kind.delete = k := Kind.kind_of_build h
  simp only [Kind.build, bind_eq_ok, pure_eq_ok] at h
  obtain ⟨identifiers, _, ⟨⟩, hne, h⟩ := h
  cases h
  simpa using refuseIf_eq_ok.mp hne

/-- Rows that compile are flattened over the columns of the first one, of which there is one. -/
theorem RowSet.compile_eq_ok {rows : List Row} {hints : Row} {s : RowSet}
    (h : RowSet.compile rows hints = .ok s) :
    0 < rows.length ∧ s = flatten (firstColumns rows) rows hints := by
  simp only [compile, bind_eq_ok, pure_eq_ok] at h
  obtain ⟨columns, hcolumns, ⟨⟩, _, ⟨⟩, _, rfl⟩ := h
  cases rows with
  | nil => cases hcolumns
  | cons first rest =>
    cases hfirst : first.isEmpty with
    | true => simp [columnsOf, hfirst] at hcolumns
    | false =>
      obtain rfl : Row.keys first = columns := by simpa [columnsOf, hfirst] using hcolumns
      exact ⟨Nat.succ_pos _, rfl⟩

/-- As many values are bound as the rows have cells. -/
theorem RowSet.length_flatten (columns : List Value) (rows : List Row) (hints : Row) :
    (flatten columns rows hints).params.length = rows.length * columns.length ∧
      (flatten columns rows hints).types.length = rows.length * columns.length := by
  have hcells (row : Row) : (cells columns row).length = columns.length := by simp [cells]
  have hhints : (hintsFor columns hints).length = columns.length := by simp [hintsFor]
  constructor <;>
    simp only [flatten, List.length_flatMap, hcells, hhints, List.map_const',
      List.sum_replicate_nat]

/-- The branches of an update are the columns that some row carries. -/
theorem CaseUpdate.branches_eq (t : CaseUpdate) :
    t.branches = carriedColumns t.rows t.assigned := by
  have hcount (c : Value) : (t.carrying c).length = t.rows.countP fun row => row.has c := by
    rw [carrying, List.countP_eq_length_filter]
  have hempty (c : Value) :
      (!(t.carrying c).isEmpty) = decide (0 < t.rows.countP fun row => row.has c) := by
    rw [← hcount]
    cases t.carrying c <;> simp
  simp only [branches, carriedColumns, hcount, hempty, List.filter_map, Function.comp_def]

/-- Two values for every row that carries a column, over columns that some row carries or over
all. -/
theorem length_pairs_carrying (t : CaseUpdate) (pair : Value → Row → List Value)
    (hpair : ∀ c row, (pair c row).length = 2) (columns : List Value) :
    (columns.flatMap fun c => (t.carrying c).flatMap (pair c)).length =
      (((columns.filter fun c => !(t.carrying c).isEmpty).map fun c =>
        (c, (t.carrying c).length)).map fun b => 2 * b.2).sum := by
  induction columns with
  | nil => rfl
  | cons c columns ih =>
    have hlength : ((t.carrying c).flatMap (pair c)).length = 2 * (t.carrying c).length := by
      simp only [List.length_flatMap, hpair, List.map_const', List.sum_replicate_nat, Nat.mul_comm]
    rw [List.flatMap_cons, List.length_append, hlength, ih]
    cases hc : t.carrying c with
    | nil => simp [hc]
    | cons row rows => simp [hc]

/-- An update binds two values, with their type hints, for every branch. -/
theorem CaseUpdate.length_branchParams (t : CaseUpdate) :
    t.branchParams.length = (t.branches.map fun b => 2 * b.2).sum ∧
      t.branchTypes.length = (t.branches.map fun b => 2 * b.2).sum :=
  ⟨length_pairs_carrying t (fun c row => [t.identifier row, (row.get? c).getD .null])
      (fun _ _ => rfl) t.assigned,
    length_pairs_carrying t (fun c _ => [t.type, (t.hints.get? c).getD .null])
      (fun _ _ => rfl) t.assigned⟩

/-! ## The plan of a query -/

/-- The query of a plan under a quoter: its statement as the quoter has written it, with its values
and its type hints, if these are equally many. -/
theorem Plan.query_eq_ok_iff {plan : Plan} {quoter : Quoter} {policy : Value} {q : Query} :
    plan.query quoter policy = .ok q ↔
      ∃ w : Statement String, plan.statement.quoted quoter = .ok w ∧
        plan.params.length = plan.types.length ∧
        q = ⟨.text (w.textOver plan.statement.width), plan.params, plan.types, policy⟩ := by
  simp only [query, Statement.sql, bind_eq_ok, map_eq_ok, Query.build_eq_ok]
  constructor
  · rintro ⟨_, ⟨w, hw, rfl⟩, hlength, rfl⟩
    exact ⟨w, hw, hlength, rfl⟩
  · rintro ⟨w, hw, hlength, rfl⟩
    exact ⟨_, ⟨w, hw, rfl⟩, hlength, rfl⟩

/-- The query of a plan: its statement written, its values and its type hints. -/
theorem Plan.query_eq_ok {plan : Plan} {policy : Value} {q : Query}
    (h : plan.query .standard policy = .ok q) :
    ∃ s : Statement String, plan.statement.map Value.text? = s.map some ∧
      q.sql = .text s.render ∧ q.params = plan.params ∧ q.types = plan.types := by
  obtain ⟨written, hwritten, -, rfl⟩ := query_eq_ok_iff.mp h
  obtain ⟨s, hs, rfl⟩ := Statement.quoted_standard hwritten
  have hwidth : plan.statement.width = (s.map quotedName).width := by
    rw [← Statement.width_map Value.text?, hs, Statement.width_map, Statement.width_map]
  exact ⟨s, hs, by rw [hwidth]; rfl, rfl, rfl⟩

/-- The plan of an insert is its outline. -/
theorem Insert.plan_eq_ok {t : Insert} {rule : ConflictRule Value} {plan : Plan}
    (h : t.plan rule = .ok plan) :
    plan.statement = .insert (.ofValues t.table t.schema) (firstColumns t.rows) t.rows.length rule ∧
      0 < t.rows.length ∧ plan.params.length = plan.statement.marks ∧
      plan.types.length = plan.statement.marks := by
  simp only [Insert.plan, bind_eq_ok, pure_eq_ok] at h
  obtain ⟨s, hs, rfl⟩ := h
  obtain ⟨hrows, rfl⟩ := RowSet.compile_eq_ok hs
  obtain ⟨hparams, htypes⟩ := RowSet.length_flatten (firstColumns t.rows) t.rows t.hints
  exact ⟨rfl, hrows, hparams, htypes⟩

/-- The plan of an upsert is its outline. -/
theorem Upsert.plan_eq_ok {t : Upsert} {plan : Plan} (h : t.plan = .ok plan) :
    ∃ target, targetOf t.target = .ok target ∧
      plan.statement = .insert (.ofValues t.table t.schema) (firstColumns t.rows) t.rows.length
        (.overwrite target t.assigned) ∧
      0 < t.rows.length ∧ plan.params.length = plan.statement.marks ∧
      plan.types.length = plan.statement.marks := by
  simp only [Upsert.plan, bind_eq_ok, pure_eq_ok] at h
  obtain ⟨s, hs, _, _, _, _, target, htarget, _, _, _, _, _, _, rfl⟩ := h
  obtain ⟨hrows, rfl⟩ := RowSet.compile_eq_ok hs
  obtain ⟨hparams, htypes⟩ := RowSet.length_flatten (firstColumns t.rows) t.rows t.hints
  exact ⟨target, htarget, rfl, hrows, hparams, htypes⟩

/-- The plan of a bulk update is its outline. -/
theorem BulkUpdate.plan_eq_ok {t : BulkUpdate} {plan : Plan} (h : t.plan = .ok plan) :
    plan.statement = .update (.ofValues t.table t.schema) t.values.keys t.column
        t.identifiers.length ∧
      plan.params.length = plan.statement.marks ∧ plan.types.length = plan.statement.marks := by
  simp only [BulkUpdate.plan, bind_eq_ok, pure_eq_ok] at h
  obtain ⟨⟨⟩, _, rfl⟩ := h
  simp [Statement.marks, RowSet.hintsFor, Row.keys]

/-- What an update with branches compiles to, and that some column has a branch. -/
theorem CaseUpdate.plan_eq {t : CaseUpdate} {plan : Plan} (h : t.plan = .ok plan) :
    plan = {
        statement := .caseUpdate (.ofValues t.table t.schema) t.column t.branches t.rows.length
        params := t.branchParams ++ t.rows.map t.identifier
        types := t.branchTypes ++ t.rows.map fun _ => t.type } ∧
      t.branches ≠ [] := by
  simp only [CaseUpdate.plan, bind_eq_ok] at h
  obtain ⟨⟨⟩, _, ⟨⟩, _, h⟩ := h
  cases hempty : t.branches.isEmpty with
  | true =>
    simp only [hempty, if_true, bind_eq_ok] at h
    obtain ⟨_, _, _, h, _⟩ := h
    cases h
  | false =>
    simp only [hempty, Bool.false_eq_true, if_false, pure_eq_ok] at h
    exact ⟨h.symm, List.isEmpty_eq_false_iff.mp hempty⟩

/-- The plan of an update with branches is its outline, and some column has a branch. -/
theorem CaseUpdate.plan_eq_ok {t : CaseUpdate} {plan : Plan} (h : t.plan = .ok plan) :
    plan.statement =
        .caseUpdate (.ofValues t.table t.schema) t.column t.branches t.rows.length ∧
      t.branches ≠ [] ∧ plan.params.length = plan.statement.marks ∧
      plan.types.length = plan.statement.marks := by
  obtain ⟨rfl, hbranches⟩ := CaseUpdate.plan_eq h
  obtain ⟨hparams, htypes⟩ := t.length_branchParams
  refine ⟨rfl, hbranches, ?_, ?_⟩
  · simp only [Statement.marks, List.length_append, List.length_map, hparams]
  · simp only [Statement.marks, List.length_append, List.length_map, htypes]

namespace Transaction

/-- The plan of a transaction; raw SQL has none. -/
def plan? : Transaction → Option (Except Fault Plan)
  | .insert t => some (t.plan .fail)
  | .insertIgnore t => some (t.plan .skip)
  | .upsert t => some t.plan
  | .raw _ => none
  | .delete t => some (.ok t.plan)
  | .deleteLimited t => some (.ok t.plan)
  | .bulkUpdate t => some t.plan
  | .caseUpdate t => some t.plan

theorem exists_plan? {t : Transaction} (h : t.kind ≠ .raw) : ∃ p, t.plan? = some p := by
  cases t with
  | raw => exact absurd rfl h
  | insert | insertIgnore | upsert | delete | deleteLimited | bulkUpdate | caseUpdate =>
    exact ⟨_, rfl⟩

/-- The query of a transaction is written from its plan. -/
theorem query_of_plan? {t : Transaction} {p : Except Fault Plan} (h : t.plan? = some p)
    (q : Quoter) : t.query q = p >>= fun plan => plan.query q t.options.policy := by
  cases t with
  | raw => cases h
  | insert | insertIgnore | upsert | delete | deleteLimited | bulkUpdate | caseUpdate =>
    cases h
    rfl

/-- The policy of a query is that of its transaction. -/
theorem policy_of_query {t : Transaction} {quoter : Quoter} {q : Query}
    (h : t.query quoter = .ok q) : q.policy = t.options.policy := by
  by_cases hkind : t.kind = .raw
  · cases t with
    | raw t =>
      obtain ⟨-, rfl⟩ := Query.build_eq_ok.mp h
      rfl
    | insert | insertIgnore | upsert | delete | deleteLimited | bulkUpdate | caseUpdate =>
      cases hkind
  · obtain ⟨p, hp⟩ := exists_plan? hkind
    rw [query_of_plan? hp, bind_eq_ok] at h
    obtain ⟨plan, _, hquery⟩ := h
    obtain ⟨_, _, _, rfl⟩ := Plan.query_eq_ok_iff.mp hquery
    rfl

/-- The plan of a transaction is for its outline, and binds one value with one type hint for each of
the question marks. -/
theorem plan?_eq_ok {t : Transaction} {plan : Plan} (h : t.plan? = some (.ok plan)) :
    t.outline = some plan.statement ∧ plan.params.length = plan.statement.marks ∧
      plan.types.length = plan.statement.marks := by
  cases t with
  | insert t | insertIgnore t =>
    obtain ⟨hstatement, -, hparams, htypes⟩ := Insert.plan_eq_ok (Option.some.inj h)
    exact ⟨by rw [outline, hstatement], hparams, htypes⟩
  | upsert t =>
    obtain ⟨target, htarget, hstatement, -, hparams, htypes⟩ :=
      Upsert.plan_eq_ok (Option.some.inj h)
    refine ⟨?_, hparams, htypes⟩
    rw [outline, htarget, hstatement]
    rfl
  | raw t => cases h
  | delete t =>
    cases h
    exact ⟨rfl, by simp [Delete.plan, Statement.marks], by simp [Delete.plan, Statement.marks]⟩
  | deleteLimited t =>
    cases h
    exact ⟨rfl, by simp [DeleteLimited.plan, Statement.marks],
      by simp [DeleteLimited.plan, Statement.marks]⟩
  | bulkUpdate t =>
    obtain ⟨hstatement, hparams, htypes⟩ := BulkUpdate.plan_eq_ok (Option.some.inj h)
    exact ⟨by rw [outline, hstatement], hparams, htypes⟩
  | caseUpdate t =>
    obtain ⟨hstatement, -, hparams, htypes⟩ := CaseUpdate.plan_eq_ok (Option.some.inj h)
    exact ⟨by rw [outline, hstatement, t.branches_eq], hparams, htypes⟩

/-- The lists of a plan that must not be empty are not. -/
theorem filled_of_plan? {t : Transaction} (hbuilt : t.Constructed) {plan : Plan}
    (h : t.plan? = some (.ok plan)) : plan.statement.Filled := by
  cases t with
  | insert t | insertIgnore t =>
    obtain ⟨hstatement, hrows, -⟩ := Insert.plan_eq_ok (Option.some.inj h)
    rw [hstatement]
    exact hrows
  | upsert t =>
    obtain ⟨target, -, hstatement, hrows, -⟩ := Upsert.plan_eq_ok (Option.some.inj h)
    rw [hstatement]
    exact ⟨hrows, hbuilt.upsert⟩
  | raw t => cases h
  | delete t | deleteLimited t =>
    cases h
    trivial
  | bulkUpdate t =>
    obtain ⟨hstatement, -⟩ := BulkUpdate.plan_eq_ok (Option.some.inj h)
    rw [hstatement]
    simpa [Statement.Filled, Row.keys] using hbuilt.bulkUpdate
  | caseUpdate t =>
    obtain ⟨hstatement, hbranches, -⟩ := CaseUpdate.plan_eq_ok (Option.some.inj h)
    rw [hstatement]
    refine ⟨hbranches, fun b hb => ?_⟩
    rw [t.branches_eq, carriedColumns, List.mem_filter] at hb
    simpa using hb.2

/-- A transaction that compiles has a plan for its outline, which the query is written from. -/
theorem exists_plan {t : Transaction} (hbuilt : t.Constructed) (hkind : t.kind ≠ .raw)
    {quoter : Quoter} {q : Query} {event : LogEvent} (h : t.compile quoter = .ok (q, event)) :
    ∃ plan : Plan, t.outline = some plan.statement ∧ plan.statement.Filled ∧
      plan.params.length = plan.statement.marks ∧ plan.types.length = plan.statement.marks ∧
      plan.query quoter t.options.policy = .ok q := by
  obtain ⟨hquery, -⟩ := compile_eq_ok_iff.mp h
  obtain ⟨p, hp⟩ := exists_plan? hkind
  rw [query_of_plan? hp, bind_eq_ok] at hquery
  obtain ⟨plan, rfl, hquery⟩ := hquery
  obtain ⟨houtline, hparams, htypes⟩ := plan?_eq_ok hp
  exact ⟨plan, houtline, filled_of_plan? hbuilt hp, hparams, htypes, hquery⟩

/-- A transaction that compiles asks for a statement, whose text is the query's, and binds one value
with one type hint for each of its question marks. -/
theorem exists_statement {t : Transaction} (hbuilt : t.Constructed) (hkind : t.kind ≠ .raw)
    {q : Query} {event : LogEvent} (h : t.compile .standard = .ok (q, event)) :
    ∃ s : Statement String, t.AsksFor s ∧ s.Filled ∧ q.sql = .text s.render ∧
      q.params.length = s.marks ∧ q.types.length = s.marks := by
  obtain ⟨plan, houtline, hfilled, hparams, htypes, hquery⟩ := exists_plan hbuilt hkind h
  obtain ⟨s, hs, hsql, hqp, hqt⟩ := Plan.query_eq_ok hquery
  have hmarks : plan.statement.marks = s.marks := by
    rw [← Statement.marks_map Value.text?, hs, Statement.marks_map]
  refine ⟨s, ⟨_, houtline, hs⟩, ?_, hsql, ?_, ?_⟩
  · rwa [← Statement.filled_map some, ← hs, Statement.filled_map]
  · rw [hqp, hparams, hmarks]
  · rw [hqt, htypes, hmarks]

/-- A transaction asks for one statement only. -/
theorem AsksFor.unique {t : Transaction} {s s' : Statement String} (h : t.AsksFor s)
    (h' : t.AsksFor s') : s = s' := by
  obtain ⟨o, ho, hs⟩ := h
  obtain ⟨o', ho', hs'⟩ := h'
  obtain rfl : o = o' := Option.some.inj (ho.symm.trans ho')
  rw [← s.map_getD_map_some, ← hs, hs', Statement.map_getD_map_some]

/-- A transaction is of the kind of the statement that it asks for. -/
theorem AsksFor.kind_eq {t : Transaction} {s : Statement String} (h : t.AsksFor s) :
    t.kind = s.kind := by
  obtain ⟨o, ho, hs⟩ := h
  have hkind : o.kind = s.kind := by
    rw [← Statement.kind_map Value.text?, hs, Statement.kind_map]
  rw [← hkind]
  cases t with
  | upsert t =>
    obtain ⟨target, _, rfl⟩ := Option.map_eq_some_iff.mp ho
    rfl
  | raw t => cases ho
  | insert t | insertIgnore t | delete t | deleteLimited t | bulkUpdate t | caseUpdate t =>
    cases ho
    rfl

end Transaction

end PgWrite
