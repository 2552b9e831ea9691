import PgWrite.Proofs.Names
import PgWrite.Proofs.Outline
import PgWrite.Proofs.TemplateReading
import PgWrite.Proofs.Update

/-!
# Updates row by row

An update with branches gives every record the values of the rows that bear its identifier. The text
counts branches column by column, and values and type hints are collected in walks of their own; all
three meet again when the text is read with its values bound. What it then does to a table is said
by `CaseUpdate.revised`, which knows rows and columns only.
-/

namespace PgWrite

namespace CaseUpdate

/-- The columns that some row carries. -/
def carried (t : CaseUpdate) : List Value :=
  t.assigned.filter fun c => t.rows.any fun row => row.has c

/-- A record after an update: an assigned column gets its value from the first row that bears the
record's identifier and carries the column. Every other cell is kept. -/
def revised (t : CaseUpdate) (eq : Value → Value → Bool) (identifierColumn : String) (r : Record) :
    Record := fun column =>
  match t.assigned.find? fun c => c.text? = some column with
  | none => r column
  | some c =>
    match t.rows.find? fun row => eq (r identifierColumn) (t.identifier row) && row.has c with
    | some row => (row.get? c).getD .null
    | none => r column

/-- The name under which a column is written. -/
def columnName (c : Value) : String :=
  c.text?.getD ""

/-- The branch of a row that carries a column. -/
def branchFor (t : CaseUpdate) (discriminator : String) (c : Value) (row : Row) : Branch where
  column := discriminator
  tested := { value := t.identifier row, hint := t.type }
  result := { value := (row.get? c).getD .null, hint := (t.hints.get? c).getD .null }

/-- The branches of a column, one for every row that carries it. -/
def branchesOf (t : CaseUpdate) (discriminator : String) (c : Value) : List Branch :=
  (t.carrying c).map (t.branchFor discriminator c)

/-- The assignment of a column. -/
def assignmentOf (t : CaseUpdate) (discriminator : String) (c : Value) : Assignment where
  column := columnName c
  value := .choice (t.branchesOf discriminator c) (columnName c)

/-- The update that is meant. -/
def meaning (t : CaseUpdate) (table : TableRef String) (discriminator : String) : Update where
  table := table
  assignments := t.carried.map (t.assignmentOf discriminator)
  condition := {
    column := discriminator
    values := t.rows.map fun row => { value := t.identifier row, hint := t.type } }

/-- A column that is carried by some row has a row that carries it. -/
theorem not_isEmpty_carrying (t : CaseUpdate) (c : Value) :
    (!(t.carrying c).isEmpty) = t.rows.any fun row => row.has c := by
  rw [carrying, Bool.eq_iff_iff]
  simp [List.isEmpty_eq_false_iff, List.filter_eq_nil_iff]

/-- The branches of an update, by carried columns. -/
theorem branches_eq_map_carried (t : CaseUpdate) :
    t.branches = t.carried.map fun c => (c, (t.carrying c).length) := by
  simp only [branches, carried, not_isEmpty_carrying]

/-- Walks over all columns meet the carried ones only. -/
theorem flatMap_carrying {β : Type} (t : CaseUpdate) (part : Value → Row → List β) :
    (t.assigned.flatMap fun c => (t.carrying c).flatMap (part c)) =
      t.carried.flatMap fun c => (t.carrying c).flatMap (part c) := by
  rw [carried]
  induction t.assigned with
  | nil => rfl
  | cons c columns ih =>
    rw [List.flatMap_cons, ih, List.filter_cons, ← not_isEmpty_carrying]
    cases hc : t.carrying c with
    | nil => simp
    | cons row rows => simp [hc]

end CaseUpdate

/-- Walks that keep step are joined step by step. -/
theorem zipWith_flatMap {α β γ δ : Type} (join : β → γ → δ) {f : α → List β} {g : α → List γ}
    (h : ∀ a, (f a).length = (g a).length) (items : List α) :
    List.zipWith join (items.flatMap f) (items.flatMap g) =
      items.flatMap fun a => List.zipWith join (f a) (g a) := by
  induction items with
  | nil => rfl
  | cons a items ih =>
    rw [List.flatMap_cons, List.flatMap_cons, List.zipWith_append (h a), ih, List.flatMap_cons]

namespace CaseUpdate

/-- Identifiers and cells meet their type hints, branch by branch. -/
theorem zipWith_params (t : CaseUpdate) (discriminator : String) :
    List.zipWith Bound.mk (t.branchParams ++ t.rows.map t.identifier)
        (t.branchTypes ++ t.rows.map fun _ => t.type) =
      (t.carried.flatMap fun c =>
          (t.branchesOf discriminator c).flatMap fun b => [b.tested, b.result])
        ++ t.rows.map fun row => { value := t.identifier row, hint := t.type } := by
  have hlength : t.branchParams.length = t.branchTypes.length := by
    rw [t.length_branchParams.1, t.length_branchParams.2]
  have hbranches : List.zipWith Bound.mk t.branchParams t.branchTypes =
      t.carried.flatMap fun c =>
        (t.branchesOf discriminator c).flatMap fun b => [b.tested, b.result] := by
    have hcolumn (c : Value) :
        List.zipWith Bound.mk
            ((t.carrying c).flatMap fun row => [t.identifier row, (row.get? c).getD .null])
            ((t.carrying c).flatMap fun _ => [t.type, (t.hints.get? c).getD .null]) =
          (t.carrying c).flatMap fun row => [⟨t.identifier row, t.type⟩,
            ⟨(row.get? c).getD .null, (t.hints.get? c).getD .null⟩] :=
      zipWith_flatMap Bound.mk (fun _ => by rfl) _
    rw [branchParams, branchTypes, zipWith_flatMap Bound.mk (fun c => by simp)]
    simp only [hcolumn, branchesOf, branchFor, List.flatMap_map]
    exact t.flatMap_carrying _
  rw [List.zipWith_append hlength, hbranches, List.zipWith_map, List.zipWith_self]

/-- The template of an update with the values of its rows: the update that is meant. -/
theorem bindMarks_template (t : CaseUpdate) (table : TableRef String) (discriminator : String) :
    bindMarks
        (Statement.template (.caseUpdate table discriminator
          (t.carried.map fun c => (columnName c, (t.carrying c).length)) t.rows.length))
        (List.zipWith Bound.mk (t.branchParams ++ t.rows.map t.identifier)
          (t.branchTypes ++ t.rows.map fun _ => t.type)) =
      some (t.meaning table discriminator).tokens := by
  have hset : bindMarks
      (Lexeme.listed (t.carried.map fun c =>
        Lexeme.choice discriminator (columnName c, (t.carrying c).length)))
      (t.carried.flatMap fun c =>
        (t.branchesOf discriminator c).flatMap fun b => [b.tested, b.result]) =
      some (Token.listed (t.carried.map fun c => (t.assignmentOf discriminator c).tokens)) := by
    refine bindMarks_listed fun c _ => ?_
    have hsame : ∀ b ∈ t.branchesOf discriminator c, b.column = discriminator := by
      intro b hb
      obtain ⟨row, _, rfl⟩ := List.mem_map.mp hb
      rfl
    have hlength : (t.branchesOf discriminator c).length = (t.carrying c).length :=
      List.length_map ..
    rw [← hlength]
    exact Assignment.bindMarks_choice hsame
  have hall := (t.meaning table discriminator).bindMarks_tokens
    (by rwa [meaning, List.map_map])
  rw [zipWith_params t discriminator, ← hall]
  simp [Statement.template, meaning, List.map_map, Function.comp_def]

/-- An update with a branch is meant in full. -/
theorem filled_meaning {t : CaseUpdate} (h : t.branches ≠ []) (table : TableRef String)
    (discriminator : String) : (t.meaning table discriminator).Filled := by
  have hcarried : t.carried ≠ [] := by
    rwa [branches_eq_map_carried, ne_eq, List.map_eq_nil_iff] at h
  have hrow : ∀ c ∈ t.carried, t.carrying c ≠ [] := by
    intro c hc
    rw [carried, List.mem_filter, ← not_isEmpty_carrying] at hc
    simpa using hc.2
  refine ⟨by simpa [meaning] using hcarried, ?_, ?_⟩
  · obtain ⟨c, hc⟩ := List.exists_mem_of_ne_nil _ hcarried
    have hsub := hrow c hc
    intro hempty
    have hrows : t.rows = [] := by simpa [meaning] using hempty
    exact hsub (by rw [carrying, hrows]; rfl)
  · intro a ha otherwise hvalue
    obtain ⟨c, hc, rfl⟩ := List.mem_map.mp ha
    simp only [assignmentOf, branchesOf, Expression.choice.injEq, List.map_eq_nil_iff] at hvalue
    exact hrow c hc hvalue.1

/-- Columns that are written as texts are written by their names. -/
theorem eq_map_columnName {columns : List Value} {names : List String}
    (h : columns.map Value.text? = names.map some) :
    names = columns.map columnName ∧ ∀ c ∈ columns, c.text? = some (columnName c) := by
  induction columns generalizing names with
  | nil => exact ⟨List.map_eq_nil_iff.mp h.symm, List.forall_mem_nil _⟩
  | cons c rest ih =>
    cases names with
    | nil => cases h
    | cons name names =>
      obtain ⟨hname, hrest⟩ := List.cons.inj h
      obtain ⟨rfl, htext⟩ := ih hrest
      have hcolumn : columnName c = name := by
        rw [columnName, hname]
        rfl
      refine ⟨?_, List.forall_mem_cons.mpr ⟨?_, htext⟩⟩
      · rw [List.map_cons, hcolumn]
      · rw [hcolumn, hname]

/-- What an update compiles to: its names are texts, and the text counts the rows of every carried
column. -/
theorem compile_eq_ok {t : CaseUpdate} {q : Query} {event : LogEvent}
    (h : (Transaction.caseUpdate t).compile .standard = .ok (q, event)) :
    ∃ (table : TableRef String) (discriminator : String),
      (TableRef.ofValues t.table t.schema).map Value.text? = table.map some ∧
      t.column.text? = some discriminator ∧ (∀ c ∈ t.carried, c.text? = some (columnName c)) ∧
      t.branches ≠ [] ∧
      q.sql = .text (Statement.caseUpdate table discriminator
        (t.carried.map fun c => (columnName c, (t.carrying c).length)) t.rows.length).render ∧
      q.params = t.branchParams ++ t.rows.map t.identifier ∧
      q.types = t.branchTypes ++ t.rows.map fun _ => t.type := by
  obtain ⟨hwritten, -⟩ := Transaction.compile_eq_ok_iff.mp h
  obtain ⟨plan, hplan, hquery⟩ := bind_eq_ok.mp hwritten
  obtain ⟨rfl, hbranches⟩ := CaseUpdate.plan_eq hplan
  obtain ⟨s, hs, hsql, hparams, htypes⟩ := Plan.query_eq_ok hquery
  cases s with
  | insert | delete | deleteLimited | update => cases hs
  | caseUpdate table discriminator branches count =>
    simp only [Statement.map, Statement.caseUpdate.injEq, branches_eq_map_carried,
      List.map_map] at hs
    obtain ⟨htable, hcolumn, hnames, rfl⟩ := hs
    have hcounted := congrArg (List.map fun b : Option String × Nat => (b.1.getD "", b.2)) hnames
    have hbranch : branches = t.carried.map fun c => (columnName c, (t.carrying c).length) := by
      simpa [Function.comp_def, columnName] using hcounted.symm
    have hcolumns : t.carried.map Value.text? = (branches.map Prod.fst).map some := by
      simpa [Function.comp_def] using congrArg (List.map Prod.fst) hnames
    obtain ⟨-, htext⟩ := eq_map_columnName hcolumns
    exact ⟨table, discriminator, htable, hcolumn, htext, hbranches, by rw [hsql, hbranch],
      hparams, htypes⟩

/-- A compiled update is read as the update that is meant. -/
theorem update?_eq_meaning {t : CaseUpdate} {q : Query} {event : LogEvent}
    (h : (Transaction.caseUpdate t).compile .standard = .ok (q, event)) :
    ∃ (table : TableRef String) (discriminator : String),
      (TableRef.ofValues t.table t.schema).map Value.text? = table.map some ∧
      t.column.text? = some discriminator ∧ (∀ c ∈ t.carried, c.text? = some (columnName c)) ∧
      q.update? = some (t.meaning table discriminator) := by
  obtain ⟨table, discriminator, htable, hcolumn, htext, hbranches, hsql, hparams, htypes⟩ :=
    compile_eq_ok h
  refine ⟨table, discriminator, htable, hcolumn, htext, ?_⟩
  have hfilled : (Statement.caseUpdate table discriminator
      (t.carried.map fun c => (columnName c, (t.carrying c).length)) t.rows.length).Filled := by
    refine ⟨by simpa [branches_eq_map_carried] using hbranches, fun b hb => ?_⟩
    obtain ⟨c, hc, rfl⟩ := List.mem_map.mp hb
    rw [carried, List.mem_filter, ← not_isEmpty_carrying] at hc
    simpa [List.length_pos_iff] using hc.2
  simp only [Query.update?, hsql, Value.text?, Option.bind_eq_bind, Option.bind_some,
    Statement.lexemes?_render hfilled, hparams, htypes, bindMarks_template t table discriminator,
    Update.read?_tokens (filled_meaning hbranches table discriminator)]

/-! ## What the update does -/

/-- Columns with the same text are the same. -/
theorem same_of_text {a b : Value} {name : String} (ha : a.text? = some name)
    (hb : b.text? = some name) : a.same b = true := by
  rw [Value.same_eq_of_text ha hb]
  exact decide_eq_true rfl

/-- Different columns are written under different names. -/
theorem nodup_columnName {columns : List Value}
    (hdistinct : columns.Pairwise fun a b => a.same b = false)
    (htext : ∀ c ∈ columns, c.text? = some (columnName c)) : (columns.map columnName).Nodup := by
  rw [List.nodup_iff_pairwise_ne, List.pairwise_map]
  refine hdistinct.imp_of_mem fun {a b} ha hb hab he => ?_
  have hsame := same_of_text (htext a ha) (he ▸ htext b hb)
  rw [hab] at hsame
  cases hsame

/-- Where at most one item is sought, it may be found before or after the others are kept out. -/
theorem find?_filter_of_unique {α : Type} {sought kept : α → Bool} {items : List α}
    (h : items.Pairwise fun a b => ¬ (sought a = true ∧ sought b = true)) :
    (items.filter kept).find? sought = (items.find? sought).filter kept := by
  induction items with
  | nil => rfl
  | cons a items ih =>
    obtain ⟨ha, hrest⟩ := List.pairwise_cons.mp h
    by_cases hsought : sought a = true
    · have hnone : (items.filter kept).find? sought = none := by
        rw [List.find?_eq_none]
        intro b hb hsb
        exact ha b (List.mem_filter.mp hb).1 ⟨hsought, hsb⟩
      by_cases hkept : kept a = true
      · rw [List.filter_cons_of_pos hkept, List.find?_cons_of_pos hsought,
          List.find?_cons_of_pos hsought, Option.filter_some, if_pos hkept]
      · rw [List.filter_cons_of_neg hkept, hnone, List.find?_cons_of_pos hsought,
          Option.filter_some, if_neg hkept]
    · by_cases hkept : kept a = true
      · rw [List.filter_cons_of_pos hkept, List.find?_cons_of_neg hsought,
          List.find?_cons_of_neg hsought, ih hrest]
      · rw [List.filter_cons_of_neg hkept, List.find?_cons_of_neg hsought, ih hrest]

/-- The carried column of a name is the assigned column of that name, if some row carries it. -/
theorem find?_carried {t : CaseUpdate}
    (hdistinct : t.assigned.Pairwise fun a b => a.same b = false)
    (htext : ∀ c ∈ t.carried, c.text? = some (columnName c)) (column : String) :
    (t.carried.find? fun c => columnName c = column) =
      (t.assigned.find? fun c => c.text? = some column).filter
        fun c => t.rows.any fun row => row.has c := by
  have hcongr : (t.carried.find? fun c => columnName c = column) =
      t.carried.find? fun c => c.text? = some column := by
    refine List.find?_congr fun c hc => ?_
    rw [htext c hc]
    simp
  rw [hcongr, carried]
  refine find?_filter_of_unique (hdistinct.imp fun {a b} hab hboth => ?_)
  have hsame := same_of_text (of_decide_eq_true hboth.1) (of_decide_eq_true hboth.2)
  rw [hab] at hsame
  cases hsame

/-- A choice takes the first row with the record's identifier that carries the column. -/
theorem eval_choice (t : CaseUpdate) (eq : Value → Value → Bool) (discriminator : String)
    (c : Value) (r : Record) :
    (t.assignmentOf discriminator c).value.eval eq r =
      match t.rows.find? fun row => eq (r discriminator) (t.identifier row) && row.has c with
      | some row => (row.get? c).getD .null
      | none => r (columnName c) := by
  have hfind : ((t.branchesOf discriminator c).find? fun b => eq (r b.column) b.tested.value) =
      (t.rows.find? fun row => eq (r discriminator) (t.identifier row) && row.has c).map
        (t.branchFor discriminator c) := by
    rw [branchesOf, List.find?_map, carrying, List.find?_filter]
    congr 2
    funext row
    rw [Bool.and_comm, Bool.decide_and, Bool.decide_eq_true, Bool.decide_eq_true]
    rfl
  rw [assignmentOf, Expression.eval, hfind]
  cases t.rows.find? fun row => eq (r discriminator) (t.identifier row) && row.has c <;> rfl

/-- The assignments revise a record. -/
theorem assign_meaning {t : CaseUpdate}
    (hdistinct : t.assigned.Pairwise fun a b => a.same b = false)
    (htext : ∀ c ∈ t.carried, c.text? = some (columnName c)) (eq : Value → Value → Bool)
    (table : TableRef String) (discriminator : String) (r : Record) :
    (t.meaning table discriminator).assign eq r = t.revised eq discriminator r := by
  funext column
  have hassignment :
      (t.meaning table discriminator).assignments.find? (fun a => a.column = column) =
        ((t.assigned.find? fun c => c.text? = some column).filter
          fun c => t.rows.any fun row => row.has c).map (t.assignmentOf discriminator) := by
    rw [← find?_carried hdistinct htext, meaning, List.find?_map]
    rfl
  rw [Update.assign, revised, hassignment]
  cases hfind : t.assigned.find? fun c => c.text? = some column with
  | none => rfl
  | some c =>
    have hname : columnName c = column := by
      have hc := List.find?_some hfind
      rw [columnName, of_decide_eq_true hc]
      rfl
    by_cases hcarried : (t.rows.any fun row => row.has c) = true
    · rw [Option.filter_some, if_pos hcarried, Option.map_some]
      simp only [eval_choice, hname]
    · have hnone : (t.rows.find? fun row =>
          eq (r discriminator) (t.identifier row) && row.has c) = none := by
        rw [List.find?_eq_none]
        intro row hrow hboth
        exact hcarried (List.any_eq_true.mpr ⟨row, hrow, (Bool.and_eq_true_iff.mp hboth).2⟩)
      rw [Option.filter_some, if_neg hcarried, Option.map_none]
      simp only [hnone]

/-- Records that no row has the identifier of are kept. -/
theorem revised_of_not_holds {t : CaseUpdate} {eq : Value → Value → Bool} {table : TableRef String}
    {discriminator : String} {r : Record}
    (h : ¬ (t.meaning table discriminator).condition.holds eq r = true) :
    t.revised eq discriminator r = r := by
  have hrow : ∀ row ∈ t.rows, eq (r discriminator) (t.identifier row) = false := by
    simpa [meaning, Membership.holds] using h
  funext column
  rw [revised]
  cases t.assigned.find? fun c => c.text? = some column with
  | none => rfl
  | some c =>
    have hnone : (t.rows.find? fun row =>
        eq (r discriminator) (t.identifier row) && row.has c) = none := by
      rw [List.find?_eq_none]
      intro row hmem
      simp [hrow row hmem]
    simp only [hnone]

/-- The update that is meant revises every record. -/
theorem execute_meaning {t : CaseUpdate}
    (hdistinct : t.assigned.Pairwise fun a b => a.same b = false)
    (htext : ∀ c ∈ t.carried, c.text? = some (columnName c)) (eq : Value → Value → Bool)
    (table : TableRef String) (discriminator : String) (records : List Record) :
    (t.meaning table discriminator).execute eq records =
      some (records.map (t.revised eq discriminator)) := by
  have hnodup : ((t.meaning table discriminator).assignments.map (·.column)).Nodup := by
    rw [meaning, List.map_map]
    exact nodup_columnName (hdistinct.sublist List.filter_sublist) htext
  rw [Update.execute, if_pos hnodup]
  congr 1
  refine List.map_congr_left fun r _ => ?_
  by_cases hholds : (t.meaning table discriminator).condition.holds eq r = true
  · rw [if_pos hholds, assign_meaning hdistinct htext]
  · rw [if_neg hholds, revised_of_not_holds hholds]

/-- A compiled update without repeated columns is read as one that does to every table what its
rows say, whatever the comparison of cells with identifiers is: records are revised one by one.
Exactly the carried columns are set, and every bound value has the type hint of its column. -/
theorem compiled_revises_rows {t : CaseUpdate} {q : Query} {event : LogEvent}
    (h : (Transaction.caseUpdate t).compile .standard = .ok (q, event))
    (hdistinct : t.assigned.Pairwise fun a b => a.same b = false) :
    ∃ (discriminator : String) (u : Update), q.update? = some u ∧
      t.column.text? = some discriminator ∧ u.condition.column = discriminator ∧
      (TableRef.ofValues t.table t.schema).map Value.text? = u.table.map some ∧
      (∀ (eq : Value → Value → Bool) (records : List Record),
        u.execute eq records = some (records.map (t.revised eq discriminator))) ∧
      (u.assignments.map fun a => some a.column) =
        (t.assigned.filter fun c => t.rows.any fun row => row.has c).map Value.text? ∧
      (∀ b ∈ u.condition.values, b.hint = t.type) ∧
      ∀ a ∈ u.assignments, ∃ c ∈ t.assigned, c.text? = some a.column ∧
        ∃ branches, a.value = .choice branches a.column ∧ ∀ b ∈ branches,
          b.tested.hint = t.type ∧ b.result.hint = (t.hints.get? c).getD .null := by
  obtain ⟨table, discriminator, htable, hcolumn, htext, hread⟩ := update?_eq_meaning h
  refine ⟨discriminator, t.meaning table discriminator, hread, hcolumn, rfl, htable,
    fun eq records => execute_meaning hdistinct htext eq table discriminator records, ?_, ?_, ?_⟩
  · rw [meaning, List.map_map]
    exact List.map_congr_left fun c hc => (htext c hc).symm
  · intro b hb
    obtain ⟨row, _, rfl⟩ := List.mem_map.mp hb
    rfl
  · intro a ha
    obtain ⟨c, hc, rfl⟩ := List.mem_map.mp ha
    refine ⟨c, (List.mem_filter.mp hc).1, htext c hc, _, rfl, ?_⟩
    intro b hb
    obtain ⟨row, _, rfl⟩ := List.mem_map.mp hb
    exact ⟨rfl, rfl⟩

/-- Two rows bear one identifier and carry different columns; no row carries the last column. -/
def patchwork : CaseUpdate where
  table := .text "t"
  rows := [[(.text "id", .int 1), (.text "a", .int 10)], [(.text "id", .int 2), (.text "b", .null)],
    [(.text "id", .int 1), (.text "a", .int 11), (.text "b", .int 12)]]
  column := .text "id"
  assigned := [.text "a", .text "b", .text "id", .text "c?"]
  type := .null
  hints := []
  schema := .null
  options := { idempotent := .bool true, policy := .policy .none }

theorem patchwork_revises_rows :
    ∃ q event, (Transaction.caseUpdate patchwork).compile .standard = .ok (q, event) ∧
      ∃ (discriminator : String) (u : Update), q.update? = some u ∧
        ∀ (eq : Value → Value → Bool) (records : List Record),
          u.execute eq records = some (records.map (patchwork.revised eq discriminator)) := by
  have hbranches : patchwork.branches = [(.text "a", 2), (.text "b", 2), (.text "id", 3)] := by cbv
  have hparams : patchwork.branchParams = [.int 1, .int 10, .int 1, .int 11, .int 2, .null, .int 1,
      .int 12, .int 1, .int 1, .int 2, .int 2, .int 1, .int 1] := by cbv
  have htypes : patchwork.branchTypes = List.replicate 14 .null := by cbv
  obtain ⟨q, event, h⟩ : ∃ q event,
      (Transaction.caseUpdate patchwork).compile .standard = .ok (q, event) := by
    simp only [Transaction.compile, Transaction.query, plan, hbranches, hparams, htypes]
    exact ⟨_, _, rfl⟩
  have hdistinct : patchwork.assigned.Pairwise fun a b => a.same b = false := by
    simp [patchwork, Value.same, Value.sameAtom, Value.text?]
  obtain ⟨discriminator, u, hread, _, _, _, hexecute, _⟩ := compiled_revises_rows h hdistinct
  exact ⟨q, event, h, discriminator, u, hread, hexecute⟩

end CaseUpdate

end PgWrite
