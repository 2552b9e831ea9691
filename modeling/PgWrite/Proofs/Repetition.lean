import PgWrite.Proofs.ConstantUpdate
import PgWrite.Proofs.RowCap

/-!
# Repeated writes

A write of which it is not known whether it was executed is executed once more. Kinds that are
repeatable by default, but for the capped delete, leave the same table behind the second time: a
delete finds nothing more to remove, and an update gives every record what it already has. That is
so even where an update changes the column by which it finds its records, since a record that is
given an identifier by its branch bears the identifier of that branch before and after.
-/

namespace PgWrite

/-! ## Comparisons -/

/-- A comparison of cells with bound values, which may be made in either order and through a third
value. A value need not be equal to itself, as null is equal to nothing. -/
structure Comparison where
  eq : Value → Value → Bool
  symm : ∀ {a b : Value}, eq a b = true → eq b a = true
  trans : ∀ {a b c : Value}, eq a b = true → eq b c = true → eq a c = true

/-- Equal values are equal to the same values. -/
theorem Comparison.eq_congr (c : Comparison) {a b : Value} (h : c.eq a b = true) (v : Value) :
    c.eq b v = c.eq a v := by
  rw [Bool.eq_iff_iff]
  exact ⟨c.trans h, c.trans (c.symm h)⟩

/-! ## Writes -/

/-- An update or a delete. -/
inductive Write where
  | update (u : Update)
  | removal (u : Removal)

/-- The write that a query is read as. -/
def Query.write? (q : Query) : Option Write :=
  (q.update?.map .update).or (q.removal?.map .removal)

/-- The table behind a write. The one behind a capped delete is not determined by the table
before. -/
def Write.execute (eq : Value → Value → Bool) : Write → List Record → Option (List Record)
  | .update u, table => u.execute eq table
  | .removal u, table =>
    match u.cap with
    | none => some (table.filter fun r => !u.condition.holds eq r)
    | some _ => none

/-- A delete without a cap does to the records of a stored table what it does to the table. -/
theorem Removal.Leaves.execute {eq : Value → Value → Bool} {u : Removal} (hcap : u.cap = none)
    {before after : Stored} (h : u.Leaves eq before after) :
    (Write.removal u).execute eq (before.rows.map Prod.snd) = some (after.rows.map Prod.snd) := by
  obtain ⟨table, condition, _⟩ := u
  obtain rfl := hcap
  obtain rfl := h
  rw [Write.execute, List.filter_map]
  rfl

/-- What is read as a delete is not read as an update. -/
theorem Query.update?_eq_none {q : Query} {u : Removal} (h : q.removal? = some u) :
    q.update? = none := by
  simp only [Query.removal?, Option.bind_eq_bind, Option.bind_eq_some_iff] at h
  obtain ⟨sql, hsql, lexemes, hlexemes, tokens, htokens, hread⟩ := h
  simp only [Query.update?, hsql, hlexemes, htokens, Option.bind_eq_bind, Option.bind_some]
  unfold Removal.read? at hread
  split at hread
  · rfl
  · cases hread

theorem Query.write?_update {q : Query} {u : Update} (h : q.update? = some u) :
    q.write? = some (.update u) := by
  rw [write?, h]
  rfl

theorem Query.write?_removal {q : Query} {u : Removal} (h : q.removal? = some u) :
    q.write? = some (.removal u) := by
  rw [write?, update?_eq_none h, h]
  rfl

/-- The write leaves every table the second time as it leaves it the first time. -/
def Write.Repeatable (w : Write) : Prop :=
  ∀ (c : Comparison) (before : List Record),
    ∃ after, w.execute c.eq before = some after ∧ w.execute c.eq after = some after

/-- A delete without a cap finds nothing more to remove. -/
theorem Removal.repeatable {u : Removal} (hcap : u.cap = none) : (Write.removal u).Repeatable := by
  intro c before
  have hexecute (table : List Record) : (Write.removal u).execute c.eq table =
      some (table.filter fun r => !u.condition.holds c.eq r) := by
    rw [Write.execute, hcap]
  refine ⟨_, hexecute before, ?_⟩
  rw [hexecute, List.filter_filter]
  simp only [Bool.and_self]

/-- An update that revises record by record is repeatable if revised records are not revised any
more. -/
theorem Update.repeatable {u : Update} (revised : (Value → Value → Bool) → Record → Record)
    (hexecute : ∀ eq records, u.execute eq records = some (records.map (revised eq)))
    (hrevised : ∀ (c : Comparison) (r : Record), revised c.eq (revised c.eq r) = revised c.eq r) :
    (Write.update u).Repeatable := by
  intro c before
  refine ⟨_, hexecute c.eq before, ?_⟩
  rw [Write.execute, hexecute, List.map_map]
  exact congrArg some (List.map_congr_left fun r _ => hrevised c r)

/-! ## Updates with branches -/

namespace CaseUpdate

/-- A revised record bears the identifiers that it bore before, even where its identifier is
assigned: its branch gives it the identifier that it was found by. -/
theorem bears_revised {t : CaseUpdate} (c : Comparison) {identifierColumn : String}
    (hcolumn : t.column.text? = some identifierColumn) (r : Record) (v : Value) :
    c.eq (t.revised c.eq identifierColumn r identifierColumn) v = c.eq (r identifierColumn) v := by
  unfold revised
  cases hassigned : t.assigned.find? fun c => c.text? = some identifierColumn with
  | none => rfl
  | some column =>
    dsimp only
    cases hfound : t.rows.find? fun row =>
        c.eq (r identifierColumn) (t.identifier row) && row.has column with
    | none => rfl
    | some row =>
      have hfirst := List.find?_some hfound
      obtain ⟨hbears, -⟩ := Bool.and_eq_true_iff.mp hfirst
      have hassigns := List.find?_some hassigned
      have hname := of_decide_eq_true hassigns
      have hcell : (row.get? column).getD .null = t.identifier row := by
        rw [identifier, Row.get?_congr hname hcolumn]
      dsimp only
      rw [hcell]
      exact c.eq_congr hbears v

/-- A revised record is not revised any more: the same branches match, with the same values. -/
theorem revised_revised {t : CaseUpdate} (c : Comparison) {identifierColumn : String}
    (hcolumn : t.column.text? = some identifierColumn) (r : Record) :
    t.revised c.eq identifierColumn (t.revised c.eq identifierColumn r) =
      t.revised c.eq identifierColumn r := by
  funext column
  rw [revised]
  simp only [bears_revised c hcolumn]
  rw [revised]
  cases t.assigned.find? fun c => c.text? = some column with
  | none => rfl
  | some assigned =>
    dsimp only
    cases t.rows.find? fun row =>
      c.eq (r identifierColumn) (t.identifier row) && row.has assigned <;> rfl

end CaseUpdate

/-! ## Compiled writes -/

/-- A compiled delete is read as what it is meant to remove. -/
theorem Delete.removal?_eq {t : Delete} {q : Query} {event : LogEvent}
    (h : (Transaction.delete t).compile .standard = .ok (q, event)) (hne : t.identifiers ≠ []) :
    ∃ (table : TableRef String) (column : String),
      q.removal? = some (t.removal table column none) := by
  obtain ⟨hquery, -⟩ := Transaction.compile_eq_ok_iff.mp h
  obtain ⟨s, hs, -⟩ := Plan.query_eq_ok hquery
  cases s with
  | insert | deleteLimited | update | caseUpdate => cases hs
  | delete table column count =>
    obtain ⟨htable, hcolumn, rfl⟩ := Statement.delete.inj hs
    have hnames := Delete.map_statement_plan (t := t) htable hcolumn
    have hvalues : (t.removal table column none).condition.values ≠ [] := by
      simpa [Delete.removal] using hne
    exact ⟨table, column,
      Plan.removal?_eq_some hquery hnames (t.values_removal table column none) hvalues⟩

/-- The columns that an update assigns: the keys of a mapping, of which no two are the same, or the
columns that were given for the branches. -/
def Transaction.assigned : Transaction → List Value
  | .bulkUpdate t => t.values.keys
  | .caseUpdate t => t.assigned
  | _ => []

/-- A transaction that is repeatable by default, but no capped delete, and names no column twice
compiles to a write that leaves every table the second time as it leaves it the first time. -/
theorem Transaction.compiled_is_repeatable {t : Transaction} (hbuilt : t.Constructed)
    (hdefault : t.kind.idempotentByDefault = true) (hcap : t.kind ≠ .deleteLimited)
    (hdistinct : t.assigned.Pairwise fun a b => a.same b = false) {q : Query} {event : LogEvent}
    (h : t.compile .standard = .ok (q, event)) :
    ∃ w, q.write? = some w ∧ ∀ (c : Comparison) (before : List Record),
      ∃ after, w.execute c.eq before = some after ∧ w.execute c.eq after = some after := by
  cases t with
  | insert | insertIgnore | upsert | raw => cases hdefault
  | deleteLimited => exact absurd rfl hcap
  | delete t =>
    obtain ⟨table, column, hread⟩ := Delete.removal?_eq h hbuilt.delete
    exact ⟨_, Query.write?_removal hread, Removal.repeatable rfl⟩
  | bulkUpdate t =>
    obtain ⟨table, column, -, -, htext, hread⟩ := BulkUpdate.update?_eq_meaning hbuilt h
    refine ⟨_, Query.write?_update hread, Update.repeatable (t.revised · column) ?_ ?_⟩
    · exact fun eq records => BulkUpdate.execute_meaning hdistinct htext eq table column records
    · exact fun c r => t.revised_revised c.eq column r
  | caseUpdate t =>
    obtain ⟨table, column, -, hcolumn, htext, hread⟩ := CaseUpdate.update?_eq_meaning h
    refine ⟨_, Query.write?_update hread, Update.repeatable (t.revised · column) ?_ ?_⟩
    · exact fun eq records => CaseUpdate.execute_meaning hdistinct htext eq table column records
    · exact fun c r => CaseUpdate.revised_revised c hcolumn r

/-- Integers are compared by what they are; everything else, null too, is equal to nothing. -/
def wholeNumbers : Comparison where
  eq a b := a.int?.isSome && a.int? = b.int?
  symm {a b} h := by
    obtain ⟨hsome, hsame⟩ := Bool.and_eq_true_iff.mp h
    rw [of_decide_eq_true hsame] at hsome ⊢
    exact Bool.and_eq_true_iff.mpr ⟨hsome, decide_eq_true rfl⟩
  trans {a b c} h h' := by
    obtain ⟨hsome, hsame⟩ := Bool.and_eq_true_iff.mp h
    obtain ⟨-, hsame'⟩ := Bool.and_eq_true_iff.mp h'
    have hall := (of_decide_eq_true hsame).trans (of_decide_eq_true hsame')
    exact Bool.and_eq_true_iff.mpr ⟨hsome, decide_eq_true hall⟩

/-- An update that gives one of its own identifiers to the records of two. -/
def mergingUpdate : BulkUpdate where
  table := .text "t"
  column := .text "id"
  identifiers := [.int 1, .int 2]
  values := [(.text "id", .int 2), (.text "v", .int 9)]
  type := .null
  hints := []
  schema := .null
  options := { idempotent := .bool true, policy := .policy .none }

/-- An update with branches that assigns the column of its identifiers. -/
def selfNamingUpdate : CaseUpdate where
  table := .text "t"
  rows := [[(.text "id", .int 1), (.text "v", .int 7)], [(.text "id", .int 2)],
    [(.text "id", .int 1), (.text "v", .int 8)]]
  column := .text "id"
  assigned := [.text "v", .text "id"]
  type := .null
  hints := []
  schema := .null
  options := { idempotent := .bool true, policy := .policy .none }

theorem mergingUpdate_is_repeatable :
    (∃ q event w, (Transaction.bulkUpdate mergingUpdate).compile .standard = .ok (q, event) ∧
      q.write? = some w ∧ ∀ before, ∃ after,
        w.execute wholeNumbers.eq before = some after ∧
        w.execute wholeNumbers.eq after = some after) ∧
    ∃ q event w, (Transaction.caseUpdate selfNamingUpdate).compile .standard = .ok (q, event) ∧
      q.write? = some w ∧ ∀ before, ∃ after,
        w.execute wholeNumbers.eq before = some after ∧
        w.execute wholeNumbers.eq after = some after := by
  constructor
  · let arg : String → Value := fun name =>
      ([("table_name", .text "t"), ("identifier_column", .text "id"),
        ("identifiers", .ofList [.int 1, .int 2]),
        ("values", .ofFields [("id", .int 2), ("v", .int 9)]), ("idempotent", .bool true),
        ("statement_reuse_policy", .policy .none)].lookup name).getD .null
    have hbuilt : (Transaction.bulkUpdate mergingUpdate).Constructed :=
      ⟨.bulkUpdate, "column_types", arg, [], rfl⟩
    have hdistinct : mergingUpdate.values.keys.Pairwise fun a b => a.same b = false := by
      simp [mergingUpdate, Row.keys, Value.same, Value.sameAtom, Value.text?]
    obtain ⟨q, event, h⟩ : ∃ q event,
        (Transaction.bulkUpdate mergingUpdate).compile .standard = .ok (q, event) := ⟨_, _, rfl⟩
    obtain ⟨w, hread, hrepeats⟩ :=
      Transaction.compiled_is_repeatable hbuilt rfl (by decide) hdistinct h
    exact ⟨q, event, w, h, hread, hrepeats wholeNumbers⟩
  · let row (fields : List (String × Value)) : Value := .ofFields fields
    let arg : String → Value := fun name =>
      ([("table_name", .text "t"), ("identifier_column", .text "id"),
        ("rows", .ofList [row [("id", .int 1), ("v", .int 7)], row [("id", .int 2)],
          row [("id", .int 1), ("v", .int 8)]]),
        ("update_columns", .ofList [.text "v", .text "id"]), ("idempotent", .bool true),
        ("statement_reuse_policy", .policy .none)].lookup name).getD .null
    have hnone : rowsWithout (.text "id") 0 selfNamingUpdate.rows = [] := by cbv
    have hbuilt : (Transaction.caseUpdate selfNamingUpdate).Constructed := by
      refine ⟨.caseUpdate, "column_types", arg, [], ?_⟩
      simp only [Kind.build, bind_eq_ok, pure_eq_ok]
      refine ⟨selfNamingUpdate.rows, rfl, _, rfl, _, rfl, (), rfl, (), rfl, (), rfl, (), ?_, rfl⟩
      exact refuseIf_eq_ok.mpr (congrArg (!·.isEmpty) hnone)
    have hbranches : selfNamingUpdate.branches = [(.text "v", 2), (.text "id", 3)] := by cbv
    have hparams : selfNamingUpdate.branchParams = [.int 1, .int 7, .int 1, .int 8, .int 1, .int 1,
        .int 2, .int 2, .int 1, .int 1] := by cbv
    have htypes : selfNamingUpdate.branchTypes = List.replicate 10 .null := by cbv
    have hdistinct : selfNamingUpdate.assigned.Pairwise fun a b => a.same b = false := by
      simp [selfNamingUpdate, Value.same, Value.sameAtom, Value.text?]
    obtain ⟨q, event, h⟩ : ∃ q event,
        (Transaction.caseUpdate selfNamingUpdate).compile .standard = .ok (q, event) := by
      simp only [Transaction.compile, Transaction.query, CaseUpdate.plan, hbranches, hparams,
        htypes]
      exact ⟨_, _, rfl⟩
    obtain ⟨w, hread, hrepeats⟩ :=
      Transaction.compiled_is_repeatable hbuilt rfl (by decide) hdistinct h
    exact ⟨q, event, w, h, hread, hrepeats wholeNumbers⟩

end PgWrite
