import PgWrite.Proofs.RowwiseUpdate

/-!
# Updates with constants

A bulk update gives the same values to every record that bears one of its identifiers. Its text has
one question mark for every value and one for every identifier; read with the values bound, it does
to a table what `BulkUpdate.revised` does to every record.
-/

namespace PgWrite

open CaseUpdate (columnName)

namespace BulkUpdate

/-- A record with the values of the update. -/
def overwritten (t : BulkUpdate) (r : Record) : Record := fun column =>
  match t.values.find? fun e => e.1.text? = some column with
  | some e => e.2
  | none => r column

/-- A record after an update: one that bears an identifier of the update gets its values. -/
def revised (t : BulkUpdate) (eq : Value → Value → Bool) (identifierColumn : String) (r : Record) :
    Record :=
  if t.identifiers.any (eq (r identifierColumn)) then t.overwritten r else r

/-- The assignment of a value to its column. -/
def assignmentOf (t : BulkUpdate) (e : Value × Value) : Assignment where
  column := columnName e.1
  value := .bound { value := e.2, hint := (t.hints.get? e.1).getD .null }

/-- The update that is meant. -/
def meaning (t : BulkUpdate) (table : TableRef String) (identifierColumn : String) : Update where
  table := table
  assignments := t.values.map t.assignmentOf
  condition := {
    column := identifierColumn
    values := t.identifiers.map fun v => { value := v, hint := t.type } }

/-- Values and identifiers meet their type hints. -/
theorem zipWith_params (t : BulkUpdate) :
    List.zipWith Bound.mk (t.values.map (·.2) ++ t.identifiers)
        (RowSet.hintsFor t.values.keys t.hints ++ t.identifiers.map fun _ => t.type) =
      (t.values.flatMap fun e => [{ value := e.2, hint := (t.hints.get? e.1).getD .null }]) ++
        t.identifiers.map fun v => { value := v, hint := t.type } := by
  have hlength : (t.values.map (·.2)).length = (RowSet.hintsFor t.values.keys t.hints).length := by
    simp [RowSet.hintsFor, Row.keys]
  have hvalues : List.zipWith Bound.mk (t.values.map (·.2))
        (RowSet.hintsFor t.values.keys t.hints) =
      t.values.flatMap fun e => [{ value := e.2, hint := (t.hints.get? e.1).getD .null }] := by
    rw [RowSet.hintsFor, Row.keys, List.map_map, List.zipWith_map, List.zipWith_self,
      List.map_eq_flatMap]
    rfl
  rw [List.zipWith_append hlength, hvalues, List.zipWith_map_right, List.zipWith_self]

/-- The template of an update with its values: the update that is meant. -/
theorem bindMarks_template (t : BulkUpdate) (table : TableRef String) (identifierColumn : String) :
    bindMarks
        (Statement.template (.update table (t.values.keys.map columnName) identifierColumn
          t.identifiers.length))
        (List.zipWith Bound.mk (t.values.map (·.2) ++ t.identifiers)
          (RowSet.hintsFor t.values.keys t.hints ++ t.identifiers.map fun _ => t.type)) =
      some (t.meaning table identifierColumn).tokens := by
  have hset : bindMarks
      (Lexeme.listed (t.values.map fun e => Lexeme.assigned (columnName e.1)))
      (t.values.flatMap fun e => [{ value := e.2, hint := (t.hints.get? e.1).getD .null }]) =
      some (Token.listed (t.values.map fun e => (t.assignmentOf e).tokens)) :=
    bindMarks_listed fun _ _ => rfl
  have hall := (t.meaning table identifierColumn).bindMarks_tokens (by rwa [meaning, List.map_map])
  rw [zipWith_params, ← hall]
  simp [Statement.template, meaning, Row.keys, List.map_map, Function.comp_def]

/-- An update that was built is meant in full. -/
theorem filled_meaning {t : BulkUpdate} (hbuilt : (Transaction.bulkUpdate t).Constructed)
    (table : TableRef String) (identifierColumn : String) :
    (t.meaning table identifierColumn).Filled := by
  refine ⟨?_, ?_, ?_⟩
  · simpa [meaning] using hbuilt.bulkUpdate
  · simpa [meaning] using hbuilt.bulkUpdate_identifiers
  · intro a ha otherwise hvalue
    obtain ⟨e, _, rfl⟩ := List.mem_map.mp ha
    cases hvalue

/-- A compiled update is read as the update that is meant, its names being texts. -/
theorem update?_eq_meaning {t : BulkUpdate} (hbuilt : (Transaction.bulkUpdate t).Constructed)
    {q : Query} {event : LogEvent}
    (h : (Transaction.bulkUpdate t).compile .standard = .ok (q, event)) :
    ∃ (table : TableRef String) (identifierColumn : String),
      (TableRef.ofValues t.table t.schema).map Value.text? = table.map some ∧
      t.column.text? = some identifierColumn ∧
      (∀ c ∈ t.values.keys, c.text? = some (columnName c)) ∧
      q.update? = some (t.meaning table identifierColumn) := by
  obtain ⟨hwritten, -⟩ := Transaction.compile_eq_ok_iff.mp h
  obtain ⟨_, hplan, hquery⟩ := bind_eq_ok.mp hwritten
  simp only [plan, bind_eq_ok, pure_eq_ok] at hplan
  obtain ⟨⟨⟩, -, rfl⟩ := hplan
  obtain ⟨s, hs, hsql, hparams, htypes⟩ := Plan.query_eq_ok hquery
  cases s with
  | insert | delete | deleteLimited | caseUpdate => cases hs
  | update table columns identifierColumn count =>
    simp only [Statement.map, Statement.update.injEq] at hs
    obtain ⟨htable, hcolumns, hcolumn, rfl⟩ := hs
    obtain ⟨hnames, htext⟩ := CaseUpdate.eq_map_columnName hcolumns
    refine ⟨table, identifierColumn, htable, hcolumn, htext, ?_⟩
    have hfilled : (Statement.update table (t.values.keys.map columnName) identifierColumn
        t.identifiers.length).Filled := by
      simpa [Statement.Filled, Row.keys] using hbuilt.bulkUpdate
    simp only [Query.update?, hsql, hnames, Value.text?, Option.bind_eq_bind, Option.bind_some,
      Statement.lexemes?_render hfilled, hparams, htypes,
      bindMarks_template t table identifierColumn,
      Update.read?_tokens (filled_meaning hbuilt table identifierColumn)]

/-! ## What the update does -/

theorem holds_meaning (t : BulkUpdate) (eq : Value → Value → Bool) (table : TableRef String)
    (identifierColumn : String) (r : Record) :
    (t.meaning table identifierColumn).condition.holds eq r =
      t.identifiers.any (eq (r identifierColumn)) := by
  rw [meaning, Membership.holds, List.any_map]
  rfl

/-- The assignments give a record the values of the update. -/
theorem assign_meaning {t : BulkUpdate}
    (htext : ∀ c ∈ t.values.keys, c.text? = some (columnName c)) (eq : Value → Value → Bool)
    (table : TableRef String) (identifierColumn : String) (r : Record) :
    (t.meaning table identifierColumn).assign eq r = t.overwritten r := by
  funext column
  have hfind : (t.values.find? fun e => columnName e.1 = column) =
      t.values.find? fun e => e.1.text? = some column := by
    refine List.find?_congr fun e he => ?_
    rw [htext e.1 (List.mem_map_of_mem he)]
    simp
  have hassignment :
      (t.meaning table identifierColumn).assignments.find? (fun a => a.column = column) =
        (t.values.find? fun e => e.1.text? = some column).map t.assignmentOf := by
    rw [← hfind, meaning, List.find?_map]
    rfl
  rw [Update.assign, overwritten, hassignment]
  cases t.values.find? fun e => e.1.text? = some column <;> rfl

/-- The update that is meant revises every record. -/
theorem execute_meaning {t : BulkUpdate}
    (hdistinct : t.values.keys.Pairwise fun a b => a.same b = false)
    (htext : ∀ c ∈ t.values.keys, c.text? = some (columnName c)) (eq : Value → Value → Bool)
    (table : TableRef String) (identifierColumn : String) (records : List Record) :
    (t.meaning table identifierColumn).execute eq records =
      some (records.map (t.revised eq identifierColumn)) := by
  have hnodup : ((t.meaning table identifierColumn).assignments.map (·.column)).Nodup := by
    have hnames := CaseUpdate.nodup_columnName hdistinct htext
    rw [Row.keys, List.map_map] at hnames
    rwa [meaning, List.map_map]
  rw [Update.execute, if_pos hnodup]
  refine congrArg some (List.map_congr_left fun r _ => ?_)
  rw [holds_meaning, assign_meaning htext, revised]

theorem overwritten_overwritten (t : BulkUpdate) (r : Record) :
    t.overwritten (t.overwritten r) = t.overwritten r := by
  funext column
  cases hfind : t.values.find? fun e => e.1.text? = some column <;>
    simp only [overwritten, hfind]

/-- A record that has its values is not changed any more, whether it is still admitted or not. -/
theorem revised_revised (t : BulkUpdate) (eq : Value → Value → Bool) (identifierColumn : String)
    (r : Record) :
    t.revised eq identifierColumn (t.revised eq identifierColumn r) =
      t.revised eq identifierColumn r := by
  by_cases hbears : t.identifiers.any (eq (r identifierColumn)) = true
  · have hfirst : t.revised eq identifierColumn r = t.overwritten r := if_pos hbears
    rw [hfirst, revised, overwritten_overwritten, ite_self]
  · have hkept : t.revised eq identifierColumn r = r := if_neg hbears
    rw [hkept, hkept]

end BulkUpdate

end PgWrite
