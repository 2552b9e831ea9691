import Mathlib
import PgWrite.Proofs.Success
import PgWrite.Transaction.Compile

/-!
# Blanking bound values

To blank a transaction is to put null in the place of every value it binds: of rows and assigned
values the keys remain, of identifiers and parameters their number. Every stage of compiling, from
the rows to the query and its report, yields for a blanked transaction what it yields for the
transaction itself, but for the parameters, which are blanked as well.
-/

namespace PgWrite

/-- As many nulls as there are values. -/
def blanks (values : List Value) : List Value :=
  values.map fun _ => .null

@[simp] theorem length_blanks (values : List Value) : (blanks values).length = values.length :=
  List.length_map _

@[simp] theorem isEmpty_blanks (values : List Value) : (blanks values).isEmpty = values.isEmpty :=
  List.isEmpty_map

@[simp] theorem map_const_blanks (v : Value) (values : List Value) :
    ((blanks values).map fun _ => v) = values.map fun _ => v := by
  simp [blanks]

@[simp] theorem blanks_append (values others : List Value) :
    blanks (values ++ others) = blanks values ++ blanks others :=
  List.map_append

namespace Row

/-- The keys of a row, without its values. -/
def blanked (row : Row) : Row :=
  row.map fun e => (e.1, .null)

@[simp] theorem keys_blanked (row : Row) : row.blanked.keys = row.keys := by
  simp [blanked, keys, Function.comp_def]

@[simp] theorem has_blanked (row : Row) (c : Value) : row.blanked.has c = row.has c := by
  simp [blanked, has, Function.comp_def]

@[simp] theorem isEmpty_blanked (row : Row) : List.isEmpty row.blanked = List.isEmpty row :=
  List.isEmpty_map

@[simp] theorem missing_blanked (row : Row) (columns : List Value) :
    row.blanked.missing columns = row.missing columns := by
  simp only [missing, has_blanked]

@[simp] theorem unexpected_blanked (row : Row) (columns : List Value) :
    row.blanked.unexpected columns = row.unexpected columns := by
  simp only [unexpected, keys_blanked]

/-- Every cell of a blanked row reads as null, whether the row has the column or not. -/
@[simp] theorem cell_blanked (row : Row) (c : Value) : (row.blanked.get? c).getD .null = .null := by
  simp only [get?, blanked, List.find?_map, Function.comp_def]
  cases row.find? fun e => e.1.same c <;> rfl

end Row

/-! ## Row sets -/

namespace RowSet

/-- The row set without its values. -/
def blanked (s : RowSet) : RowSet :=
  { s with params := blanks s.params }

theorem columnsOf_blanked (rows : List Row) :
    columnsOf (rows.map Row.blanked) = columnsOf rows := by
  cases rows with
  | nil => rfl
  | cons first rest => simp only [List.map_cons, columnsOf, Row.isEmpty_blanked, Row.keys_blanked]

theorem checkRows_blanked (columns : List Value) (index : Nat) (rows : List Row) :
    checkRows columns index (rows.map Row.blanked) = checkRows columns index rows := by
  induction rows generalizing index with
  | nil => rfl
  | cons row rest ih =>
    simp only [List.map_cons, checkRows, Row.missing_blanked, Row.unexpected_blanked, ih]

theorem flatten_blanked (columns : List Value) (rows : List Row) (hints : Row) :
    flatten columns (rows.map Row.blanked) hints = (flatten columns rows hints).blanked := by
  simp [flatten, blanked, blanks, cells, List.flatMap_map, List.map_flatMap, Function.comp_def]

theorem compile_blanked (rows : List Row) (hints : Row) :
    compile (rows.map Row.blanked) hints = blanked <$> compile rows hints := by
  simp only [compile, columnsOf_blanked, ← List.map_drop, checkRows_blanked, flatten_blanked,
    map_bind, map_pure]

end RowSet

/-! ## Plans -/

/-- The plan without its values. -/
def Plan.blanked (plan : Plan) : Plan :=
  { plan with params := blanks plan.params }

/-- The insert without its values. -/
def Insert.blanked (t : Insert) : Insert :=
  { t with rows := t.rows.map Row.blanked }

/-- The upsert without its values. -/
def Upsert.blanked (t : Upsert) : Upsert :=
  { t with rows := t.rows.map Row.blanked }

/-- The delete without its identifiers, except for their number. -/
def Delete.blanked (t : Delete) : Delete :=
  { t with identifiers := blanks t.identifiers }

/-- The capped delete without its identifiers, except for their number. -/
def DeleteLimited.blanked (t : DeleteLimited) : DeleteLimited :=
  { t with identifiers := blanks t.identifiers }

/-- The update without its values and identifiers, except for their number. -/
def BulkUpdate.blanked (t : BulkUpdate) : BulkUpdate :=
  { t with identifiers := blanks t.identifiers, values := t.values.blanked }

/-- The update without the values of its rows. -/
def CaseUpdate.blanked (t : CaseUpdate) : CaseUpdate :=
  { t with rows := t.rows.map Row.blanked }

/-- The raw text without its parameters, except for their number. -/
def RawSql.blanked (t : RawSql) : RawSql :=
  { t with params := blanks t.params }

theorem Insert.plan_blanked (t : Insert) (rule : ConflictRule Value) :
    t.blanked.plan rule = Plan.blanked <$> t.plan rule := by
  simp only [plan, blanked, RowSet.compile_blanked, map_bind, bind_map_left, map_pure]
  rfl

theorem Upsert.plan_blanked (t : Upsert) : t.blanked.plan = Plan.blanked <$> t.plan := by
  simp only [plan, blanked, RowSet.compile_blanked, map_bind, bind_map_left, map_pure]
  rfl

theorem Delete.plan_blanked (t : Delete) : t.blanked.plan = t.plan.blanked := by
  simp only [plan, blanked, Plan.blanked, length_blanks, map_const_blanks]

theorem DeleteLimited.plan_blanked (t : DeleteLimited) : t.blanked.plan = t.plan.blanked := by
  simp only [plan, blanked, Plan.blanked, length_blanks, map_const_blanks]

theorem BulkUpdate.plan_blanked (t : BulkUpdate) : t.blanked.plan = Plan.blanked <$> t.plan := by
  have hvalues : t.values.blanked.map (·.2) = blanks (t.values.map (·.2)) := by
    simp [Row.blanked, blanks, Function.comp_def]
  simp only [plan, blanked, Row.keys_blanked, length_blanks, map_const_blanks, hvalues, map_bind,
    map_pure, Plan.blanked, blanks_append]

namespace CaseUpdate

theorem carrying_blanked (t : CaseUpdate) (c : Value) :
    t.blanked.carrying c = (t.carrying c).map Row.blanked := by
  simp only [carrying, blanked, List.filter_map, Function.comp_def, Row.has_blanked]

theorem branches_blanked (t : CaseUpdate) : t.blanked.branches = t.branches := by
  simp only [branches, carrying_blanked, List.isEmpty_map, List.length_map]
  rfl

theorem unassigned_blanked (t : CaseUpdate) : t.blanked.unassigned = t.unassigned := by
  simp only [unassigned, carrying_blanked, List.isEmpty_map]
  rfl

theorem branchParams_blanked (t : CaseUpdate) : t.blanked.branchParams = blanks t.branchParams := by
  simp only [branchParams, carrying_blanked, identifier, blanks, List.flatMap_map, List.map_flatMap,
    Row.cell_blanked, List.map_cons, List.map_nil]
  rfl

theorem branchTypes_blanked (t : CaseUpdate) : t.blanked.branchTypes = t.branchTypes := by
  simp only [branchTypes, carrying_blanked, List.flatMap_map]
  rfl

theorem plan_blanked (t : CaseUpdate) : t.blanked.plan = Plan.blanked <$> t.plan := by
  have hidentifiers :
      t.blanked.rows.map t.blanked.identifier = blanks (t.rows.map t.identifier) := by
    simp [blanked, identifier, blanks]
  have hcount : t.blanked.rows.length = t.rows.length := List.length_map _
  simp only [plan, branches_blanked, unassigned_blanked, branchParams_blanked, branchTypes_blanked,
    hidentifiers, hcount, List.map_const', map_bind]
  refine bind_congr fun _ => bind_congr fun _ => ?_
  split
  · cases namesOf t.unassigned <;> rfl
  · simp only [map_pure, Plan.blanked, blanks_append]
    rfl

end CaseUpdate

/-! ## Queries -/

/-- The query without its parameters, except for their number. -/
def Query.blanked (query : Query) : Query :=
  { query with params := blanks query.params }

theorem Query.build_blanked (sql : Value) (params types : List Value) (policy : Value) :
    build sql (blanks params) types policy = blanked <$> build sql params types policy := by
  unfold build
  rw [length_blanks]
  split <;> rfl

theorem Plan.query_blanked (plan : Plan) (q : Quoter) (policy : Value) :
    plan.blanked.query q policy = Query.blanked <$> plan.query q policy := by
  simp only [query, blanked, Query.build_blanked, map_bind]

theorem RawSql.query_blanked (t : RawSql) : t.blanked.query = Query.blanked <$> t.query := by
  have hhints : t.blanked.hints = t.hints := by
    simp only [hints, blanked, map_const_blanks]
  rw [query, hhints]
  exact Query.build_blanked t.sql t.params t.hints t.options.policy

namespace Transaction

/-- The transaction without the values it binds, except for their number. -/
def blanked : Transaction → Transaction
  | .insert t => .insert t.blanked
  | .insertIgnore t => .insertIgnore t.blanked
  | .upsert t => .upsert t.blanked
  | .raw t => .raw t.blanked
  | .delete t => .delete t.blanked
  | .deleteLimited t => .deleteLimited t.blanked
  | .bulkUpdate t => .bulkUpdate t.blanked
  | .caseUpdate t => .caseUpdate t.blanked

theorem query_blanked (q : Quoter) (t : Transaction) :
    t.blanked.query q = Query.blanked <$> t.query q := by
  cases t with
  | insert t | insertIgnore t =>
    simp only [blanked, query, Insert.plan_blanked, bind_map_left, map_bind, Plan.query_blanked]
    rfl
  | upsert t =>
    simp only [blanked, query, Upsert.plan_blanked, bind_map_left, map_bind, Plan.query_blanked]
    rfl
  | raw t => exact t.query_blanked
  | delete t =>
    simp only [blanked, query, Delete.plan_blanked, Plan.query_blanked]
    rfl
  | deleteLimited t =>
    simp only [blanked, query, DeleteLimited.plan_blanked, Plan.query_blanked]
    rfl
  | bulkUpdate t =>
    simp only [blanked, query, BulkUpdate.plan_blanked, bind_map_left, map_bind, Plan.query_blanked]
    rfl
  | caseUpdate t =>
    simp only [blanked, query, CaseUpdate.plan_blanked, bind_map_left, map_bind, Plan.query_blanked]
    rfl

/-- A report counts the parameters and names none. -/
theorem compiledEvent_blanked (t : Transaction) (query : Query) :
    t.blanked.compiledEvent query.blanked = t.compiledEvent query := by
  simp only [compiledEvent, Query.blanked, length_blanks]
  cases t <;> rfl

/-- Blanking a transaction blanks its query and leaves its report as it is. -/
theorem compile_blanked (q : Quoter) (t : Transaction) :
    t.blanked.compile q = (fun r => (r.1.blanked, r.2)) <$> t.compile q := by
  simp only [compile, query_blanked, bind_map_left, compiledEvent_blanked, map_bind, map_pure]

end Transaction

end PgWrite
