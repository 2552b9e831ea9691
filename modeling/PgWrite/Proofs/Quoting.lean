import PgWrite.Proofs.Names
import PgWrite.Proofs.Outline

/-!
# Which rule of a quoter writes a name

A statement names its table, its schema, an identifier column, the columns of its branches and the
constraint of a conflict one by one, and a quoter writes each of them by its rule for a single name.
The columns of an insert, the columns of a conflict, the overwritten columns and the assigned
columns are lists, and a quoter writes them by its rule for lists, which is a rule of its own. All
names are written by the rule for single names just if the other rule agrees with it on these lists.
-/

namespace PgWrite

/-- The names of a table reference. -/
def TableRef.names {ν : Type} (ref : TableRef ν) : List ν :=
  ref.table :: ref.schema.toList

namespace Quoter

/-- What a quoter makes of a single name; no text if it fails. -/
def written (q : Quoter) (name : Value) : String :=
  (q.quote name).toOption.getD ""

/-- What a quoter makes of a list of names; no names if it fails. -/
def writtenAll (q : Quoter) (names : List Value) : List String :=
  (q.quoteAll names).toOption.getD []

theorem quote_eq_written {q : Quoter} {name : Value} {w : String} (h : q.quote name = .ok w) :
    q.quote name = .ok (q.written name) := by
  simp [written, h, Except.toOption]

theorem written_eq {q : Quoter} {name : Value} {w : String} (h : q.quote name = .ok w) :
    q.written name = w := by
  simp [written, h, Except.toOption]

theorem quoteAll_eq_written {q : Quoter} {names : List Value} {ws : List String}
    (h : q.quoteAll names = .ok ws) : q.quoteAll names = .ok (q.writtenAll names) := by
  simp [writtenAll, h, Except.toOption]

theorem writtenAll_eq {q : Quoter} {names : List Value} {ws : List String}
    (h : q.quoteAll names = .ok ws) : q.writtenAll names = ws := by
  simp [writtenAll, h, Except.toOption]

end Quoter

namespace Statement

/-- The names that a statement gives one by one. -/
def loneNames {ν : Type} : Statement ν → List ν
  | .insert table _ _ (.overwrite (.constraint name) _) => name :: table.names
  | .insert table _ _ _ => table.names
  | .delete table column _ => column :: table.names
  | .deleteLimited table column _ _ => column :: table.names
  | .update table _ column _ => column :: table.names
  | .caseUpdate table discriminator branches _ =>
    discriminator :: branches.map Prod.fst ++ table.names

/-- The lists of names that a statement gives. -/
def nameLists {ν : Type} : Statement ν → List (List ν)
  | .insert _ columns _ (.overwrite (.columns names) assigned) => [names, columns, assigned]
  | .insert _ columns _ (.overwrite (.constraint _) assigned) => [columns, assigned]
  | .insert _ columns _ _ => [columns]
  | .update _ columns _ _ => [columns]
  | .delete .. | .deleteLimited .. | .caseUpdate .. => []

/-- Applies one function to every lone name and another one to every list of names. -/
def mapWith {ν μ : Type} (one : ν → μ) (list : List ν → List μ) : Statement ν → Statement μ
  | .insert table columns rows conflicts =>
    .insert (table.map one) (list columns) rows <| match conflicts with
      | .fail => .fail
      | .skip => .skip
      | .overwrite (.columns names) assigned => .overwrite (.columns (list names)) (list assigned)
      | .overwrite (.constraint name) assigned =>
        .overwrite (.constraint (one name)) (list assigned)
  | .delete table column count => .delete (table.map one) (one column) count
  | .deleteLimited table column count limit =>
    .deleteLimited (table.map one) (one column) count limit
  | .update table columns column count => .update (table.map one) (list columns) (one column) count
  | .caseUpdate table discriminator branches count =>
    .caseUpdate (table.map one) (one discriminator) (branches.map fun b => (one b.1, b.2)) count

/-- The same function for all names is applied to the elements of the lists. -/
theorem map_eq_mapWith {ν μ : Type} (f : ν → μ) (s : Statement ν) :
    s.map f = s.mapWith f (List.map f) := by
  cases s with
  | insert table columns rows conflicts =>
    cases conflicts with
    | fail | skip => rfl
    | overwrite target assigned => cases target <;> rfl
  | delete | deleteLimited | update | caseUpdate => rfl

theorem map_mapWith {ν μ ξ : Type} (g : μ → ξ) (one : ν → μ) (list : List ν → List μ)
    (s : Statement ν) :
    (s.mapWith one list).map g = s.mapWith (g ∘ one) (List.map g ∘ list) := by
  have htable (ref : TableRef ν) : (ref.map one).map g = ref.map (g ∘ one) := by
    simp only [TableRef.map, Option.map_map, Function.comp_apply]
  cases s with
  | insert table columns rows conflicts =>
    cases conflicts with
    | fail | skip => simp only [mapWith, map, htable, Function.comp_apply]
    | overwrite target assigned =>
      cases target <;> simp only [mapWith, map, ConflictTarget.map, htable, Function.comp_apply]
  | delete | deleteLimited | update => simp only [mapWith, map, htable, Function.comp_apply]
  | caseUpdate table discriminator branches count =>
    simp only [mapWith, map, htable, List.map_map, Function.comp_apply]
    rfl

end Statement

/-- References agree just if their names do. -/
theorem TableRef.map_inj {ν μ : Type} {f g : ν → μ} {ref : TableRef ν} :
    ref.map f = ref.map g ↔ ∀ n ∈ ref.names, f n = g n := by
  obtain ⟨table, schema⟩ := ref
  cases schema <;> simp [map, names]

/-- Branches agree just if their columns do. -/
theorem branches_map_inj {ν μ : Type} {f g : ν → μ} {branches : List (ν × Nat)} :
    (branches.map fun b => (f b.1, b.2)) = (branches.map fun b => (g b.1, b.2)) ↔
      ∀ n ∈ branches.map Prod.fst, f n = g n := by
  simp only [List.map_inj_left, Prod.mk.injEq, and_true, List.mem_map, forall_exists_index,
    and_imp, forall_apply_eq_imp_iff₂]

/-- Two ways to change names agree on a statement just if they agree on each of its lone names and
on each of its lists. -/
theorem Statement.mapWith_inj {ν μ : Type} {one one' : ν → μ} {list list' : List ν → List μ}
    {s : Statement ν} :
    s.mapWith one list = s.mapWith one' list' ↔
      (∀ n ∈ s.loneNames, one n = one' n) ∧ ∀ names ∈ s.nameLists, list names = list' names := by
  cases s with
  | insert table columns rows conflicts =>
    cases conflicts with
    | fail | skip => simp [mapWith, loneNames, nameLists, TableRef.map_inj]
    | overwrite target assigned =>
      cases target <;> simp [mapWith, loneNames, nameLists, TableRef.map_inj] <;> tauto
  | delete | deleteLimited =>
    simp [mapWith, loneNames, nameLists, TableRef.map_inj, and_comm]
  | update table columns column count =>
    simp only [mapWith, loneNames, nameLists, Statement.update.injEq, TableRef.map_inj,
      List.forall_mem_cons, and_true]
    tauto
  | caseUpdate table discriminator branches count =>
    simp only [mapWith, loneNames, nameLists, Statement.caseUpdate.injEq, TableRef.map_inj,
      branches_map_inj, List.cons_append, List.forall_mem_cons, List.forall_mem_append, and_true]
    tauto

/-! ## What a quoter has written -/

section Quoted

variable {q : Quoter}

theorem TableRef.quoted_eq_ok {ref : TableRef Value} {w : TableRef String}
    (h : ref.quoted q = .ok w) :
    (∀ n ∈ ref.names, q.quote n = .ok (q.written n)) ∧ w = ref.map q.written := by
  obtain ⟨table, schema⟩ := ref
  simp only [quoted, bind_eq_ok] at h
  obtain ⟨wt, htable, h⟩ := h
  cases schema with
  | none =>
    obtain rfl := pure_eq_ok.mp h
    refine ⟨?_, by simp only [map, Quoter.written_eq htable, Option.map_none]⟩
    intro n hn
    obtain rfl : n = table := by simpa [names] using hn
    exact Quoter.quote_eq_written htable
  | some schema =>
    simp only [bind_eq_ok, pure_eq_ok] at h
    obtain ⟨ws, hschema, rfl⟩ := h
    refine ⟨?_, by simp only [map, Quoter.written_eq htable, Quoter.written_eq hschema,
      Option.map_some]⟩
    intro n hn
    obtain rfl | rfl : n = table ∨ n = schema := by simpa [names] using hn
    · exact Quoter.quote_eq_written htable
    · exact Quoter.quote_eq_written hschema

/-- Branches whose columns are written have each column written by the rule for single names. -/
theorem quotedBranches_eq_ok {branches : List (Value × Nat)} {w : List (String × Nat)}
    (h : (branches.mapM fun (column, n) => (q.quote column).map fun c => (c, n)) = .ok w) :
    (∀ n ∈ branches.map Prod.fst, q.quote n = .ok (q.written n)) ∧
      w = branches.map fun b => (q.written b.1, b.2) := by
  induction branches generalizing w with
  | nil =>
    obtain rfl := pure_eq_ok.mp h
    exact ⟨List.forall_mem_nil _, rfl⟩
  | cons b branches ih =>
    simp only [List.mapM_cons, bind_eq_ok, map_eq_ok, pure_eq_ok] at h
    obtain ⟨_, ⟨c, hc, rfl⟩, rest, hrest, rfl⟩ := h
    obtain ⟨hnames, rfl⟩ := ih hrest
    refine ⟨?_, by rw [List.map_cons, Quoter.written_eq hc]⟩
    rw [List.map_cons, List.forall_mem_cons]
    exact ⟨Quoter.quote_eq_written hc, hnames⟩

/-- A statement that is written has its lone names written by the rule for single names and its
lists by the rule for lists. -/
theorem Statement.quoted_eq_ok {s : Statement Value} {w : Statement String}
    (h : s.quoted q = .ok w) :
    (∀ n ∈ s.loneNames, q.quote n = .ok (q.written n)) ∧
      (∀ names ∈ s.nameLists, q.quoteAll names = .ok (q.writtenAll names)) ∧
      w = s.mapWith q.written q.writtenAll := by
  cases s with
  | insert table columns rows conflicts =>
    cases conflicts with
    | fail | skip =>
      simp only [quoted, bind_eq_ok, pure_eq_ok] at h
      obtain ⟨t, ht, cs, hcs, rfl⟩ := h
      obtain ⟨htable, rfl⟩ := TableRef.quoted_eq_ok ht
      refine ⟨htable, ?_, by rw [mapWith, Quoter.writtenAll_eq hcs]⟩
      simp only [nameLists, List.forall_mem_singleton]
      exact Quoter.quoteAll_eq_written hcs
    | overwrite target assigned =>
      simp only [quoted, bind_eq_ok, pure_eq_ok] at h
      obtain ⟨g, hg, t, ht, cs, hcs, as, has, rfl⟩ := h
      obtain ⟨htable, rfl⟩ := TableRef.quoted_eq_ok ht
      cases target with
      | columns names =>
        obtain ⟨ns, hns, rfl⟩ := map_eq_ok.mp hg
        refine ⟨htable, ?_, ?_⟩
        · simp only [nameLists, List.forall_mem_cons]
          exact ⟨Quoter.quoteAll_eq_written hns, Quoter.quoteAll_eq_written hcs,
            Quoter.quoteAll_eq_written has, List.forall_mem_nil _⟩
        · simp only [mapWith, Quoter.writtenAll_eq hns, Quoter.writtenAll_eq hcs,
            Quoter.writtenAll_eq has]
      | constraint name =>
        obtain ⟨c, hc, rfl⟩ := map_eq_ok.mp hg
        refine ⟨?_, ?_, ?_⟩
        · simp only [loneNames, List.forall_mem_cons]
          exact ⟨Quoter.quote_eq_written hc, htable⟩
        · simp only [nameLists, List.forall_mem_cons]
          exact ⟨Quoter.quoteAll_eq_written hcs, Quoter.quoteAll_eq_written has,
            List.forall_mem_nil _⟩
        · simp only [mapWith, Quoter.written_eq hc, Quoter.writtenAll_eq hcs,
            Quoter.writtenAll_eq has]
  | delete table column count =>
    simp only [quoted, bind_eq_ok, pure_eq_ok] at h
    obtain ⟨t, ht, c, hc, rfl⟩ := h
    obtain ⟨htable, rfl⟩ := TableRef.quoted_eq_ok ht
    refine ⟨?_, List.forall_mem_nil _, by rw [mapWith, Quoter.written_eq hc]⟩
    rw [loneNames, List.forall_mem_cons]
    exact ⟨Quoter.quote_eq_written hc, htable⟩
  | deleteLimited table column count limit =>
    simp only [quoted, bind_eq_ok, pure_eq_ok] at h
    obtain ⟨t, ht, c, hc, rfl⟩ := h
    obtain ⟨htable, rfl⟩ := TableRef.quoted_eq_ok ht
    refine ⟨?_, List.forall_mem_nil _, by rw [mapWith, Quoter.written_eq hc]⟩
    rw [loneNames, List.forall_mem_cons]
    exact ⟨Quoter.quote_eq_written hc, htable⟩
  | update table columns column count =>
    simp only [quoted, bind_eq_ok, pure_eq_ok] at h
    obtain ⟨t, ht, cs, hcs, c, hc, rfl⟩ := h
    obtain ⟨htable, rfl⟩ := TableRef.quoted_eq_ok ht
    refine ⟨?_, ?_, by rw [mapWith, Quoter.written_eq hc, Quoter.writtenAll_eq hcs]⟩
    · rw [loneNames, List.forall_mem_cons]
      exact ⟨Quoter.quote_eq_written hc, htable⟩
    · rw [nameLists, List.forall_mem_singleton]
      exact Quoter.quoteAll_eq_written hcs
  | caseUpdate table discriminator branches count =>
    simp only [quoted, bind_eq_ok, pure_eq_ok] at h
    obtain ⟨t, ht, d, hd, bs, hbs, rfl⟩ := h
    obtain ⟨htable, rfl⟩ := TableRef.quoted_eq_ok ht
    obtain ⟨hcolumns, rfl⟩ := quotedBranches_eq_ok hbs
    refine ⟨?_, List.forall_mem_nil _, by rw [mapWith, Quoter.written_eq hd]⟩
    simp only [loneNames, List.cons_append, List.forall_mem_cons, List.forall_mem_append]
    exact ⟨Quoter.quote_eq_written hd, hcolumns, htable⟩

/-- A statement is named by texts just if all its lone names and all names in its lists are. -/
theorem Statement.named_iff {s : Statement Value} :
    s.Named ↔ (∀ n ∈ s.loneNames, n.IsName) ∧ ∀ names ∈ s.nameLists, ∀ n ∈ names, n.IsName := by
  have htable (ref : TableRef Value) : ref.Named ↔ ∀ n ∈ ref.names, n.IsName := by
    simp [TableRef.Named, TableRef.names]
  cases s with
  | insert table columns rows conflicts =>
    cases conflicts with
    | fail | skip => simp [Named, ConflictRule.Named, loneNames, nameLists, htable]
    | overwrite target assigned =>
      cases target <;>
        simp [Named, ConflictRule.Named, ConflictTarget.Named, loneNames, nameLists, htable] <;>
        tauto
  | delete | deleteLimited => simp [Named, loneNames, nameLists, htable, and_comm]
  | update =>
    simp [Named, loneNames, nameLists, htable]
    tauto
  | caseUpdate =>
    simp only [Named, loneNames, nameLists, htable, List.cons_append, List.forall_mem_cons,
      List.forall_mem_append, List.forall_mem_map, List.not_mem_nil, false_implies, implies_true,
      and_true]
    tauto

/-- A statement that is written is named by texts. -/
theorem Statement.named_of_quoted {s : Statement Value} {w : Statement String}
    (h : s.quoted .standard = .ok w) : s.Named := by
  obtain ⟨hlone, hlists, -⟩ := Statement.quoted_eq_ok h
  refine named_iff.mpr ⟨fun n hn => ?_, fun names hnames n hn => ?_⟩
  · obtain ⟨text, htext, _⟩ := quoteValue_eq_ok.mp (hlone n hn)
    exact Option.isSome_iff_exists.mpr ⟨text, htext⟩
  · obtain ⟨texts, htexts, _⟩ := quoteAll_eq_ok (hlists names hnames)
    have hmem : n.text? ∈ texts.map some := by
      rw [← htexts]
      exact List.mem_map_of_mem hn
    obtain ⟨text, _, htext⟩ := List.mem_map.mp hmem
    exact Option.isSome_iff_exists.mpr ⟨text, htext.symm⟩

/-- The rule for lists has written what the rule for single names writes, just if both agree on the
list. -/
theorem Quoter.map_quote_eq_iff {names : List Value}
    (h : q.quoteAll names = .ok (q.writtenAll names)) :
    names.map q.quote = (q.writtenAll names).map .ok ↔ q.quoteAll names = names.mapM q.quote := by
  rw [← mapM_eq_ok_iff, h, eq_comm]

/-- The list rule that every quoter has by default agrees with the rule for single names on the
lists whose names are written in the standard way by both. -/
theorem Quoter.standard_eq_mapM_iff {names : List Value} {ws : List String}
    (h : names.mapM quoteValue = .ok ws) :
    names.mapM quoteValue = names.mapM q.quote ↔ ∀ n ∈ names, q.quote n = quoteValue n := by
  rw [h, eq_comm, mapM_eq_ok_iff, ← mapM_eq_ok_iff.mp h, List.map_inj_left]

/-- Every name of a written statement is written by the rule for single names, just if the rule for
lists agrees with it on every list of names. -/
theorem Statement.map_quote_eq_iff {s : Statement Value} {w : Statement String}
    (h : s.quoted q = .ok w) :
    s.map q.quote = w.map .ok ↔ ∀ names ∈ s.nameLists, q.quoteAll names = names.mapM q.quote := by
  obtain ⟨hlone, hlists, rfl⟩ := quoted_eq_ok h
  rw [map_eq_mapWith, map_mapWith, mapWith_inj]
  constructor
  · rintro ⟨-, hagree⟩ names hnames
    exact (Quoter.map_quote_eq_iff (hlists names hnames)).mp (hagree names hnames)
  · intro hagree
    refine ⟨hlone, fun names hnames => ?_⟩
    exact (Quoter.map_quote_eq_iff (hlists names hnames)).mpr (hagree names hnames)

end Quoted

/-- A quoter writes the table, the schema, the identifier column, the columns of branches and the
conflict constraint of every transaction by its rule for single names, and the column lists by its
rule for lists. So it controls every name by its rule for single names just if its rule for lists
agrees with that rule on the column lists; if the rule for lists is the one that every quoter has by
default, just if the columns in them are written in the standard way anyway. -/
theorem Transaction.names_follow_quoter {t : Transaction} (hbuilt : t.Constructed)
    (hkind : t.kind ≠ .raw) {q : Quoter} {query : Query} {event : LogEvent}
    (h : t.compile q = .ok (query, event)) :
    ∃ (s : Statement Value) (w : Statement String),
      t.outline = some s ∧ query.sql = .text (w.textOver s.width) ∧
      w = s.mapWith q.written q.writtenAll ∧
      (∀ n ∈ s.loneNames, q.quote n = .ok (q.written n)) ∧
      (∀ names ∈ s.nameLists, q.quoteAll names = .ok (q.writtenAll names)) ∧
      (s.map q.quote = w.map .ok ↔
        ∀ names ∈ s.nameLists, q.quoteAll names = names.mapM q.quote) ∧
      (q.quoteAll = Quoter.standard.quoteAll →
        (s.map q.quote = w.map .ok ↔
          ∀ names ∈ s.nameLists, ∀ n ∈ names, q.quote n = quoteValue n)) := by
  obtain ⟨plan, houtline, -, -, -, hquery⟩ := exists_plan hbuilt hkind h
  obtain ⟨w, hw, -, rfl⟩ := Plan.query_eq_ok_iff.mp hquery
  obtain ⟨hlone, hlists, hwritten⟩ := Statement.quoted_eq_ok hw
  refine ⟨plan.statement, w, houtline, rfl, hwritten, hlone, hlists,
    Statement.map_quote_eq_iff hw, ?_⟩
  intro hinherited
  rw [Statement.map_quote_eq_iff hw]
  have hagree (names : List Value) (hnames : names ∈ plan.statement.nameLists) :
      q.quoteAll names = names.mapM q.quote ↔ ∀ n ∈ names, q.quote n = quoteValue n := by
    have hok := hlists names hnames
    rw [hinherited] at hok ⊢
    exact Quoter.standard_eq_mapM_iff hok
  exact forall₂_congr hagree

/-- An insert of one row with one column. -/
def plainInsert : Transaction :=
  .insert {
    table := .text "t"
    rows := [[(.text "id", .int 1)]]
    hints := []
    schema := .null
    options := { idempotent := .bool false, policy := .policy .none } }

/-- Brackets for single names reach the table of an insert, but none of its columns. -/
theorem bracketedInsert_names :
    ∃ (query : Query) (event : LogEvent) (s : Statement Value) (w : Statement String),
      plainInsert.compile .bracket = .ok (query, event) ∧ plainInsert.outline = some s ∧
      query.sql = .text (w.textOver s.width) ∧
      query.sql = .text "INSERT INTO [t] (\"id\") VALUES (?)" ∧
      s.map Quoter.bracket.quote ≠ w.map .ok := by
  let arg : String → Value := fun name =>
    ([("table_name", .text "t"), ("rows", .ofList [.map 0 [(.text "id", .int 1)]]),
      ("idempotent", .bool false),
      ("statement_reuse_policy", .policy .none)].lookup name).getD .null
  have hbuilt : plainInsert.Constructed := ⟨.insert, "column_types", arg, [], rfl⟩
  obtain ⟨query, event, h, hsql⟩ : ∃ query event,
      plainInsert.compile .bracket = .ok (query, event) ∧
        query.sql = .text "INSERT INTO [t] (\"id\") VALUES (?)" := ⟨_, _, rfl, rfl⟩
  obtain ⟨s, w, hs, htext, -, -, -, -, hinherited⟩ :=
    Transaction.names_follow_quoter hbuilt (by decide) h
  refine ⟨query, event, s, w, h, hs, htext, hsql, ?_⟩
  rw [ne_eq, hinherited rfl]
  intro hstandard
  obtain rfl : Statement.insert ⟨.text "t", none⟩ [.text "id"] 1 .fail = s := Option.some.inj hs
  have hid := hstandard _ (List.mem_singleton_self _) (.text "id") (List.mem_singleton_self _)
  have hdiffer : "[id]" ≠ "\"id\"" := by decide
  exact hdiffer (Except.ok.inj hid)

end PgWrite
