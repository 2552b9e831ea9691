import PgWrite.Proofs.Names
import PgWrite.Proofs.RowwiseUpdate
import PgWrite.Proofs.TemplateReading

/-!
# SET lists

The SET list of a statement is read from its lexemes: it begins behind the word SET, ends in front
of a condition or with the text, and commas separate its assignments. An upsert, a bulk update and
an update with branches take the columns of their lists from different places, but each of them
writes one assignment for every column, in order.
-/

namespace PgWrite

open Lexeme

/-- An assignment of a SET list, with its column. -/
inductive SetItem where
  /-- `column = ?`. -/
  | bound (column : String)
  /-- `column = EXCLUDED.column`. -/
  | excluded (column : String)
  /-- `column = CASE WHEN … END`, with the number of its branches. -/
  | choice (column : String) (branches : Nat)
  deriving DecidableEq, Repr

namespace SetItem

/-- The column that is assigned. -/
def column : SetItem → String
  | .bound column => column
  | .excluded column => column
  | .choice column _ => column

/-- Reads an assignment. -/
def read? : List Lexeme → Option SetItem
  | [.name column, .symbol '=', .mark] => some (.bound column)
  | [.name column, .symbol '=', .word "EXCLUDED", .symbol '.', .name source] =>
    if column = source then some (.excluded column) else none
  | .name column :: .symbol '=' :: .word "CASE" :: rest =>
    some (.choice column (rest.count (.word "WHEN")))
  | _ => none

end SetItem

/-- The SET list of lexemes; one without assignments is none. -/
def setList? (lexemes : List Lexeme) : Option (List SetItem) :=
  let list := (lexemes.dropWhile (· ≠ .word "SET")).drop 1
  ((list.takeWhile (· ≠ .word "WHERE")).splitOn (.symbol ',')).mapM SetItem.read?

/-- The SET list of the text of a query. -/
def Query.setList? (q : Query) : Option (List SetItem) := do
  let sql ← q.sql.text?
  let lexemes ← lexemes? sql.toList
  PgWrite.setList? lexemes

/-! ## Reading -/

/-- What stands in no part of a list and is no comma does not stand in the list. -/
theorem Lexeme.not_mem_listed {parts : List (List Lexeme)} {l : Lexeme} (hcomma : l ≠ .symbol ',')
    (h : ∀ p ∈ parts, l ∉ p) : l ∉ listed parts := by
  intro hl
  rcases mem_intercalate hl with he | ⟨p, hp, hmem⟩
  · exact hcomma he
  · exact h p hp hmem

/-- A list of assignments is read back between the word SET and a condition or the end. -/
theorem setList?_eq {α : Type} (part : α → List Lexeme) (item : α → SetItem) {as : List α}
    (hread : ∀ a, SetItem.read? (part a) = some (item a))
    (hcomma : ∀ a, .symbol ',' ∉ part a) (hwhere : ∀ a, .word "WHERE" ∉ part a) (hne : as ≠ [])
    {before : List Lexeme} (hbefore : .word "SET" ∉ before) (after : List Lexeme)
    (hafter : ∀ l ∈ after.head?, l = .word "WHERE") :
    setList? (before ++ (.word "SET" :: (listed (as.map part) ++ after))) = some (as.map item) := by
  have hset : (before ++ (.word "SET" :: (listed (as.map part) ++ after))).dropWhile
      (· ≠ .word "SET") = .word "SET" :: (listed (as.map part) ++ after) := by
    refine dropWhile_run (fun l hl => ?_) fun l hl => ?_
    · exact decide_eq_true fun he => hbefore (he ▸ hl)
    · cases hl
      rfl
  have hlist : (listed (as.map part) ++ after).takeWhile (· ≠ .word "WHERE") =
      listed (as.map part) := by
    refine takeWhile_run (fun l hl => ?_) fun l hl => ?_
    · refine decide_eq_true fun he => not_mem_listed (by decide) (fun p hp => ?_) (he ▸ hl)
      obtain ⟨a, -, rfl⟩ := List.mem_map.mp hp
      exact hwhere a
    · rw [hafter l hl]
      rfl
  have hsplit : (listed (as.map part)).splitOn (.symbol ',') = as.map part := by
    refine List.splitOn_intercalate _ (fun p hp => ?_) (by simpa using hne)
    obtain ⟨a, -, rfl⟩ := List.mem_map.mp hp
    exact hcomma a
  have hitems : (as.map part).mapM SetItem.read? = some (as.map item) := by
    simp only [List.mapM_map, Function.comp_def, hread]
    exact List.mapM_pure
  rw [setList?, hset, List.drop_one, List.tail_cons, hlist, hsplit, hitems]

/-- A choice has as many branches as the word WHEN stands in it. -/
theorem SetItem.read?_choice (discriminator : String) (b : String × Nat) :
    read? (Lexeme.choice discriminator b) = some (.choice b.1 b.2) := by
  have hbranch : (branch discriminator).count (.word "WHEN") = 1 := by simp [branch]
  have hend : [Lexeme.word "ELSE", .name b.1, .word "END"].count (.word "WHEN") = 0 := by simp
  have hcount : ((List.replicate b.2 (branch discriminator)).flatten
      ++ [Lexeme.word "ELSE", .name b.1, .word "END"]).count (.word "WHEN") = b.2 := by
    rw [List.count_append, List.count_flatten, List.map_replicate, List.sum_replicate, hbranch,
      hend]
    simp
  have hshape : Lexeme.choice discriminator b = .name b.1 :: .symbol '=' :: .word "CASE" ::
      ((List.replicate b.2 (branch discriminator)).flatten
        ++ [.word "ELSE", .name b.1, .word "END"]) := rfl
  rw [hshape, read?, hcount]

/-- No SET list begins in a table reference. -/
theorem TableRef.set_not_mem_lexemes (ref : TableRef String) : .word "SET" ∉ ref.lexemes := by
  obtain ⟨table, schema⟩ := ref
  cases schema <;> simp [lexemes]

/-- No SET list begins in a list of names. -/
theorem Lexeme.set_not_mem_names (texts : List String) : .word "SET" ∉ names texts := by
  refine not_mem_listed (by decide) fun p hp => ?_
  obtain ⟨s, -, rfl⟩ := List.mem_map.mp hp
  simp

/-- No SET list begins in a plain insert. -/
theorem set_not_mem_insertion (table : TableRef String) (columns : List String) (rows : Nat) :
    .word "SET" ∉ insertion table columns rows := by
  have hbracketed {inner : List Lexeme} (h : .word "SET" ∉ inner) :
      .word "SET" ∉ bracketed inner := by simp [bracketed, h]
  have hmarks (count : Nat) : .word "SET" ∉ marks count :=
    not_mem_listed (by decide) fun p hp => by simp [List.eq_of_mem_replicate hp]
  have hrows : .word "SET" ∉ listed (List.replicate rows (bracketed (marks columns.length))) :=
    not_mem_listed (by decide) fun p hp => by
      rw [List.eq_of_mem_replicate hp]
      exact hbracketed (hmarks _)
  simp [insertion, words, table.set_not_mem_lexemes, hbracketed (set_not_mem_names columns), hrows]

/-- No SET list begins in a conflict target. -/
theorem ConflictTarget.set_not_mem_lexemes (target : ConflictTarget String) :
    .word "SET" ∉ target.lexemes := by
  cases target with
  | columns names => simp [lexemes, words, bracketed, set_not_mem_names]
  | constraint name => simp [lexemes, words]

namespace Statement

/-- The columns that a statement assigns. -/
def setColumns {ν : Type} : Statement ν → List ν
  | .insert _ _ _ (.overwrite _ columns) => columns
  | .update _ columns _ _ => columns
  | .caseUpdate _ _ branches _ => branches.map Prod.fst
  | _ => []

/-- The SET list of a statement. -/
def setItems : Statement String → List SetItem
  | .insert _ _ _ (.overwrite _ columns) => columns.map .excluded
  | .update _ columns _ _ => columns.map .bound
  | .caseUpdate _ _ branches _ => branches.map fun b => .choice b.1 b.2
  | _ => []

/-- Every column has its assignment, in order. -/
theorem map_column_setItems (s : Statement String) :
    s.setItems.map SetItem.column = s.setColumns := by
  cases s with
  | insert table columns rows conflicts =>
    cases conflicts <;> simp [setItems, setColumns, Function.comp_def, SetItem.column]
  | delete | deleteLimited => rfl
  | update | caseUpdate => simp [setItems, setColumns, Function.comp_def, SetItem.column]

theorem setColumns_map {ν μ : Type} (f : ν → μ) (s : Statement ν) :
    (s.map f).setColumns = s.setColumns.map f := by
  cases s with
  | insert table columns rows conflicts => cases conflicts <;> rfl
  | delete | deleteLimited | update => rfl
  | caseUpdate => simp [map, setColumns, Function.comp_def]

/-- A statement that writes over rows has a SET list. -/
theorem setItems_ne_nil {s : Statement String} (h : s.Filled)
    (hkind : s.kind = .upsert ∨ s.kind = .bulkUpdate ∨ s.kind = .caseUpdate) : s.setItems ≠ [] := by
  cases s with
  | insert table columns rows conflicts =>
    cases conflicts with
    | fail | skip => simp [kind] at hkind
    | overwrite target assigned => simpa [setItems] using h.2
  | delete | deleteLimited => simp [kind] at hkind
  | update table columns column count =>
    have hcolumns : columns ≠ [] := h
    simpa [setItems] using hcolumns
  | caseUpdate => simpa [setItems] using h.1

/-- Every choice has a branch. -/
theorem choice_zero_not_mem {s : Statement String} (h : s.Filled) (column : String) :
    .choice column 0 ∉ s.setItems := by
  cases s with
  | insert table columns rows conflicts => cases conflicts <;> simp [setItems]
  | delete | deleteLimited | update => simp [setItems]
  | caseUpdate table discriminator branches count =>
    intro hmem
    obtain ⟨b, hb, hchoice⟩ := List.mem_map.mp hmem
    have hpositive := h.2 b hb
    rw [(SetItem.choice.inj hchoice).2] at hpositive
    exact Nat.lt_irrefl 0 hpositive

/-- The SET list of a statement is read from its template. -/
theorem setList?_template {s : Statement String} (h : s.setItems ≠ []) :
    setList? s.template = some s.setItems := by
  cases s with
  | insert table columns rows conflicts =>
    cases conflicts with
    | fail | skip => exact absurd rfl h
    | overwrite target assigned =>
      have hbefore : Lexeme.word "SET" ∉ insertion table columns rows ++ target.lexemes
          ++ words ["DO", "UPDATE"] := by
        simp [set_not_mem_insertion, target.set_not_mem_lexemes, words]
      have hread := setList?_eq overwritten .excluded
        (fun a => by simp [overwritten, SetItem.read?]) (fun a => by simp [overwritten])
        (fun a => by simp [overwritten]) (by simpa [setItems] using h) hbefore [] (by simp)
      simpa [template, ConflictRule.lexemes, words, setItems] using hread
  | delete | deleteLimited => exact absurd rfl h
  | update table columns column count =>
    have hbefore : Lexeme.word "SET" ∉ words ["UPDATE"] ++ table.lexemes := by
      simp [table.set_not_mem_lexemes, words]
    have hread := setList?_eq assigned .bound
      (fun a => by simp [assigned, SetItem.read?]) (fun a => by simp [assigned])
      (fun a => by simp [assigned]) (by simpa [setItems] using h) hbefore
      (words ["WHERE"] ++ among column count) (by simp [words])
    simpa [template, words, setItems] using hread
  | caseUpdate table discriminator branches count =>
    have hbefore : Lexeme.word "SET" ∉ words ["UPDATE"] ++ table.lexemes := by
      simp [table.set_not_mem_lexemes, words]
    have hread := setList?_eq (choice discriminator) (fun b => .choice b.1 b.2)
      (SetItem.read?_choice discriminator) (fun a => by simp [choice, branch])
      (fun a => by simp [choice, branch]) (by simpa [setItems] using h) hbefore
      (words ["WHERE"] ++ among discriminator count) (by simp [words])
    simpa [template, words, setItems] using hread

end Statement

/-! ## The SET list of a transaction -/

/-- Names are written once each just if no two values are the same. -/
theorem Spells.nodup_iff {values : List Value} {names : List String} (h : Spells values names) :
    names.Nodup ↔ values.Pairwise fun a b => a.same b = false := by
  have hnames : names.map some = values.map Value.text? := h.symm
  rw [← List.nodup_map_iff (Option.some_injective _), hnames, List.nodup_iff_pairwise_ne,
    List.pairwise_map]
  refine List.Pairwise.iff_of_mem fun {a b} ha hb => ?_
  obtain ⟨s, -, hs⟩ := h.exists_name ha
  obtain ⟨t, -, ht⟩ := h.exists_name hb
  rw [Value.same_eq_of_text hs ht, hs, ht, decide_eq_false_iff_not, ne_eq, Option.some_inj]

namespace Transaction

/-- The columns that a transaction writes into its SET list: the update columns of an upsert, the
keys of the values of a bulk update, and the update columns that some row carries. -/
def setColumns : Transaction → List Value
  | .upsert t => t.assigned
  | .bulkUpdate t => t.values.keys
  | .caseUpdate t => t.carried
  | _ => []

theorem setColumns_outline {t : Transaction} {o : Statement Value} (h : t.outline = some o) :
    o.setColumns = t.setColumns := by
  cases t with
  | upsert t =>
    obtain ⟨target, -, rfl⟩ := Option.map_eq_some_iff.mp h
    rfl
  | raw => cases h
  | insert | insertIgnore | delete | deleteLimited | bulkUpdate =>
    cases h
    rfl
  | caseUpdate t =>
    cases h
    rw [Statement.setColumns, ← t.branches_eq, t.branches_eq_map_carried, List.map_map]
    exact List.map_id _

/-- A transaction that compiles to an upsert or an update has a SET list with one assignment for
each of its columns, in order; every choice in it has a branch. -/
theorem exists_setList {t : Transaction} (hbuilt : t.Constructed)
    (hkind : t.kind = .upsert ∨ t.kind = .bulkUpdate ∨ t.kind = .caseUpdate) {q : Query}
    {event : LogEvent} (h : t.compile .standard = .ok (q, event)) :
    ∃ items, q.setList? = some items ∧ items ≠ [] ∧ (∀ c, .choice c 0 ∉ items) ∧
      Spells t.setColumns (items.map SetItem.column) := by
  have hraw : t.kind ≠ .raw := by rcases hkind with hk | hk | hk <;> rw [hk] <;> decide
  obtain ⟨s, hasks, hfilled, hsql, -⟩ := exists_statement hbuilt hraw h
  have hset : t.setColumns.map Value.text? = s.setColumns.map some := by
    obtain ⟨o, ho, hs⟩ := hasks
    rw [← setColumns_outline ho, ← Statement.setColumns_map, hs, Statement.setColumns_map]
  have hne : s.setItems ≠ [] := Statement.setItems_ne_nil hfilled (hasks.kind_eq ▸ hkind)
  refine ⟨s.setItems, ?_, hne, Statement.choice_zero_not_mem hfilled, ?_⟩
  · simp only [Query.setList?, hsql, Value.text?, Option.bind_eq_bind, Option.bind_some,
      Statement.lexemes?_render hfilled, Statement.setList?_template hne]
  · rw [s.map_column_setItems]
    exact hset

end Transaction

end PgWrite
