import PgWrite.Proofs.BindNames
import PgWrite.Proofs.Success

/-!
# Text clauses of compiled statements

The clause of a compiled transaction gives every parameter its bind, with its value and the type of
its hint; only a hint that is no instance of a type can refuse it. The binds are exactly the
parameters if and only if no name of the statement looks as if it held a bind itself: such a name is
not protected by its quotes.
-/

namespace PgWrite

/-- First places lose no name. -/
theorem mem_firstOccurrences {name : String} {names : List String} :
    name ∈ firstOccurrences names ↔ name ∈ names := by
  induction names with
  | nil => rfl
  | cons first rest ih =>
    rw [firstOccurrences, List.mem_cons, List.mem_filter, ih, List.mem_cons, decide_eq_true_eq]
    by_cases h : name = first <;> simp [h]

/-- Names that stand in one place each are kept. -/
theorem firstOccurrences_of_nodup {names : List String} (h : names.Nodup) :
    firstOccurrences names = names := by
  induction names with
  | nil => rfl
  | cons first rest ih =>
    obtain ⟨hfirst, hrest⟩ := List.nodup_cons.mp h
    rw [firstOccurrences, ih hrest]
    congr 1
    refine List.filter_eq_self.mpr fun name hname => ?_
    rw [decide_eq_true_eq]
    rintro rfl
    exact hfirst hname

namespace Lexeme

/-- The marks and the binds of names are all the binds. -/
theorem length_bindNames (stem : String) (index : Nat) (lexemes : List Lexeme) :
    (bindNames stem index lexemes).length =
      lexemes.count .mark + (lexemes.flatMap nameBinds).length := by
  induction lexemes generalizing index with
  | nil => rfl
  | cons l rest ih =>
    by_cases hl : l = .mark
    · subst hl
      have hnone : nameBinds .mark = [] := rfl
      rw [bindNames, List.length_cons, ih, List.count_cons_self, List.flatMap_cons, hnone,
        List.nil_append]
      omega
    · rw [bindNames_cons stem index hl, List.length_append, ih, List.count_cons_of_ne hl,
        List.flatMap_cons, List.length_append]
      omega

/-- Without binds in names the marks are the binds. -/
theorem bindNames_eq_of_clean (stem : String) (index : Nat) {lexemes : List Lexeme}
    (h : lexemes.flatMap nameBinds = []) :
    bindNames stem index lexemes =
      (List.range' index (lexemes.count .mark)).map (bindName stem) := by
  induction lexemes generalizing index with
  | nil => rfl
  | cons l rest ih =>
    rw [List.flatMap_cons, List.append_eq_nil_iff] at h
    by_cases hl : l = .mark
    · subst hl
      rw [bindNames, ih (index + 1) h.2, List.count_cons_self, List.range'_succ, List.map_cons]
    · rw [bindNames_cons stem index hl, h.1, List.nil_append, ih index h.2,
        List.count_cons_of_ne hl]

/-- The binds are the marks exactly if no name holds a bind. -/
theorem bindNames_eq_iff (stem : String) (index : Nat) (lexemes : List Lexeme) :
    bindNames stem index lexemes =
        (List.range' index (lexemes.count .mark)).map (bindName stem) ↔
      ∀ name, .name name ∈ lexemes → PgWrite.bindNames name = [] := by
  constructor
  · intro h name hname
    have hlength := congrArg List.length h
    rw [length_bindNames, List.length_map, List.length_range'] at hlength
    have hnone : lexemes.flatMap nameBinds = [] := List.eq_nil_of_length_eq_zero (by omega)
    exact List.flatMap_eq_nil_iff.mp hnone _ hname
  · intro h
    refine bindNames_eq_of_clean stem index (List.flatMap_eq_nil_iff.mpr fun l hl => ?_)
    cases l with
    | name s => exact h s hl
    | word | symbol | integer | mark => rfl

/-- A bind is that of a mark or of a name. -/
theorem mem_bindNames {stem : String} {index : Nat} {lexemes : List Lexeme} {bind : String} :
    bind ∈ bindNames stem index lexemes ↔
      bind ∈ (List.range' index (lexemes.count .mark)).map (bindName stem) ∨
        bind ∈ lexemes.flatMap nameBinds := by
  induction lexemes generalizing index with
  | nil => simp [bindNames]
  | cons l rest ih =>
    by_cases hl : l = .mark
    · subst hl
      have hnone : nameBinds .mark = [] := rfl
      rw [bindNames, List.mem_cons, ih, List.count_cons_self, List.range'_succ, List.map_cons,
        List.mem_cons, List.flatMap_cons, hnone, List.nil_append, or_assoc]
    · rw [bindNames_cons stem index hl, List.mem_append, ih, List.count_cons_of_ne hl,
        List.flatMap_cons, List.mem_append, or_left_comm]

/-- The binds of names, name by name. -/
theorem mem_flatMap_nameBinds {lexemes : List Lexeme} {bind : String} :
    bind ∈ lexemes.flatMap nameBinds ↔
      ∃ name, .name name ∈ lexemes ∧ bind ∈ PgWrite.bindNames name := by
  rw [List.mem_flatMap]
  constructor
  · rintro ⟨l, hl, hbind⟩
    cases l with
    | name s => exact ⟨s, hl, hbind⟩
    | word | symbol | integer | mark => cases hbind
  · rintro ⟨name, hname, hbind⟩
    exact ⟨.name name, hname, hbind⟩

end Lexeme

/-! ## Binds by name -/

/-- The names of values are those of their indices. -/
theorem map_fst_indexedFrom (stem : String) (first : Nat) (values : List Value) :
    (indexedFrom stem first values).map (·.1) =
      (List.range' first values.length).map (bindName stem) := by
  induction values generalizing first with
  | nil => rfl
  | cons v values ih =>
    rw [indexedFrom, List.map_cons, ih, List.length_cons, List.range'_succ, List.map_cons]

/-- The values are kept. -/
theorem map_snd_indexedFrom (stem : String) (first : Nat) (values : List Value) :
    (indexedFrom stem first values).map (·.2) = values := by
  induction values generalizing first with
  | nil => rfl
  | cons v values ih => rw [indexedFrom, List.map_cons, ih]

/-- The names of indices differ. -/
theorem nodup_map_bindName (stem : String) (count : Nat) :
    ((List.range count).map (bindName stem)).Nodup := by
  rw [List.nodup_iff_pairwise_ne, List.pairwise_map]
  exact List.nodup_range.imp fun hne he => hne (bindName_injective he)

/-- The bind of a name that stands once among the given values is given. -/
theorem bindOf_of_mem {given : List ((String × Value) × String)}
    (hnodup : (given.map fun g => g.1.1).Nodup) {g : (String × Value) × String} (hg : g ∈ given) :
    bindOf given g.1.1 = { name := g.1.1, value := g.1.2, type := g.2, required := false } := by
  have hfind : given.find? (fun e => e.1.1 = g.1.1) = some g := by
    induction given with
    | nil => cases hg
    | cons first rest ih =>
      obtain ⟨hfirst, hrest⟩ := List.nodup_cons.mp hnodup
      rcases List.mem_cons.mp hg with rfl | hmem
      · exact List.find?_cons_of_pos (by simp)
      · have hne : first.1.1 ≠ g.1.1 := by
          intro he
          apply hfirst
          exact List.mem_map.mpr ⟨g, hmem, he.symm⟩
        rw [List.find?_cons_of_neg (by simpa using hne), ih hrest hmem]
  rw [bindOf, hfind]

/-- A bind bears the name that it is sought for. -/
theorem name_bindOf (given : List ((String × Value) × String)) (name : String) :
    (bindOf given name).name = name := by
  unfold bindOf
  split <;> rfl

/-- A bind that is required has no value among the given ones. -/
theorem not_mem_of_required {given : List ((String × Value) × String)} {name : String}
    (h : (bindOf given name).required = true) : name ∉ given.map fun g => g.1.1 := by
  intro hmem
  obtain ⟨g, hg, rfl⟩ := List.mem_map.mp hmem
  have hsome : (given.find? fun e => e.1.1 = g.1.1).isSome = true :=
    List.find?_isSome.mpr ⟨g, hg, by simp⟩
  obtain ⟨found, hfound⟩ := Option.isSome_iff_exists.mp hsome
  rw [bindOf, hfound] at h
  cases h

/-- The names of typed values are those of the indices. -/
theorem map_name_given (stem : String) (values : List Value) (types : List String)
    (h : types.length = values.length) :
    (((indexedParams stem values).zip types).map fun g => g.1.1) =
      (List.range values.length).map (bindName stem) := by
  have hlength : (indexedParams stem values).length = types.length := by
    rw [indexedParams, length_indexedFrom, h]
  have hnames : (((indexedParams stem values).zip types).map Prod.fst).map (·.1) =
      (List.range values.length).map (bindName stem) := by
    rw [List.map_fst_zip (Nat.le_of_eq hlength), indexedParams, map_fst_indexedFrom,
      List.range_eq_range']
  rwa [List.map_map] at hnames

/-- The types of named values are those of the values. -/
theorem mapM_indexedFrom (stem : String) (first : Nat) (values hints : List Value) :
    (((indexedFrom stem first values).zip hints).mapM fun p => bindType p.1.2 p.2) =
      (values.zip hints).mapM fun p => bindType p.1 p.2 := by
  have hzip : ((indexedFrom stem first values).map (·.2)).zip hints = _ := List.zip_map_left
  rw [map_snd_indexedFrom] at hzip
  rw [hzip, List.mapM_map]
  rfl

namespace Query

/-- The binds that are given for a query, each with its value and its type. -/
def givenBinds (q : Query) (types : List String) : List Bind :=
  ((indexedParams "p" q.params).zip types).map fun g =>
    { name := g.1.1, value := g.1.2, type := g.2, required := false }

/-- The names of the indices have the given binds. -/
theorem map_bindOf_names (q : Query) {types : List String} (h : types.length = q.params.length) :
    ((List.range q.params.length).map (bindName "p")).map
      (bindOf ((indexedParams "p" q.params).zip types)) = q.givenBinds types := by
  have hnames := map_name_given "p" q.params types h
  have hnodup : (((indexedParams "p" q.params).zip types).map fun g => g.1.1).Nodup := by
    rw [hnames]
    exact nodup_map_bindName "p" q.params.length
  rw [← hnames, List.map_map, givenBinds]
  exact List.map_congr_left fun g hg => bindOf_of_mem hnodup hg

/-- A clause whose parameters are all found in the text fails only on a type. -/
theorem textClause_eq_ok {q : Query} {sql : String}
    (hnamed : q.named "p" = .ok { sql, values := indexedParams "p" q.params })
    (hplaced : ∀ name ∈ (List.range q.params.length).map (bindName "p"), name ∈ bindNames sql)
    {clause : TextClause} :
    q.textClause = .ok clause ↔
      ∃ types, (q.params.zip q.types).mapM (fun p => bindType p.1 p.2) = .ok types ∧
        { text := sql
          binds := (firstOccurrences (bindNames sql)).map
            (bindOf ((indexedParams "p" q.params).zip types)) } = clause := by
  have hfound : ((indexedFrom "p" 0 q.params).find? fun entry =>
      !(firstOccurrences (bindNames sql)).contains entry.1) = none := by
    rw [List.find?_eq_none]
    intro entry hentry
    have hname : entry.1 ∈ (List.range q.params.length).map (bindName "p") := by
      rw [List.range_eq_range', ← map_fst_indexedFrom]
      exact List.mem_map_of_mem hentry
    have hmem := mem_firstOccurrences.mpr (hplaced _ hname)
    simp [hmem]
  simp only [textClause, hnamed, bind_eq_ok, Except.ok.injEq, exists_eq_left', indexedParams,
    mapM_indexedFrom, hfound, pure_eq_ok]

end Query

/-- The binds of a statement in the named style. -/
theorem Statement.bindNames_restyled (s : Statement String) :
    bindNames (String.ofList (s.restyled (namedMark "p") fun c => [c])) =
      Lexeme.bindNames "p" 0 s.template := by
  rw [bindNames, String.toList_ofList, restyled]
  exact Lexeme.bindNamesFrom_restyled
    (fun l hl => List.all_eq_true.mp s.all_regular_template l hl) true 0 rfl

/-- The clause of a compiled transaction fails only on a type hint that is no instance of a type. It
gives every value its bind, and a bind that has no value comes from a name. The binds in the text
are exactly the parameters if and only if no name of the statement holds a bind, and then the clause
consists of the given binds. -/
theorem Transaction.compiled_binds {t : Transaction} (hbuilt : t.Constructed)
    (hkind : t.kind ≠ .raw) {q : Query} {event : LogEvent}
    (h : t.compile .standard = .ok (q, event)) :
    ∃ s : Statement String, t.AsksFor s ∧
      ((∃ clause, q.textClause = .ok clause) ↔
        ∃ types, (q.params.zip q.types).mapM (fun p => bindType p.1 p.2) = .ok types) ∧
      ∀ clause, q.textClause = .ok clause →
        clause.text.toList = s.restyled (namedMark "p") (fun c => [c]) ∧
        (bindNames clause.text = (List.range q.params.length).map (bindName "p") ↔
          ∀ name, .name name ∈ s.template → bindNames name = []) ∧
        (∀ b ∈ clause.binds, b.required = true →
          ∃ name, .name name ∈ s.template ∧ b.name ∈ bindNames name) ∧
        ∃ types, (q.params.zip q.types).mapM (fun p => bindType p.1 p.2) = .ok types ∧
          types.length = q.params.length ∧ (∀ b ∈ q.givenBinds types, b ∈ clause.binds) ∧
          ((∀ name, .name name ∈ s.template → bindNames name = []) →
            clause.binds = q.givenBinds types) := by
  obtain ⟨s, hs, hfilled, hsql, hparams, htypes⟩ := exists_statement hbuilt hkind h
  have hcount : s.template.count .mark = q.params.length := by
    rw [Statement.count_mark_template, hparams]
  have hnames := s.bindNames_restyled
  have hnamed : q.named "p" = .ok
      { sql := String.ofList (s.restyled (namedMark "p") fun c => [c])
        values := indexedParams "p" q.params } := by
    rw [Query.named, hsql]
    exact Statement.namedStyle_render hfilled hparams "p"
  have hplaced : ∀ name ∈ (List.range q.params.length).map (bindName "p"),
      name ∈ bindNames (String.ofList (s.restyled (namedMark "p") fun c => [c])) := by
    intro name hname
    rw [hnames, Lexeme.mem_bindNames, hcount, ← List.range_eq_range']
    exact Or.inl hname
  have hexact : bindNames (String.ofList (s.restyled (namedMark "p") fun c => [c])) =
      (List.range q.params.length).map (bindName "p") ↔
        ∀ name, .name name ∈ s.template → bindNames name = [] := by
    rw [hnames, ← hcount, List.range_eq_range']
    exact Lexeme.bindNames_eq_iff "p" 0 s.template
  refine ⟨s, hs, ?_, ?_⟩
  · constructor
    · rintro ⟨clause, hok⟩
      obtain ⟨types, hmapM, _⟩ := (Query.textClause_eq_ok hnamed hplaced).mp hok
      exact ⟨types, hmapM⟩
    · rintro ⟨types, hmapM⟩
      exact ⟨_, (Query.textClause_eq_ok hnamed hplaced).mpr ⟨types, hmapM, rfl⟩⟩
  · intro clause hok
    obtain ⟨types, hmapM, rfl⟩ := (Query.textClause_eq_ok hnamed hplaced).mp hok
    have hlength : types.length = q.params.length := by
      rw [length_of_mapM_eq_ok hmapM, List.length_zip, hparams, htypes, Nat.min_self]
    have hbinds := q.map_bindOf_names hlength
    refine ⟨String.toList_ofList, hexact, ?_, types, hmapM, hlength, ?_, ?_⟩
    · intro b hb hrequired
      obtain ⟨name, hname, rfl⟩ := List.mem_map.mp hb
      have hnot := not_mem_of_required hrequired
      rw [map_name_given "p" q.params types hlength, List.range_eq_range', ← hcount] at hnot
      rw [mem_firstOccurrences, hnames, Lexeme.mem_bindNames] at hname
      rw [name_bindOf]
      exact Lexeme.mem_flatMap_nameBinds.mp (hname.resolve_left hnot)
    · intro b hb
      rw [← hbinds] at hb
      obtain ⟨name, hname, rfl⟩ := List.mem_map.mp hb
      exact List.mem_map_of_mem (mem_firstOccurrences.mpr (hplaced name hname))
    · intro hclean
      have hnodup := nodup_map_bindName "p" q.params.length
      rw [hexact.mpr hclean, firstOccurrences_of_nodup hnodup, hbinds]

/-- An insert into a column whose name looks as if it held a bind. -/
def colonInsert : Transaction :=
  .insert {
    table := .text "t"
    rows := [[(.text "a :b", .int 1)]]
    hints := []
    schema := .null
    options := { idempotent := .bool false, policy := .policy .none } }

theorem colonInsert_binds :
    ∃ q event clause, colonInsert.compile .standard = .ok (q, event) ∧ q.params.length = 1 ∧
      q.textClause = .ok clause ∧ bindNames clause.text ≠ [bindName "p" 0] := by
  let arg : String → Value := fun name =>
    ([("table_name", .text "t"), ("rows", .ofList [.map 0 [(.text "a :b", .int 1)]]),
      ("idempotent", .bool false),
      ("statement_reuse_policy", .policy .none)].lookup name).getD .null
  have hbuilt : colonInsert.Constructed := ⟨.insert, "column_types", arg, [], rfl⟩
  obtain ⟨q, event, h, hlength, htypes⟩ : ∃ q event,
      colonInsert.compile .standard = .ok (q, event) ∧ q.params.length = 1 ∧
        ∃ types, (q.params.zip q.types).mapM (fun p => bindType p.1 p.2) = .ok types :=
    ⟨_, _, rfl, rfl, _, rfl⟩
  obtain ⟨s, hs, hfails, hbinds⟩ := Transaction.compiled_binds hbuilt (by decide) h
  obtain ⟨clause, hclause⟩ := hfails.mpr htypes
  refine ⟨q, event, clause, h, hlength, hclause, fun hexact => ?_⟩
  have hname : .name "a :b" ∈ s.template := by
    have hasked : colonInsert.AsksFor (.insert { table := "t", schema := none } ["a :b"] 1 .fail) :=
      ⟨_, rfl, rfl⟩
    rw [hs.unique hasked]
    decide
  have hclean := (hbinds clause hclause).2.1.mp (by rw [hexact, hlength]; rfl) _ hname
  have hheld : bindNames "a :b" = ["b"] := by cbv
  rw [hheld] at hclean
  cases hclean

end PgWrite
