import PgWrite.Proofs.Blanking
import PgWrite.Transaction.Build

/-!
# Bound values are unseen

A bound value reaches a query as a parameter and nothing else: no check, no message, no text, no
type hint and no event depends on it. So requests that are equal once their arguments are blanked
fail with the same fault at the same stage, or yield queries that differ in the parameters only.
-/

namespace PgWrite

section Alike

variable {α β γ δ : Type} {x x' : Except Fault α} {k k' : α → Except Fault β} {f : α → γ}
  {g : β → δ}

/-- Computations that are equal under a map fail with the same fault, or both succeed. -/
theorem alike_of_map_eq (h : f <$> x = f <$> x') :
    (∃ fault, x = .error fault ∧ x' = .error fault) ∨
      ∃ a a', x = .ok a ∧ x' = .ok a' ∧ f a = f a' := by
  cases x with
  | error fault =>
    cases x' with
    | error fault' =>
      cases h
      exact .inl ⟨fault, rfl, rfl⟩
    | ok a' => cases h
  | ok a =>
    cases x' with
    | error fault' => cases h
    | ok a' => exact .inr ⟨a, a', rfl, rfl, Except.ok.inj h⟩

/-- Stages that look at their input through a map agree where the inputs do. -/
theorem map_bind_congr (hx : f <$> x = f <$> x')
    (hk : ∀ a a', f a = f a' → g <$> k a = g <$> k' a') : g <$> (x >>= k) = g <$> (x' >>= k') := by
  obtain ⟨fault, rfl, rfl⟩ | ⟨a, a', rfl, rfl, ha⟩ := alike_of_map_eq hx
  · rfl
  · exact hk a a' ha

/-- Stages agree after the same first stage if they agree on its results. -/
theorem map_bind_congr_right (hk : ∀ a, g <$> k a = g <$> k' a) :
    g <$> (x >>= k) = g <$> (x >>= k') := by
  simp only [map_bind]
  exact bind_congr hk

/-- Values that are equal once changed are alike to what does not see the change. -/
theorem eq_of_unseen {ρ : Type} (look : Value → ρ) {change : Value → Value}
    (hlook : ∀ v, look (change v) = look v) {v v' : Value} (h : change v = change v') :
    look v = look v' := by
  rw [← hlook v, h, hlook]

end Alike

/-! ## Arguments -/

namespace Value

/-- A collection as a transaction keeps it. -/
def readOnly : Value → Value
  | .list _ items => .tuple items
  | .map _ entries => .frozen entries
  | v => v

/-- A list without its items, except for their number. -/
def blankedItems : Value → Value
  | .list _ items => .tuple (blanks items)
  | .tuple items => .tuple (blanks items)
  | v => v

/-- A mapping without its values. -/
def blankedMapping : Value → Value
  | .map _ entries => .frozen (Row.blanked entries)
  | .frozen entries => .frozen (Row.blanked entries)
  | v => v

/-- A list of mappings without their values. -/
def blankedRows : Value → Value
  | .list _ items => .tuple (items.map blankedMapping)
  | .tuple items => .tuple (items.map blankedMapping)
  | v => v

end Value

/-- An argument without the values that it has bound, its collections as a transaction keeps
them. -/
def blankedArgument (name : String) (v : Value) : Value :=
  if name = "rows" then v.blankedRows
  else if name = "values" then v.blankedMapping
  else if name = "identifiers" ∨ name = "params" then v.blankedItems
  else if name = "update_columns" ∨ name = "column_types" ∨ name = "types" then v.readOnly
  else v

/-- What arguments are bound to, without the values that they have bound. -/
def blankedBinding (arg : String → Value) : String → Value :=
  fun name => blankedArgument name (arg name)

/-- The arguments without the values that they have bound. -/
def Arguments.blanked (args : Arguments) : Arguments :=
  args.map fun a => (a.1, blankedArgument a.1 a.2)

theorem blanks_blanks (values : List Value) : blanks (blanks values) = blanks values :=
  map_const_blanks .null values

theorem Row.blanked_blanked (row : Row) : row.blanked.blanked = row.blanked := by
  simp [blanked]

namespace Value

theorem readOnly_readOnly (v : Value) : v.readOnly.readOnly = v.readOnly := by
  cases v <;> rfl

theorem blankedItems_blankedItems (v : Value) : v.blankedItems.blankedItems = v.blankedItems := by
  cases v with
  | list _ items | tuple items => exact congrArg Value.tuple (blanks_blanks items)
  | null | bool | int | float | text | bytes | map | frozen | policy | columnsTarget
  | constraintTarget | sqlType | record => rfl

theorem blankedMapping_blankedMapping (v : Value) :
    v.blankedMapping.blankedMapping = v.blankedMapping := by
  cases v with
  | map _ entries | frozen entries => exact congrArg Value.frozen (Row.blanked_blanked entries)
  | null | bool | int | float | text | bytes | list | tuple | policy | columnsTarget
  | constraintTarget | sqlType | record => rfl

theorem blankedRows_blankedRows (v : Value) : v.blankedRows.blankedRows = v.blankedRows := by
  cases v with
  | list _ items | tuple items =>
    refine congrArg Value.tuple ?_
    simp only [List.map_map, Function.comp_def, blankedMapping_blankedMapping]
  | null | bool | int | float | text | bytes | map | frozen | policy | columnsTarget
  | constraintTarget | sqlType | record => rfl

end Value

/-- What is blank stays blank. -/
theorem blankedArgument_blankedArgument (name : String) (v : Value) :
    blankedArgument name (blankedArgument name v) = blankedArgument name v := by
  unfold blankedArgument
  split_ifs with hrows hvalues hitems hkept
  · exact v.blankedRows_blankedRows
  · exact v.blankedMapping_blankedMapping
  · exact v.blankedItems_blankedItems
  · exact v.readOnly_readOnly
  · rfl

theorem elements_readOnly (v : Value) : v.readOnly.elements = v.elements := by
  cases v <;> rfl

theorem freezeNames_readOnly (field : String) (v : Value) :
    freezeNames field v.readOnly = freezeNames field v := by
  cases v <;> rfl

theorem freezeMapping_readOnly (v : Value) : freezeMapping v.readOnly = freezeMapping v := by
  cases v <;> rfl

theorem elements_blanked (v : Value) :
    blanks <$> v.blankedItems.elements = blanks <$> v.elements := by
  cases v with
  | list _ items | tuple items => exact congrArg Except.ok (blanks_blanks items)
  | null | bool | int | float | text | bytes | map | frozen | policy | columnsTarget
  | constraintTarget | sqlType | record => rfl

theorem freezeValues_blanked (v : Value) :
    blanks <$> freezeValues v.blankedItems = blanks <$> freezeValues v := by
  cases v with
  | list _ items | tuple items => exact congrArg Except.ok (blanks_blanks items)
  | null | bool | int | float | text | bytes | map | frozen | policy | columnsTarget
  | constraintTarget | sqlType | record => rfl

theorem freezeMapping_blanked (v : Value) :
    Row.blanked <$> freezeMapping v.blankedMapping = Row.blanked <$> freezeMapping v := by
  cases v with
  | map _ entries | frozen entries =>
    cases entries with
    | nil => rfl
    | cons e entries => exact congrArg Except.ok (Row.blanked_blanked (e :: entries))
  | null | bool | int | float | text | bytes | list | tuple | policy | columnsTarget
  | constraintTarget | sqlType | record => rfl

theorem isEmpty_eq_of_blanks {values values' : List Value} (h : blanks values = blanks values') :
    values.isEmpty = values'.isEmpty := by
  rw [← isEmpty_blanks, h, isEmpty_blanks]

theorem freezeRows_blanked (v : Value) :
    List.map Row.blanked <$> freezeRows v.blankedRows = List.map Row.blanked <$> freezeRows v := by
  have hwalk (items : List Value) :
      List.map Row.blanked <$> (items.map Value.blankedMapping).mapM freezeMapping =
        List.map Row.blanked <$> items.mapM freezeMapping := by
    induction items with
    | nil => rfl
    | cons v items ih =>
      simp only [List.map_cons, List.mapM_cons]
      refine map_bind_congr (freezeMapping_blanked v) fun row row' hrow => ?_
      refine map_bind_congr ih fun rows rows' hrows => ?_
      simp only [map_pure, List.map_cons, hrow, hrows]
  cases v with
  | list _ items | tuple items => exact hwalk items
  | null | bool | int | float | text | bytes | map | frozen | policy | columnsTarget
  | constraintTarget | sqlType | record => rfl

/-! ## Building -/

/-- The transaction that was built without the values it binds; the events stay. -/
def Built.blanked (b : Built) : Built :=
  { b with transaction := b.transaction.blanked }

theorem rowsWithout_blanked (key : Value) (index : Nat) (rows : List Row) :
    rowsWithout key index (rows.map Row.blanked) = rowsWithout key index rows := by
  induction rows generalizing index with
  | nil => rfl
  | cons row rows ih => simp only [List.map_cons, rowsWithout, Row.has_blanked, ih]

/-- Whether a capped delete is suspect hangs on the number of its identifiers only. -/
theorem suspected_blanked {t t' : DeleteLimited} (h : t.blanked = t'.blanked) :
    Built.blanked ⟨.deleteLimited t, suspectEvents t⟩ =
      Built.blanked ⟨.deleteLimited t', suspectEvents t'⟩ := by
  have hevents (t : DeleteLimited) : suspectEvents t.blanked = suspectEvents t := by
    simp only [suspectEvents, DeleteLimited.coversIdentifiers, DeleteLimited.blanked, length_blanks]
    rfl
  simp only [Built.blanked, Transaction.blanked, h, ← hevents t, hevents t']

/-- Arguments that are equal once blanked build transactions that are equal once blanked, with the
same events, or fail alike. -/
theorem Kind.build_blanked (k : Kind) {arg other : String → Value}
    (harg : blankedBinding arg = blankedBinding other) :
    Built.blanked <$> k.build "column_types" arg =
      Built.blanked <$> k.build "column_types" other := by
  have h (name : String) : blankedArgument name (arg name) = blankedArgument name (other name) :=
    congrFun harg name
  have htable : arg "table_name" = other "table_name" := h "table_name"
  have hschema : arg "schema" = other "schema" := h "schema"
  have hidempotent : arg "idempotent" = other "idempotent" := h "idempotent"
  have hpolicy : arg "statement_reuse_policy" = other "statement_reuse_policy" :=
    h "statement_reuse_policy"
  have hcolumn : arg "identifier_column" = other "identifier_column" := h "identifier_column"
  have htype : arg "identifier_type" = other "identifier_type" := h "identifier_type"
  have hhints : freezeMapping (arg "column_types") = freezeMapping (other "column_types") :=
    eq_of_unseen freezeMapping freezeMapping_readOnly (h "column_types")
  have hassigned : freezeNames "update_columns" (arg "update_columns") =
      freezeNames "update_columns" (other "update_columns") :=
    eq_of_unseen (freezeNames "update_columns") (freezeNames_readOnly "update_columns")
      (h "update_columns")
  have hrows : List.map Row.blanked <$> freezeRows (arg "rows") =
      List.map Row.blanked <$> freezeRows (other "rows") :=
    eq_of_unseen (List.map Row.blanked <$> freezeRows ·) freezeRows_blanked (h "rows")
  have hidentifiers : blanks <$> freezeValues (arg "identifiers") =
      blanks <$> freezeValues (other "identifiers") :=
    eq_of_unseen (blanks <$> freezeValues ·) freezeValues_blanked (h "identifiers")
  -- stage by stage: what binds values is equal once blanked, everything else is equal
  cases k with
  | insert | insertIgnore =>
    simp only [build, htable, hschema, hidempotent, hpolicy, hhints]
    refine map_bind_congr hrows fun rows rows' hrows => ?_
    refine map_bind_congr_right fun hints => ?_
    simp only [map_pure, Built.blanked, Transaction.blanked, Insert.blanked, hrows]
  | upsert =>
    have htarget : arg "conflict_target" = other "conflict_target" := h "conflict_target"
    simp only [build, htable, hschema, hidempotent, hpolicy, hhints, hassigned, htarget]
    refine map_bind_congr hrows fun rows rows' hrows => ?_
    refine map_bind_congr_right fun assigned => map_bind_congr_right fun hints => ?_
    refine map_bind_congr_right fun _ => ?_
    simp only [map_pure, Built.blanked, Transaction.blanked, Upsert.blanked, hrows]
  | raw =>
    have hsql : arg "sql" = other "sql" := h "sql"
    have hparams : blanks <$> (arg "params").elements = blanks <$> (other "params").elements :=
      eq_of_unseen (blanks <$> Value.elements ·) elements_blanked (h "params")
    have htypes : (arg "types").elements = (other "types").elements :=
      eq_of_unseen Value.elements elements_readOnly (h "types")
    simp only [build, hsql, hidempotent, hpolicy, htypes]
    refine map_bind_congr hparams fun params params' hparams => ?_
    refine map_bind_congr_right fun types => ?_
    simp only [map_pure, Built.blanked, Transaction.blanked, RawSql.blanked, hparams]
  | delete =>
    simp only [build, htable, hschema, hidempotent, hpolicy, hcolumn, htype]
    refine map_bind_congr hidentifiers fun identifiers identifiers' hidentifiers => ?_
    rw [isEmpty_eq_of_blanks hidentifiers]
    refine map_bind_congr_right fun _ => ?_
    simp only [map_pure, Built.blanked, Transaction.blanked, Delete.blanked, hidentifiers]
  | deleteLimited =>
    have hlimit : arg "limit" = other "limit" := h "limit"
    simp only [build, htable, hschema, hidempotent, hpolicy, hcolumn, htype, hlimit]
    refine map_bind_congr hidentifiers fun identifiers identifiers' hidentifiers => ?_
    rw [isEmpty_eq_of_blanks hidentifiers]
    refine map_bind_congr_right fun _ => map_bind_congr_right fun limit => ?_
    refine congrArg Except.ok (suspected_blanked ?_)
    simp only [DeleteLimited.blanked, hidentifiers]
  | bulkUpdate =>
    have hvalues : Row.blanked <$> freezeMapping (arg "values") =
        Row.blanked <$> freezeMapping (other "values") :=
      eq_of_unseen (Row.blanked <$> freezeMapping ·) freezeMapping_blanked (h "values")
    simp only [build, htable, hschema, hidempotent, hpolicy, hcolumn, htype, hhints]
    refine map_bind_congr hidentifiers fun identifiers identifiers' hidentifiers => ?_
    refine map_bind_congr hvalues fun values values' hvalues => ?_
    refine map_bind_congr_right fun hints => ?_
    rw [isEmpty_eq_of_blanks hidentifiers, ← Row.isEmpty_blanked values, hvalues,
      Row.isEmpty_blanked]
    refine map_bind_congr_right fun _ => map_bind_congr_right fun _ => ?_
    simp only [map_pure, Built.blanked, Transaction.blanked, BulkUpdate.blanked, hidentifiers,
      hvalues]
  | caseUpdate =>
    simp only [build, htable, hschema, hidempotent, hpolicy, hcolumn, htype, hhints, hassigned]
    refine map_bind_congr hrows fun rows rows' hrows => ?_
    refine map_bind_congr_right fun assigned => map_bind_congr_right fun hints => ?_
    have hempty : rows.isEmpty = rows'.isEmpty := by
      rw [← List.isEmpty_map (f := Row.blanked), hrows, List.isEmpty_map]
    have hwithout (key : Value) : rowsWithout key 0 rows = rowsWithout key 0 rows' := by
      rw [← rowsWithout_blanked, hrows, rowsWithout_blanked]
    rw [hempty, hwithout]
    refine map_bind_congr_right fun _ => map_bind_congr_right fun _ => ?_
    refine map_bind_congr_right fun _ => map_bind_congr_right fun _ => ?_
    simp only [map_pure, Built.blanked, Transaction.blanked, CaseUpdate.blanked, hrows]

/-! ## Requests that differ in bound values -/

theorem Arguments.lookup_blanked (args : Arguments) (name : String) :
    args.blanked.lookup name = (args.lookup name).map (blankedArgument name) := by
  induction args with
  | nil => rfl
  | cons a args ih =>
    obtain ⟨given, v⟩ := a
    simp only [blanked, List.map_cons, List.lookup_cons] at ih ⊢
    by_cases hname : name = given
    · subst hname
      simp
    · simp only [beq_eq_false_iff_ne.mpr hname, ih]

theorem Signature.firstUnfit_blanked (s : Signature) (args : Arguments) :
    s.firstUnfit args.blanked = s.firstUnfit args := by
  induction args with
  | nil => rfl
  | cons a args ih =>
    simp only [Arguments.blanked, List.map_cons, firstUnfit] at ih ⊢
    rw [ih]

theorem Signature.missing_blanked (s : Signature) (args : Arguments) :
    s.missing args.blanked = s.missing args := by
  simp only [missing, Arguments.lookup_blanked, Option.isNone_map]

/-- Blanking the arguments of a call blanks what they are bound to; what stands for an argument that
is left out stays as it is. -/
theorem Signature.bind_blanked (s : Signature) (args : Arguments) :
    blankedBinding <$> s.bind args.blanked = blankedBinding <$> s.bind args := by
  simp only [bind, firstUnfit_blanked, missing_blanked]
  split
  · rfl
  · split
    · refine congrArg Except.ok (funext fun name => ?_)
      simp only [blankedBinding, Arguments.lookup_blanked]
      cases args.lookup name with
      | some v => exact blankedArgument_blankedArgument name v
      | none => rfl
    · rfl

theorem Kind.construct_blanked (k : Kind) {args args' : Arguments}
    (h : args.blanked = args'.blanked) :
    Built.blanked <$> k.construct args = Built.blanked <$> k.construct args' := by
  have hbind : blankedBinding <$> k.signature.bind args =
      blankedBinding <$> k.signature.bind args' := by
    rw [← Signature.bind_blanked, h, Signature.bind_blanked]
  exact map_bind_congr hbind fun arg other harg => k.build_blanked harg

/-- Two requests of a kind that differ in bound values only fail with the same fault, or build
transactions with the same events. These fail to compile with the same fault, or yield queries of
the same text, type hints, reuse policy and number of parameters, with the same report. -/
theorem Kind.values_unseen (k : Kind) (q : Quoter) {args args' : Arguments}
    (h : args.blanked = args'.blanked) :
    (∃ fault, k.construct args = .error fault ∧ k.construct args' = .error fault) ∨
    ∃ t t' events, k.construct args = .ok ⟨t, events⟩ ∧ k.construct args' = .ok ⟨t', events⟩ ∧
      ((∃ fault, t.compile q = .error fault ∧ t'.compile q = .error fault) ∨
      ∃ query query' event, t.compile q = .ok (query, event) ∧
        t'.compile q = .ok (query', event) ∧ query.sql = query'.sql ∧ query.types = query'.types ∧
        query.policy = query'.policy ∧ query.params.length = query'.params.length) := by
  obtain hfault | ⟨⟨t, events⟩, ⟨t', events'⟩, hbuilt, hbuilt', hsame⟩ :=
    alike_of_map_eq (k.construct_blanked h)
  · exact .inl hfault
  obtain ⟨htransaction, rfl⟩ := Built.mk.inj hsame
  refine .inr ⟨t, t', events, hbuilt, hbuilt', ?_⟩
  have hcompile : (fun r => (r.1.blanked, r.2)) <$> t.compile q =
      (fun r => (r.1.blanked, r.2)) <$> t'.compile q := by
    rw [← t.compile_blanked q, htransaction, t'.compile_blanked q]
  obtain hfault | ⟨⟨query, event⟩, ⟨query', event'⟩, hquery, hquery', hsame⟩ :=
    alike_of_map_eq hcompile
  · exact .inl hfault
  obtain ⟨hblanked, rfl⟩ := Prod.mk.inj hsame
  obtain ⟨hsql, hparams, htypes, hpolicy⟩ := Query.mk.inj hblanked
  have hcount : query.params.length = query'.params.length := by
    rw [← length_blanks, hparams, length_blanks]
  exact .inr ⟨query, query', event, hquery, hquery', hsql, htypes, hpolicy, hcount⟩

/-- A delete of one of two identifiers, which is suspect as it is declared repeatable. -/
def suspectDelete (first second : Value) : Arguments :=
  [("table_name", .text "t"), ("identifier_column", .text "id"),
    ("identifiers", .ofList [first, second]), ("limit", .int 1)]

/-- A delete of null and a false value has the text that it has for a number and a word. -/
theorem suspectDelete_unseen : ∃ t t' events query query' event,
    Kind.deleteLimited.construct (suspectDelete (.int 1) (.text "x")) = .ok ⟨t, events⟩ ∧
    Kind.deleteLimited.construct (suspectDelete .null (.bool false)) = .ok ⟨t', events⟩ ∧
    t.compile .standard = .ok (query, event) ∧ t'.compile .standard = .ok (query', event) ∧
    query.sql = query'.sql ∧ query.types = query'.types := by
  have hblanked : (suspectDelete (.int 1) (.text "x")).blanked =
      (suspectDelete .null (.bool false)).blanked := rfl
  obtain ⟨fault, hfault, _⟩ | ⟨t, t', events, hbuilt, hbuilt', hcompiled⟩ :=
    Kind.deleteLimited.values_unseen .standard hblanked
  · cases hfault
  obtain ⟨fault, hfault, _⟩ | ⟨query, query', event, hquery, hquery', hsql, htypes, _⟩ := hcompiled
  · cases hbuilt
    cases hfault
  exact ⟨t, t', events, query, query', event, hbuilt, hbuilt', hquery, hquery', hsql, htypes⟩

end PgWrite
