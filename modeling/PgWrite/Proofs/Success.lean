import PgWrite.Sql.Statement
import PgWrite.Transaction.Compile

/-!
# Steps that succeed

A computation that succeeds has succeeded in each of its steps. From a query that was compiled one
goes back to the written names, which are all text, and to the checks that were passed.
-/

namespace PgWrite

section Steps

variable {ε α β : Type}

/-- A sequence succeeds if its first step does and the others do on its result. -/
theorem bind_eq_ok {x : Except ε α} {f : α → Except ε β} {r : β} :
    (x >>= f) = .ok r ↔ ∃ a, x = .ok a ∧ f a = .ok r := by
  cases x with
  | error e => simp [bind, Except.bind]
  | ok a => simp [bind, Except.bind]

/-- A sequence fails in its first step, or in the others on the result of the first. -/
theorem bind_eq_error {x : Except ε α} {f : α → Except ε β} {e : ε} :
    (x >>= f) = .error e ↔ x = .error e ∨ ∃ a, x = .ok a ∧ f a = .error e := by
  cases x with
  | error e' => simp [bind, Except.bind]
  | ok a => simp [bind, Except.bind]

/-- A changed result is the change of a result. -/
theorem map_eq_ok {x : Except ε α} {f : α → β} {r : β} :
    x.map f = .ok r ↔ ∃ a, x = .ok a ∧ f a = r := by
  cases x with
  | error e => simp [Except.map]
  | ok a => simp [Except.map]

theorem pure_eq_ok {a b : α} : (pure a : Except ε α) = .ok b ↔ a = b := by
  simp [pure, Except.pure]

/-- A step over a list succeeds just if it does on every element. -/
theorem mapM_eq_ok_iff {f : α → Except ε β} {items : List α} {results : List β} :
    items.mapM f = .ok results ↔ items.map f = results.map .ok := by
  induction items generalizing results with
  | nil =>
    simp only [List.mapM_nil, pure_eq_ok, List.map_nil]
    exact ⟨fun h => by rw [← h, List.map_nil], fun h => (List.map_eq_nil_iff.mp h.symm).symm⟩
  | cons item items ih =>
    simp only [List.mapM_cons, bind_eq_ok, pure_eq_ok, List.map_cons]
    constructor
    · rintro ⟨result, hresult, rest, hrest, rfl⟩
      rw [hresult, ih.mp hrest, List.map_cons]
    · intro h
      cases results with
      | nil => cases h
      | cons result rest =>
        obtain ⟨hresult, hrest⟩ := List.cons.inj h
        exact ⟨result, hresult, rest, ih.mpr hrest, rfl⟩

/-- A walk that succeeds yields as many results as it has steps. -/
theorem length_of_mapM_eq_ok {f : α → Except ε β} {items : List α} {results : List β}
    (h : items.mapM f = .ok results) : results.length = items.length := by
  have hlengths := congrArg List.length (mapM_eq_ok_iff.mp h)
  rw [List.length_map, List.length_map] at hlengths
  exact hlengths.symm

end Steps

/-- A name is written exactly if it is text. -/
theorem nameText_eq_ok {v : Value} {s : String} : nameText v = .ok s ↔ v.text? = some s := by
  unfold nameText
  split <;> simp_all

theorem quoteValue_eq_ok {v : Value} {w : String} :
    quoteValue v = .ok w ↔ ∃ s, v.text? = some s ∧ quotedName s = w := by
  simp only [quoteValue, map_eq_ok, nameText_eq_ok]

/-- Names that are written one after the other are all text. -/
theorem quoteAll_eq_ok {names : List Value} {written : List String}
    (h : names.mapM quoteValue = .ok written) :
    ∃ texts : List String, names.map Value.text? = texts.map some ∧
      written = texts.map quotedName := by
  induction names generalizing written with
  | nil =>
    simp only [List.mapM_nil, pure_eq_ok] at h
    exact ⟨[], rfl, h.symm⟩
  | cons v names ih =>
    simp only [List.mapM_cons, bind_eq_ok, pure_eq_ok] at h
    obtain ⟨w, hw, rest, hrest, rfl⟩ := h
    obtain ⟨s, hs, rfl⟩ := quoteValue_eq_ok.mp hw
    obtain ⟨texts, htexts, rfl⟩ := ih hrest
    exact ⟨s :: texts, by rw [List.map_cons, List.map_cons, hs, htexts], rfl⟩

namespace TableRef

theorem quoted_standard {ref : TableRef Value} {written : TableRef String}
    (h : ref.quoted .standard = .ok written) :
    ∃ n : TableRef String, ref.map Value.text? = n.map some ∧ written = n.map quotedName := by
  obtain ⟨table, schema⟩ := ref
  simp only [quoted, Quoter.standard, bind_eq_ok] at h
  obtain ⟨w, hw, h⟩ := h
  obtain ⟨s, hs, rfl⟩ := quoteValue_eq_ok.mp hw
  cases schema with
  | none =>
    simp only [pure_eq_ok] at h
    exact ⟨⟨s, none⟩, by simp [map, hs], h.symm⟩
  | some schema =>
    simp only [bind_eq_ok, pure_eq_ok] at h
    obtain ⟨w, hw, rfl⟩ := h
    obtain ⟨t, ht, rfl⟩ := quoteValue_eq_ok.mp hw
    exact ⟨⟨s, some t⟩, by simp [map, hs, ht], rfl⟩

end TableRef

theorem ConflictTarget.quoted_standard {target : ConflictTarget Value}
    {written : ConflictTarget String} (h : target.quoted .standard = .ok written) :
    ∃ n : ConflictTarget String, target.map Value.text? = n.map some ∧
      written = n.map quotedName := by
  cases target with
  | columns chosen =>
    simp only [quoted, Quoter.standard, map_eq_ok] at h
    obtain ⟨ws, hws, rfl⟩ := h
    obtain ⟨texts, htexts, rfl⟩ := quoteAll_eq_ok hws
    exact ⟨.columns texts, by simp [map, htexts], rfl⟩
  | constraint chosen =>
    simp only [quoted, Quoter.standard, map_eq_ok] at h
    obtain ⟨w, hw, rfl⟩ := h
    obtain ⟨s, hs, rfl⟩ := quoteValue_eq_ok.mp hw
    exact ⟨.constraint s, by simp [map, hs], rfl⟩

/-- Branches whose columns are written one after the other. -/
theorem quoteBranches_eq_ok {branches : List (Value × Nat)} {written : List (String × Nat)}
    (h : (branches.mapM fun (column, n) => (quoteValue column).map fun c => (c, n))
      = .ok written) :
    ∃ texts : List (String × Nat),
      (branches.map fun (c, n) => (c.text?, n)) = (texts.map fun (c, n) => (some c, n)) ∧
      written = texts.map fun (c, n) => (quotedName c, n) := by
  induction branches generalizing written with
  | nil =>
    simp only [List.mapM_nil, pure_eq_ok] at h
    exact ⟨[], rfl, h.symm⟩
  | cons b branches ih =>
    simp only [List.mapM_cons, bind_eq_ok, map_eq_ok, pure_eq_ok] at h
    obtain ⟨_, ⟨w, hw, rfl⟩, rest, hrest, rfl⟩ := h
    obtain ⟨s, hs, rfl⟩ := quoteValue_eq_ok.mp hw
    obtain ⟨texts, htexts, rfl⟩ := ih hrest
    exact ⟨(s, b.2) :: texts, by simp [hs, htexts], rfl⟩

/-- A statement that is written has text for all its names, and is written name by name. -/
theorem Statement.quoted_standard {s : Statement Value} {written : Statement String}
    (h : s.quoted .standard = .ok written) :
    ∃ n : Statement String, s.map Value.text? = n.map some ∧ written = n.map quotedName := by
  cases s with
  | insert table columns rows conflicts =>
    cases conflicts with
    | fail =>
      simp only [quoted, bind_eq_ok, pure_eq_ok] at h
      obtain ⟨t, ht, cs, hcs, rfl⟩ := h
      obtain ⟨table', htable, rfl⟩ := TableRef.quoted_standard ht
      obtain ⟨columns', hcolumns, rfl⟩ := quoteAll_eq_ok hcs
      exact ⟨.insert table' columns' rows .fail, by simp [map, htable, hcolumns], rfl⟩
    | skip =>
      simp only [quoted, bind_eq_ok, pure_eq_ok] at h
      obtain ⟨t, ht, cs, hcs, rfl⟩ := h
      obtain ⟨table', htable, rfl⟩ := TableRef.quoted_standard ht
      obtain ⟨columns', hcolumns, rfl⟩ := quoteAll_eq_ok hcs
      exact ⟨.insert table' columns' rows .skip, by simp [map, htable, hcolumns], rfl⟩
    | overwrite target assigned =>
      simp only [quoted, bind_eq_ok, pure_eq_ok] at h
      obtain ⟨g, hg, t, ht, cs, hcs, as, has, rfl⟩ := h
      obtain ⟨target', htarget, rfl⟩ := ConflictTarget.quoted_standard hg
      obtain ⟨table', htable, rfl⟩ := TableRef.quoted_standard ht
      obtain ⟨columns', hcolumns, rfl⟩ := quoteAll_eq_ok hcs
      obtain ⟨assigned', hassigned, rfl⟩ := quoteAll_eq_ok has
      exact ⟨.insert table' columns' rows (.overwrite target' assigned'),
        by simp [map, htable, hcolumns, htarget, hassigned], rfl⟩
  | delete table column count =>
    simp only [quoted, bind_eq_ok, pure_eq_ok] at h
    obtain ⟨t, ht, c, hc, rfl⟩ := h
    obtain ⟨table', htable, rfl⟩ := TableRef.quoted_standard ht
    obtain ⟨column', hcolumn, rfl⟩ := quoteValue_eq_ok.mp hc
    exact ⟨.delete table' column' count, by simp [map, htable, hcolumn], rfl⟩
  | deleteLimited table column count limit =>
    simp only [quoted, bind_eq_ok, pure_eq_ok] at h
    obtain ⟨t, ht, c, hc, rfl⟩ := h
    obtain ⟨table', htable, rfl⟩ := TableRef.quoted_standard ht
    obtain ⟨column', hcolumn, rfl⟩ := quoteValue_eq_ok.mp hc
    exact ⟨.deleteLimited table' column' count limit, by simp [map, htable, hcolumn], rfl⟩
  | update table columns column count =>
    simp only [quoted, bind_eq_ok, pure_eq_ok] at h
    obtain ⟨t, ht, cs, hcs, c, hc, rfl⟩ := h
    obtain ⟨table', htable, rfl⟩ := TableRef.quoted_standard ht
    obtain ⟨columns', hcolumns, rfl⟩ := quoteAll_eq_ok hcs
    obtain ⟨column', hcolumn, rfl⟩ := quoteValue_eq_ok.mp hc
    exact ⟨.update table' columns' column' count, by simp [map, htable, hcolumns, hcolumn], rfl⟩
  | caseUpdate table discriminator branches count =>
    simp only [quoted, bind_eq_ok, pure_eq_ok] at h
    obtain ⟨t, ht, d, hd, bs, hbs, rfl⟩ := h
    obtain ⟨table', htable, rfl⟩ := TableRef.quoted_standard ht
    obtain ⟨discriminator', hdiscriminator, rfl⟩ := quoteValue_eq_ok.mp hd
    obtain ⟨branches', hbranches, rfl⟩ := quoteBranches_eq_ok hbs
    exact ⟨.caseUpdate table' discriminator' branches' count,
      by simp [map, htable, hdiscriminator, hbranches], rfl⟩

/-- A query is built from equally many values and type hints, and holds what it is built from. -/
theorem Query.build_eq_ok {sql policy : Value} {params types : List Value} {q : Query} :
    Query.build sql params types policy = .ok q ↔
      params.length = types.length ∧ q = ⟨sql, params, types, policy⟩ := by
  unfold build
  split
  · rename_i hlength
    exact ⟨fun h => ⟨hlength, (Except.ok.inj h).symm⟩, fun h => by rw [h.2]⟩
  · rename_i hlength
    exact ⟨nofun, fun h => absurd h.1 hlength⟩

/-- A query is reported on exactly if its policy is a proper one. -/
theorem Transaction.exists_compiledEvent_iff {t : Transaction} {q : Query} :
    (∃ event, t.compiledEvent q = .ok event) ↔ ∃ p, q.policy = .policy p := by
  unfold compiledEvent
  constructor
  · rintro ⟨event, h⟩
    split at h
    · exact ⟨_, ‹_›⟩
    · cases h
  · rintro ⟨p, hp⟩
    simp only [hp]
    exact ⟨_, rfl⟩

/-- A transaction that compiles has a query, which is reported on. -/
theorem Transaction.compile_eq_ok_iff {t : Transaction} {quoter : Quoter} {q : Query}
    {event : LogEvent} :
    t.compile quoter = .ok (q, event) ↔
      t.query quoter = .ok q ∧ t.compiledEvent q = .ok event := by
  simp only [compile, bind_eq_ok, pure_eq_ok]
  constructor
  · rintro ⟨_, hquery, _, hevent, ⟨⟩⟩
    exact ⟨hquery, hevent⟩
  · rintro ⟨hquery, hevent⟩
    exact ⟨q, hquery, event, hevent, rfl⟩

end PgWrite
