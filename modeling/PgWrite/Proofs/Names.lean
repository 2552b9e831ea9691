import PgWrite.Proofs.Success

/-!
# Names given as values

Names reach a transaction as values. Values spell names where each is the text of its name; looking
a name up among the values is then looking it up among the names. What is spelled can be written:
the names of a list, of a row, of a whole statement.
-/

namespace PgWrite

namespace Value

/-- The value is text. -/
def IsName (v : Value) : Prop :=
  v.text?.isSome = true

/-- Text is equal to text with the same characters. -/
theorem same_eq_of_text {a b : Value} {s t : String} (ha : a.text? = some s)
    (hb : b.text? = some t) : a.same b = decide (s = t) := by
  have hatom : sameAtom a b = decide (s = t) := by
    simp [sameAtom, ha, hb]
  cases a with
  | text | policy => simpa only [same] using hatom
  | null | bool | int | float | bytes | list | tuple | map | frozen | columnsTarget
  | constraintTarget | sqlType | record => cases ha

/-- Only text is equal to text. -/
theorem same_of_text_right {v a : Value} {name : String} (ha : a.text? = some name) :
    v.same a = decide (v.text? = some name) := by
  cases hv : v.text? with
  | some other =>
    rw [same_eq_of_text hv ha, decide_eq_decide]
    exact Option.some_inj.symm
  | none =>
    have hnone : v.same a = false := by
      cases a with
      | text | policy =>
        cases v with
        | text | policy => cases hv
        | null | bool | int | float | bytes | list | tuple | map | frozen | columnsTarget
        | constraintTarget | sqlType | record => simp [same, sameAtom, text?]
      | null | bool | int | float | bytes | list | tuple | map | frozen | columnsTarget
      | constraintTarget | sqlType | record => cases ha
    rw [hnone]
    rfl

/-- Text is equal to text with the same characters and to nothing else. -/
theorem same_of_text_left {v a : Value} {name : String} (ha : a.text? = some name) :
    a.same v = decide (v.text? = some name) := by
  cases hv : v.text? with
  | some other =>
    rw [same_eq_of_text ha hv, decide_eq_decide, Option.some_inj]
    exact eq_comm
  | none =>
    have hatom : sameAtom a v = false := by simp [sameAtom, ha, hv]
    have hnone : a.same v = false := by
      cases a with
      | text | policy => simpa only [same] using hatom
      | null | bool | int | float | bytes | list | tuple | map | frozen | columnsTarget
      | constraintTarget | sqlType | record => cases ha
    rw [hnone]
    rfl

/-- Text may serve as a key. -/
theorem requireKey_of_isName {v : Value} (h : v.IsName) : v.requireKey = .ok () := by
  cases v with
  | text | policy => rfl
  | null | bool | int | float | bytes | list | tuple | map | frozen | columnsTarget
  | constraintTarget | sqlType | record => cases h

end Value

/-- Values may serve as keys just if each of them may. -/
theorem forM_requireKey_iff {values : List Value} :
    values.forM Value.requireKey = .ok () ↔ ∀ v ∈ values, v.requireKey = .ok () := by
  induction values with
  | nil => exact iff_of_true rfl (List.forall_mem_nil _)
  | cons v values ih =>
    rw [List.forall_mem_cons, ← ih]
    refine bind_eq_ok.trans ⟨?_, fun ⟨hv, hrest⟩ => ⟨(), hv, hrest⟩⟩
    rintro ⟨⟨⟩, hv, hrest⟩
    exact ⟨hv, hrest⟩

/-- The values are the names, one for one. -/
def Spells (values : List Value) (names : List String) : Prop :=
  values.map Value.text? = names.map some

namespace Spells

variable {values : List Value} {names : List String}

/-- A value that spells a name is text. -/
theorem exists_name (h : Spells values names) {v : Value} (hv : v ∈ values) :
    ∃ s ∈ names, v.text? = some s := by
  have hmem : v.text? ∈ names.map some := h ▸ List.mem_map_of_mem hv
  obtain ⟨s, hs, he⟩ := List.mem_map.mp hmem
  exact ⟨s, hs, he.symm⟩

/-- A name is spelled by some value. -/
theorem exists_value (h : Spells values names) {s : String} (hs : s ∈ names) :
    ∃ v ∈ values, v.text? = some s := by
  have hmem : some s ∈ values.map Value.text? := h.symm ▸ List.mem_map_of_mem hs
  exact List.mem_map.mp hmem

theorem isName (h : Spells values names) : ∀ v ∈ values, v.IsName := by
  intro v hv
  obtain ⟨s, _, hs⟩ := h.exists_name hv
  rw [Value.IsName, hs]
  rfl

/-- Value by value, a property of the values is a property of the names. -/
theorem forall_iff (h : Spells values names) {p : Value → Prop} {q : String → Prop}
    (hpq : ∀ v s, v.text? = some s → (p v ↔ q s)) :
    (∀ v ∈ values, p v) ↔ ∀ s ∈ names, q s := by
  constructor
  · intro hall s hs
    obtain ⟨v, hv, hvs⟩ := h.exists_value hs
    exact (hpq v s hvs).mp (hall v hv)
  · intro hall v hv
    obtain ⟨s, hs, hvs⟩ := h.exists_name hv
    exact (hpq v s hvs).mpr (hall s hs)

/-- All values may serve as keys. -/
theorem forM_requireKey (h : Spells values names) : values.forM Value.requireKey = .ok () :=
  forM_requireKey_iff.mpr fun v hv => Value.requireKey_of_isName (h.isName v hv)

/-- There are no values exactly if there are no names. -/
theorem isEmpty_iff (h : Spells values names) : values.isEmpty = true ↔ names = [] := by
  rw [List.isEmpty_iff, ← List.map_eq_nil_iff (f := Value.text?), h, List.map_eq_nil_iff]

/-- There are as many values as names. -/
theorem length_eq (h : Spells values names) : values.length = names.length := by
  have hlengths := congrArg List.length h
  rwa [List.length_map, List.length_map] at hlengths

/-- A name is found among the values exactly if it is one of the names. -/
theorem isAmong_iff (h : Spells values names) {v : Value} {s : String} (hv : v.text? = some s) :
    v.isAmong values = true ↔ s ∈ names := by
  simp only [Value.isAmong, List.any_eq_true]
  constructor
  · rintro ⟨w, hw, hsame⟩
    obtain ⟨t, ht, hwt⟩ := h.exists_name hw
    rw [Value.same_eq_of_text hwt hv, decide_eq_true_eq] at hsame
    exact hsame ▸ ht
  · intro hs
    obtain ⟨w, hw, hws⟩ := h.exists_value hs
    exact ⟨w, hw, by rw [Value.same_eq_of_text hws hv, decide_eq_true_eq]⟩

/-- Any value is among the values just if it is text and one of the names. -/
theorem isAmong_eq (h : Spells values names) (v : Value) :
    v.isAmong values = decide (v.text? ∈ names.map some) := by
  rw [Bool.eq_iff_iff, decide_eq_true_eq]
  cases hv : v.text? with
  | some s => simp [h.isAmong_iff hv]
  | none =>
    refine iff_of_false (fun hsome => ?_) (by simp)
    obtain ⟨w, hw, hsame⟩ := List.any_eq_true.mp hsome
    obtain ⟨s, -, hs⟩ := h.exists_name hw
    rw [Value.same_of_text_left hs, hv] at hsame
    cases hsame

/-- The values that are no columns spell the names that are none. -/
theorem unknown {columns : List Value} {columnNames : List String} (h : Spells values names)
    (hcolumns : Spells columns columnNames) :
    Spells (values.filter fun v => !v.isAmong columns) (names.filter (· ∉ columnNames)) := by
  induction values generalizing names with
  | nil =>
    obtain rfl : names = [] := h.isEmpty_iff.mp rfl
    rfl
  | cons v values ih =>
    cases names with
    | nil => cases h
    | cons s names =>
      obtain ⟨hv, hrest⟩ := List.cons.inj h
      have hknown : v.isAmong columns = decide (s ∈ columnNames) := by
        rw [Bool.eq_iff_iff, decide_eq_true_eq, hcolumns.isAmong_iff hv]
      by_cases hs : s ∈ columnNames
      · simpa [hknown, hs] using ih hrest
      · simpa [Spells, hknown, hs, hv] using ih hrest

/-- What is spelled can be listed in a message. -/
theorem namesOf_eq (h : Spells values names) : namesOf values = .ok names := by
  have hfrom (index : Nat) : namesFrom index values = .ok names := by
    induction values generalizing names index with
    | nil =>
      obtain rfl : names = [] := h.isEmpty_iff.mp rfl
      rfl
    | cons v values ih =>
      cases names with
      | nil => cases h
      | cons s names =>
        obtain ⟨hv, hrest⟩ := List.cons.inj h
        simp only [namesFrom, hv, ih hrest, Except.map]
  exact hfrom 0

/-- Text spells some names. -/
theorem exists_names (h : ∀ v ∈ values, v.IsName) : ∃ names, Spells values names := by
  refine ⟨values.map fun v => v.text?.getD "", ?_⟩
  rw [Spells, List.map_map, List.map_inj_left]
  intro v hv
  obtain ⟨s, hs⟩ := Option.isSome_iff_exists.mp (h v hv)
  simp [hs]

end Spells

/-- A row is looked up alike by texts with the same characters. -/
theorem Row.get?_congr {row : Row} {a b : Value} {name : String} (ha : a.text? = some name)
    (hb : b.text? = some name) : row.get? a = row.get? b := by
  simp only [Row.get?, Value.same_of_text_right ha, Value.same_of_text_right hb]

/-- A row has a column if the column is among its keys. -/
theorem Row.has_eq (row : Row) (c : Value) : row.has c = c.isAmong row.keys := by
  simp [Row.has, Value.isAmong, Row.keys, Function.comp_def]

/-- A row has a column exactly if it is one of its names. -/
theorem Row.has_iff {row : Row} {names : List String} (h : Spells row.keys names) {c : Value}
    {s : String} (hc : c.text? = some s) : row.has c = true ↔ s ∈ names := by
  rw [row.has_eq, h.isAmong_iff hc]

/-! ## Writing names -/

theorem exists_quoteValue {v : Value} (h : v.IsName) : ∃ w, quoteValue v = .ok w := by
  obtain ⟨s, hs⟩ := Option.isSome_iff_exists.mp h
  exact ⟨_, quoteValue_eq_ok.mpr ⟨s, hs, rfl⟩⟩

/-- A walk that succeeds at every step succeeds. -/
theorem exists_mapM {ε α β : Type} {f : α → Except ε β} {items : List α}
    (h : ∀ a ∈ items, ∃ b, f a = .ok b) : ∃ results, items.mapM f = .ok results := by
  induction items with
  | nil => exact ⟨[], rfl⟩
  | cons a items ih =>
    obtain ⟨b, hb⟩ := h a (List.mem_cons_self ..)
    obtain ⟨results, hresults⟩ := ih fun c hc => h c (List.mem_cons_of_mem _ hc)
    refine ⟨b :: results, ?_⟩
    simp only [List.mapM_cons, bind_eq_ok, pure_eq_ok]
    exact ⟨b, hb, results, hresults, rfl⟩

namespace Quoter

/-- The quoter fails on no text, and writes as many names as a list has. -/
structure WritesNames (q : Quoter) : Prop where
  one : ∀ v, v.IsName → ∃ w, q.quote v = .ok w
  list : ∀ names, (∀ v ∈ names, v.IsName) →
    ∃ written, q.quoteAll names = .ok written ∧ written.length = names.length

/-- A list is written name by name if every text is. -/
theorem exists_list {f : Value → Except Fault String} (hf : ∀ v, v.IsName → ∃ w, f v = .ok w)
    (names : List Value) (h : ∀ v ∈ names, v.IsName) :
    ∃ written, names.mapM f = .ok written ∧ written.length = names.length := by
  obtain ⟨written, hwritten⟩ := exists_mapM fun v hv => hf v (h v hv)
  exact ⟨written, hwritten, length_of_mapM_eq_ok hwritten⟩

theorem standard_writesNames : standard.WritesNames where
  one _ := exists_quoteValue
  list := exists_list fun _ => exists_quoteValue

end Quoter

/-- Both parts of a table reference are text. -/
def TableRef.Named (ref : TableRef Value) : Prop :=
  ref.table.IsName ∧ ∀ schema ∈ ref.schema, schema.IsName

/-- All names of a conflict target are text. -/
def ConflictTarget.Named : ConflictTarget Value → Prop
  | .columns names => ∀ c ∈ names, c.IsName
  | .constraint name => name.IsName

/-- All names of a conflict rule are text. -/
def ConflictRule.Named : ConflictRule Value → Prop
  | .fail => True
  | .skip => True
  | .overwrite target columns => target.Named ∧ ∀ c ∈ columns, c.IsName

/-- All names of a statement are text. -/
def Statement.Named : Statement Value → Prop
  | .insert table columns _ conflicts => table.Named ∧ (∀ c ∈ columns, c.IsName) ∧ conflicts.Named
  | .delete table column _ => table.Named ∧ column.IsName
  | .deleteLimited table column _ _ => table.Named ∧ column.IsName
  | .update table columns column _ => table.Named ∧ (∀ c ∈ columns, c.IsName) ∧ column.IsName
  | .caseUpdate table discriminator branches _ =>
    table.Named ∧ discriminator.IsName ∧ ∀ b ∈ branches, b.1.IsName

/-- A table is named by text, with a schema that is text or is not given. -/
theorem TableRef.named_ofValues {table schema : Value} (ht : table.IsName)
    (hs : schema = .null ∨ schema.IsName) : (TableRef.ofValues table schema).Named := by
  refine ⟨ht, fun v hv => ?_⟩
  simp only [ofValues] at hv
  split at hv
  · obtain rfl : schema = v := Option.some.inj hv
    rcases hs with rfl | hs
    · contradiction
    · exact hs
  · cases hv

section Writing

variable {q : Quoter} (hq : q.WritesNames)
include hq

theorem TableRef.exists_quoted {ref : TableRef Value} (h : ref.Named) :
    ∃ written, ref.quoted q = .ok written := by
  obtain ⟨table, schema⟩ := ref
  obtain ⟨htable, hschema⟩ := h
  obtain ⟨t, ht⟩ := hq.one table htable
  simp only [quoted, bind_eq_ok]
  cases schema with
  | none => exact ⟨_, t, ht, rfl⟩
  | some schema =>
    obtain ⟨s, hs⟩ := hq.one schema (hschema schema rfl)
    exact ⟨_, t, ht, bind_eq_ok.mpr ⟨s, hs, rfl⟩⟩

theorem ConflictTarget.exists_quoted {target : ConflictTarget Value} (h : target.Named) :
    ∃ written, target.quoted q = .ok written := by
  cases target with
  | columns names =>
    obtain ⟨ws, hws, -⟩ := hq.list names h
    exact ⟨_, map_eq_ok.mpr ⟨ws, hws, rfl⟩⟩
  | constraint name =>
    obtain ⟨w, hw⟩ := hq.one name h
    exact ⟨_, map_eq_ok.mpr ⟨w, hw, rfl⟩⟩

/-- A statement whose names are text can be written. -/
theorem Statement.exists_quoted {s : Statement Value} (h : s.Named) :
    ∃ written, s.quoted q = .ok written := by
  cases s with
  | insert table columns rows conflicts =>
    obtain ⟨htable, hcolumns, hconflicts⟩ := h
    obtain ⟨t, ht⟩ := TableRef.exists_quoted hq htable
    obtain ⟨cs, hcs, -⟩ := hq.list columns hcolumns
    cases conflicts with
    | fail | skip =>
      simp only [quoted, bind_eq_ok]
      exact ⟨_, t, ht, cs, hcs, rfl⟩
    | overwrite target assigned =>
      obtain ⟨htarget, hassigned⟩ := hconflicts
      obtain ⟨g, hg⟩ := ConflictTarget.exists_quoted hq htarget
      obtain ⟨as, has, -⟩ := hq.list assigned hassigned
      simp only [quoted, bind_eq_ok]
      exact ⟨_, g, hg, t, ht, cs, hcs, as, has, rfl⟩
  | delete table column count | deleteLimited table column count limit =>
    obtain ⟨htable, hcolumn⟩ := h
    obtain ⟨t, ht⟩ := TableRef.exists_quoted hq htable
    obtain ⟨c, hc⟩ := hq.one column hcolumn
    simp only [quoted, bind_eq_ok]
    exact ⟨_, t, ht, c, hc, rfl⟩
  | update table columns column count =>
    obtain ⟨htable, hcolumns, hcolumn⟩ := h
    obtain ⟨t, ht⟩ := TableRef.exists_quoted hq htable
    obtain ⟨cs, hcs, -⟩ := hq.list columns hcolumns
    obtain ⟨c, hc⟩ := hq.one column hcolumn
    simp only [quoted, bind_eq_ok]
    exact ⟨_, t, ht, cs, hcs, c, hc, rfl⟩
  | caseUpdate table discriminator branches count =>
    obtain ⟨htable, hdiscriminator, hbranches⟩ := h
    obtain ⟨t, ht⟩ := TableRef.exists_quoted hq htable
    obtain ⟨d, hd⟩ := hq.one discriminator hdiscriminator
    have hbranch : ∀ b ∈ branches, ∃ w, ((q.quote b.1).map fun c => (c, b.2)) = .ok w := by
      intro b hb
      obtain ⟨c, hc⟩ := hq.one b.1 (hbranches b hb)
      exact ⟨_, map_eq_ok.mpr ⟨c, hc, rfl⟩⟩
    obtain ⟨bs, hbs⟩ := exists_mapM hbranch
    simp only [quoted, bind_eq_ok]
    exact ⟨_, t, ht, d, hd, bs, hbs, rfl⟩

end Writing

end PgWrite
