import PgWrite.Proofs.Blanking
import PgWrite.Session.Step

/-!
# Runs of sessions

A step of a session leaves what is held as it is, lets the variable that it names hold something
else, or gives a list or a mapping new contents wherever it is held. So over a run that does not
assign to a variable, what the variable holds changes in the contents of lists and mappings only. A
transaction has copied the collections that it was built from: it stays the same unless the values
in them are lists and mappings themselves, and even then its text does. Settings that have been read
are those of every later step until they are cleared, and so are the rules that they lead to.
-/

namespace PgWrite

/-! ## Contents that can be changed -/

namespace Value

/-- A list or a mapping of an identity. -/
inductive Container (identity : Nat) : Value → Prop where
  | list (items : List Value) : Container identity (.list identity items)
  | map (entries : List (Value × Value)) : Container identity (.map identity entries)

mutual

/-- The value without its lists and mappings, which alone can be changed. -/
def frame : Value → Value
  | .list _ _ => .null
  | .map _ _ => .null
  | .tuple items => .tuple (frameAll items)
  | .frozen entries => .frozen (frameEntries entries)
  | .columnsTarget columns => .columnsTarget (frameAll columns)
  | .constraintTarget constraint => .constraintTarget (frame constraint)
  | .record typeName fields => .record typeName (frameFields fields)
  | .null => .null
  | .bool b => .bool b
  | .int n => .int n
  | .float x => .float x
  | .text s => .text s
  | .bytes o => .bytes o
  | .policy p => .policy p
  | .sqlType t => .sqlType t

/-- The values without their lists and mappings. -/
def frameAll : List Value → List Value
  | [] => []
  | v :: vs => frame v :: frameAll vs

/-- The entries with values without their lists and mappings. -/
def frameEntries : List (Value × Value) → List (Value × Value)
  | [] => []
  | (k, v) :: rest => (k, frame v) :: frameEntries rest

/-- The fields with values without their lists and mappings. -/
def frameFields : List (String × Value) → List (String × Value)
  | [] => []
  | (k, v) :: rest => (k, frame v) :: frameFields rest

end

variable {identity : Nat} {contents : Value}

mutual

/-- New contents of a container change nothing outside of containers. -/
theorem frame_withContents (h : Container identity contents) (v : Value) :
    (withContents identity contents v).frame = v.frame := by
  cases v with
  | list | map =>
    rw [withContents]
    split
    · cases h <;> simp only [frame]
    · simp only [frame]
  | tuple items | columnsTarget items =>
    simp only [withContents, frame, frameAll_withContentsAll h items]
  | frozen entries => simp only [withContents, frame, frameEntries_withContentsEntries h entries]
  | constraintTarget constraint =>
    simp only [withContents, frame, frame_withContents h constraint]
  | record _ fields => simp only [withContents, frame, frameFields_withContentsFields h fields]
  | null | bool | int | float | text | bytes | policy | sqlType => rfl

theorem frameAll_withContentsAll (h : Container identity contents) (items : List Value) :
    frameAll (withContentsAll identity contents items) = frameAll items := by
  cases items with
  | nil => rfl
  | cons v vs =>
    simp only [withContentsAll, frameAll, frame_withContents h v, frameAll_withContentsAll h vs]

theorem frameEntries_withContentsEntries (h : Container identity contents)
    (entries : List (Value × Value)) :
    frameEntries (withContentsEntries identity contents entries) = frameEntries entries := by
  cases entries with
  | nil => rfl
  | cons e rest =>
    simp only [withContentsEntries, frameEntries, frame_withContents h e.2,
      frameEntries_withContentsEntries h rest]

theorem frameFields_withContentsFields (h : Container identity contents)
    (fields : List (String × Value)) :
    frameFields (withContentsFields identity contents fields) = frameFields fields := by
  cases fields with
  | nil => rfl
  | cons f rest =>
    simp only [withContentsFields, frameFields, frame_withContents h f.2,
      frameFields_withContentsFields h rest]

end

mutual

/-- No new contents show in what has neither lists nor mappings. -/
theorem withContents_frame (v : Value) : withContents identity contents v.frame = v.frame := by
  cases v with
  | tuple items | columnsTarget items =>
    simp only [frame, withContents, withContentsAll_frameAll items]
  | frozen entries => simp only [frame, withContents, withContentsEntries_frameEntries entries]
  | constraintTarget constraint => simp only [frame, withContents, withContents_frame constraint]
  | record _ fields => simp only [frame, withContents, withContentsFields_frameFields fields]
  | null | bool | int | float | text | bytes | policy | sqlType | list | map =>
    simp only [frame, withContents]

theorem withContentsAll_frameAll (items : List Value) :
    withContentsAll identity contents (frameAll items) = frameAll items := by
  cases items with
  | nil => rfl
  | cons v vs => simp only [frameAll, withContentsAll, withContents_frame v,
      withContentsAll_frameAll vs]

theorem withContentsEntries_frameEntries (entries : List (Value × Value)) :
    withContentsEntries identity contents (frameEntries entries) = frameEntries entries := by
  cases entries with
  | nil => rfl
  | cons e rest => simp only [frameEntries, withContentsEntries, withContents_frame e.2,
      withContentsEntries_frameEntries rest]

theorem withContentsFields_frameFields (fields : List (String × Value)) :
    withContentsFields identity contents (frameFields fields) = frameFields fields := by
  cases fields with
  | nil => rfl
  | cons f rest => simp only [frameFields, withContentsFields, withContents_frame f.2,
      withContentsFields_frameFields rest]

end

end Value

/-! ## Changes of what is held -/

variable {f g : Value → Value}

namespace Row

theorem mapValues_mapValues (row : Row) :
    (row.mapValues f).mapValues g = row.mapValues (g ∘ f) := by
  simp [mapValues, Function.comp_def]

theorem blanked_mapValues (hf : f .null = .null) (row : Row) :
    (row.mapValues f).blanked = row.blanked.mapValues f := by
  simp [mapValues, blanked, Function.comp_def, hf]

end Row

theorem blanks_map (hf : f .null = .null) (values : List Value) :
    blanks (values.map f) = (blanks values).map f := by
  simp [blanks, Function.comp_def, hf]

namespace Transaction

theorem mapValues_mapValues (t : Transaction) :
    (t.mapValues f).mapValues g = t.mapValues (g ∘ f) := by
  cases t <;> simp [mapValues, mapInsert, mapDelete, mapOptions, Row.mapValues_mapValues,
    Function.comp_def]

/-- Null, which is no collection, stands for every bound value. -/
theorem blanked_mapValues (hf : f .null = .null) (t : Transaction) :
    (t.mapValues f).blanked = t.blanked.mapValues f := by
  cases t <;> simp [mapValues, mapInsert, mapDelete, mapOptions, blanked, Insert.blanked,
    Upsert.blanked, RawSql.blanked, Delete.blanked, DeleteLimited.blanked, BulkUpdate.blanked,
    CaseUpdate.blanked, Row.blanked_mapValues hf, blanks_map hf, Function.comp_def]

end Transaction

namespace Held

/-- What is held, without the lists and mappings in it. -/
def frame (h : Held) : Held :=
  h.mapValues Value.frame

theorem mapValues_mapValues (h : Held) : (h.mapValues f).mapValues g = h.mapValues (g ∘ f) := by
  cases h with
  | value v => rfl
  | transaction t => rw [mapValues, mapValues, t.mapValues_mapValues, mapValues]
  | query q => simp [mapValues, Query.mapValues, Function.comp_def]

/-- A property that is not lost where a list or a mapping gets new contents. -/
def Lasting (P : Held → Prop) : Prop :=
  ∀ ⦃identity contents h⦄, Value.Container identity contents → P h →
    P (h.mapValues (Value.withContents identity contents))

theorem lasting_frame (k : Held) : Lasting fun h => h.frame = k.frame := by
  intro identity contents h hcontents hframe
  rw [frame, mapValues_mapValues, ← hframe, frame]
  exact congrArg h.mapValues (funext (Value.frame_withContents hcontents))

/-- What holds no list and no mapping stays the same. -/
theorem lasting_eq {k : Held} (hk : k.frame = k) : Lasting (· = k) := by
  intro identity contents h _ hheld
  rw [hheld, ← hk, frame, mapValues_mapValues]
  exact congrArg k.mapValues (funext Value.withContents_frame)

/-- A transaction whose bound values alone may hold lists and mappings keeps all the others. -/
theorem lasting_blanked {t : Transaction} (ht : t.blanked.mapValues Value.frame = t.blanked) :
    Lasting fun h => ∃ t', h = .transaction t' ∧ t'.blanked = t.blanked := by
  rintro identity contents _ - ⟨t', rfl, ht'⟩
  refine ⟨t'.mapValues (Value.withContents identity contents), rfl, ?_⟩
  rw [Transaction.blanked_mapValues rfl, ht', ← ht, Transaction.mapValues_mapValues]
  exact congrArg t.blanked.mapValues (funext Value.withContents_frame)

end Held

/-! ## One step -/

/-- The variable that a step lets hold something else. -/
def Step.target : Step → Option String
  | .set holder _ => some holder
  | .create holder _ _ => holder
  | .construct holder _ _ => holder
  | .columnsTarget holder _ => holder
  | .constraintTarget holder _ => holder
  | .compile _ result _ => result
  | _ => none

namespace Value

variable {v key value : Value} {changed : Nat × Value}

theorem container_of_put (h : v.put key value = .ok changed) : Container changed.1 changed.2 := by
  cases v with
  | list identity items =>
    obtain ⟨i, -, rfl⟩ := map_eq_ok.mp h
    exact .list _
  | map identity entries =>
    simp only [put, bind_eq_ok, pure_eq_ok] at h
    obtain ⟨-, -, rfl⟩ := h
    exact .map _
  | _ => cases h

theorem container_of_append (h : v.append value = .ok changed) :
    Container changed.1 changed.2 := by
  cases v with
  | list identity items =>
    cases h
    exact .list _
  | _ => cases h

theorem container_of_delete (h : v.delete key = .ok changed) : Container changed.1 changed.2 := by
  cases v with
  | list identity items =>
    obtain ⟨i, -, rfl⟩ := map_eq_ok.mp h
    exact .list _
  | map identity entries =>
    simp only [delete, bind_eq_ok, pure_eq_ok] at h
    obtain ⟨-, -, rfl⟩ := h
    exact .map _
  | _ => cases h

end Value

namespace Session

variable {s s' : Session} {step : Step} {answer : StepAnswer} {settings : Settings}

/-- What a step does to what is held: nothing, or it lets its target hold something else, or it
gives a list or a mapping new contents wherever it is held. -/
inductive Leads (step : Step) (s : Session) : List (String × Held) → Prop where
  | same : Leads step s s.held
  | assign (h : Held) : Leads step s (s.assign step.target h).held
  | change (changed : Nat × Value) (h : Value.Container changed.1 changed.2) :
      Leads step s (s.change changed).held

/-- All that a step does to a session, but for its environment and its log. -/
structure Follows (step : Step) (s s' : Session) : Prop where
  held : Leads step s s'.held
  files : s'.files = s.files
  settings : s'.settings = s.settings ∨ s.settings = none ∨ step = .clearSettings

namespace Follows

theorem refl (step : Step) (s : Session) : Follows step s s :=
  ⟨.same, rfl, .inl rfl⟩

theorem assign (step : Step) (s : Session) (h : Held) :
    Follows step s (s.assign step.target h) := by
  refine ⟨.assign h, ?_, .inl ?_⟩
  all_goals cases step.target <;> rfl

theorem change {changed : Nat × Value} (h : Value.Container changed.1 changed.2) :
    Follows step s (s.change changed) :=
  ⟨.change changed h, rfl, .inl rfl⟩

/-- What a step logs and what it does to the environment are left out. -/
theorem beside (h : Follows step s s') (environment : Variables) (events : List LogEvent) :
    Follows step s { s' with environment, events } :=
  ⟨h.held, h.files, h.settings⟩

end Follows

theorem currentSettings_eq_ok (h : s.currentSettings = .ok (settings, s')) :
    s' = { s with settings := some settings } ∧ (s.settings = none ∨ s' = s) := by
  unfold currentSettings at h
  split at h
  · next hread =>
    cases h
    refine ⟨?_, .inr rfl⟩
    rw [← hread]
  · next hunread =>
    simp only [bind_eq_ok, pure_eq_ok, Prod.mk.injEq] at h
    obtain ⟨_, -, rfl, rfl⟩ := h
    exact ⟨rfl, .inl hunread⟩

theorem construct_follows {holder : Option String} {typeName : String} {args : CallArguments}
    {given : Arguments} (h : s.construct holder typeName given = .ok (answer, s')) :
    Follows (.construct holder typeName args) s s' := by
  unfold construct at h
  split at h
  · obtain ⟨b, -, hkept⟩ := map_eq_ok.mp h
    cases hkept
    exact (Follows.assign (.construct holder typeName args) s _).beside _ _
  · dsimp only at h
    split_ifs at h
    all_goals
      obtain ⟨v, -, hkept⟩ := map_eq_ok.mp h
      cases hkept
      exact Follows.assign (.construct holder typeName args) s _

theorem not_refuseField_eq_ok {holder : String} {fault : Fault} {r : StepAnswer × Session} :
    s.refuseField holder fault ≠ .ok r := by
  intro h
  obtain ⟨held, -, hrefused⟩ := bind_eq_ok.mp h
  split at hrefused <;> cases hrefused

/-- A step that is performed follows. -/
theorem perform_follows (h : s.perform step = .ok (answer, s')) : Follows step s s' := by
  cases step <;> simp only [perform, bind_eq_ok, pure_eq_ok, map_eq_ok, Except.ok.injEq,
    Prod.mk.injEq] at h
  case set holder v =>
    obtain ⟨-, rfl⟩ := h
    exact Follows.assign (.set holder v) s _
  case put =>
    obtain ⟨v, -, changed, hput, -, rfl⟩ := h
    exact .change (Value.container_of_put hput)
  case append =>
    obtain ⟨v, -, changed, happend, -, rfl⟩ := h
    exact .change (Value.container_of_append happend)
  case delete =>
    obtain ⟨v, -, changed, hdelete, -, rfl⟩ := h
    exact .change (Value.container_of_delete hdelete)
  case create holder kind args =>
    obtain ⟨given, -, b, -, hkept⟩ := h
    cases hkept
    exact (Follows.assign (.create holder kind args) s _).beside _ _
  case construct =>
    obtain ⟨given, -, hconstruct⟩ := h
    exact construct_follows hconstruct
  case columnsTarget holder columns =>
    obtain ⟨v, -, hkept⟩ := h
    cases hkept
    exact Follows.assign (.columnsTarget holder columns) s _
  case constraintTarget holder constraint =>
    obtain ⟨v, -, hkept⟩ := h
    cases hkept
    exact Follows.assign (.constraintTarget holder constraint) s _
  case compile holder result quoter =>
    obtain ⟨t, -, r, -, -, rfl⟩ := h
    exact (Follows.assign (.compile holder result quoter) s _).beside _ _
  case fields =>
    obtain ⟨held, -, h⟩ := h
    split at h
    · cases h
      exact .refl _ s
    · cases h
  case setField | deleteField => exact absurd h not_refuseField_eq_ok
  case equalDigests =>
    obtain ⟨a, -, b, -, h⟩ := h
    split at h
    · cases h
      exact .refl _ s
    all_goals cases h
  case coversIdentifiers =>
    obtain ⟨t, -, h⟩ := h
    split at h
    · cases h
      exact .refl _ s
    · cases h
  case look | idempotent =>
    obtain ⟨_, -, -, rfl⟩ := h
    exact .refl _ s
  case equal | format | named | rules =>
    obtain ⟨_, -, _, -, -, rfl⟩ := h
    exact .refl _ s
  case logs =>
    obtain ⟨-, rfl⟩ := h
    exact (Follows.refl _ s).beside _ _
  case setVariable =>
    obtain ⟨environment, -, -, rfl⟩ := h
    exact (Follows.refl _ s).beside environment s.events
  case settings =>
    obtain ⟨⟨settings, read⟩, hread, -, rfl⟩ := h
    obtain ⟨rfl, hunread | hsame⟩ := currentSettings_eq_ok hread
    · exact ⟨.same, rfl, .inr (.inl hunread)⟩
    · exact ⟨.same, rfl, .inl (congrArg Session.settings hsame)⟩
  case clearSettings =>
    obtain ⟨-, rfl⟩ := h
    exact ⟨.same, rfl, .inr (.inr rfl)⟩

/-- A variable holds something with a property. -/
def Holds (s : Session) (holder : String) (P : Held → Prop) : Prop :=
  ∃ h, s.held.lookup holder = some h ∧ P h

variable {holder : String} {P : Held → Prop} {t : Transaction}

theorem lookup_assign_of_ne {target : Option String} (hne : target ≠ some holder) (s : Session)
    (h : Held) : (s.assign target h).held.lookup holder = s.held.lookup holder := by
  cases target with
  | none => rfl
  | some name =>
    have hname : (holder == name) = false := beq_eq_false_iff_ne.mpr fun heq => hne (heq ▸ rfl)
    simp only [assign, List.lookup_cons, hname]
    induction s.held with
    | nil => rfl
    | cons entry rest ih =>
      obtain ⟨other, k⟩ := entry
      by_cases hother : other = name
      · rw [List.filter_cons_of_neg (by simpa using hother), ih, hother, List.lookup_cons, hname]
      · rw [List.filter_cons_of_pos (by simpa using hother), List.lookup_cons, ih,
          List.lookup_cons]

theorem lookup_change (s : Session) (changed : Nat × Value) :
    (s.change changed).held.lookup holder =
      (s.held.lookup holder).map (Held.mapValues (Value.withContents changed.1 changed.2)) := by
  simp only [change]
  induction s.held with
  | nil => rfl
  | cons entry rest ih =>
    obtain ⟨name, k⟩ := entry
    simp only [List.map_cons, List.lookup_cons, ih]
    split <;> rfl

/-- A step keeps what a variable other than its target holds, as far as new contents of lists and
mappings do. -/
theorem Follows.holds (hP : Held.Lasting P) (h : Follows step s s')
    (htarget : step.target ≠ some holder) (hs : s.Holds holder P) : s'.Holds holder P := by
  obtain ⟨k, hk, hPk⟩ := hs
  obtain ⟨held, -, -⟩ := h
  generalize hheld : s'.held = after at held
  rw [Holds, hheld]
  cases held with
  | same => exact ⟨k, hk, hPk⟩
  | assign h => exact ⟨k, (lookup_assign_of_ne htarget s h).trans hk, hPk⟩
  | change changed hchanged =>
    exact ⟨_, by rw [lookup_change, hk, Option.map_some], hP hchanged hPk⟩

/-! ## Runs -/

/-- What a session answers to a step, told or not. -/
def answerTo (s : Session) : Except Fault Step → Except Fault StepAnswer
  | .error fault => .error fault
  | .ok step => ((s.prepared step).perform step).map (·.1)

/-- The session after a step: a step that fails leaves the settings read. -/
def next (s : Session) : Except Fault Step → Session
  | .error _ => s
  | .ok step => match (s.prepared step).perform step with
    | .ok (_, s') => s'
    | .error _ => s.prepared step

/-- The session after steps. -/
def after (s : Session) (steps : List (Except Fault Step)) : Session :=
  steps.foldl next s

variable {steps : List (Except Fault Step)}

theorem run_cons (s : Session) (step : Except Fault Step) (steps : List (Except Fault Step)) :
    s.run (step :: steps) = s.answerTo step :: (s.next step).run steps := by
  cases step with
  | error fault => simp only [run, answerTo, next]
  | ok step =>
    simp only [run, answerTo, next]
    cases (s.prepared step).perform step with
    | error fault => rfl
    | ok result => rfl

theorem run_append (s : Session) (steps more : List (Except Fault Step)) :
    s.run (steps ++ more) = s.run steps ++ (s.after steps).run more := by
  induction steps generalizing s with
  | nil => simp only [List.nil_append, run, after, List.foldl_nil]
  | cons step rest ih =>
    rw [List.cons_append, run_cons, ih, run_cons, List.cons_append, after, after, List.foldl_cons]

/-- The answer to a last step is that of the session after the steps before it. -/
theorem run_concat (s : Session) (steps : List (Except Fault Step)) (step : Except Fault Step) :
    s.run (steps ++ [step]) = s.run steps ++ [(s.after steps).answerTo step] := by
  rw [run_append, run_cons, run]

theorem prepared_eq (s : Session) (step : Step) :
    s.prepared step = s ∨
      s.settings = none ∧ ∃ settings, s.prepared step = { s with settings := some settings } := by
  unfold prepared
  split
  case h_1 hread | h_2 hread =>
    obtain ⟨rfl, hunread | hsame⟩ := currentSettings_eq_ok hread
    · exact .inr ⟨hunread, _, rfl⟩
    · exact .inl hsame
  case h_3 => exact .inl rfl

/-- A step, performed or not, follows on the session that is prepared for it. -/
theorem next_follows (s : Session) (step : Step) :
    Follows step (s.prepared step) (s.next (.ok step)) := by
  rw [next]
  split
  · next hperform => exact perform_follows hperform
  · exact .refl step (s.prepared step)

/-- A lasting property of what a variable holds outlasts a step with another target. -/
theorem next_holds (hP : Held.Lasting P) {step : Except Fault Step}
    (htarget : ∀ told, step = .ok told → told.target ≠ some holder) (hs : s.Holds holder P) :
    (s.next step).Holds holder P := by
  cases step with
  | error fault => exact hs
  | ok step =>
    have hprepared : (s.prepared step).Holds holder P := by
      obtain hsame | ⟨-, settings, hread⟩ := s.prepared_eq step
      · rwa [hsame]
      · rw [hread]
        exact hs
    exact (s.next_follows step).holds hP (htarget step rfl) hprepared

/-- A lasting property of what a variable holds outlasts a run none of whose steps has the variable
as its target. -/
theorem after_holds (hP : Held.Lasting P)
    (htarget : ∀ step, .ok step ∈ steps → step.target ≠ some holder) (hs : s.Holds holder P) :
    (s.after steps).Holds holder P := by
  induction steps generalizing s with
  | nil => exact hs
  | cons first rest ih =>
    refine ih (fun step hstep => htarget step (List.mem_cons_of_mem first hstep)) ?_
    exact next_holds hP (fun step hstep => htarget step (hstep ▸ List.mem_cons_self)) hs

/-! ## Transactions that have been built -/

/-- What a variable holds changes in the contents of lists and mappings only. -/
theorem after_frame {h : Held} (htarget : ∀ step, .ok step ∈ steps → step.target ≠ some holder)
    (hs : s.held.lookup holder = some h) :
    ∃ h', (s.after steps).held.lookup holder = some h' ∧ h'.frame = h.frame :=
  after_holds (Held.lasting_frame h) htarget ⟨h, hs, rfl⟩

/-- A built transaction without lists and mappings among its values stays the same. -/
theorem after_transaction (ht : t.mapValues Value.frame = t)
    (htarget : ∀ step, .ok step ∈ steps → step.target ≠ some holder)
    (hs : s.held.lookup holder = some (.transaction t)) :
    (s.after steps).held.lookup holder = some (.transaction t) := by
  have hlasting : Held.Lasting (· = .transaction t) :=
    Held.lasting_eq (congrArg Held.transaction ht)
  obtain ⟨_, hlookup, rfl⟩ := after_holds hlasting htarget ⟨_, hs, rfl⟩
  exact hlookup

/-- The caller empties and refills the list of rows after an insert was built from it. -/
example :
    let rows : HeldPlace := { holder := "rows", field := none, path := [] }
    let insert : CallArguments :=
      { given := [("table_name", .text "users")], passed := [("rows", "rows")] }
    let s := (start [] []).after [
      .ok (.set "rows" (.list 0 [.map 1 [(.text "id", .int 1)]])),
      .ok (.construct (some "insert") "InsertTransaction" insert),
      .ok (.delete rows (.int 0)),
      .ok (.append rows (.map 2 [(.text "name", .text "x")]))]
    s.held = [
      ("insert", .transaction (.insert {
        table := .text "users", rows := [[(.text "id", .int 1)]], hints := [], schema := .null
        options := { idempotent := .bool false, policy := .policy .none } })),
      ("rows", .value (.list 0 [.map 2 [(.text "name", .text "x")]]))] := by
  rfl

theorem answerTo_compile (hs : s.held.lookup holder = some (.transaction t))
    (result : Option String) (q : Quoter) :
    s.answerTo (.ok (.compile holder result q)) =
      (t.compile q).map fun r => .held (.query r.1) := by
  have hget : s.transaction holder = .ok t := by simp only [transaction, get, hs]; rfl
  have hprepared : s.prepared (.compile holder result q) = s := by simp only [prepared]
  rw [answerTo, hprepared, perform, hget]
  change Except.map _ (t.compile q >>= _) = _
  cases t.compile q <;> rfl

/-- Whatever steps come in between, such a transaction is compiled to the query to which it would
have been compiled at once. -/
theorem run_compile (ht : t.mapValues Value.frame = t)
    (htarget : ∀ step, .ok step ∈ steps → step.target ≠ some holder)
    (hs : s.held.lookup holder = some (.transaction t)) (result : Option String) (q : Quoter) :
    s.run (steps ++ [.ok (.compile holder result q)]) =
      s.run steps ++ [(t.compile q).map fun r => .held (.query r.1)] := by
  rw [run_concat, answerTo_compile (after_transaction ht htarget hs)]

/-- Lists and mappings among the bound values may get new contents, of which the text, the type
hints and the report of the compiled query show nothing. -/
theorem run_compile_blanked (ht : t.blanked.mapValues Value.frame = t.blanked)
    (htarget : ∀ step, .ok step ∈ steps → step.target ≠ some holder)
    (hs : s.held.lookup holder = some (.transaction t)) (result : Option String) (q : Quoter) :
    ∃ t' : Transaction,
      s.run (steps ++ [.ok (.compile holder result q)]) =
        s.run steps ++ [(t'.compile q).map fun r => .held (.query r.1)] ∧
      (fun r => (r.1.blanked, r.2)) <$> t'.compile q =
        (fun r => (r.1.blanked, r.2)) <$> t.compile q := by
  obtain ⟨_, hlookup, t', rfl, hblanked⟩ :=
    after_holds (Held.lasting_blanked ht) htarget ⟨_, hs, t, rfl, rfl⟩
  refine ⟨t', by rw [run_concat, answerTo_compile hlookup], ?_⟩
  rw [← Transaction.compile_blanked, hblanked, Transaction.compile_blanked]

/-! ## Settings that have been read -/

theorem next_settings (hs : s.settings = some settings) {step : Except Fault Step}
    (hstep : step ≠ .ok .clearSettings) : (s.next step).settings = some settings := by
  have hread : s.settings ≠ none := hs ▸ Option.some_ne_none settings
  cases step with
  | error fault => exact hs
  | ok step =>
    have hprepared : s.prepared step = s :=
      (s.prepared_eq step).resolve_right fun h => hread h.1
    have hfollows := s.next_follows step
    rw [hprepared] at hfollows
    obtain hkept | hunread | rfl := hfollows.settings
    · rw [hkept, hs]
    · exact absurd hunread hread
    · exact absurd rfl hstep

theorem after_settings (hkept : .ok .clearSettings ∉ steps) (hs : s.settings = some settings) :
    (s.after steps).settings = some settings := by
  induction steps generalizing s with
  | nil => exact hs
  | cons first rest ih =>
    rw [List.mem_cons, not_or] at hkept
    exact ih hkept.2 (next_settings hs (Ne.symm hkept.1))

theorem answerTo_settings (hs : s.settings = some settings) :
    s.answerTo (.ok .settings) = .ok (.settings settings) := by
  simp only [answerTo, prepared, perform, currentSettings, hs]
  rfl

/-- Settings that were read once are answered until they are cleared, however the environment
changes. -/
theorem run_settings (hread : s.answerTo (.ok .settings) = .ok (.settings settings))
    (hkept : .ok .clearSettings ∉ steps) :
    ∃ answers, s.run (.ok .settings :: (steps ++ [.ok .settings])) =
      .ok (.settings settings) :: (answers ++ [.ok (.settings settings)]) := by
  have hnext : (s.next (.ok .settings)).settings = some settings := by
    simp only [answerTo, map_eq_ok, Prod.exists] at hread
    obtain ⟨answer, s', hperform, hanswer⟩ := hread
    rw [next, hperform]
    simp only [perform, bind_eq_ok, pure_eq_ok, Prod.mk.injEq] at hperform
    obtain ⟨⟨read, s''⟩, hcurrent, rfl, rfl⟩ := hperform
    cases hanswer
    rw [(currentSettings_eq_ok hcurrent).1]
  refine ⟨(s.next (.ok .settings)).run steps, ?_⟩
  rw [run_cons, hread, run_concat, answerTo_settings (after_settings hkept hnext)]

/-- No step writes a file. -/
theorem next_files (s : Session) (step : Except Fault Step) : (s.next step).files = s.files := by
  cases step with
  | error fault => rfl
  | ok step =>
    have hprepared : (s.prepared step).files = s.files := by
      obtain hsame | ⟨-, settings, hread⟩ := s.prepared_eq step
      · rw [hsame]
      · rw [hread]
    exact (s.next_follows step).files.trans hprepared

theorem after_files (s : Session) (steps : List (Except Fault Step)) :
    (s.after steps).files = s.files := by
  induction steps generalizing s with
  | nil => rfl
  | cons first rest ih => exact (ih (s.next first)).trans (s.next_files first)

/-- The rules are those of the settings that were read, until these are cleared. -/
theorem run_rules (hs : s.settings = some settings) (hkept : .ok .clearSettings ∉ steps) :
    s.run (steps ++ [.ok .rules]) = s.run steps ++ [(settings.rules s.files).map .rules] := by
  have hanswer {s : Session} (hs : s.settings = some settings) :
      s.answerTo (.ok .rules) = (settings.rules s.files).map .rules := by
    simp only [answerTo, prepared, perform, currentSettings, hs]
    change Except.map _ (settings.rules s.files >>= _) = _
    cases settings.rules s.files <;> rfl
  rw [run_concat, hanswer (after_settings hkept hs), after_files]

end Session

end PgWrite
