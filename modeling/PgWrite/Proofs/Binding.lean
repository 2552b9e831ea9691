import PgWrite.Proofs.Success
import PgWrite.Signature
import PgWrite.Value.Basic

/-!
# Arguments and what stands in for them

Arguments that fit a signature are bound, each to the value that is given or to what stands in for
it. Where no name is given twice, an argument can be replaced by what is made of its value.
-/

namespace PgWrite

/-! ## Arguments -/

/-- Replaces the value of an argument by what is made of it, if it has the name. -/
def replaced (name : String) (f : Value → Except Fault Value) (a : String × Value) :
    Except Fault (String × Value) :=
  if a.1 = name then (f a.2).map fun w => (a.1, w) else .ok a

/-- Replaces the value of an argument, if it is given. -/
def Arguments.replace (args : Arguments) (name : String) (f : Value → Except Fault Value) :
    Except Fault Arguments :=
  args.mapM (replaced name f)

namespace Arguments

variable {args : Arguments} {name : String}

/-- A name that is given is looked up with success. -/
theorem exists_lookup (h : name ∈ args.map Prod.fst) : ∃ v, args.lookup name = some v := by
  rw [← Option.isSome_iff_exists, ← Option.ne_none_iff_isSome]
  intro hnone
  obtain ⟨a, ha, rfl⟩ := List.mem_map.mp h
  exact bne_iff_ne.mp (List.lookup_eq_none_iff.mp hnone a ha) rfl

theorem setField_of_lookup {v : Value} (h : args.lookup name = some v) :
    setField name v args = args := by
  induction args with
  | nil => cases h
  | cons a rest ih =>
    obtain ⟨given, w⟩ := a
    by_cases hname : given = name
    · subst hname
      rw [List.lookup_cons_self] at h
      obtain rfl := Option.some.inj h
      rw [setField, if_pos rfl]
    · have hother : (name == given) = false := by simpa using Ne.symm hname
      rw [List.lookup_cons, hother] at h
      rw [setField, if_neg hname, ih h]

/-- Setting an argument that is given keeps the names. -/
theorem map_fst_setField (h : name ∈ args.map Prod.fst) (v : Value) :
    (setField name v args).map Prod.fst = args.map Prod.fst := by
  induction args with
  | nil => cases h
  | cons a rest ih =>
    obtain ⟨given, w⟩ := a
    by_cases hname : given = name
    · rw [setField, if_pos hname]
      rfl
    · have hrest : name ∈ rest.map Prod.fst := by
        rcases List.mem_cons.mp h with he | hmem
        · exact absurd he.symm hname
        · exact hmem
      rw [setField, if_neg hname, List.map_cons, ih hrest, List.map_cons]

/-- An argument that is set is bound to its value, and the others as before. -/
theorem getD_lookup_setField (args : Arguments) (name : String) (v : Value)
    (standIn : String → Value) (given : String) :
    ((setField name v args).lookup given).getD (standIn given) =
      if given = name then v else (args.lookup given).getD (standIn given) := by
  by_cases hname : given = name
  · subst hname
    rw [if_pos rfl, lookup_setField_self, Option.getD_some]
  · rw [if_neg hname, lookup_setField_of_ne hname]

theorem replace_of_not_mem (h : name ∉ args.map Prod.fst) (f : Value → Except Fault Value) :
    args.replace name f = .ok args := by
  rw [replace, mapM_eq_ok_iff]
  refine List.map_congr_left fun a ha => ?_
  have hname : a.1 ≠ name := by
    rintro rfl
    exact h (List.mem_map_of_mem ha)
  rw [replaced, if_neg hname]

/-- Replacing a value keeps the names. -/
theorem map_fst_replace {f : Value → Except Fault Value} {args' : Arguments}
    (h : args.replace name f = .ok args') : args'.map Prod.fst = args.map Prod.fst := by
  have hfst : ∀ {a b : String × Value}, replaced name f a = .ok b → b.1 = a.1 := by
    intro a b hb
    unfold replaced at hb
    split at hb
    · obtain ⟨w, _, rfl⟩ := map_eq_ok.mp hb
      rfl
    · rw [Except.ok.inj hb]
  rw [replace, mapM_eq_ok_iff] at h
  induction args generalizing args' with
  | nil => rw [List.map_eq_nil_iff.mp h.symm]
  | cons a rest ih =>
    cases args' with
    | nil => cases h
    | cons b rest' =>
      obtain ⟨hhead, hrest⟩ := List.cons.inj h
      rw [List.map_cons, List.map_cons, hfst hhead, ih hrest]

/-- Where names are given once, the one value is replaced. -/
theorem replace_eq (h : (args.map Prod.fst).Nodup) (name : String)
    (f : Value → Except Fault Value) :
    args.replace name f =
      match args.lookup name with
      | none => .ok args
      | some v => (f v).map fun w => setField name w args := by
  induction args with
  | nil => rfl
  | cons a rest ih =>
    obtain ⟨given, v⟩ := a
    obtain ⟨hgiven, hrest⟩ := List.nodup_cons.mp h
    have hstep : replace ((given, v) :: rest) name f =
        replaced name f (given, v) >>= fun b => (replace rest name f).map (b :: ·) := by
      rw [replace, List.mapM_cons]
      rfl
    by_cases hname : given = name
    · subst hname
      rw [hstep, replaced, if_pos rfl, replace_of_not_mem hgiven, List.lookup_cons_self]
      simp only [setField, if_true]
      cases f v <;> rfl
    · have hother : (name == given) = false := by simpa using Ne.symm hname
      rw [hstep, replaced, if_neg hname, ih hrest, List.lookup_cons, hother]
      simp only [setField, if_neg hname]
      cases rest.lookup name with
      | none => rfl
      | some w =>
        dsimp only
        cases f w <;> rfl

end Arguments

/-! ## Signatures -/

/-- What an argument is bound to where it is left out. -/
def Signature.standIn (s : Signature) (name : String) : Value :=
  ((s.parameters.find? (·.name = name)).bind (·.default?)).getD .null

/-- The arguments fit the signature: it knows them all, and those that must be given are given. -/
structure Signature.Fits (s : Signature) (names : List String) : Prop where
  known : ∀ name ∈ names, ∃ p ∈ s.parameters, p.name = name
  given : ∀ p ∈ s.parameters, p.default? = none → p.name ∈ names

/-- No argument bears the name of the receiver of a call. -/
def Signature.Nameable (s : Signature) : Prop :=
  "self" ∉ s.parameters.map (·.name)

namespace Signature

variable {s : Signature} {args : Arguments}

theorem firstUnfit_eq_none (hself : s.Nameable)
    (h : ∀ name ∈ args.map Prod.fst, ∃ p ∈ s.parameters, p.name = name) :
    s.firstUnfit args = none := by
  induction args with
  | nil => rfl
  | cons a rest ih =>
    obtain ⟨⟨p, hp, hname⟩, hrest⟩ := List.forall_mem_cons.mp h
    have hknown : (s.parameters.any fun p => p.name = a.1) = true :=
      List.any_eq_true.mpr ⟨p, hp, by simpa using hname⟩
    have hreceiver : a.1 ≠ "self" := by
      rintro hreceiver
      exact hself (List.mem_map.mpr ⟨p, hp, hname.trans hreceiver⟩)
    rw [firstUnfit, if_neg hreceiver, if_pos hknown, ih hrest]

/-- Arguments that fit are bound, each to its value or to what stands in for it. -/
theorem bind_of_fits (hself : s.Nameable) (h : s.Fits (args.map Prod.fst)) :
    s.bind args = .ok fun name => (args.lookup name).getD (s.standIn name) := by
  have hmissing : s.missing args = [] := by
    rw [missing, List.map_eq_nil_iff, List.filter_eq_nil_iff]
    intro p hp hleft
    rw [Bool.and_eq_true, Option.isNone_iff_eq_none, Option.isNone_iff_eq_none] at hleft
    obtain ⟨v, hv⟩ := Arguments.exists_lookup (h.given p hp hleft.1)
    rw [hleft.2] at hv
    cases hv
  rw [bind, firstUnfit_eq_none hself h.known, hmissing]
  refine congrArg Except.ok (funext fun name => ?_)
  cases args.lookup name <;> rfl

end Signature

end PgWrite
