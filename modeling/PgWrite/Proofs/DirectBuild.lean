import Mathlib.Data.List.Find
import PgWrite.Proofs.Binding
import PgWrite.Transaction.Request

/-!
# Requests and direct building

A request for a transaction builds what the transaction's own arguments build, once the request is
read as it is meant: type hints go by the transaction's name for them and are empty where they do
not count as given, a reuse policy named by a text is that policy, and a mapping for a conflict
target is the target that its one entry makes. Requests list their arguments and what stands in for
them once more and pass each on by its name; both lists are the same, and no argument is lost or
swapped.
-/

namespace PgWrite

/-! ## What a request means -/

/-- The policy that a value stands for: a text stands for the policy of that name. -/
def policyMeant : Value → Except Fault Value
  | .text s =>
    match ReusePolicy.ofName? s with
    | some p => .ok (.policy p)
    | none => .error (.invalid (.unknownPolicy (quotedText s)))
  | v => .ok v

/-- The entries of a mapping. -/
def Value.mapping? : Value → Option Row
  | .map _ entries => some entries
  | .frozen entries => some entries
  | _ => none

/-- The value is a conflict target. -/
def Value.isTarget : Value → Bool
  | .columnsTarget _ => true
  | .constraintTarget _ => true
  | _ => false

/-- The target that a value stands for: a mapping with one of two keys stands for the target that is
constructed from the value of the key. -/
def targetMeant (v : Value) : Except Fault Value :=
  match v.mapping? with
  | some entries =>
    match entries.field? "columns", entries.field? "constraint" with
    | some columns, none => columnsTargetOf [("columns", columns)]
    | none, some constraint => constraintTargetOf [("constraint_name", constraint)]
    | _, _ => .error (.invalid .notATarget)
  | none => if v.isTarget then .ok v else .error (.invalid .notATarget)

/-- The value stands for no target: it is none, nor a mapping with exactly one of the two keys. -/
structure Value.NoTarget (v : Value) : Prop where
  isTarget : v.isTarget = false
  keys : ∀ entries ∈ v.mapping?,
    (entries.field? "columns").isSome = (entries.field? "constraint").isSome

namespace Kind

/-- The argument of a transaction that an argument of a request stands for. -/
def hintsMeant (k : Kind) : String × Value → String × Value
  | (name, v) =>
    if name = k.factoryHints then ("column_types", if v.truthy then v else .ofFields [])
    else (name, v)

/-- The arguments of a transaction that the arguments of a request stand for. -/
def meant (k : Kind) (args : Arguments) : Except Fault Arguments := do
  let args ← args.replace "statement_reuse_policy" policyMeant
  let args ← args.replace "conflict_target" targetMeant
  return args.map k.hintsMeant

/-- The request takes the arguments, none of which is given twice. -/
structure Takes (k : Kind) (args : Arguments) : Prop where
  nodup : (args.map Prod.fst).Nodup
  fits : k.factorySignature.Fits (args.map Prod.fst)

/-- Whether arguments are taken is a matter of their names. -/
theorem Takes.congr {k : Kind} {args args' : Arguments} (h : k.Takes args)
    (hnames : args'.map Prod.fst = args.map Prod.fst) : k.Takes args' :=
  ⟨hnames ▸ h.nodup, hnames ▸ h.fits⟩

end Kind

theorem resolvePolicy_eq {args : Arguments} (h : (args.map Prod.fst).Nodup) :
    resolvePolicy args = args.replace "statement_reuse_policy" policyMeant := by
  rw [args.replace_eq h, resolvePolicy]
  cases hv : args.lookup "statement_reuse_policy" with
  | none => rfl
  | some v =>
    cases v with
    | text s =>
      simp only [policyMeant]
      cases ReusePolicy.ofName? s <;> rfl
    | _ => simp only [policyMeant, Except.map, Arguments.setField_of_lookup hv]

theorem coerceTarget_eq (v : Value) : coerceTarget v = targetMeant v := by
  have hentries (entries : Row) : targetOfEntries entries =
      match entries.field? "columns", entries.field? "constraint" with
      | some columns, none => columnsTargetOf [("columns", columns)]
      | none, some constraint => constraintTargetOf [("constraint_name", constraint)]
      | _, _ => .error (.invalid .notATarget) := by
    rw [targetOfEntries]
    cases entries.field? "columns" <;> cases entries.field? "constraint" <;> rfl
  cases v with
  | map _ entries => exact hentries entries
  | frozen entries => exact hentries entries
  | _ => rfl

/-- What stands for no target is refused. -/
theorem targetMeant_of_noTarget {v : Value} (h : v.NoTarget) :
    targetMeant v = .error (.invalid .notATarget) := by
  unfold targetMeant
  cases hentries : v.mapping? with
  | none => simp only [h.isTarget, Bool.false_eq_true, if_false]
  | some entries =>
    have hkeys := h.keys entries hentries
    cases hcolumns : entries.field? "columns" <;>
      cases hconstraint : entries.field? "constraint" <;> simp_all

/-! ## What is passed on -/

namespace Kind

/-- The name that a transaction has for an argument of a request. -/
def ownName (k : Kind) (name : String) : String :=
  if name = k.factoryHints then "column_types" else name

/-- A request lists the arguments of its transaction, with what stands in for them. -/
theorem parameters_eq (k : Kind) :
    k.parameters = k.factoryParameters.map fun p => { p with name := k.ownName p.name } := by
  cases k <;>
    simp [parameters, factoryParameters, ownName, factoryHints, idempotentByDefault,
      Signature.required, Signature.optional]

theorem nameable (k : Kind) : k.signature.Nameable ∧ k.factorySignature.Nameable := by
  unfold Signature.Nameable
  cases k <;> exact ⟨by decide, by decide⟩

/-- The argument of a transaction by its name, from those of a request. -/
def passedValue (k : Kind) (arg : String → Value) (name : String) : Value :=
  if name = "column_types" then hintsPassed (arg k.factoryHints) else arg name

/-- Every argument of a transaction is passed on by its own name, a target once it is resolved. -/
theorem passed_eq (k : Kind) (arg : String → Value) :
    k.passed arg = (if k = .upsert then coerceTarget (arg "conflict_target")
        else .ok (arg "conflict_target")).map fun target =>
      k.parameters.map fun p => (p.name, k.passedValue
        (fun name => if name = "conflict_target" then target else arg name) p.name) := by
  cases k with
  | upsert =>
    simp only [passed, if_true]
    cases coerceTarget (arg "conflict_target") with
    | error fault => rfl
    | ok target =>
      simp [Except.map, bind, Except.bind, pure, Except.pure, parameters, passedValue, factoryHints,
        Signature.required, Signature.optional]
  | insert | insertIgnore | raw | delete | deleteLimited | bulkUpdate | caseUpdate =>
    simp [passed, Except.map, pure, Except.pure, parameters, passedValue, factoryHints,
      Signature.required, Signature.optional]

/-- Building reads the arguments of a transaction only, and of type hints their entries. -/
theorem build_congr {k : Kind} {arg arg' : String → Value}
    (h : ∀ p ∈ k.parameters, (p.name ≠ "column_types" → arg p.name = arg' p.name) ∧
      (p.name = "column_types" → freezeMapping (arg p.name) = freezeMapping (arg' p.name))) :
    k.build "column_types" arg = k.build "column_types" arg' := by
  cases k <;> simp [parameters, Signature.required, Signature.optional] at h <;>
    simp only [build, h]

/-! ## Names of type hints -/

variable {k : Kind} {q : Parameter}

/-- In a request only type hints have the name that the transaction has for them. -/
theorem eq_factoryHints (hq : q ∈ k.factoryParameters) (h : q.name = "column_types") :
    q.name = k.factoryHints := by
  revert q
  cases k <;> decide

/-- No argument of a request takes the name that the transaction has for another one. -/
theorem ownName_inj {r : Parameter} (hq : q ∈ k.factoryParameters) (hr : r ∈ k.factoryParameters)
    (h : k.ownName q.name = k.ownName r.name) : q.name = r.name := by
  by_cases hqh : q.name = k.factoryHints
  · by_cases hrh : r.name = k.factoryHints
    · exact hqh.trans hrh.symm
    · rw [ownName, ownName, if_pos hqh, if_neg hrh] at h
      exact absurd (eq_factoryHints hr h.symm) hrh
  · by_cases hrh : r.name = k.factoryHints
    · rw [ownName, ownName, if_neg hqh, if_pos hrh] at h
      exact absurd (eq_factoryHints hq h) hqh
    · rwa [ownName, ownName, if_neg hqh, if_neg hrh] at h

theorem fst_hintsMeant (k : Kind) (a : String × Value) : (k.hintsMeant a).1 = k.ownName a.1 := by
  obtain ⟨name, v⟩ := a
  by_cases hname : name = k.factoryHints
  · simp only [hintsMeant, ownName, if_pos hname]
  · simp only [hintsMeant, ownName, if_neg hname]

/-- What stands in for an argument does so under both names. -/
theorem standIn_ownName (hq : q ∈ k.factoryParameters) :
    k.signature.standIn (k.ownName q.name) = k.factorySignature.standIn q.name := by
  have hfind : (k.factoryParameters.find? fun r => k.ownName r.name = k.ownName q.name) =
      k.factoryParameters.find? fun r => r.name = q.name := by
    refine List.find?_congr fun r hr => ?_
    rw [decide_eq_decide]
    exact ⟨ownName_inj hr hq, congrArg k.ownName⟩
  have hown : k.signature.parameters =
      k.factoryParameters.map fun p => { p with name := k.ownName p.name } := k.parameters_eq
  have hrequest : k.factorySignature.parameters = k.factoryParameters := rfl
  rw [Signature.standIn, Signature.standIn, hown, hrequest, ← hfind, List.find?_map,
    Option.bind_map]
  rfl

theorem lookup_hintsMeant {args : Arguments}
    (hknown : ∀ name ∈ args.map Prod.fst, ∃ p ∈ k.factoryParameters, p.name = name)
    (hq : q ∈ k.factoryParameters) :
    (args.map k.hintsMeant).lookup (k.ownName q.name) =
      (args.lookup q.name).map fun v => (k.hintsMeant (q.name, v)).2 := by
  induction args with
  | nil => rfl
  | cons a rest ih =>
    obtain ⟨given, v⟩ := a
    obtain ⟨⟨p, hp, hgiven⟩, hrest⟩ := List.forall_mem_cons.mp hknown
    have hhead : k.hintsMeant (given, v) = (k.ownName given, (k.hintsMeant (given, v)).2) :=
      Prod.ext (fst_hintsMeant k _) rfl
    rw [List.map_cons, hhead, List.lookup_cons, List.lookup_cons]
    by_cases hname : q.name = given
    · rw [hname, beq_self_eq_true, beq_self_eq_true]
      rfl
    · have hown : k.ownName q.name ≠ k.ownName given := by
        intro he
        exact hname ((ownName_inj hq hp (hgiven ▸ he)).trans hgiven)
      rw [beq_eq_false_iff_ne.mpr hname, beq_eq_false_iff_ne.mpr hown]
      exact ih hrest

/-- What a request takes, its transaction takes. -/
theorem fits_hintsMeant {args : Arguments} (h : k.factorySignature.Fits (args.map Prod.fst)) :
    k.signature.Fits ((args.map k.hintsMeant).map Prod.fst) := by
  have hnames : (args.map k.hintsMeant).map Prod.fst = (args.map Prod.fst).map k.ownName := by
    simp only [List.map_map]
    exact List.map_congr_left fun a _ => fst_hintsMeant k a
  rw [hnames]
  constructor
  · intro name hname
    obtain ⟨given, hgiven, rfl⟩ := List.mem_map.mp hname
    obtain ⟨p, hp, rfl⟩ := h.known given hgiven
    refine ⟨{ p with name := k.ownName p.name }, ?_, rfl⟩
    rw [signature, parameters_eq]
    exact List.mem_map_of_mem hp
  · intro p hp hdefault
    rw [signature, parameters_eq] at hp
    obtain ⟨q, hq, rfl⟩ := List.mem_map.mp hp
    exact List.mem_map_of_mem (h.given q hq hdefault)

end Kind

/-- Type hints are read alike before and after they are passed on. -/
theorem freezeMapping_hintsPassed (v : Value) :
    freezeMapping (hintsPassed v) = freezeMapping v := by
  unfold hintsPassed
  split
  · rfl
  · rename_i hempty
    have hnone : freezeMapping v = .ok [] := by
      unfold freezeMapping
      rw [if_pos (by simpa using hempty)]
    rw [hnone]
    rfl

theorem lookup_map_parameters {parameters : List Parameter} {name : String}
    (h : name ∈ parameters.map (·.name)) (value : String → Value) :
    (parameters.map fun p => (p.name, value p.name)).lookup name = some (value name) := by
  induction parameters with
  | nil => cases h
  | cons p rest ih =>
    rw [List.map_cons, List.lookup_cons]
    by_cases hname : name = p.name
    · rw [hname, beq_self_eq_true]
    · rw [beq_eq_false_iff_ne.mpr hname]
      exact ih ((List.mem_cons.mp h).resolve_left hname)

namespace Kind

variable {k : Kind} {args : Arguments}

/-- What is passed on builds what the arguments of the request mean. -/
theorem construct_passed (h : k.Takes args) :
    k.construct (k.parameters.map fun p => (p.name, k.passedValue
        (fun name => (args.lookup name).getD (k.factorySignature.standIn name)) p.name)) =
      k.construct (args.map k.hintsMeant) := by
  have hall : k.signature.Fits ((k.parameters.map fun p => (p.name, k.passedValue
      (fun name => (args.lookup name).getD (k.factorySignature.standIn name)) p.name)).map
        Prod.fst) := by
    rw [List.map_map]
    constructor
    · intro name hname
      exact List.mem_map.mp hname
    · intro p hp _
      exact List.mem_map.mpr ⟨p, hp, rfl⟩
  rw [construct, construct, Signature.bind_of_fits k.nameable.1 hall,
    Signature.bind_of_fits k.nameable.1 (fits_hintsMeant h.fits)]
  simp only [bind, Except.bind]
  refine build_congr fun p hp => ?_
  have hpassed := lookup_map_parameters (List.mem_map_of_mem hp) (k.passedValue
    fun name => (args.lookup name).getD (k.factorySignature.standIn name))
  obtain ⟨q, hq, rfl⟩ := List.mem_map.mp (k.parameters_eq ▸ hp)
  dsimp only at hpassed ⊢
  rw [hpassed, lookup_hintsMeant h.fits.known hq, standIn_ownName hq, Option.getD_some]
  by_cases hhints : q.name = k.factoryHints
  · have hown : k.ownName q.name = "column_types" := if_pos hhints
    refine ⟨fun hother => absurd hown hother, fun _ => ?_⟩
    rw [passedValue, if_pos hown, ← hhints, freezeMapping_hintsPassed]
    cases args.lookup q.name with
    | none => rfl
    | some v =>
      simp only [Option.getD_some, Option.map_some, hintsMeant, if_pos hhints]
      exact (freezeMapping_hintsPassed v).symm
  · have hown : k.ownName q.name = q.name := if_neg hhints
    refine ⟨fun hother => ?_, fun hsame => ?_⟩
    · rw [passedValue, if_neg hother, hown]
      cases args.lookup q.name with
      | none => rfl
      | some v => simp only [Option.getD_some, Option.map_some, hintsMeant, if_neg hhints]
    · exact absurd (eq_factoryHints hq (hown ▸ hsame)) hhints

/-- Of all transactions an upsert alone takes a conflict target. -/
theorem eq_upsert {q : Parameter} (hq : q ∈ k.factoryParameters) (h : q.name = "conflict_target") :
    k = .upsert := by
  revert q
  cases k <;> decide

/-- A request is made as it is meant, once its policy is resolved. -/
theorem make_eq (h : k.Takes args) :
    k.make args = args.replace "conflict_target" targetMeant >>=
      fun args => k.construct (args.map k.hintsMeant) := by
  rw [make, Signature.bind_of_fits k.nameable.2 h.fits]
  simp only [bind, Except.bind, passed_eq]
  by_cases hk : k = .upsert
  · have hrequired : "conflict_target" ∈ args.map Prod.fst := by
      have hp : Signature.required "conflict_target" ∈ Kind.upsert.factoryParameters := by
        simp [factoryParameters]
      exact h.fits.given _ (hk ▸ hp) rfl
    obtain ⟨v, hv⟩ := Arguments.exists_lookup hrequired
    rw [if_pos hk, args.replace_eq h.nodup, hv, coerceTarget_eq]
    dsimp only [Option.getD_some]
    cases targetMeant v with
    | error fault => rfl
    | ok target =>
      have hset : k.Takes (setField "conflict_target" target args) :=
        h.congr (Arguments.map_fst_setField hrequired target)
      simp only [Except.map, ← Arguments.getD_lookup_setField]
      exact construct_passed hset
  · have hnone : "conflict_target" ∉ args.map Prod.fst := by
      intro hmem
      obtain ⟨p, hp, hname⟩ := h.fits.known _ hmem
      exact hk (eq_upsert hp hname)
    rw [if_neg hk, Arguments.replace_of_not_mem hnone]
    have hvalues : (fun name => if name = "conflict_target"
          then (args.lookup "conflict_target").getD (k.factorySignature.standIn "conflict_target")
          else (args.lookup name).getD (k.factorySignature.standIn name)) =
        fun name => (args.lookup name).getD (k.factorySignature.standIn name) := by
      funext name
      split
      · rename_i hname
        rw [hname]
      · rfl
    simp only [Except.map, hvalues]
    exact construct_passed h

end Kind

/-! ## Requests -/

/-- No argument of a request is one that a request is given otherwise. -/
def Arguments.Unreserved (args : Arguments) : Prop :=
  ∀ name ∈ args.map Prod.fst, name ≠ "self" ∧ name ≠ "kind"

theorem refuseReserved_eq {args : Arguments} (h : args.Unreserved) :
    refuseReserved args = .ok () := by
  have hnone : args.find? (fun (name, _) => name = "self" || name = "kind") = none := by
    refine List.find?_eq_none.mpr fun a ha => ?_
    obtain ⟨hself, hkind⟩ := h a.1 (List.mem_map_of_mem ha)
    simp [hself, hkind]
  rw [refuseReserved, hnone]

theorem Kind.Takes.unreserved {k : Kind} {args : Arguments} (h : k.Takes args) :
    args.Unreserved := by
  have hfree : ∀ p ∈ k.factoryParameters, p.name ≠ "self" ∧ p.name ≠ "kind" := by
    cases k <;> decide
  intro name hname
  obtain ⟨p, hp, rfl⟩ := h.fits.known name hname
  exact hfree p hp

theorem Kind.ofValue_name (k : Kind) : Kind.ofValue (.text k.name) = .ok k := by
  cases k <;> rfl

theorem Kind.ofValue_unknown {name : String} (h : ∀ k : Kind, name ≠ k.name) :
    Kind.ofValue (.text name) = .error (.invalid (.unknownKind (quotedText name) kindNames)) := by
  have hnone : Kind.ofName? name = none := by
    refine List.find?_eq_none.mpr fun k _ => ?_
    rw [decide_eq_true_eq]
    exact (h k).symm
  have htext : (Value.text name).text?.bind Kind.ofName? = none := hnone
  rw [Kind.ofValue, htext]
  rfl

theorem ReusePolicy.ofName?_unknown {name : String} (h : ∀ p : ReusePolicy, name ≠ p.name) :
    ReusePolicy.ofName? name = Option.none := by
  have hnone : name ≠ "none" := h .none
  have hper : name ≠ "per_transaction" := h .perTransaction
  rw [ofName?, if_neg hnone, if_neg hper]

/-- A request whose arguments are taken builds what they mean. -/
theorem create_eq {k : Kind} {args : Arguments} (h : k.Takes args) :
    create (.text k.name) args = k.meant args >>= k.construct := by
  rw [create, refuseReserved_eq h.unreserved, Kind.ofValue_name, resolvePolicy_eq h.nodup,
    Kind.meant]
  simp only [bind, Except.bind]
  cases hpolicy : args.replace "statement_reuse_policy" policyMeant with
  | error fault => rfl
  | ok resolved =>
    have hresolved : k.Takes resolved := h.congr (Arguments.map_fst_replace hpolicy)
    dsimp only
    rw [Kind.make_eq hresolved]
    cases resolved.replace "conflict_target" targetMeant <;> rfl

/-- A value that stands for no target is refused, unless the policy is refused before. -/
theorem meant_of_noTarget {k : Kind} {args : Arguments} {v : Value} (h : k.Takes args)
    (hv : args.lookup "conflict_target" = some v) (hno : v.NoTarget) :
    ∃ cause, k.meant args = .error (.invalid cause) := by
  rw [Kind.meant]
  cases hpolicy : args.replace "statement_reuse_policy" policyMeant with
  | error fault =>
    rw [args.replace_eq h.nodup] at hpolicy
    split at hpolicy
    · cases hpolicy
    · rename_i policy _
      cases policy with
      | text name =>
        simp only [policyMeant] at hpolicy
        split at hpolicy
        · cases hpolicy
        · cases hpolicy
          exact ⟨_, rfl⟩
      | _ => cases hpolicy
  | ok resolved =>
    have hresolved : k.Takes resolved := h.congr (Arguments.map_fst_replace hpolicy)
    have hlookup : resolved.lookup "conflict_target" = some v := by
      rw [args.replace_eq h.nodup] at hpolicy
      split at hpolicy
      · rwa [← Except.ok.inj hpolicy]
      · obtain ⟨w, _, rfl⟩ := map_eq_ok.mp hpolicy
        rwa [lookup_setField_of_ne (by decide)]
    have htarget : resolved.replace "conflict_target" targetMeant =
        .error (.invalid .notATarget) := by
      rw [resolved.replace_eq hresolved.nodup, hlookup]
      dsimp only
      rw [targetMeant_of_noTarget hno]
      rfl
    simp only [bind, Except.bind, htarget]
    exact ⟨_, rfl⟩

/-- A request builds what the transaction's own arguments build, and fails as they fail, once it is
read as it is meant. A kind of another name, a policy of another name and what stands for no target
are refused before anything is built. -/
theorem request_builds_directly (args : Arguments) :
    (∀ k : Kind, k.Takes args → create (.text k.name) args = k.meant args >>= k.construct) ∧
    (∀ name : String, args.Unreserved → (∀ k : Kind, name ≠ k.name) →
      create (.text name) args =
        .error (.invalid (.unknownKind (quotedText name) kindNames))) ∧
    (∀ (k : Kind) (name : String), args.Unreserved →
      args.lookup "statement_reuse_policy" = some (.text name) →
      (∀ p : ReusePolicy, name ≠ p.name) →
      create (.text k.name) args = .error (.invalid (.unknownPolicy (quotedText name)))) ∧
    ∀ v : Value, Kind.upsert.Takes args → args.lookup "conflict_target" = some v → v.NoTarget →
      ∃ cause, create (.text Kind.upsert.name) args = .error (.invalid cause) := by
  refine ⟨fun k h => create_eq h, ?_, ?_, ?_⟩
  · intro name hargs hname
    rw [create, refuseReserved_eq hargs, Kind.ofValue_unknown hname]
    rfl
  · intro k name hargs hpolicy hname
    rw [create, refuseReserved_eq hargs, Kind.ofValue_name, resolvePolicy, hpolicy]
    dsimp only
    rw [ReusePolicy.ofName?_unknown hname]
    rfl
  · intro v hargs hv hno
    obtain ⟨cause, hcause⟩ := meant_of_noTarget hargs hv hno
    rw [create_eq hargs, hcause]
    exact ⟨cause, rfl⟩

/-- An upsert whose conflict target is given as a mapping and whose policy is given by its name. -/
def namedUpsert : Arguments :=
  [("table_name", .text "t"), ("rows", .ofList [.ofFields [("id", .int 1), ("v", .int 2)]]),
    ("update_columns", .ofList [.text "v"]),
    ("conflict_target", .ofFields [("columns", .ofList [.text "id"])]),
    ("statement_reuse_policy", .text "per_transaction")]

/-- An upsert without a conflict target. -/
def untargetedUpsert : Arguments :=
  [("table_name", .text "t"), ("rows", .ofList [.ofFields [("id", .int 1)]]),
    ("update_columns", .ofList [.text "id"]), ("conflict_target", .null)]

theorem namedUpsert_builds_directly :
    create (.text "insert_on_conflict_update") namedUpsert =
        Kind.upsert.construct [("table_name", .text "t"),
          ("rows", .ofList [.ofFields [("id", .int 1), ("v", .int 2)]]),
          ("update_columns", .ofList [.text "v"]),
          ("conflict_target", .columnsTarget [.text "id"]),
          ("statement_reuse_policy", .policy .perTransaction)] ∧
      create (.text "merge") namedUpsert =
        .error (.invalid (.unknownKind (quotedText "merge") kindNames)) ∧
      create (.text "insert") [("statement_reuse_policy", .text "always")] =
        .error (.invalid (.unknownPolicy (quotedText "always"))) ∧
      ∃ cause, create (.text "insert_on_conflict_update") untargetedUpsert =
        .error (.invalid cause) := by
  have hnamed : Kind.upsert.Takes namedUpsert := ⟨by decide, by decide, by decide⟩
  have huntargeted : Kind.upsert.Takes untargetedUpsert := ⟨by decide, by decide, by decide⟩
  have hpolicy : Arguments.Unreserved [("statement_reuse_policy", .text "always")] := by
    unfold Arguments.Unreserved
    decide
  obtain ⟨hdirect, hkind, -⟩ := request_builds_directly namedUpsert
  refine ⟨(hdirect .upsert hnamed).trans rfl, ?_, ?_, ?_⟩
  · exact hkind "merge" hnamed.unreserved fun k => by cases k <;> decide
  · obtain ⟨-, -, hrefused, -⟩ :=
      request_builds_directly [("statement_reuse_policy", .text "always")]
    exact hrefused .insert "always" hpolicy rfl fun p => by cases p <;> decide
  · obtain ⟨-, -, -, hrefused⟩ := request_builds_directly untargetedUpsert
    exact hrefused .null huntargeted rfl ⟨rfl, nofun⟩

/-- Without a conflict target a request is refused, though the transaction itself is built. -/
theorem untargetedUpsert_refused :
    Kind.upsert.Takes untargetedUpsert ∧
      create (.text "insert_on_conflict_update") untargetedUpsert =
        .error (.invalid .notATarget) ∧
      ∃ b, Kind.upsert.construct untargetedUpsert = .ok b := by
  refine ⟨⟨by decide, by decide, by decide⟩, rfl, ⟨_, rfl⟩⟩

end PgWrite
