import PgWrite.Errors.Verdict
import PgWrite.Proofs.LowerCase

/-!
# Blank rules

A blank entry in a list of rules does not mean the same everywhere. As a prefix it is passed over,
but as a text it occurs in every message, and as a state it is that of an error with an empty
SQLSTATE. So the verdict on an error is the worse one of two: the verdict by the entries that are
not blank, and the verdict that the blank ones give by themselves.
-/

namespace PgWrite

/-! ## Lists of texts -/

/-- The texts that are not blank. -/
def unblanked (texts : List String) : List String :=
  texts.filter (· ≠ "")

/-- Texts are blank in lower case just if they are blank. -/
theorem unblanked_map_lower (texts : List String) :
    unblanked (texts.map Text.lower) = (unblanked texts).map Text.lower := by
  rw [unblanked, unblanked, List.filter_map]
  refine congrArg (List.map Text.lower) (List.filter_congr fun s _ => ?_)
  simp only [Function.comp_apply, ne_eq, Text.lower_eq_empty]

theorem contains_blank_map_lower (texts : List String) :
    (texts.map Text.lower).contains "" = texts.contains "" := by
  rw [Bool.eq_iff_iff, List.contains_iff_mem, List.contains_iff_mem, List.mem_map]
  simp only [Text.lower_eq_empty, exists_eq_right]

/-- A blank text is mentioned by every message. -/
theorem mentions_eq (texts : List String) (message : String) :
    mentions texts message = (texts.contains "" || mentions (unblanked texts) message) := by
  induction texts with
  | nil => rfl
  | cons text rest ih =>
    rw [mentions, List.any_cons, ← mentions, ih]
    by_cases hblank : text = ""
    · subst hblank
      have hoccurs : Text.occursIn "".toList (Text.lower message).toList = true :=
        Text.occursIn_iff_infix.mpr List.nil_infix
      rw [hoccurs, List.contains_cons, beq_self_eq_true, Bool.true_or, Bool.true_or, Bool.true_or]
    · have hrest : unblanked (text :: rest) = text :: unblanked rest :=
        List.filter_cons_of_pos (by simpa using hblank)
      have hother : ("" == text) = false := by simpa using Ne.symm hblank
      rw [hrest, List.contains_cons, hother, Bool.false_or, Bool.or_left_comm]
      rfl

/-- A blank prefix is passed over. -/
theorem startsWithAny_unblanked (starts : List String) (state : String) :
    startsWithAny (unblanked starts) state = startsWithAny starts state := by
  rw [startsWithAny, startsWithAny, unblanked, List.any_filter]
  refine congrArg starts.any (funext fun start => ?_)
  rw [← Bool.and_assoc, Bool.and_self]

/-- No blank text is left. -/
theorem contains_unblanked (texts : List String) : (unblanked texts).contains "" = false := by
  simp [unblanked]

/-- A blank state is an empty one. -/
theorem contains_eq (states : List String) (state : String) :
    states.contains state = (state = "" && states.contains "" || (unblanked states).contains state)
    := by
  by_cases hblank : state = ""
  · rw [hblank, contains_unblanked, Bool.or_false, decide_eq_true rfl, Bool.true_and]
  · rw [decide_eq_false hblank, Bool.false_and, Bool.false_or, Bool.eq_iff_iff,
      List.contains_iff_mem, List.contains_iff_mem, unblanked, List.mem_filter]
    exact (and_iff_left (by simpa using hblank)).symm

/-- An empty message mentions blank texts only. -/
theorem mentions_unblanked_empty (texts : List String) : mentions (unblanked texts) "" = false := by
  refine Bool.eq_false_iff.mpr fun hmentions => ?_
  obtain ⟨text, htext, hoccurs⟩ := mentions_iff.mp hmentions
  have hempty : text.toList = [] := List.infix_nil.mp hoccurs
  have hfilled := (List.mem_filter.mp htext).2
  rw [String.toList_eq_nil_iff.mp hempty] at hfilled
  exact absurd rfl (of_decide_eq_true hfilled)

/-- An empty state starts with no prefix. -/
theorem startsWithAny_empty (starts : List String) : startsWithAny starts "" = false := by
  refine Bool.eq_false_iff.mpr fun hstarts => ?_
  obtain ⟨start, _, hfilled, hempty⟩ := startsWithAny_iff.mp hstarts
  exact hfilled (String.toList_eq_nil_iff.mp (List.prefix_nil.mp hempty))

/-! ## Rules -/

/-- The worse of two verdicts. -/
def Verdict.worse (v w : Verdict) : Verdict :=
  if v.rank ≤ w.rank then w else v

/-- The verdict that blank rules give by themselves, from whether there are some in each list. -/
def blankVerdict (blank : RuleLists Bool) (e : ErrorSignal) : Verdict :=
  if blank.connectionMessages then .connection
  else if blank.transientStates && e.sqlstate = some "" || blank.transientMessages then .transient
  else .fatal

namespace Rules

/-- The rules that are not blank. -/
def unblanked (rules : Rules) : Rules :=
  RuleLists.map PgWrite.unblanked rules

/-- Whether there are blank rules, for each list. -/
def blank (rules : Rules) : RuleLists Bool :=
  RuleLists.map (·.contains "") rules

theorem isConnectionIssue_eq (rules : Rules) (e : ErrorSignal) :
    rules.isConnectionIssue e =
      (rules.blank.connectionMessages || rules.unblanked.isConnectionIssue e) := by
  have hstate : e.sqlstate.any (startsWithAny rules.unblanked.connectionPrefixes) =
      e.sqlstate.any (startsWithAny rules.connectionPrefixes) :=
    congrArg e.sqlstate.any (funext (startsWithAny_unblanked rules.connectionPrefixes))
  rw [isConnectionIssue, isConnectionIssue, hstate, mentions_eq rules.connectionMessages,
    Bool.or_left_comm]
  rfl

theorem isTransientIssue_eq (rules : Rules) (e : ErrorSignal) :
    rules.isTransientIssue e =
      ((rules.blank.transientStates && e.sqlstate = some "" || rules.blank.transientMessages) ||
        rules.unblanked.isTransientIssue e) := by
  have hstate : (e.sqlstate.any fun state => rules.transientStates.contains (Text.lower state)) =
      ((rules.blank.transientStates && e.sqlstate = some "") ||
        e.sqlstate.any fun state =>
          rules.unblanked.transientStates.contains (Text.lower state)) := by
    cases e.sqlstate with
    | none => simp
    | some state =>
      rw [Option.any_some, Option.any_some, contains_eq]
      simp only [Text.lower_eq_empty, Option.some.injEq, Bool.and_comm]
      rfl
  rw [isTransientIssue, isTransientIssue, hstate, mentions_eq rules.transientMessages,
    Bool.or_assoc, Bool.or_left_comm (e.sqlstate.any _), ← Bool.or_assoc]
  rfl

/-- The verdict is the worse one of those by blank rules and by the others. -/
theorem classify_eq (rules : Rules) (e : ErrorSignal) :
    rules.classify e = (blankVerdict rules.blank e).worse (rules.unblanked.classify e) := by
  have hworse : ∀ lost lost' passing passing' : Bool,
      (if (lost || lost') = true then Verdict.connection
        else if (passing || passing') = true then .transient else .fatal) =
      (if lost = true then Verdict.connection else if passing = true then .transient
        else .fatal).worse
          (if lost' = true then .connection else if passing' = true then .transient
            else .fatal) := by
    decide
  rw [classify, classify, isConnectionIssue_eq, isTransientIssue_eq]
  exact hworse ..

/-- An error that has neither a text nor a SQLSTATE is fatal by rules that are not blank, whether
its SQLSTATE is left out or empty. -/
theorem classify_unblanked_silent (rules : Rules) {state : Option String} (code : Option Int)
    (hstate : ∀ s ∈ state, s = "") : rules.unblanked.classify ⟨state, code, ""⟩ = .fatal := by
  have hconnection : rules.unblanked.isConnectionIssue ⟨state, code, ""⟩ = false := by
    rw [isConnectionIssue, Bool.or_eq_false_iff]
    refine ⟨?_, mentions_unblanked_empty _⟩
    cases state with
    | none => rfl
    | some s =>
      obtain rfl := hstate s rfl
      exact startsWithAny_empty _
  have htransient : rules.unblanked.isTransientIssue ⟨state, code, ""⟩ = false := by
    rw [isTransientIssue, Bool.or_eq_false_iff]
    refine ⟨?_, mentions_unblanked_empty _⟩
    cases state with
    | none => rfl
    | some s =>
      obtain rfl := hstate s rfl
      exact contains_unblanked _
  rw [classify, hconnection, htransient]
  rfl

/-- Blank rules change no verdict just if none of them is a text or a state. -/
theorem classify_unblanked_iff (rules : Rules) :
    (∀ e, rules.classify e = rules.unblanked.classify e) ↔
      rules.blank.connectionMessages = false ∧ rules.blank.transientStates = false ∧
        rules.blank.transientMessages = false := by
  constructor
  · intro h
    have hsilent : ∀ state : Option String, (∀ s ∈ state, s = "") →
        blankVerdict rules.blank ⟨state, none, ""⟩ = .fatal := by
      intro state hstate
      have hverdict := h ⟨state, none, ""⟩
      rw [classify_eq, classify_unblanked_silent rules none hstate] at hverdict
      cases hblank : blankVerdict rules.blank ⟨state, none, ""⟩ with
      | fatal => rfl
      | transient | connection => rw [hblank] at hverdict; cases hverdict
    have hempty := hsilent (some "") fun s hs => (Option.some.inj hs).symm
    revert hempty
    unfold blankVerdict
    cases rules.blank.connectionMessages <;> cases rules.blank.transientStates <;>
      cases rules.blank.transientMessages <;> decide
  · rintro ⟨hconnection, hstates, hmessages⟩ e
    have hblank : blankVerdict rules.blank e = .fatal := by
      rw [blankVerdict, hconnection, hstates, hmessages]
      rfl
    rw [classify_eq, hblank]
    cases rules.unblanked.classify e <;> rfl

end Rules

/-! ## Rules as they are given -/

namespace RuleOverrides

/-- The given lists without their blank entries. -/
def unblanked (given : RuleOverrides) : RuleOverrides :=
  RuleLists.map (Option.map PgWrite.unblanked) given

/-- Whether a list is given with blank entries, for each list. -/
def blank (given : RuleOverrides) : RuleLists Bool :=
  RuleLists.map (fun list => list.any (·.contains "")) given

end RuleOverrides

/-- Taking blank entries out of the given lists takes them out of the rules, since no built-in rule
is blank. -/
theorem Rules.ofOverrides_unblanked (given : RuleOverrides) :
    Rules.ofOverrides given.unblanked = (Rules.ofOverrides given).unblanked := by
  have hlist : ∀ (list : Option (List String)) (default : List String),
      PgWrite.unblanked default = default →
        ((list.map PgWrite.unblanked).getD default).map Text.lower =
          PgWrite.unblanked ((list.getD default).map Text.lower) := by
    intro list default hdefault
    rw [unblanked_map_lower]
    cases list with
    | none => rw [Option.map_none, Option.getD_none, hdefault]
    | some texts => rfl
  unfold ofOverrides RuleOverrides.unblanked unblanked RuleLists.zipWith RuleLists.map
  rw [RuleLists.mk.injEq]
  exact ⟨hlist _ _ (by decide), hlist _ _ (by decide), hlist _ _ (by decide),
    hlist _ _ (by decide)⟩

theorem Rules.blank_ofOverrides (given : RuleOverrides) :
    (Rules.ofOverrides given).blank = given.blank := by
  have hlist : ∀ (list : Option (List String)) (default : List String),
      default.contains "" = false →
        ((list.getD default).map Text.lower).contains "" = list.any (·.contains "") := by
    intro list default hdefault
    rw [contains_blank_map_lower]
    cases list with
    | none => exact hdefault
    | some texts => rfl
  unfold ofOverrides RuleOverrides.blank blank RuleLists.zipWith RuleLists.map
  rw [RuleLists.mk.injEq]
  exact ⟨hlist _ _ (by decide), hlist _ _ (by decide), hlist _ _ (by decide),
    hlist _ _ (by decide)⟩

/-- Blank entries in the lists of rules make a verdict as bad as the one they give by themselves,
and no other: a blank text for a lost connection makes one of every error, a blank text for a
conflict makes every fatal error transient, a blank state those with an empty SQLSTATE, and a blank
prefix none. So they are without effect just if all of them are prefixes. -/
theorem blank_rules_decide (given : RuleOverrides) :
    (∀ e, (Rules.ofOverrides given).classify e =
      (blankVerdict given.blank e).worse ((Rules.ofOverrides given.unblanked).classify e)) ∧
    ((∀ e, (Rules.ofOverrides given).classify e =
        (Rules.ofOverrides given.unblanked).classify e) ↔
      given.blank.connectionMessages = false ∧ given.blank.transientStates = false ∧
        given.blank.transientMessages = false) := by
  rw [Rules.ofOverrides_unblanked, ← Rules.blank_ofOverrides]
  exact ⟨Rules.classify_eq _, Rules.classify_unblanked_iff _⟩

/-- A syntax error is fatal, but a blank text for a lost connection makes one of it. -/
example :
    let given : RuleOverrides := { noOverrides with connectionMessages := some [""] }
    let e : ErrorSignal := ⟨some "42601", none, "syntax error"⟩
    (Rules.ofOverrides given).classify e = .connection ∧
      (Rules.ofOverrides given.unblanked).classify e = .fatal := by
  decide +kernel

end PgWrite
