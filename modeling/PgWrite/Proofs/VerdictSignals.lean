import PgWrite.Errors.GivenSignal
import PgWrite.Proofs.LowerCase
import PgWrite.Proofs.RulePrecedence

/-!
# What a verdict depends on

A verdict looks at the rules and at the error in lower case only, and at each rule list for its
members only. So it does not depend on the order of the rules, on repetitions, on the case of
letters or on the code of the driver. A SQLSTATE is compared with the transient states as a whole,
and a sign of a lost connection outranks all signs of a conflict.
-/

namespace PgWrite

/-! ## Signs -/

namespace Rules

variable {rules rules' : Rules} {e e' : ErrorSignal}

/-- In lower case the SQLSTATE starts with a prefix of lost connections that is not empty, or some
text of theirs is part of the message. -/
def SaysLost (rules : Rules) (e : ErrorSignal) : Prop :=
  (∃ state ∈ e.sqlstate.map Text.lower, ∃ start ∈ rules.connectionPrefixes,
    start ≠ "" ∧ start.toList <+: state.toList) ∨
  ∃ text ∈ rules.connectionMessages, text.toList <:+: (Text.lower e.message).toList

/-- In lower case the SQLSTATE is one of the transient states, or some transient text is part of the
message. -/
def SaysConflict (rules : Rules) (e : ErrorSignal) : Prop :=
  (∃ state ∈ e.sqlstate.map Text.lower, state ∈ rules.transientStates) ∨
  ∃ text ∈ rules.transientMessages, text.toList <:+: (Text.lower e.message).toList

theorem isConnectionIssue_iff : rules.isConnectionIssue e = true ↔ rules.SaysLost e := by
  rw [isConnectionIssue, Bool.or_eq_true, mentions_iff, SaysLost]
  refine or_congr_left ?_
  cases e.sqlstate with
  | none => simp
  | some state => simp [startsWithAny_iff]

theorem isTransientIssue_iff : rules.isTransientIssue e = true ↔ rules.SaysConflict e := by
  rw [isTransientIssue, Bool.or_eq_true, mentions_iff, SaysConflict]
  refine or_congr_left ?_
  cases e.sqlstate with
  | none => simp
  | some state => simp

/-- The verdicts by the signs. -/
theorem classify_iff :
    (rules.classify e = .connection ↔ rules.SaysLost e) ∧
    (rules.classify e = .transient ↔ ¬ rules.SaysLost e ∧ rules.SaysConflict e) ∧
    (rules.classify e = .fatal ↔ ¬ rules.SaysLost e ∧ ¬ rules.SaysConflict e) := by
  rw [← isConnectionIssue_iff, ← isTransientIssue_iff, classify]
  cases rules.isConnectionIssue e <;> cases rules.isTransientIssue e <;> simp

/-- A sign depends on the members of the lists and on the error in lower case. -/
theorem saysLost_congr (hrules : ∀ l text, text ∈ rules.get l ↔ text ∈ rules'.get l)
    (hstate : e.sqlstate.map Text.lower = e'.sqlstate.map Text.lower)
    (hmessage : Text.lower e.message = Text.lower e'.message) :
    rules.SaysLost e ↔ rules'.SaysLost e' := by
  have hprefixes (text : String) :
      text ∈ rules.connectionPrefixes ↔ text ∈ rules'.connectionPrefixes :=
    hrules .connectionPrefixes text
  have hmessages (text : String) :
      text ∈ rules.connectionMessages ↔ text ∈ rules'.connectionMessages :=
    hrules .connectionMessages text
  simp only [SaysLost, hstate, hmessage, hprefixes, hmessages]

theorem saysConflict_congr (hrules : ∀ l text, text ∈ rules.get l ↔ text ∈ rules'.get l)
    (hstate : e.sqlstate.map Text.lower = e'.sqlstate.map Text.lower)
    (hmessage : Text.lower e.message = Text.lower e'.message) :
    rules.SaysConflict e ↔ rules'.SaysConflict e' := by
  have hstates (text : String) : text ∈ rules.transientStates ↔ text ∈ rules'.transientStates :=
    hrules .transientStates text
  have hmessages (text : String) :
      text ∈ rules.transientMessages ↔ text ∈ rules'.transientMessages :=
    hrules .transientMessages text
  simp only [SaysConflict, hstate, hmessage, hstates, hmessages]

theorem classify_congr (hrules : ∀ l text, text ∈ rules.get l ↔ text ∈ rules'.get l)
    (hstate : e.sqlstate.map Text.lower = e'.sqlstate.map Text.lower)
    (hmessage : Text.lower e.message = Text.lower e'.message) :
    rules.classify e = rules'.classify e' := by
  have hlost : rules.isConnectionIssue e = rules'.isConnectionIssue e' := by
    rw [Bool.eq_iff_iff, isConnectionIssue_iff, isConnectionIssue_iff]
    exact saysLost_congr hrules hstate hmessage
  have hconflict : rules.isTransientIssue e = rules'.isTransientIssue e' := by
    rw [Bool.eq_iff_iff, isTransientIssue_iff, isTransientIssue_iff]
    exact saysConflict_congr hrules hstate hmessage
  rw [classify, classify, hlost, hconflict]

/-- Where no transient state has the length of the SQLSTATE, only the message tells of a
conflict. -/
theorem exists_message_of_saysConflict
    (hlength : ∀ state ∈ e.sqlstate.map Text.lower, ∀ other ∈ rules.transientStates,
      other.length ≠ state.length) (h : rules.SaysConflict e) :
    ∃ text ∈ rules.transientMessages, text.toList <:+: (Text.lower e.message).toList := by
  refine h.resolve_left ?_
  rintro ⟨state, hstate, hmem⟩
  exact hlength state hstate state hmem rfl

end Rules

/-! ## Rules as they are given -/

/-- Rule lists as values. -/
def RuleOverrides.values (given : RuleOverrides) : RuleLists Value :=
  given.map (optionValue fun texts => .ofList (texts.map .text))

theorem listOf_optionValue (list : Option (List String)) (default : List String) :
    GivenRules.listOf (optionValue (fun texts => .ofList (texts.map .text)) list) default =
      .ok (((list.getD default).map Text.lower).map .text) := by
  have hlower (texts : List String) : (texts.map GivenText.text).map GivenText.lower =
      (texts.map Text.lower).map .text := by
    rw [List.map_map, List.map_map]
    rfl
  cases list with
  | none => exact congrArg Except.ok (hlower default)
  | some texts =>
    have hitems : (texts.map Value.text).mapM GivenText.ofValue = .ok (texts.map .text) := by
      rw [mapM_eq_ok_iff, List.map_map, List.map_map]
      rfl
    have hwhole : (Value.ofList (texts.map .text)).elements = .ok (texts.map .text) := rfl
    exact bind_eq_ok.mpr ⟨_, hwhole, bind_eq_ok.mpr ⟨_, hitems, congrArg Except.ok (hlower texts)⟩⟩

/-- Rule lists that are given as values become the rules. -/
theorem ofValues_values (given : RuleOverrides) :
    GivenRules.ofValues given.values = .ok (Rules.ofOverrides given).given := by
  simp only [GivenRules.ofValues, RuleOverrides.values, RuleLists.map, listOf_optionValue]
  rfl

/-- Rules do not keep the case of the letters of ASCII. -/
theorem ofOverrides_congr {given given' : RuleOverrides}
    (h : given.map (Option.map (List.map String.toLower)) =
      given'.map (Option.map (List.map String.toLower))) :
    Rules.ofOverrides given = Rules.ofOverrides given' := by
  have hlower (texts : List String) : (texts.map String.toLower).map Text.lower =
      texts.map Text.lower := by
    rw [List.map_map]
    exact List.map_congr_left fun s _ => Text.lower_toLower s
  refine RuleLists.ext_get fun l => ?_
  have hl := congrArg (RuleLists.get · l) h
  rw [RuleLists.get_map, RuleLists.get_map] at hl
  rw [Rules.ofOverrides, Rules.ofOverrides, RuleLists.get_zipWith, RuleLists.get_zipWith]
  cases hlist : given.get l with
  | none =>
    rw [hlist, Option.map_none] at hl
    rw [Option.map_eq_none_iff.mp hl.symm]
  | some texts =>
    rw [hlist, Option.map_some] at hl
    obtain ⟨texts', hlist', hsame⟩ := Option.map_eq_some_iff.mp hl.symm
    rw [hlist', Option.getD_some, Option.getD_some, ← hlower texts, ← hsame, hlower]

/-- On rules and errors that are texts there is a verdict: a lost connection if the SQLSTATE starts
with a prefix that is not empty or the message has some text of that kind, else a conflict if the
SQLSTATE is a transient state or the message has some text of that kind, else a fatal error. A
SQLSTATE whose length is that of no transient state tells of no conflict. The verdict is the same
for rules with the same members in lower case and for an error that is the same in lower case,
whatever its driver code, and so for any change in the case of letters of ASCII. -/
theorem verdict_of_members (given : RuleOverrides) (e : ErrorSignal) :
    (GivenRules.ofValues given.values = .ok (Rules.ofOverrides given).given ∧
      e.given.classify (Rules.ofOverrides given).given =
        .ok ((Rules.ofOverrides given).classify e)) ∧
    (((Rules.ofOverrides given).classify e = .connection ↔
        (Rules.ofOverrides given).SaysLost e) ∧
      ((Rules.ofOverrides given).classify e = .transient ↔
        ¬ (Rules.ofOverrides given).SaysLost e ∧ (Rules.ofOverrides given).SaysConflict e) ∧
      ((Rules.ofOverrides given).classify e = .fatal ↔
        ¬ (Rules.ofOverrides given).SaysLost e ∧ ¬ (Rules.ofOverrides given).SaysConflict e)) ∧
    ((∀ state ∈ e.sqlstate.map Text.lower, ∀ other ∈ (Rules.ofOverrides given).transientStates,
        other.length ≠ state.length) → (Rules.ofOverrides given).SaysConflict e →
      ∃ text ∈ (Rules.ofOverrides given).transientMessages,
        text.toList <:+: (Text.lower e.message).toList) ∧
    ∀ (given' : RuleOverrides) (e' : ErrorSignal),
      ((∀ l text, text ∈ (Rules.ofOverrides given).get l ↔
          text ∈ (Rules.ofOverrides given').get l) →
        e.sqlstate.map Text.lower = e'.sqlstate.map Text.lower →
        Text.lower e.message = Text.lower e'.message →
        (Rules.ofOverrides given).classify e = (Rules.ofOverrides given').classify e') ∧
      (given.map (Option.map (List.map String.toLower)) =
          given'.map (Option.map (List.map String.toLower)) →
        e.sqlstate.map String.toLower = e'.sqlstate.map String.toLower →
        e.message.toLower = e'.message.toLower →
        (Rules.ofOverrides given).classify e = (Rules.ofOverrides given').classify e') := by
  refine ⟨⟨ofValues_values given, classify_given e _⟩, Rules.classify_iff,
    Rules.exists_message_of_saysConflict, fun given' e' => ⟨Rules.classify_congr, ?_⟩⟩
  intro hgiven hstate hmessage
  have hfolded (state : Option String) :
      state.map Text.lower = (state.map String.toLower).map Text.lower := by
    rw [Option.map_map]
    exact Option.map_congr fun s _ => (Text.lower_toLower s).symm
  refine Rules.classify_congr (fun l text => by rw [ofOverrides_congr hgiven]) ?_ ?_
  · rw [hfolded, hstate, ← hfolded]
  · rw [← Text.lower_toLower, hmessage, Text.lower_toLower]

/-- A deadlock is told by two lists of states with the same members, and in letters of either
case. -/
theorem deadlock_told_alike :
    let states (texts : List String) : Rules :=
      Rules.ofOverrides (noOverrides.set .transientStates (some texts))
    let e : ErrorSignal := ⟨some "40P01", some 7, "Deadlock"⟩
    let e' : ErrorSignal := ⟨some "40p01", none, "DEADLOCK"⟩
    (states ["40p01", "40001"]).classify e = (states ["40001", "40P01", "40001"]).classify e' ∧
      (states ["40P01"]).classify e = (states ["40p01"]).classify e' := by
  intro states e e'
  have hmembers : ∀ l text, text ∈ (states ["40p01", "40001"]).get l ↔
      text ∈ (states ["40001", "40P01", "40001"]).get l := by
    intro l text
    by_cases hl : l = .transientStates
    · subst hl
      have hlist : (states ["40p01", "40001"]).get .transientStates = ["40p01", "40001"] := by
        decide
      have hlist' : (states ["40001", "40P01", "40001"]).get .transientStates =
          ["40001", "40p01", "40001"] := by
        decide
      rw [hlist, hlist']
      grind
    · simp only [states, Rules.ofOverrides, RuleLists.get_zipWith, RuleLists.get_set_of_ne hl]
  have hverdict (texts : List String) :=
    (verdict_of_members (noOverrides.set .transientStates (some texts)) e).2.2.2
  have hfold {s t : String} (h : s.toList.map Char.toLower = t.toList.map Char.toLower) :
      s.toLower = t.toLower := by
    have hchars (s : String) : s.toLower.toList = s.toList.map Char.toLower := String.toList_map
    rw [← String.toList_inj, hchars, hchars, h]
  have hstate : "40P01".toLower = "40p01".toLower := hfold (by decide)
  have hgiven : (noOverrides.set .transientStates (some ["40P01"])).map
        (Option.map (List.map String.toLower)) =
      (noOverrides.set .transientStates (some ["40p01"])).map
        (Option.map (List.map String.toLower)) := by
    simp only [RuleLists.set, RuleLists.map, Option.map_some, List.map_cons, hstate]
  exact ⟨(hverdict _ _ e').1 hmembers (by decide) (by decide),
    (hverdict _ _ e').2 hgiven (congrArg some hstate) (hfold (by decide))⟩

end PgWrite
