import PgWrite.Errors.DriverError
import PgWrite.Proofs.LowerCase
import PgWrite.Proofs.Success

/-!
# Wrapped errors

An error that only wraps another one is judged at least as badly: it has the SQLSTATE of the error
within, and its text holds the text of that error, or is that text where it would be empty. More
text around a message adds signs of trouble and takes none away, as long as lower-casing the
message does not depend on what stands around it.
-/

namespace PgWrite

/-! ## More text -/

/-- What a message mentions is mentioned by every message around it. -/
theorem mentions_of_infix {texts : List String} {message whole : String}
    (hsigma : 'Σ' ∉ message.toList) (hpart : message.toList <:+: whole.toList)
    (h : mentions texts message = true) : mentions texts whole = true := by
  obtain ⟨needle, hmem, hoccurs⟩ := mentions_iff.mp h
  exact mentions_iff.mpr ⟨needle, hmem, hoccurs.trans (Text.lower_infix hsigma hpart)⟩

/-- An error with the same SQLSTATE that mentions all that another one does is judged at least as
badly. -/
theorem Rules.rank_classify_le (rules : Rules) {e e' : ErrorSignal}
    (hstate : e'.sqlstate = e.sqlstate)
    (hmentions : ∀ texts, mentions texts e.message = true → mentions texts e'.message = true) :
    (rules.classify e).rank ≤ (rules.classify e').rank := by
  have hconnection : rules.isConnectionIssue e = true → rules.isConnectionIssue e' = true := by
    intro h
    rw [isConnectionIssue, Bool.or_eq_true] at h ⊢
    rw [hstate]
    exact h.imp_right (hmentions _)
  have htransient : rules.isTransientIssue e = true → rules.isTransientIssue e' = true := by
    intro h
    rw [isTransientIssue, Bool.or_eq_true] at h ⊢
    rw [hstate]
    exact h.imp_right (hmentions _)
  unfold classify
  by_cases hlost : rules.isConnectionIssue e = true
  · apply Nat.le_of_eq
    rw [if_pos hlost, if_pos (hconnection hlost)]
  · rw [if_neg hlost]
    by_cases hpassing : rules.isTransientIssue e = true
    -- a conflict may come to be seen as a lost connection, but not as less than a conflict
    · rw [if_pos hpassing, if_pos (htransient hpassing)]
      split <;> decide
    · rw [if_neg hpassing]
      exact Nat.zero_le _

/-! ## Wrapping -/

namespace DriverError

/-- None of the three places for a SQLSTATE holds a text that is not empty. -/
def BearsNoState (e : DriverError) : Prop :=
  ∀ place ∈ [e.attribute? "sqlstate", e.attribute? "pgcode",
      member? (e.attribute? "diag") "sqlstate"],
    ∀ s, place.bind Value.text? = some s → s = ""

theorem filledText?_eq_none {v : Option Value} (h : ∀ s, v.bind Value.text? = some s → s = "") :
    filledText? v = none := by
  rw [filledText?, Option.filter_eq_none_iff]
  intro s hs
  simpa using h s hs

theorem BearsNoState.sqlstate?_eq {e : DriverError} (h : e.BearsNoState) : e.sqlstate? = none := by
  have hplace := fun place hplace => filledText?_eq_none (h place hplace)
  rw [sqlstate?, hplace _ (by simp), hplace _ (by simp), hplace _ (by simp)]
  rfl

/-- An error that wraps no other one is reduced to what itself bears. -/
theorem signal_of_direct {e : DriverError} {text : String}
    (h : ∀ inner, e.origin ≠ .error inner) (htext : e.text = .ok text) :
    e.signal = .ok { sqlstate := e.sqlstate?, driverCode := e.code?, message := text } := by
  have hsources : e.sources = [e] := by
    unfold sources
    split
    · exact absurd ‹_› (h _)
    · rfl
  have hmessage : e.messageOf = .ok text := by
    unfold messageOf
    rw [htext]
    cases horigin : e.origin with
    | none | itself | other => rfl
    | error inner => exact absurd horigin (h inner)
  rw [signal, hsources, hmessage]
  simp only [List.findSome?_cons, List.findSome?_nil]
  cases e.sqlstate? <;> cases e.code? <;> rfl

/-- An error without a SQLSTATE that wraps another one has the SQLSTATE of that one, and its text if
it has none itself. -/
theorem signal_of_wrapping {w e : DriverError} {text wrapping : String}
    (hwraps : w.origin = .error e) (hstate : w.BearsNoState) (htext : e.text = .ok text)
    (hwrapping : w.text = .ok wrapping) :
    ∃ signal, w.signal = .ok signal ∧ signal.sqlstate = e.sqlstate? ∧
      signal.message = if wrapping = "" then text else wrapping := by
  have hmessage : w.messageOf = .ok (if wrapping = "" then text else wrapping) := by
    unfold messageOf
    rw [hwrapping, hwraps]
    by_cases hempty : wrapping = ""
    · rw [if_pos hempty]
      simpa only [bind, Except.bind, if_pos hempty] using htext
    · simp only [bind, Except.bind, if_neg hempty]
      rfl
  refine ⟨{ sqlstate := w.sources.findSome? sqlstate?, driverCode := w.sources.findSome? code?
            message := if wrapping = "" then text else wrapping }, ?_, ?_, rfl⟩
  · rw [signal, hmessage]
    rfl
  · simp only [sources, hwraps, List.findSome?_cons, List.findSome?_nil, hstate.sqlstate?_eq]
    cases e.sqlstate? <;> rfl

end DriverError

/-- An error without a SQLSTATE of its own that wraps an error, with a text that is empty or holds
the text of that error, has a verdict at least as bad, whatever number it bears. In particular, with
the SQLSTATE unchanged no text around a message makes the verdict better. -/
theorem Rules.verdict_not_downgraded (rules : Rules) :
    (∀ (e w : DriverError) (text wrapping : String), (∀ inner, e.origin ≠ .error inner) →
      w.origin = .error e → w.BearsNoState → e.text = .ok text → w.text = .ok wrapping →
      'Σ' ∉ text.toList → (wrapping = "" ∨ text.toList <:+: wrapping.toList) →
      ∃ signal wrapped, e.signal = .ok signal ∧ w.signal = .ok wrapped ∧
        (rules.classify signal).rank ≤ (rules.classify wrapped).rank) ∧
    (∀ (state : Option String) (code code' : Option Int) (message before after : String),
      'Σ' ∉ message.toList →
      (rules.classify ⟨state, code, message⟩).rank ≤
        (rules.classify ⟨state, code', before ++ message ++ after⟩).rank) := by
  constructor
  · intro e w text wrapping hdirect hwraps hstate htext hwrapping hsigma hholds
    have hsignal := DriverError.signal_of_direct hdirect htext
    obtain ⟨wrapped, hwrapped, hsame, hmessage⟩ :=
      DriverError.signal_of_wrapping hwraps hstate htext hwrapping
    refine ⟨_, wrapped, hsignal, hwrapped, rules.rank_classify_le hsame fun texts hmentions => ?_⟩
    rw [hmessage]
    by_cases hempty : wrapping = ""
    · rw [if_pos hempty]
      exact hmentions
    · rw [if_neg hempty]
      exact mentions_of_infix hsigma (hholds.resolve_left hempty) hmentions
  · intro state code code' message before after hsigma
    have hpart : message.toList <:+: (before ++ message ++ after).toList :=
      ⟨before.toList, after.toList, by simp only [String.toList_append]⟩
    exact rules.rank_classify_le rfl fun texts hmentions =>
      mentions_of_infix hsigma hpart hmentions

/-- A deadlock as a driver reports it. -/
def deadlock : DriverError :=
  .mk [.text "deadlock detected"] none none [("pgcode", .text "40P01")] .itself

/-- An error of the operating system around the deadlock. What stands at its places for a SQLSTATE
is a number and an empty text. -/
def wrappedDeadlock : DriverError :=
  .mk [.int 2013, .text "ΟΔΟΣ deadlock detectedΣ"]
    (some { SystemParts.nothing with
      number := some (.int 2013), text := some (.text "ΟΔΟΣ deadlock detectedΣ") })
    none [("sqlstate", .int 8), ("pgcode", .text "")] (.error deadlock)

theorem deadlock_not_downgraded : ∃ signal wrapped,
    deadlock.signal = .ok signal ∧ wrappedDeadlock.signal = .ok wrapped ∧
    ((Rules.ofOverrides noOverrides).classify signal).rank ≤
      ((Rules.ofOverrides noOverrides).classify wrapped).rank ∧
    ((Rules.ofOverrides noOverrides).classify ⟨some "40P01", none, "deadlock detected"⟩).rank ≤
      ((Rules.ofOverrides noOverrides).classify
        ⟨some "40P01", some 2013, "ΟΔΟΣ " ++ "deadlock detected" ++ "Σ"⟩).rank := by
  have hdirect : ∀ inner, deadlock.origin ≠ .error inner := by
    intro inner h
    cases h
  have hstate : wrappedDeadlock.BearsNoState := by
    intro place hplace s hs
    simp only [List.mem_cons, List.not_mem_nil, or_false] at hplace
    rcases hplace with rfl | rfl | rfl
    · cases hs
    · exact (Option.some.inj hs).symm
    · cases hs
  have htext : deadlock.text = .ok "deadlock detected" := rfl
  have hwrapping : wrappedDeadlock.text =
      .ok ("[Errno " ++ Text.decimal 2013 ++ "] " ++ "ΟΔΟΣ deadlock detectedΣ") := rfl
  have hsigma : 'Σ' ∉ "deadlock detected".toList := by decide
  have hheld : "deadlock detected".toList <:+: "ΟΔΟΣ deadlock detectedΣ".toList :=
    ⟨"ΟΔΟΣ ".toList, ['Σ'], by decide⟩
  have hholds : "deadlock detected".toList <:+:
      ("[Errno " ++ Text.decimal 2013 ++ "] " ++ "ΟΔΟΣ deadlock detectedΣ").toList := by
    rw [String.toList_append]
    exact hheld.trans (List.suffix_append _ _).isInfix
  obtain ⟨hwrapped, haround⟩ := Rules.verdict_not_downgraded (Rules.ofOverrides noOverrides)
  obtain ⟨signal, wrapped, hsignal, hsignal', hrank⟩ := hwrapped deadlock wrappedDeadlock
    "deadlock detected" _ hdirect rfl hstate htext hwrapping hsigma (.inr hholds)
  have htexts := haround (some "40P01") none (some 2013) "deadlock detected" "ΟΔΟΣ " "Σ" hsigma
  exact ⟨signal, wrapped, hsignal, hsignal', hrank, htexts⟩

end PgWrite
