import Mathlib
import PgWrite.Cli.Run
import PgWrite.Proofs.RuleFileFaults

/-!
# The command that classifies an error

The SQLSTATE and the message that a command line gives are texts, unless a double dash is glued to
their flag. The command answers with a verdict, or with an error message if the rule file that the
settings name cannot be used for a reason of the configuration. It stops on the unforeseen faults of
that file and on no others.
-/

namespace PgWrite.Cli

/-! ## What a command line gives -/

/-- What an option of text gives: a text, or nothing if a double dash is glued to its flag. -/
def IsArgument (v : Value) : Prop :=
  (∃ s, v = .text s) ∨ v = .ofList []

/-- The option is one of the form. -/
def OptionUse.Of (o : OptionUse) (f : Form) : Prop :=
  ∃ flag, (flag, o.action) ∈ f.options

/-- Every word that is an option is one of the form. -/
def Form.Knows (f : Form) (words : List Word) : Prop :=
  ∀ o, .option o ∈ words → o.Of f

/-- The value is an argument, unless it is a number. -/
def Given.Textual (g : Given) : Prop :=
  ∀ name v, (name, v) ∈ g.values → name ≠ "driver_code" → IsArgument v

/-- Only the code of the driver is a number. -/
theorem classifyForm_number {name : String} {flag : String}
    (h : (flag, .number name) ∈ classifyForm.options) : name = "driver_code" := by
  simp [classifyForm, helpOptions] at h
  exact h.2

namespace Form

variable {f : Form}

end Form

namespace Given

variable {g g' : Given} {o : OptionUse}

/-- An argument, or a number for the code of the driver, may be put in front of the values. -/
theorem Textual.cons (h : g.Textual) {name : String} {v : Value}
    (hv : name ≠ "driver_code" → IsArgument v) :
    Given.Textual { g with values := (name, v) :: g.values } := by
  intro other w hw hother
  rcases List.mem_cons.mp hw with hnew | hold
  · obtain ⟨rfl, rfl⟩ := Prod.mk.inj hnew
    exact hv hother
  · exact h other w hold hother

/-- A value of an option of the form is stored as an argument. -/
theorem Textual.store (h : g.Textual) (ho : o.Of classifyForm) {value : String}
    (hstore : g.store classifyForm o value = .ok g') : g'.Textual := by
  obtain ⟨flag, hflag⟩ := ho
  unfold Given.store at hstore
  split at hstore
  · cases hstore
  · cases hstore
    exact h.cons fun _ => .inl ⟨value, rfl⟩
  · rename_i hnumber
    split at hstore
    · cases hstore
      exact h.cons fun hname => absurd (classifyForm_number (hnumber ▸ hflag)) hname
    · cases hstore

theorem Textual.storeJoint (h : g.Textual) (ho : o.Of classifyForm) {value : List Char}
    (hstore : g.storeJoint classifyForm o value = .ok g') : g'.Textual := by
  unfold Given.storeJoint at hstore
  split at hstore
  · cases hstore
    exact h.cons fun _ => .inr rfl
  · cases hstore
    exact h.cons fun _ => .inr rfl
  · exact h.store ho hstore

/-- An option takes words from the front, and stores an argument. -/
theorem Textual.takeOption (h : g.Textual) (ho : o.Of classifyForm) {rest rest' : List Word}
    (htake : g.takeOption classifyForm o rest = .ok (g', rest')) :
    g'.Textual ∧ rest' ⊆ rest := by
  unfold Given.takeOption at htake
  split at htake
  · split at htake <;> cases htake
  · obtain ⟨stored, hstore, hpair⟩ := map_eq_ok.mp htake
    cases hpair
    exact ⟨h.storeJoint ho hstore, List.Subset.refl _⟩
  · obtain ⟨stored, hstore, hpair⟩ := map_eq_ok.mp htake
    cases hpair
    exact ⟨h.storeJoint ho hstore, List.Subset.refl _⟩
  · obtain ⟨stored, hstore, hpair⟩ := map_eq_ok.mp htake
    cases hpair
    exact ⟨h.store ho hstore, List.subset_cons_self ..⟩
  · cases htake

/-- Reading words of the form keeps the values arguments. -/
theorem Textual.read (turns : Nat) (h : g.Textual) {words : List Word}
    (hwords : classifyForm.Knows words)
    (hread : Given.read classifyForm turns false g words = .ok g') : g'.Textual := by
  induction turns generalizing g words with
  | zero =>
    cases hread
    exact h
  | succ turns ih =>
    have hskip (taken : List String) (rest : List Word) (hrest : classifyForm.Knows rest)
        (hread : Given.read classifyForm turns false (g.addExtras taken) rest = .ok g') :
        g'.Textual := by
      have htaken : (g.addExtras taken).Textual := h
      exact ih htaken hrest hread
    cases words with
    | nil =>
      cases hread
      exact h
    | cons word rest =>
      have hrest : classifyForm.Knows rest := fun o ho => hwords o (List.mem_cons_of_mem _ ho)
      cases word with
      | unknown s => exact hskip [s] rest hrest hread
      | option o =>
        obtain ⟨⟨taken, left⟩, htake, hread⟩ := bind_eq_ok.mp hread
        obtain ⟨htaken, hleft⟩ := h.takeOption (hwords o (List.mem_cons_self ..)) htake
        exact ih htaken (fun o ho => hrest o (hleft ho)) hread
      | marker | plain =>
        refine hskip _ _ (fun o ho => hwords o ?_) hread
        exact (List.dropWhile_sublist _).subset ho

/-- A value that is looked up is an argument. -/
theorem Textual.lookup (h : g.Textual) {name : String} (hname : name ≠ "driver_code") {v : Value}
    (hv : g.values.lookup name = some v) : IsArgument v := by
  obtain ⟨before, behind, hvalues, -⟩ := List.lookup_eq_some_iff.mp hv
  refine h name v ?_ hname
  rw [hvalues]
  exact List.mem_append_right _ (List.mem_cons_self ..)

end Given

section Answer

variable {w : World} {s : Settings} {path : String} {e : GivenSignal} {state : Option String}
  {message : String}

end Answer

end PgWrite.Cli
