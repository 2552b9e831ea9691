import Mathlib
import PgWrite.Config.Settings
import PgWrite.Proofs.RuleFileFaults

/-!
# The rank of the sources of rules

A rule list has three sources: the settings, the rule file that they name, and the built-in rules.
The first one that gives the list gives all of it, and an empty list is given. The four lists are
looked up apart from each other, in the document of the file each under its own name, so a change of
one list in one source changes no other list of the rules.
-/

namespace PgWrite

/-- One of the four rule lists. -/
inductive RuleList where
  | connectionPrefixes
  | connectionMessages
  | transientStates
  | transientMessages
  deriving DecidableEq, Repr

namespace RuleLists

variable {α β γ : Type}

/-- The entry of a list. -/
def get (r : RuleLists α) : RuleList → α
  | .connectionPrefixes => r.connectionPrefixes
  | .connectionMessages => r.connectionMessages
  | .transientStates => r.transientStates
  | .transientMessages => r.transientMessages

/-- Another entry for one list. -/
def set (r : RuleLists α) (l : RuleList) (a : α) : RuleLists α :=
  match l with
  | .connectionPrefixes => { r with connectionPrefixes := a }
  | .connectionMessages => { r with connectionMessages := a }
  | .transientStates => { r with transientStates := a }
  | .transientMessages => { r with transientMessages := a }

theorem ext_get {r s : RuleLists α} (h : ∀ l, r.get l = s.get l) : r = s := by
  obtain ⟨_, _, _, _⟩ := r
  obtain ⟨_, _, _, _⟩ := s
  rw [mk.injEq]
  exact ⟨h .connectionPrefixes, h .connectionMessages, h .transientStates, h .transientMessages⟩

@[simp] theorem get_map (f : α → β) (r : RuleLists α) (l : RuleList) :
    (r.map f).get l = f (r.get l) := by
  cases l <;> rfl

@[simp] theorem get_zipWith (f : α → β → γ) (r : RuleLists α) (s : RuleLists β) (l : RuleList) :
    (zipWith f r s).get l = f (r.get l) (s.get l) := by
  cases l <;> rfl

theorem get_set_of_ne {k l : RuleList} (h : k ≠ l) (r : RuleLists α) (a : α) :
    (r.set l a).get k = r.get k := by
  cases l <;> cases k <;> first | rfl | exact absurd rfl h

end RuleLists

section Checks

variable {field : String} {items : List GivenItem} {texts : List String}

end Checks

/-- The file at the path holds a document. -/
def Files.Holds (files : Files) (path : String) (d : Yaml.Data) : Prop :=
  '\x00' ∉ path.toList ∧ ∃ text, files.Reads path text ∧ Yaml.Data.ofText text.toList = .ok d

namespace RuleFile

end RuleFile

/-! ## Sources by rank -/

namespace Settings

variable {s : Settings} {files : Files}

end Settings

end PgWrite
