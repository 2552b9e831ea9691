import PgWrite.Proofs.Outline
import PgWrite.Proofs.PlainData
import PgWrite.Proofs.Quoting

/-!
# The faults of requests

A request fails while it is built or while it is compiled. The checks of shape, the walks over
values, keys that cannot be keys and arguments that fit no signature are faults that are reported to
the user. Building has one more fault, an entry of a mapping that is no pair, and writing names has
one more, a name that is no text.
-/

namespace PgWrite

open Cli (isReported)

/-- A computation fails with such faults only. -/
def FailsOnly {α : Type} (P : Fault → Prop) (x : Except Fault α) : Prop :=
  ∀ fault, x = .error fault → P fault

namespace FailsOnly

variable {α β : Type} {P Q : Fault → Prop} {x : Except Fault α}

theorem ok (a : α) : FailsOnly P (.ok a) := nofun

theorem error {fault : Fault} (h : P fault) : FailsOnly P (.error fault : Except Fault α) := by
  rintro _ ⟨⟩
  exact h

theorem bind {f : α → Except Fault β} (hx : FailsOnly P x)
    (hf : ∀ a, x = .ok a → FailsOnly P (f a)) : FailsOnly P (x >>= f) := by
  intro fault h
  cases x with
  | error e =>
    cases h
    exact hx _ rfl
  | ok a => exact hf a rfl fault h

theorem map {f : α → β} (hx : FailsOnly P x) : FailsOnly P (x.map f) := by
  intro fault h
  cases x with
  | error e =>
    cases h
    exact hx _ rfl
  | ok a => cases h

theorem mapM {f : α → Except Fault β} {items : List α} (h : ∀ a ∈ items, FailsOnly P (f a)) :
    FailsOnly P (items.mapM f) := by
  induction items with
  | nil => exact .ok _
  | cons a items ih =>
    obtain ⟨ha, hrest⟩ := List.forall_mem_cons.mp h
    rw [List.mapM_cons]
    exact ha.bind fun b _ => (ih hrest).bind fun bs _ => .ok _

theorem forM {f : α → Except Fault Unit} {items : List α} (h : ∀ a ∈ items, FailsOnly P (f a)) :
    FailsOnly P (items.forM f) := by
  induction items with
  | nil => exact .ok _
  | cons a items ih =>
    obtain ⟨ha, hrest⟩ := List.forall_mem_cons.mp h
    exact ha.bind fun _ _ => ih hrest

end FailsOnly

end PgWrite
