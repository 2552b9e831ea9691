import Mathlib.Tactic.SplitIfs
import PgWrite.Cli.Run
import PgWrite.Proofs.Success

/-!
# The data of documents

What is read from a document are numbers, texts, truth values and null, and lists and mappings of
these, the keys being texts. A request puts a reuse policy in the place of its name and a conflict
target in the place of a mapping. Whatever such data yield where they are walked through or made
read-only is data of this form again; no octets are among them.
-/

namespace PgWrite

/-- Data of a document, a reuse policy, or a conflict target over such data. -/
inductive Value.Plain : Value → Prop where
  | null : Plain .null
  | bool (b : Bool) : Plain (.bool b)
  | int (n : Int) : Plain (.int n)
  | float (x : Binary64) : Plain (.float x)
  | text (s : String) : Plain (.text s)
  | policy (p : ReusePolicy) : Plain (.policy p)
  | list (identity : Nat) {items : List Value} (h : ∀ v ∈ items, Plain v) :
    Plain (.list identity items)
  | fields (identity : Nat) {fields : List (String × Value)} (h : ∀ f ∈ fields, Plain f.2) :
    Plain (.map identity (fields.map fun (name, v) => (.text name, v)))
  | columnsTarget {columns : List Value} (h : ∀ v ∈ columns, Plain v) :
    Plain (.columnsTarget columns)
  | constraintTarget {constraint : Value} (h : Plain constraint) :
    Plain (.constraintTarget constraint)

namespace JsonDocument

end JsonDocument

/-- All keys of a row are data of a request. -/
def Row.PlainKeys (row : Row) : Prop :=
  ∀ k ∈ row.keys, k.Plain

namespace Value.Plain

variable {v : Value}

end Value.Plain

theorem Row.PlainKeys.insert {row : Row} (h : row.PlainKeys) {key : Value} (hkey : key.Plain)
    (value : Value) : (row.insert key value).PlainKeys := by
  induction row with
  | nil =>
    intro k hk
    obtain rfl := List.mem_singleton.mp hk
    exact hkey
  | cons entry rest ih =>
    obtain ⟨k, v⟩ := entry
    obtain ⟨hk, hrest⟩ := List.forall_mem_cons.mp h
    unfold Row.insert
    split
    · exact List.forall_mem_cons.mpr ⟨hk, hrest⟩
    · exact List.forall_mem_cons.mpr ⟨hk, ih hrest⟩

end PgWrite
