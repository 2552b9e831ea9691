import Mathlib.Data.List.Basic
import PgWrite.Log.Redaction
import PgWrite.Proofs.LowerCase

/-!
# What redaction discloses

Of a tree of mappings and lists, redaction rewrites the mappings it comes to through mappings only.
What stands in a list is logged as it is, so the credentials that are disclosed are those within
lists; and two trees are logged alike just if they are told apart by credentials outside of lists.
-/

namespace PgWrite

/-- A key that mentions a credential. -/
def sensitiveKey (key : Value) : Bool :=
  key.text?.any isSensitive

/-- Letters of ASCII are folded to small ones. -/
theorem foldedChar_eq {c : Char} (h : c.toLower.toNat < 128) : foldedChar c = c.toLower := by
  have hascii : ∀ n : Fin 128, foldedChar (Char.ofNat n) = (Char.ofNat n).toLower := by
    decide
  have hc : c.toNat < 128 := by
    unfold Char.toLower at h
    split at h
    · rename_i hcapital
      have hle : c.toNat ≤ 90 := hcapital.2
      omega
    · exact h
  have hfolded := hascii ⟨c.toNat, hc⟩
  rwa [Char.ofNat_toNat] at hfolded

/-- A key that contains a word for a credential, in letters of either case, mentions one. -/
theorem isSensitive_of_infix {key word : String} (hword : word ∈ sensitiveWords)
    (h : word.toList <:+: key.toList.map Char.toLower) : isSensitive key = true := by
  have hascii : ∀ word ∈ sensitiveWords, word.toList.all (fun c => c.toNat < 128) = true := by
    decide
  obtain ⟨part, hpart, hlower⟩ := List.infix_map_iff.mp h
  have hfolded : part.map foldedChar = word.toList := by
    rw [hlower]
    refine List.map_congr_left fun c hc => foldedChar_eq ?_
    have hmem : c.toLower ∈ word.toList := hlower ▸ List.mem_map_of_mem hc
    exact of_decide_eq_true (List.all_eq_true.mp (hascii word hword) _ hmem)
  refine List.any_eq_true.mpr ⟨word, hword, Text.occursIn_iff_infix.mpr ?_⟩
  rw [← hfolded]
  exact hpart.map foldedChar

/-- An entry of a mapping as it is logged. -/
def redactEntry (e : Value × Value) : Value × Value :=
  (e.1, if sensitiveKey e.1 then redacted else redactValue e.2)

theorem redactEntries_eq (entries : List (Value × Value)) :
    redactEntries entries = entries.map redactEntry := by
  induction entries with
  | nil => rw [redactEntries, List.map_nil]
  | cons e rest ih =>
    rw [redactEntries, List.map_cons, ih]
    rfl

theorem redactValue_map (identity : Nat) (entries : List (Value × Value)) :
    redactValue (.map identity entries) = .map identity (entries.map redactEntry) := by
  rw [redactValue, redactEntries_eq]

/-- What is logged as a mapping is one. -/
theorem exists_of_redactValue_eq_map {v : Value} {identity : Nat} {logged : List (Value × Value)}
    (h : redactValue v = .map identity logged) :
    ∃ entries, v = .map identity entries ∧ logged = entries.map redactEntry := by
  cases v with
  | map given entries =>
    rw [redactValue_map] at h
    cases h
    exact ⟨entries, rfl, rfl⟩
  | _ => cases h

/-- What is not logged as a mapping is logged as it is. -/
theorem eq_of_redactValue_eq {v w : Value} (h : redactValue v = w)
    (hw : ∀ identity entries, w ≠ .map identity entries) : v = w := by
  cases v with
  | map identity entries =>
    rw [redactValue_map] at h
    exact absurd h.symm (hw _ _)
  | _ => exact h

/-! ## Credentials -/

/-- The entry stands in a mapping of a tree, at any depth of mappings and lists. -/
inductive EntryIn (key w : Value) : Value → Prop
  | entry {identity : Nat} {entries : List (Value × Value)} (h : (key, w) ∈ entries) :
    EntryIn key w (.map identity entries)
  | inEntry {identity : Nat} {entries : List (Value × Value)} {e : Value × Value}
    (he : e ∈ entries) (h : EntryIn key w e.2) : EntryIn key w (.map identity entries)
  | inItem {identity : Nat} {items : List Value} {v : Value} (hv : v ∈ items)
    (h : EntryIn key w v) : EntryIn key w (.list identity items)

/-- The list stands in a tree with nothing but mappings around it, and under no key that mentions a
credential. -/
inductive ExposedIn (items : List Value) : Value → Prop
  | here {identity : Nat} : ExposedIn items (.list identity items)
  | inEntry {identity : Nat} {entries : List (Value × Value)} {e : Value × Value}
    (he : e ∈ entries) (hkey : sensitiveKey e.1 = false) (h : ExposedIn items e.2) :
    ExposedIn items (.map identity entries)

/-- A credential that is logged stands in a list that is exposed. -/
theorem exposed_of_logged {key w logged : Value} (h : EntryIn key w logged)
    (hkey : sensitiveKey key = true) (hw : w ≠ redacted) {v : Value}
    (hv : redactValue v = logged) :
    ∃ items, ExposedIn items v ∧ ∃ item ∈ items, EntryIn key w item := by
  induction h generalizing v with
  | entry hmem =>
    obtain ⟨entries, rfl, rfl⟩ := exists_of_redactValue_eq_map hv
    obtain ⟨e, _, he⟩ := List.mem_map.mp hmem
    obtain ⟨rfl, hvalue⟩ := Prod.mk.inj he
    rw [if_pos hkey] at hvalue
    exact absurd hvalue.symm hw
  | inEntry hmem hentry ih =>
    obtain ⟨entries, rfl, rfl⟩ := exists_of_redactValue_eq_map hv
    obtain ⟨e, he, rfl⟩ := List.mem_map.mp hmem
    by_cases hsensitive : sensitiveKey e.1 = true
    -- what stands in place of a credential holds no entries
    · rw [redactEntry, if_pos hsensitive] at hentry
      cases hentry
    · have hlogged : (redactEntry e).2 = redactValue e.2 := if_neg hsensitive
      obtain ⟨items, hexposed, hitem⟩ := ih hlogged.symm
      exact ⟨items, .inEntry he (Bool.eq_false_iff.mpr hsensitive) hexposed, hitem⟩
  | inItem hmem hentry =>
    obtain rfl := eq_of_redactValue_eq hv nofun
    exact ⟨_, .here, _, hmem, hentry⟩

/-- What stands in a list that is exposed is logged. -/
theorem logged_of_exposed {items : List Value} {v : Value} (h : ExposedIn items v)
    {item key w : Value} (hitem : item ∈ items) (hentry : EntryIn key w item) :
    EntryIn key w (redactValue v) := by
  induction h with
  | here => exact .inItem hitem hentry
  | @inEntry identity entries e he hkey _ ih =>
    have hlogged : (redactEntry e).2 = redactValue e.2 := if_neg (Bool.eq_false_iff.mp hkey)
    rw [redactValue_map]
    rw [← hlogged] at ih
    exact .inEntry (List.mem_map_of_mem he) ih

/-! ## Trees that are logged alike -/

/-- The trees differ at most in the values under keys that mention credentials, in the mappings that
are come to through mappings only. Each entry of two such mappings is written as its key with both
of its values. -/
inductive Value.Alike : Value → Value → Prop
  | refl (v : Value) : Alike v v
  | map (identity : Nat) {entries : List (Value × Value × Value)}
    (h : ∀ e ∈ entries, sensitiveKey e.1 = false → Alike e.2.1 e.2.2) :
    Alike (.map identity (entries.map fun e => (e.1, e.2.1)))
      (.map identity (entries.map fun e => (e.1, e.2.2)))

theorem Value.Alike.redactValue_eq {v w : Value} (h : v.Alike w) :
    redactValue v = redactValue w := by
  induction h with
  | refl v => rfl
  | map identity _ ih =>
    rw [redactValue_map, redactValue_map, List.map_map, List.map_map]
    refine congrArg (Value.map identity) (List.map_congr_left fun e he => ?_)
    rw [Function.comp_apply, Function.comp_apply, redactEntry, redactEntry]
    by_cases hsensitive : sensitiveKey e.1 = true
    · rw [if_pos hsensitive, if_pos hsensitive]
    · rw [if_neg hsensitive, if_neg hsensitive, ih e he (Bool.eq_false_iff.mpr hsensitive)]

mutual

/-- Trees that are logged alike are told apart by credentials only. -/
theorem alike_of_redactValue_eq (v : Value) {w : Value} (h : redactValue v = redactValue w) :
    v.Alike w := by
  cases v with
  | map identity entries =>
    rw [redactValue_map] at h
    obtain ⟨others, rfl, hothers⟩ := exists_of_redactValue_eq_map h.symm
    obtain ⟨both, rfl, rfl, hboth⟩ := exists_alike_of_map_redactEntry_eq entries hothers
    exact .map identity hboth
  | _ =>
    obtain rfl := eq_of_redactValue_eq h.symm nofun
    exact .refl _

/-- Entries that are logged alike have the same keys, and values that are alike unless they are
credentials. -/
theorem exists_alike_of_map_redactEntry_eq (entries : List (Value × Value))
    {others : List (Value × Value)} (h : entries.map redactEntry = others.map redactEntry) :
    ∃ both : List (Value × Value × Value), entries = both.map (fun e => (e.1, e.2.1)) ∧
      others = both.map (fun e => (e.1, e.2.2)) ∧
      ∀ e ∈ both, sensitiveKey e.1 = false → e.2.1.Alike e.2.2 := by
  cases entries with
  | nil =>
    obtain rfl := List.map_eq_nil_iff.mp h.symm
    exact ⟨[], rfl, rfl, List.forall_mem_nil _⟩
  | cons e rest =>
    obtain ⟨key, v⟩ := e
    cases others with
    | nil => cases h
    | cons other others =>
      obtain ⟨hhead, hrest⟩ := List.cons.inj h
      obtain ⟨rfl, hvalue⟩ := Prod.mk.inj hhead
      obtain ⟨both, rfl, rfl, hboth⟩ := exists_alike_of_map_redactEntry_eq rest hrest
      refine ⟨(other.1, v, other.2) :: both, rfl, rfl, List.forall_mem_cons.mpr ⟨?_, hboth⟩⟩
      intro hkey
      rw [if_neg (Bool.eq_false_iff.mp hkey), if_neg (Bool.eq_false_iff.mp hkey)] at hvalue
      exact alike_of_redactValue_eq v hvalue

end

/-! ## Disclosure -/

/-- A key that contains a word for a credential counts as sensitive, and of the credentials in a
tree those and only those are logged that stand in a list with nothing but mappings around it. What
two trees are logged as differs just if they differ in more than credentials outside of such
lists. -/
theorem redaction_discloses (tree : Value) :
    (∀ key : String, ∀ word ∈ sensitiveWords, word.toList <:+: key.toList.map Char.toLower →
      sensitiveKey (.text key) = true) ∧
    (∀ key w : Value, sensitiveKey key = true → w ≠ redacted →
      (EntryIn key w (redactValue tree) ↔
        ∃ items, ExposedIn items tree ∧ ∃ item ∈ items, EntryIn key w item)) ∧
    ∀ other : Value, redactValue tree = redactValue other ↔ tree.Alike other := by
  refine ⟨fun key word hword h => isSensitive_of_infix hword h, ?_, ?_⟩
  · intro key w hkey hw
    constructor
    · intro hlogged
      exact exposed_of_logged hlogged hkey hw rfl
    · rintro ⟨items, hexposed, item, hitem, hentry⟩
      exact logged_of_exposed hexposed hitem hentry
  · intro other
    exact ⟨alike_of_redactValue_eq tree, Value.Alike.redactValue_eq⟩

/-- A password in a mapping that stands in a list, beside one that does not. -/
def listedPassword (listed other : String) : Value :=
  .ofFields [("items", .ofList [.ofFields [("Password", .text listed)]]),
    ("db", .ofFields [("Password", .text other)])]

/-- The password in the list is logged, while the other one makes no difference. -/
theorem listedPassword_discloses :
    EntryIn (.text "Password") (.text "x") (redactValue (listedPassword "x" "y")) ∧
      redactValue (listedPassword "x" "y") = redactValue (listedPassword "x" "z") := by
  obtain ⟨hwords, hlogged, halike⟩ := redaction_discloses (listedPassword "x" "y")
  have hkey : sensitiveKey (.text "Password") = true :=
    hwords "Password" "password" (by decide) ⟨[], [], by decide⟩
  constructor
  · have hw : Value.text "x" ≠ redacted := by simp [redacted]
    refine (hlogged _ _ hkey hw).mpr ⟨[.ofFields [("Password", .text "x")]], ?_, _,
      List.mem_singleton_self _, .entry (List.mem_cons_self ..)⟩
    exact .inEntry (List.mem_cons_self ..) (by decide) .here
  · have hdb : Value.Alike (.ofFields [("Password", .text "y")])
        (.ofFields [("Password", .text "z")]) := by
      refine @Value.Alike.map 0 [(.text "Password", .text "y", .text "z")] fun e he hother => ?_
      rw [List.mem_singleton.mp he] at hother
      exact absurd hkey (Bool.eq_false_iff.mp hother)
    have hitems : Value.Alike (.ofList [.ofFields [("Password", .text "x")]])
        (.ofList [.ofFields [("Password", .text "x")]]) := .refl _
    refine (halike _).mpr (@Value.Alike.map 0
      [(.text "items", _, _), (.text "db", _, _)] (List.forall_mem_cons.mpr ⟨fun _ => hitems,
        List.forall_mem_singleton.mpr fun _ => hdb⟩))

end PgWrite
