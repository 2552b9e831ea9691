import Mathlib.Data.List.Forall2
import PgWrite.Proofs.Disclosure

/-!
# What redaction changes

Redaction comes to the mappings of a tree through mappings, and under no key that mentions a
credential. A place in a tree is told by the numbers of the entries on the way to it, and the
mappings of a log are those that redaction comes to, at their places, with their keys in order and
with credentials replaced. So a tree is logged as it is just if all credentials that redaction comes
to are replaced already, as they are in every log.
-/

namespace PgWrite

/-! ## Keys that mention credentials -/

/-- A character that counts as a small letter: the letter itself, its capital, the long s or the
Kelvin sign. -/
inductive StandsFor : Char → Char → Prop where
  | letter (d : Char) : StandsFor d d
  | capital (d : Char) : StandsFor d.toUpper d
  | longS : StandsFor 'ſ' 's'
  | kelvin : StandsFor '\u212a' 'k'

/-- The key contains a word for a credential, each letter in one of its forms. -/
def MentionsCredential (key : String) : Prop :=
  ∃ word ∈ sensitiveWords, ∃ part, part <:+: key.toList ∧ List.Forall₂ StandsFor part word.toList

/-- Beyond ASCII only the long s and the Kelvin sign are folded. -/
theorem foldedChar_of_le {c : Char} (h : 128 ≤ c.toNat) :
    foldedChar c = if c = 'ſ' then 's' else if c = '\u212a' then 'k' else c := by
  have hcapital : ¬ ('A' ≤ c ∧ c ≤ 'Z') := by
    rintro ⟨-, hz⟩
    have hle : c.toNat ≤ 90 := hz
    omega
  rw [foldedChar, if_neg hcapital]

/-- A character is folded to a small letter just if it counts as that letter. -/
theorem foldedChar_eq_iff {c d : Char} (hd : d.isLower = true) :
    foldedChar c = d ↔ StandsFor c d := by
  have hascii : ∀ n : Fin 128, foldedChar (Char.ofNat n) = Char.ofNat n ∨
      (foldedChar (Char.ofNat n)).toUpper = Char.ofNat n := by decide
  have hcapital : ∀ n : Fin 128, (Char.ofNat n).isLower = true →
      foldedChar (Char.ofNat n) = Char.ofNat n ∧
        foldedChar (Char.ofNat n).toUpper = Char.ofNat n := by decide
  have hletter : foldedChar d = d ∧ foldedChar d.toUpper = d := by
    have hle : d.toNat ≤ 122 := of_decide_eq_true ((Bool.and_eq_true _ _).mp hd).2
    have hn := hcapital ⟨d.toNat, by omega⟩
    rw [Char.ofNat_toNat] at hn
    exact hn hd
  constructor
  · rintro rfl
    rcases Nat.lt_or_ge c.toNat 128 with hlt | hge
    · have hn := hascii ⟨c.toNat, hlt⟩
      rw [Char.ofNat_toNat] at hn
      rcases hn with hsame | hupper
      · rw [hsame]
        exact .letter c
      · have hstands := StandsFor.capital (foldedChar c)
        rwa [hupper] at hstands
    · rw [foldedChar_of_le hge]
      split
      · next hs =>
        subst hs
        exact .longS
      · split
        · next hk =>
          subst hk
          exact .kelvin
        · exact .letter c
  · intro h
    cases h with
    | letter => exact hletter.1
    | capital => exact hletter.2
    | longS | kelvin => rfl

/-- A key counts as sensitive just if it mentions a credential. -/
theorem isSensitive_iff {key : String} : isSensitive key = true ↔ MentionsCredential key := by
  have hlower : ∀ word ∈ sensitiveWords, word.toList.all Char.isLower = true := by decide
  have hspelled {word : String} (hword : word ∈ sensitiveWords) (part : List Char) :
      word.toList = part.map foldedChar ↔ List.Forall₂ StandsFor part word.toList := by
    rw [eq_comm, ← List.forall₂_eq_eq_eq, List.forall₂_map_left_iff, List.forall₂_iff_get,
      List.forall₂_iff_get]
    refine and_congr_right fun _ => forall_congr' fun i => forall_congr' fun _ => ?_
    refine forall_congr' fun hi => foldedChar_eq_iff ?_
    exact List.all_eq_true.mp (hlower word hword) _ (List.get_mem ..)
  rw [isSensitive, List.any_eq_true]
  refine exists_congr fun word => and_congr_right fun hword => ?_
  rw [Text.occursIn_iff_infix, List.infix_map_iff]
  exact exists_congr fun part => and_congr_right fun _ => hspelled hword part

theorem sensitiveKey_text {key : String} :
    sensitiveKey (.text key) = true ↔ MentionsCredential key := by
  rw [sensitiveKey, Value.text?, Option.any_some, isSensitive_iff]

/-- Only texts mention credentials. -/
theorem sensitiveKey_iff {key : Value} :
    sensitiveKey key = true ↔ ∃ text, key = .text text ∧ MentionsCredential text := by
  constructor
  · intro h
    cases key with
    | text s => exact ⟨s, rfl, sensitiveKey_text.mp h⟩
    | policy p =>
      -- the name of a policy is a text too
      cases p <;> exact absurd h (by decide)
    | _ => cases h
  · rintro ⟨text, rfl, h⟩
    exact sensitiveKey_text.mpr h

/-! ## Places in a tree -/

namespace Value

/-- The entries of a mapping. -/
def entries? : Value → Option (List (Value × Value))
  | .map _ entries => some entries
  | _ => none

/-- The entries of the mapping at a place. -/
def entriesAt? (v : Value) : List Nat → Option (List (Value × Value))
  | [] => v.entries?
  | i :: place => do
    let entries ← v.entries?
    let e ← entries[i]?
    e.2.entriesAt? place

/-- The entries of the mapping at a place, if no key on the way mentions a credential. -/
def searchedAt? (v : Value) : List Nat → Option (List (Value × Value))
  | [] => v.entries?
  | i :: place => do
    let entries ← v.entries?
    let e ← entries[i]?
    if sensitiveKey e.1 then none else e.2.searchedAt? place

/-- Induction over the mappings within mappings. -/
theorem induction_on_mappings {motive : Value → Prop} (v : Value)
    (leaf : ∀ v : Value, v.entries? = none → motive v)
    (map : ∀ identity entries, (∀ e ∈ entries, motive e.2) → motive (.map identity entries)) :
    motive v := by
  induction hsize : sizeOf v using Nat.strongRecOn generalizing v with
  | _ size ih =>
    cases v with
    | map identity entries =>
      refine map identity entries fun e he => ih (sizeOf e.2) ?_ e.2 rfl
      have hentry := List.sizeOf_lt_of_mem he
      have hvalue : sizeOf e = 1 + sizeOf e.1 + sizeOf e.2 := rfl
      rw [← hsize, Value.map.sizeOf_spec]
      omega
    | _ => exact leaf _ rfl

/-- What is found where no key on the way mentions a credential is what stands there. -/
theorem entriesAt?_of_searchedAt? {v : Value} {place : List Nat} {entries : List (Value × Value)}
    (h : v.searchedAt? place = some entries) : v.entriesAt? place = some entries := by
  induction place generalizing v with
  | nil => exact h
  | cons i place ih =>
    obtain ⟨outer, houter, h⟩ := Option.bind_eq_some_iff.mp h
    obtain ⟨e, he, h⟩ := Option.bind_eq_some_iff.mp h
    rw [Option.ite_none_left_eq_some] at h
    exact Option.bind_eq_some_iff.mpr
      ⟨outer, houter, Option.bind_eq_some_iff.mpr ⟨e, he, ih h.2⟩⟩

end Value

theorem redactValue_of_leaf {v : Value} (h : v.entries? = none) : redactValue v = v := by
  cases v with
  | map identity entries => cases h
  | _ => rfl

/-- Mappings are logged as mappings, and nothing else is. -/
theorem entries?_redactValue (v : Value) :
    (redactValue v).entries? = v.entries?.map (List.map redactEntry) := by
  cases v with
  | map identity entries =>
    rw [redactValue_map]
    rfl
  | _ => rfl

/-- The mappings of a log are those that redaction comes to, at their places. -/
theorem entriesAt?_redactValue (v : Value) (place : List Nat) :
    (redactValue v).entriesAt? place = (v.searchedAt? place).map (List.map redactEntry) := by
  induction place generalizing v with
  | nil => exact entries?_redactValue v
  | cons i place ih =>
    rw [Value.entriesAt?, Value.searchedAt?, entries?_redactValue]
    cases v.entries? with
    | none => rfl
    | some entries =>
      simp only [Option.map_some, Option.bind_eq_bind, Option.bind_some, List.getElem?_map]
      cases entries[i]? with
      | none => rfl
      | some e =>
        rw [Option.map_some, Option.bind_some, Option.bind_some, redactEntry]
        by_cases hsensitive : sensitiveKey e.1 = true
        -- below what stands in place of a credential there are no mappings
        · rw [if_pos hsensitive, if_pos hsensitive]
          cases place <;> rfl
        · rw [if_neg hsensitive, if_neg hsensitive]
          exact ih e.2

/-! ## Trees that are logged as they are -/

/-- A tree is logged as it is just if each credential that redaction comes to is replaced
already. -/
theorem redactValue_eq_self_iff {v : Value} :
    redactValue v = v ↔ ∀ place entries, v.searchedAt? place = some entries →
      ∀ e ∈ entries, sensitiveKey e.1 = true → e.2 = redacted := by
  constructor
  · intro hsame place entries hsearched e he hsensitive
    have hlogged := entriesAt?_redactValue v place
    rw [hsame, hsearched, Value.entriesAt?_of_searchedAt? hsearched, Option.map_some,
      Option.some.injEq] at hlogged
    have hentry : redactEntry e = e := by
      have hmap := List.map_inj_left.mp (hlogged.symm.trans (List.map_id entries).symm)
      exact hmap e he
    rw [redactEntry, if_pos hsensitive] at hentry
    exact (congrArg Prod.snd hentry).symm
  · intro h
    induction v using Value.induction_on_mappings with
    | leaf v hv => exact redactValue_of_leaf hv
    | map identity entries ih =>
      rw [redactValue_map]
      refine congrArg (Value.map identity) ?_
      refine (List.map_congr_left fun e he => ?_).trans (List.map_id entries)
      rw [redactEntry]
      by_cases hsensitive : sensitiveKey e.1 = true
      · rw [if_pos hsensitive, ← h [] entries rfl e he hsensitive]
        rfl
      · obtain ⟨i, hi⟩ := List.mem_iff_getElem?.mp he
        have hvalue : redactValue e.2 = e.2 := by
          apply ih e he
          intro place inner hinner
          apply h (i :: place) inner
          simp only [Value.searchedAt?, Value.entries?, Option.bind_eq_bind, Option.bind_some, hi,
            if_neg hsensitive, hinner]
        rw [if_neg hsensitive, hvalue]
        rfl

/-- What is logged twice is logged as it was the first time. -/
theorem redactValue_redactValue (v : Value) : redactValue (redactValue v) = redactValue v := by
  apply redactValue_eq_self_iff.mpr
  intro place logged hsearched e he hsensitive
  have hplace := Value.entriesAt?_of_searchedAt? hsearched
  rw [entriesAt?_redactValue] at hplace
  obtain ⟨entries, -, rfl⟩ := Option.map_eq_some_iff.mp hplace
  obtain ⟨entry, -, rfl⟩ := List.mem_map.mp he
  rw [redactEntry] at hsensitive ⊢
  rw [if_pos hsensitive]

/-! ## The log of a tree -/

/-- How a mapping is logged: its keys stay in their order, and the values under texts that mention
credentials are replaced, whatever they are. Other values stay as they are, unless they are mappings
themselves, which are logged in the same way. -/
structure LoggedAs (entries logged : List (Value × Value)) : Prop where
  keys : logged.map Prod.fst = entries.map Prod.fst
  credential : ∀ (i : Nat) (key : String) (v w : Value), entries[i]? = some (.text key, v) →
    logged[i]? = some (.text key, w) → MentionsCredential key → w = redacted
  leaf : ∀ (i : Nat) (key : String) (v w : Value), entries[i]? = some (.text key, v) →
    logged[i]? = some (.text key, w) → ¬ MentionsCredential key → v.entries? = none → w = v
  mapping : ∀ (i : Nat) (key : String) (v w : Value), entries[i]? = some (.text key, v) →
    logged[i]? = some (.text key, w) → ¬ MentionsCredential key → v.entries?.isSome →
    w = redactValue v

theorem loggedAs_map_redactEntry (entries : List (Value × Value)) :
    LoggedAs entries (entries.map redactEntry) := by
  have hentry {i : Nat} {key : String} {v w : Value} (h : entries[i]? = some (.text key, v))
      (hw : (entries.map redactEntry)[i]? = some (.text key, w)) :
      w = if sensitiveKey (.text key) then redacted else redactValue v := by
    rw [List.getElem?_map, h, Option.map_some, Option.some.injEq] at hw
    exact (congrArg Prod.snd hw).symm
  constructor
  · rw [List.map_map]
    rfl
  · intro i key v w h hw hkey
    rw [hentry h hw, if_pos (sensitiveKey_text.mpr hkey)]
  · intro i key v w h hw hkey hv
    rw [hentry h hw, if_neg (mt sensitiveKey_text.mp hkey), redactValue_of_leaf hv]
  · intro i key v w h hw hkey _
    rw [hentry h hw, if_neg (mt sensitiveKey_text.mp hkey)]

/-- Redaction comes to the mappings of a tree through mappings and under keys that mention no
credential, and logs them, and no others, at their places: with their keys in order, with every
value under a key that mentions a credential replaced, and with the other values kept but for the
mappings among them, which are logged in the same way. A log is logged as it is, and so is every
tree in which the credentials that redaction comes to are replaced already, in particular one whose
mappings have no key that mentions a credential. -/
theorem redaction_touches_credentials (tree : Value) :
    (∀ key, sensitiveKey (.text key) = true ↔ MentionsCredential key) ∧
    (∀ place entries, tree.searchedAt? place = some entries →
      ∃ logged, (redactValue tree).entriesAt? place = some logged ∧ LoggedAs entries logged) ∧
    (∀ place, tree.searchedAt? place = none → (redactValue tree).entriesAt? place = none) ∧
    redactValue (redactValue tree) = redactValue tree ∧
    (redactValue tree = tree ↔ ∀ place entries, tree.searchedAt? place = some entries →
      ∀ key v, (.text key, v) ∈ entries → MentionsCredential key → v = redacted) ∧
    ((∀ place entries, tree.entriesAt? place = some entries →
      ∀ key v, (.text key, v) ∈ entries → ¬ MentionsCredential key) → redactValue tree = tree) := by
  have hsame : redactValue tree = tree ↔ ∀ place entries,
      tree.searchedAt? place = some entries →
        ∀ key v, (.text key, v) ∈ entries → MentionsCredential key → v = redacted := by
    rw [redactValue_eq_self_iff]
    refine forall₃_congr fun place entries _ => ?_
    constructor
    · intro h key v hmem hkey
      exact h _ hmem (sensitiveKey_text.mpr hkey)
    · intro h e he hsensitive
      obtain ⟨key, v⟩ := e
      obtain ⟨text, rfl, hkey⟩ := sensitiveKey_iff.mp hsensitive
      exact h text v he hkey
  refine ⟨fun key => sensitiveKey_text, ?_, ?_, redactValue_redactValue tree, hsame, ?_⟩
  · intro place entries h
    refine ⟨entries.map redactEntry, ?_, loggedAs_map_redactEntry entries⟩
    rw [entriesAt?_redactValue, h, Option.map_some]
  · intro place h
    rw [entriesAt?_redactValue, h, Option.map_none]
  · intro hnone
    apply hsame.mpr
    intro place entries hsearched key v hmem hkey
    have hplace := Value.entriesAt?_of_searchedAt? hsearched
    exact absurd hkey (hnone place entries hplace key v hmem)

/-- What is known of a database: the account, a mapping under a key with a long s, and a list that
holds a password. -/
def accountFields : List (Value × Value) :=
  [(.text "user", .text "u"), (.text "pa\u017fsWord", .ofFields [("hint", .text "h")]),
    (.text "hosts", .ofList [.ofFields [("password", .text "x")]])]

/-- The account under a key of its own, beside a key with the Kelvin sign. -/
def accountTree : Value :=
  .ofFields [("db", .map 0 accountFields), ("to\u212aen", .null)]

/-- The mapping under the long s is replaced as a whole, while the password in the list is kept, as
it is in a tree that holds the list alone. -/
theorem accountTree_redacted :
    (∃ logged, (redactValue accountTree).entriesAt? [0] = some logged ∧
      LoggedAs accountFields logged ∧ logged[1]? = some (.text "pa\u017fsWord", redacted)) ∧
    (redactValue accountTree).entriesAt? [0, 1] = none ∧
    redactValue (redactValue accountTree) = redactValue accountTree ∧
    redactValue (.ofFields [("hosts", .ofList [.ofFields [("password", .text "x")]])]) =
      .ofFields [("hosts", .ofList [.ofFields [("password", .text "x")]])] := by
  obtain ⟨hkeys, hlogged, hhidden, htwice, -, -⟩ := redaction_touches_credentials accountTree
  have hlong : MentionsCredential "pa\u017fsWord" := (hkeys _).mp (by decide)
  obtain ⟨logged, hplace, hmapping⟩ := hlogged [0] accountFields rfl
  refine ⟨⟨logged, hplace, hmapping, ?_⟩, hhidden [0, 1] rfl, htwice, ?_⟩
  · obtain rfl : accountFields.map redactEntry = logged := by
      rw [entriesAt?_redactValue] at hplace
      exact Option.some.inj hplace
    exact congrArg some (Prod.ext rfl
      (hmapping.credential 1 "pa\u017fsWord" _ _ rfl rfl hlong))
  · apply (redaction_touches_credentials _).2.2.2.2.2
    rintro (_ | ⟨_ | i, place⟩) entries hentries key v hmem hkey
    · cases hentries
      obtain ⟨h, -⟩ := Prod.mk.inj (List.mem_singleton.mp hmem)
      cases h
      exact absurd ((hkeys "hosts").mpr hkey) (by decide)
    · cases place <;> cases hentries
    · cases hentries

end PgWrite
