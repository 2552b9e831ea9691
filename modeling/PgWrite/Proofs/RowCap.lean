import PgWrite.Proofs.Outline
import PgWrite.Proofs.Removal
import PgWrite.Proofs.TemplateReading

/-!
# Capped deletes

A capped delete removes rows with the identifiers it was given and no more of them than its limit
allows, whichever rows its selection gives. If the limit covers all identifiers and no two records
share one, at most as many rows are admitted as there are identifiers, so the selection gives them
all: the capped delete does what the plain one does, and a second run finds nothing to remove.
-/

namespace PgWrite

/-! ## Stored tables -/

namespace Stored

variable {d : Stored} {admits : Record → Bool}

theorem ext_rows {d d' : Stored} (h : d.rows = d'.rows) : d = d' := by
  cases d
  cases d'
  cases h
  rfl

theorem mem_addresses {a : Nat} :
    a ∈ d.addresses admits ↔ ∃ record, (a, record) ∈ d.rows ∧ admits record = true := by
  simp [addresses]

/-- Every admitted row has an address of its own. -/
theorem card_addresses : (d.addresses admits).card = d.rows.countP fun r => admits r.2 := by
  have hnodup := d.distinct.sublist
    ((d.rows.filter_sublist (p := fun r => admits r.2)).map Prod.fst)
  rw [addresses, List.toFinset_card_of_nodup hnodup, List.length_map, List.countP_eq_length_filter]

/-- There is one row at an address. -/
theorem eq_of_mem {r r' : Nat × Record} (h : r ∈ d.rows) (h' : r' ∈ d.rows) (he : r.1 = r'.1) :
    r = r' :=
  List.inj_on_of_nodup_map d.distinct h h' he

/-- The addresses of the admitted rows are those of no other row. -/
theorem mem_addresses_iff {r : Nat × Record} (h : r ∈ d.rows) :
    r.1 ∈ d.addresses admits ↔ admits r.2 = true := by
  rw [mem_addresses]
  constructor
  · rintro ⟨record, hmem, hadmits⟩
    have hrecord : record = r.2 := congrArg Prod.snd (eq_of_mem hmem h rfl)
    rwa [← hrecord]
  · intro hadmits
    exact ⟨r.2, h, hadmits⟩

/-- Without the addresses of the admitted rows, the other rows are left. -/
theorem without_addresses : d.without (d.addresses admits) = d.keep fun r => !admits r.2 := by
  refine ext_rows (List.filter_congr fun r hr => ?_)
  have haddress : decide (r.1 ∈ d.addresses admits) = admits r.2 := by
    rw [Bool.eq_iff_iff, decide_eq_true_eq]
    exact mem_addresses_iff hr
  rw [decide_not, haddress]

/-- As many rows go as addresses are chosen. -/
theorem length_without {chosen : Finset Nat} (h : chosen ⊆ d.addresses admits) :
    (d.without chosen).rows.length + chosen.card = d.rows.length := by
  let gone := d.rows.filter fun r => decide (r.1 ∈ chosen)
  have hnodup : (gone.map Prod.fst).Nodup := d.distinct.sublist (List.filter_sublist.map Prod.fst)
  have hchosen : (gone.map Prod.fst).toFinset = chosen := by
    ext a
    simp only [List.mem_toFinset, List.mem_map, gone, List.mem_filter, decide_eq_true_eq]
    constructor
    · rintro ⟨r, ⟨-, hr⟩, rfl⟩
      exact hr
    · intro ha
      obtain ⟨record, hmem, -⟩ := mem_addresses.mp (h ha)
      exact ⟨(a, record), ⟨hmem, ha⟩, rfl⟩
  have hcard : chosen.card = gone.length := by
    rw [← hchosen, List.toFinset_card_of_nodup hnodup, List.length_map]
  have hkept : (d.without chosen).rows = d.rows.filter fun r => !decide (r.1 ∈ chosen) :=
    List.filter_congr fun r _ => decide_not
  rw [hcard, hkept, Nat.add_comm, ← List.length_eq_length_filter_add]

/-- No value is the identifier of two records. -/
def Unshared (eq : Value → Value → Bool) (column : String) (d : Stored) : Prop :=
  d.rows.Pairwise fun r r' => ∀ v, ¬ (eq (r.2 column) v = true ∧ eq (r'.2 column) v = true)

end Stored

/-- Where no two items pass a test together, one passes at most. -/
theorem countP_le_one {α : Type} {test : α → Bool} {items : List α}
    (h : items.Pairwise fun a b => ¬ (test a = true ∧ test b = true)) : items.countP test ≤ 1 := by
  induction items with
  | nil => exact Nat.zero_le 1
  | cons a items ih =>
    obtain ⟨ha, hrest⟩ := List.pairwise_cons.mp h
    by_cases htest : test a = true
    · have hnone : items.countP test = 0 := by
        rw [List.countP_eq_zero]
        intro b hb hboth
        exact ha b hb ⟨htest, hboth⟩
      rw [List.countP_cons_of_pos htest, hnone]
    · rw [List.countP_cons_of_neg htest]
      exact ih hrest

theorem countP_or_le {α : Type} (p q : α → Bool) (items : List α) :
    (items.countP fun a => p a || q a) ≤ items.countP p + items.countP q := by
  induction items with
  | nil => exact Nat.zero_le _
  | cons a items ih =>
    simp only [List.countP_cons]
    cases p a <;> cases q a <;> simp <;> omega

/-- A condition admits no more rows than it lists values, if no two records share a value. -/
theorem Membership.countP_holds_le {eq : Value → Value → Bool} {d : Stored} (m : Membership)
    (h : d.Unshared eq m.column) : (d.rows.countP fun r => m.holds eq r.2) ≤ m.values.length := by
  obtain ⟨column, values⟩ := m
  induction values with
  | nil => simp [holds]
  | cons b values ih =>
    have hone : (d.rows.countP fun r => eq (r.2 column) b.value) ≤ 1 :=
      countP_le_one (h.imp fun hnot => hnot b.value)
    have hboth := countP_or_le (fun r : Nat × Record => eq (r.2 column) b.value)
      (fun r => holds eq { column, values } r.2) d.rows
    have hholds (r : Record) : holds eq { column, values := b :: values } r =
        (eq (r column) b.value || holds eq { column, values } r) := rfl
    have hrest := ih h
    simp only [hholds, List.length_cons]
    simp only at hrest
    omega

/-! ## What a capped delete leaves behind -/

namespace Removal

variable {eq : Value → Value → Bool} {u : Removal} {cap : Int} {before after : Stored}

/-- Some table is left behind, as a selection can always be made. -/
theorem exists_leaves (hcap : ∀ cap ∈ u.cap, 0 ≤ cap) (before : Stored) :
    ∃ after, u.Leaves eq before after := by
  obtain ⟨table, condition, cap⟩ := u
  cases cap with
  | none => exact ⟨_, rfl⟩
  | some cap =>
    have hpos : 0 ≤ cap := hcap cap rfl
    let admitted := before.addresses (condition.holds eq)
    obtain ⟨chosen, hsub, hcard⟩ :=
      Finset.exists_subset_card_eq (s := admitted) (Nat.min_le_right cap.toNat admitted.card)
    have hcount : (chosen.card : Int) = min cap admitted.card := by omega
    exact ⟨before.without chosen, chosen, ⟨hsub, hcount⟩, rfl⟩

/-- Nothing but admitted rows is removed, as many as the cap and the table allow. -/
theorem Leaves.removed (hcap : u.cap = some cap) (h : u.Leaves eq before after) :
    after.rows.Sublist before.rows ∧
      (∀ r ∈ before.rows, r ∉ after.rows → u.condition.holds eq r.2 = true) ∧
      (before.rows.length : Int) =
        after.rows.length + min cap (before.rows.countP fun r => u.condition.holds eq r.2) := by
  obtain ⟨table, condition, _⟩ := u
  obtain rfl := hcap
  obtain ⟨chosen, hselects, rfl⟩ := h
  refine ⟨List.filter_sublist, ?_, ?_⟩
  · intro r hr hgone
    have hchosen : r.1 ∈ chosen := by
      by_contra hnot
      exact hgone (List.mem_filter.mpr ⟨hr, decide_eq_true hnot⟩)
    exact (Stored.mem_addresses_iff hr).mp (hselects.admitted hchosen)
  · have hlength := Stored.length_without hselects.admitted
    rw [← Stored.card_addresses, ← hselects.count]
    omega

/-- A cap that covers the admitted rows changes nothing. -/
theorem leaves_iff_of_covers (hcap : u.cap = some cap)
    (hcovers : (before.rows.countP fun r => u.condition.holds eq r.2 : Int) ≤ cap) :
    u.Leaves eq before after ↔ after = before.keep fun r => !u.condition.holds eq r.2 := by
  obtain ⟨table, condition, _⟩ := u
  obtain rfl := hcap
  have hcard : ((before.addresses (condition.holds eq)).card : Int) ≤ cap := by
    rwa [Stored.card_addresses]
  rw [← Stored.without_addresses]
  constructor
  · rintro ⟨chosen, hselects, rfl⟩
    have hall : (before.addresses (condition.holds eq)).card ≤ chosen.card := by
      have hcount : (chosen.card : Int) = min cap (before.addresses (condition.holds eq)).card :=
        hselects.count
      omega
    rw [Finset.eq_of_subset_of_card_le hselects.admitted hall]
  · rintro rfl
    exact ⟨_, ⟨Finset.Subset.refl _, (min_eq_right hcard).symm⟩, rfl⟩

/-- Where no row is admitted, nothing is removed. -/
theorem Leaves.eq_of_countP_eq_zero (hcap : u.cap = some cap) (hpos : 0 ≤ cap)
    (hnone : (before.rows.countP fun r => u.condition.holds eq r.2) = 0)
    (h : u.Leaves eq before after) : after = before := by
  obtain ⟨hsub, -, hcount⟩ := h.removed hcap
  rw [hnone, Nat.cast_zero, min_eq_right hpos, add_zero] at hcount
  exact Stored.ext_rows (hsub.eq_of_length (by omega))

/-- After all admitted rows were removed, none is admitted. -/
theorem countP_holds_keep (before : Stored) (m : Membership) :
    ((before.keep fun r => !m.holds eq r.2).rows.countP fun r => m.holds eq r.2) = 0 := by
  rw [List.countP_eq_zero]
  intro r hr hholds
  have hnot := (List.mem_filter.mp hr).2
  rw [hholds] at hnot
  cases hnot

end Removal

/-! ## The compiled deletes -/

/-- What a delete is meant to remove, under a cap or without one, its names being texts. -/
def Delete.removal (t : Delete) (table : TableRef String) (column : String) (cap : Option Int) :
    Removal where
  table := table
  condition := { column, values := t.identifiers.map fun v => { value := v, hint := t.type } }
  cap := cap

/-- Names that are read as text in one way only. -/
theorem Statement.map_some_inj {s s' : Statement String} (h : s.map some = s'.map some) :
    s = s' := by
  rw [← s.map_getD_map_some, h, map_getD_map_some]

/-- The query of a plan is read as the delete whose names and values are those of the plan. -/
theorem Plan.removal?_eq_some {plan : Plan} {policy : Value} {q : Query} {u : Removal}
    (h : plan.query .standard policy = .ok q)
    (hnames : plan.statement.map Value.text? = u.statement.map some)
    (hvalues : List.zipWith Bound.mk plan.params plan.types = u.condition.values)
    (hne : u.condition.values ≠ []) : q.removal? = some u := by
  obtain ⟨s, hs, hsql, hparams, htypes⟩ := query_eq_ok h
  obtain rfl : s = u.statement := Statement.map_some_inj (hs.symm.trans hnames)
  have hfilled : u.statement.Filled := by
    unfold Removal.statement
    split <;> trivial
  simp only [Query.removal?, hsql, Value.text?, Option.bind_eq_bind, Option.bind_some,
    Statement.lexemes?_render hfilled, hparams, htypes, hvalues, u.bindMarks_template,
    Removal.read?_tokens hne]

/-- The values of a delete are its identifiers. -/
theorem Delete.values_removal (t : Delete) (table : TableRef String) (column : String)
    (cap : Option Int) :
    List.zipWith Bound.mk t.identifiers (t.identifiers.map fun _ => t.type) =
      (t.removal table column cap).condition.values := by
  simp only [removal, List.zipWith_map_right, List.zipWith_self]

theorem Delete.holds_removal (t : Delete) (table : TableRef String) (column : String)
    (cap : Option Int) (eq : Value → Value → Bool) (r : Record) :
    (t.removal table column cap).condition.holds eq r = t.identifiers.any (eq (r column)) := by
  simp [removal, Membership.holds, Function.comp_def]

/-- A delete asks for the removal that it is meant to be. -/
theorem Delete.map_statement_plan {t : Delete} {table : TableRef String} {column : String}
    (htable : (TableRef.ofValues t.table t.schema).map Value.text? = table.map some)
    (hcolumn : t.column.text? = some column) :
    t.plan.statement.map Value.text? = (t.removal table column none).statement.map some := by
  simp [plan, removal, Removal.statement, Statement.map, htable, hcolumn]

/-- A capped delete that compiles has text for its names and a proper policy, and the delete without
the cap compiles as well. Both are read as what they are meant to remove. -/
theorem DeleteLimited.removals_eq {t : DeleteLimited} {q : Query} {event : LogEvent}
    (h : (Transaction.deleteLimited t).compile .standard = .ok (q, event))
    (hne : t.identifiers ≠ []) :
    ∃ (table : TableRef String) (column : String) (plain : Query) (event' : LogEvent),
      (TableRef.ofValues t.table t.schema).map Value.text? = table.map some ∧
      t.column.text? = some column ∧ q.removal? = some (t.removal table column (some t.limit)) ∧
      (Transaction.delete t.toDelete).compile .standard = .ok (plain, event') ∧
      plain.removal? = some (t.removal table column none) := by
  obtain ⟨hquery, hevent⟩ := Transaction.compile_eq_ok_iff.mp h
  obtain ⟨_, hquoted, -, -⟩ := Plan.query_eq_ok_iff.mp hquery
  simp only [DeleteLimited.plan, Statement.quoted, bind_eq_ok, pure_eq_ok] at hquoted
  obtain ⟨wt, hwt, wc, hwc, -⟩ := hquoted
  obtain ⟨table, htable, rfl⟩ := TableRef.quoted_standard hwt
  obtain ⟨column, hcolumn, rfl⟩ := quoteValue_eq_ok.mp hwc
  have hvalues : t.identifiers.map (fun v => Bound.mk v t.type) ≠ [] := by simpa using hne
  have hcapped : q.removal? = some (t.removal table column (some t.limit)) := by
    refine Plan.removal?_eq_some hquery ?_ (t.values_removal table column _) hvalues
    simp [DeleteLimited.plan, Delete.removal, Removal.statement, Statement.map, htable, hcolumn]
  have hwritten : t.toDelete.plan.statement.quoted .standard =
      .ok (.delete (table.map quotedName) (quotedName column) t.identifiers.length) := by
    simp only [Delete.plan, Statement.quoted, bind_eq_ok, pure_eq_ok]
    exact ⟨_, hwt, _, hwc, rfl⟩
  have hlength : t.toDelete.plan.params.length = t.toDelete.plan.types.length :=
    (List.length_map ..).symm
  obtain ⟨plain, hplain⟩ : ∃ plain, (Transaction.delete t.toDelete).query .standard = .ok plain :=
    ⟨_, Plan.query_eq_ok_iff.mpr ⟨_, hwritten, hlength, rfl⟩⟩
  have hpolicy : plain.policy = q.policy :=
    (Transaction.policy_of_query hplain).trans (Transaction.policy_of_query hquery).symm
  obtain ⟨event', hevent'⟩ : ∃ event', (Transaction.delete t.toDelete).compiledEvent plain =
      .ok event' := by
    obtain ⟨p, hp⟩ := Transaction.exists_compiledEvent_iff.mp ⟨_, hevent⟩
    exact Transaction.exists_compiledEvent_iff.mpr ⟨p, hpolicy.trans hp⟩
  have hread : plain.removal? = some (t.removal table column none) :=
    Plan.removal?_eq_some hplain (Delete.map_statement_plan htable hcolumn)
      (t.values_removal table column _) hvalues
  exact ⟨table, column, plain, event', htable, hcolumn, hcapped,
    Transaction.compile_eq_ok_iff.mpr ⟨hplain, hevent'⟩, hread⟩

theorem pos_of_checkLimit {v : Value} {limit : Int} (h : checkLimit v = .ok limit) : 0 < limit := by
  unfold checkLimit at h
  split at h
  · split at h
    · cases h
    · cases h
      omega
  · cases h

/-- A capped delete has identifiers and a positive limit, and could have been built as a delete
without the limit. What is reported when it is built is a suspicion, or nothing. -/
theorem DeleteLimited.build_eq_ok {t : DeleteLimited} {hints : String} {arg : String → Value}
    {events : List LogEvent}
    (h : Kind.deleteLimited.build hints arg = .ok ⟨.deleteLimited t, events⟩) :
    t.identifiers ≠ [] ∧ 0 < t.limit ∧ events = suspectEvents t ∧
      Kind.delete.build hints arg = .ok ⟨.delete t.toDelete, []⟩ := by
  simp only [Kind.build, bind_eq_ok, pure_eq_ok] at h
  obtain ⟨identifiers, hidentifiers, ⟨⟩, hnonempty, limit, hlimit, h⟩ := h
  cases h
  refine ⟨by simpa using refuseIf_eq_ok.mp hnonempty, pos_of_checkLimit hlimit, rfl, ?_⟩
  · simp only [Kind.build, bind_eq_ok, pure_eq_ok]
    exact ⟨identifiers, hidentifiers, (), hnonempty, rfl⟩

/-- A suspicion is reported once, of a delete that is declared repeatable though its limit is below
the number of its identifiers. -/
theorem suspectEvents_eq (t : DeleteLimited) :
    (suspectEvents t).map (fun e => (e.level, e.event)) =
      if t.options.idempotent.truthy = true ∧ t.limit < t.identifiers.length then
        [(.warning, .text "sql.delete_with_limit.idempotency_suspect")]
      else [] := by
  have hspares : t.coversIdentifiers = false ↔ t.limit < t.identifiers.length := by
    rw [DeleteLimited.coversIdentifiers, decide_eq_false_iff_not, not_le]
  unfold suspectEvents
  by_cases hsuspect : t.options.idempotent.truthy = true ∧ t.limit < t.identifiers.length
  · rw [if_pos hsuspect, if_pos (by simp [hsuspect.1, hspares.mpr hsuspect.2])]
    rfl
  · rw [if_neg hsuspect, if_neg (by simpa [hspares] using hsuspect)]
    rfl

/-- A capped delete that compiles is read as the removal of the records with its identifiers under
its limit. From every table it removes nothing but such records, and no more of them than the limit;
it can always be executed. If the limit covers the identifiers and no two records share one, it
leaves behind what the delete without the limit leaves behind, and a second execution changes
nothing. When it was built, it was reported as suspect just if it is declared repeatable and its
limit is below the number of its identifiers. -/
theorem DeleteLimited.compiled_respects_cap {t : DeleteLimited} {hints : String}
    {arg : String → Value} {events : List LogEvent}
    (hbuilt : Kind.deleteLimited.build hints arg = .ok ⟨.deleteLimited t, events⟩) {q : Query}
    {event : LogEvent} (h : (Transaction.deleteLimited t).compile .standard = .ok (q, event)) :
    ∃ (table : TableRef String) (column : String) (plain : Query) (event' : LogEvent),
      (TableRef.ofValues t.table t.schema).map Value.text? = table.map some ∧
      t.column.text? = some column ∧ q.removal? = some (t.removal table column (some t.limit)) ∧
      (∀ (eq : Value → Value → Bool) (before : Stored),
        (∃ after, (t.removal table column (some t.limit)).Leaves eq before after) ∧
        ∀ after, (t.removal table column (some t.limit)).Leaves eq before after →
          after.rows.Sublist before.rows ∧
          (∀ r ∈ before.rows, r ∉ after.rows → ∃ v ∈ t.identifiers, eq (r.2 column) v = true) ∧
          (before.rows.length : Int) - after.rows.length ≤ t.limit) ∧
      Kind.delete.build hints arg = .ok ⟨.delete t.toDelete, []⟩ ∧
      (Transaction.delete t.toDelete).compile .standard = .ok (plain, event') ∧
      plain.removal? = some (t.removal table column none) ∧
      (t.coversIdentifiers = true → ∀ (eq : Value → Value → Bool) (before : Stored),
        before.Unshared eq column →
          (∀ after, (t.removal table column (some t.limit)).Leaves eq before after ↔
            (t.removal table column none).Leaves eq before after) ∧
          ∀ after after', (t.removal table column (some t.limit)).Leaves eq before after →
            (t.removal table column (some t.limit)).Leaves eq after after' → after' = after) ∧
      events.map (fun e => (e.level, e.event)) =
        if t.options.idempotent.truthy = true ∧ t.limit < t.identifiers.length then
          [(.warning, .text "sql.delete_with_limit.idempotency_suspect")]
        else [] := by
  obtain ⟨hne, hlimit, hevents, hplainBuilt⟩ := build_eq_ok hbuilt
  obtain ⟨table, column, plain, event', htable, hcolumn, hread, hplain, hreadPlain⟩ :=
    removals_eq h hne
  let u := t.removal table column (some t.limit)
  refine ⟨table, column, plain, event', htable, hcolumn, hread, ?_, hplainBuilt, hplain, hreadPlain,
    ?_, ?_⟩
  · intro eq before
    refine ⟨Removal.exists_leaves (fun cap hcap => ?_) before, fun after hafter => ?_⟩
    · obtain rfl := Option.some.inj hcap
      exact hlimit.le
    · obtain ⟨hsub, hgone, hcount⟩ := hafter.removed rfl
      refine ⟨hsub, fun r hr hnot => ?_, by omega⟩
      have hadmitted := hgone r hr hnot
      rwa [t.holds_removal, List.any_eq_true] at hadmitted
  · intro hcovers eq before hunshared
    have hadmitted : (before.rows.countP fun r => u.condition.holds eq r.2 : Int) ≤ t.limit := by
      have hcount := Int.ofNat_le.mpr (u.condition.countP_holds_le hunshared)
      have hlength : u.condition.values.length = t.identifiers.length := List.length_map ..
      rw [hlength] at hcount
      exact hcount.trans (of_decide_eq_true hcovers)
    refine ⟨fun after => ?_, fun after after' hafter hafter' => ?_⟩
    · rw [Removal.leaves_iff_of_covers rfl hadmitted]
      rfl
    · obtain rfl := (Removal.leaves_iff_of_covers rfl hadmitted).mp hafter
      exact hafter'.eq_of_countP_eq_zero rfl hlimit.le
        (Removal.countP_holds_keep before u.condition)
  · rw [hevents, suspectEvents_eq]

/-- A delete whose limit just covers its two identifiers. -/
def coveringDelete : DeleteLimited where
  table := .text "t"
  column := .text "id"
  identifiers := [.int 1, .int 2]
  type := .null
  schema := .null
  options := { idempotent := .bool true, policy := .policy .none }
  limit := 2

/-- Three records with different identifiers. -/
def threeRecords : Stored where
  rows := [(7, fun _ => .int 1), (8, fun _ => .int 2), (9, fun _ => .int 3)]
  distinct := by decide

/-- Whatever is selected, the record with another identifier is left. -/
theorem coveringDelete_respects_cap :
    ∃ (q : Query) (event : LogEvent) (u : Removal),
      (Transaction.deleteLimited coveringDelete).compile .standard = .ok (q, event) ∧
      q.removal? = some u ∧
      ∀ after, u.Leaves (fun cell v => cell.int? = v.int?) threeRecords after →
        after.rows.map Prod.fst = [9] := by
  let arg : String → Value := fun name =>
    ([("table_name", .text "t"), ("identifier_column", .text "id"),
      ("identifiers", .ofList [.int 1, .int 2]), ("limit", .int 2), ("idempotent", .bool true),
      ("statement_reuse_policy", .policy .none)].lookup name).getD .null
  have hbuilt : Kind.deleteLimited.build "column_types" arg =
      .ok ⟨.deleteLimited coveringDelete, []⟩ := rfl
  obtain ⟨q, event, h⟩ : ∃ q event,
      (Transaction.deleteLimited coveringDelete).compile .standard = .ok (q, event) := ⟨_, _, rfl⟩
  obtain ⟨table, column, _, _, _, _, hread, _, _, _, _, hsame, _⟩ :=
    DeleteLimited.compiled_respects_cap hbuilt h
  refine ⟨q, event, _, h, hread, fun after hafter => ?_⟩
  have hunshared : threeRecords.Unshared (fun cell v => cell.int? = v.int?) column := by
    have hdiffer (a b : Int) (hab : a ≠ b) (v : Value) :
        ¬ (decide ((Value.int a).int? = v.int?) = true ∧
          decide ((Value.int b).int? = v.int?) = true) := by
      rintro ⟨ha, hb⟩
      exact hab (Option.some.inj ((of_decide_eq_true ha).trans (of_decide_eq_true hb).symm))
    simp only [Stored.Unshared, threeRecords, List.pairwise_cons, List.forall_mem_cons]
    exact ⟨⟨hdiffer 1 2 (by decide), hdiffer 1 3 (by decide), List.forall_mem_nil _⟩,
      ⟨hdiffer 2 3 (by decide), List.forall_mem_nil _⟩, List.forall_mem_nil _, .nil⟩
  obtain ⟨hplain, -⟩ := hsame (by decide) _ threeRecords hunshared
  obtain rfl := (hplain after).mp hafter
  rfl

end PgWrite
