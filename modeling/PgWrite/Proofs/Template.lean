import PgWrite.Proofs.Lexeme
import PgWrite.Sql.Statement

/-!
# Templates of statements

The lexemes of a statement, kind by kind: fixed words and symbols around the names, one group of
question marks for every row, branch or identifier. The text of a statement is its template as
lexemes are written: phrases stand by themselves, and lists and brackets keep what they hold
together.
-/

namespace PgWrite

namespace Lexeme

/-- Bare words. -/
def words (texts : List String) : List Lexeme :=
  texts.map .word

/-- Parts with commas between them. -/
def listed (parts : List (List Lexeme)) : List Lexeme :=
  [Lexeme.symbol ','].intercalate parts

/-- A part in brackets. -/
def bracketed (inner : List Lexeme) : List Lexeme :=
  .symbol '(' :: inner ++ [.symbol ')']

/-- The names of a list. -/
def names (texts : List String) : List Lexeme :=
  listed (texts.map fun s => [.name s])

/-- The question marks of a list. -/
def marks (count : Nat) : List Lexeme :=
  listed (List.replicate count [.mark])

/-- `column IN (?, …)`. -/
def among (column : String) (count : Nat) : List Lexeme :=
  .name column :: .word "IN" :: bracketed (marks count)

/-- `column = EXCLUDED.column`. -/
def overwritten (column : String) : List Lexeme :=
  [.name column, .symbol '=', .word "EXCLUDED", .symbol '.', .name column]

/-- `column = ?`. -/
def assigned (column : String) : List Lexeme :=
  [.name column, .symbol '=', .mark]

/-- `WHEN discriminator = ? THEN ?`. -/
def branch (discriminator : String) : List Lexeme :=
  [.word "WHEN", .name discriminator, .symbol '=', .mark, .word "THEN", .mark]

/-- `column = CASE WHEN discriminator = ? THEN ? … ELSE column END`. -/
def choice (discriminator : String) (column : String × Nat) : List Lexeme :=
  [.name column.1, .symbol '=', .word "CASE"]
    ++ (List.replicate column.2 (branch discriminator)).flatten
    ++ [.word "ELSE", .name column.1, .word "END"]

end Lexeme

open Lexeme

/-- The lexemes of a table reference. -/
def TableRef.lexemes (ref : TableRef String) : List Lexeme :=
  match ref.schema with
  | some schema => [.name schema, .symbol '.', .name ref.table]
  | none => [.name ref.table]

/-- The lexemes of a conflict target. -/
def ConflictTarget.lexemes : ConflictTarget String → List Lexeme
  | .columns chosen => words ["ON", "CONFLICT"] ++ bracketed (names chosen)
  | .constraint chosen => words ["ON", "CONFLICT", "ON", "CONSTRAINT"] ++ [.name chosen]

/-- The lexemes of a conflict rule. -/
def ConflictRule.lexemes : ConflictRule String → List Lexeme
  | .fail => []
  | .skip => words ["ON", "CONFLICT", "DO", "NOTHING"]
  | .overwrite target columns =>
    target.lexemes ++ words ["DO", "UPDATE", "SET"] ++ listed (columns.map overwritten)

/-- The lexemes of a plain insert. -/
def insertion (table : TableRef String) (columns : List String) (rows : Nat) : List Lexeme :=
  words ["INSERT", "INTO"] ++ table.lexemes ++ bracketed (names columns) ++ words ["VALUES"]
    ++ listed (List.replicate rows (bracketed (marks columns.length)))

/-- The lexemes of the choice of at most `limit` physical rows. -/
def selection (table : TableRef String) (column : String) (count : Nat) (limit : Int) :
    List Lexeme :=
  words ["SELECT", "ctid", "FROM"] ++ table.lexemes ++ words ["WHERE"] ++ among column count
    ++ [.word "LIMIT", .integer limit]

/-- The lexemes of a statement. -/
def Statement.template : Statement String → List Lexeme
  | .insert table columns rows conflicts => insertion table columns rows ++ conflicts.lexemes
  | .delete table column count =>
    words ["DELETE", "FROM"] ++ table.lexemes ++ words ["WHERE"] ++ among column count
  | .deleteLimited table column count limit =>
    words ["DELETE", "FROM"] ++ table.lexemes ++ words ["WHERE"]
      ++ (words ["ctid", "IN"] ++ bracketed (selection table column count limit))
  | .update table columns column count =>
    words ["UPDATE"] ++ table.lexemes ++ words ["SET"] ++ listed (columns.map assigned)
      ++ words ["WHERE"] ++ among column count
  | .caseUpdate table discriminator branches count =>
    words ["UPDATE"] ++ table.lexemes ++ words ["SET"]
      ++ listed (branches.map (choice discriminator)) ++ words ["WHERE"]
      ++ among discriminator count

/-- The lists of a statement that must not be empty are not. -/
def Statement.Filled {ν : Type} : Statement ν → Prop
  | .insert _ _ rows (.overwrite _ columns) => 0 < rows ∧ columns ≠ []
  | .insert _ _ rows _ => 0 < rows
  | .update _ columns _ _ => columns ≠ []
  | .caseUpdate _ _ branches _ => branches ≠ [] ∧ ∀ b ∈ branches, 0 < b.2
  | _ => True

/-- Joined text is the texts with the separator between them. -/
theorem toList_joined (separator : String) (parts : List String) :
    (Text.joined separator parts).toList
      = separator.toList.intercalate (parts.map String.toList) := by
  fun_induction Text.joined separator parts with
  | case1 => rfl
  | case2 s => simp
  | case3 s t rest ih =>
    rw [List.map_cons, List.map_cons, List.intercalate_cons_cons, String.toList_append,
      String.toList_append, ih, List.map_cons]

/-- Between the parts of a list stand separators only. -/
theorem mem_intercalate {α : Type} {separator x : α} {parts : List (List α)}
    (h : x ∈ [separator].intercalate parts) : x = separator ∨ ∃ p ∈ parts, x ∈ p := by
  induction parts with
  | nil => cases h
  | cons p parts ih =>
    cases parts with
    | nil => exact .inr ⟨p, List.mem_cons_self .., by simpa using h⟩
    | cons q parts =>
      rw [List.intercalate_cons_cons, List.append_assoc, List.mem_append, List.singleton_append,
        List.mem_cons] at h
      rcases h with hx | hx | hx
      · exact .inr ⟨p, List.mem_cons_self .., hx⟩
      · exact .inl hx
      · rcases ih hx with he | ⟨r, hr, hx⟩
        · exact .inl he
        · exact .inr ⟨r, List.mem_cons_of_mem _ hr, hx⟩

namespace Lexeme

/-- Whether what follows some lexemes needs no blank. -/
def gluedAfter (glued : Bool) : List Lexeme → Bool
  | [] => glued
  | l :: rest => gluedAfter l.opens rest

/-- Lexemes that stand by themselves: a blank before them and a blank behind. -/
structure IsPhrase (p : List Lexeme) : Prop where
  starts : written false p = ' ' :: written true p
  ends : ∀ glued, gluedAfter glued p = false

theorem written_append (glued : Bool) (p q : List Lexeme) :
    written glued (p ++ q) = written glued p ++ written (gluedAfter glued p) q := by
  induction p generalizing glued with
  | nil => rfl
  | cons l p ih => simp only [List.cons_append, written, ih, gluedAfter, List.append_assoc]

theorem gluedAfter_append (glued : Bool) (p q : List Lexeme) :
    gluedAfter glued (p ++ q) = gluedAfter (gluedAfter glued p) q := by
  induction p generalizing glued with
  | nil => rfl
  | cons l p ih => simp only [List.cons_append, gluedAfter, ih]

/-- Neighbouring phrases are written with a blank between them. -/
theorem IsPhrase.written_append {p q : List Lexeme} (hp : IsPhrase p) (hq : IsPhrase q) :
    written true (p ++ q) = written true p ++ ' ' :: written true q := by
  rw [Lexeme.written_append, hp.ends, hq.starts]

/-- Neighbouring phrases are a phrase. -/
theorem IsPhrase.append {p q : List Lexeme} (hp : IsPhrase p) (hq : IsPhrase q) :
    IsPhrase (p ++ q) where
  starts := by
    rw [Lexeme.written_append, hp.starts, hp.ends, hp.written_append hq, hq.starts]
    rfl
  ends glued := by rw [gluedAfter_append, hq.ends]

/-- Whatever stands between brackets is written between them without blanks. -/
theorem written_bracketed (inner : List Lexeme) :
    written true (bracketed inner) = '(' :: written true inner ++ [')'] := by
  simp [bracketed, written, opens, closes, text, Lexeme.written_append]

theorem isPhrase_bracketed (inner : List Lexeme) : IsPhrase (bracketed inner) where
  starts := by simp [bracketed, written, opens, closes, text]
  ends glued := by simp [bracketed, gluedAfter_append, gluedAfter, opens]

/-- A list begins with its first part, and a comma and the rest follow it. -/
theorem listed_cons_cons (p q : List Lexeme) (parts : List (List Lexeme)) :
    listed (p :: q :: parts) = p ++ (.symbol ',' :: listed (q :: parts)) := by
  simp [listed, List.intercalate_cons_cons]

/-- Phrases with commas between them are a phrase, if there are any. -/
theorem isPhrase_listed {parts : List (List Lexeme)} (h : ∀ p ∈ parts, IsPhrase p)
    (hne : parts ≠ []) : IsPhrase (listed parts) := by
  induction parts with
  | nil => exact absurd rfl hne
  | cons p parts ih =>
    have hp := h p (List.mem_cons_self ..)
    cases parts with
    | nil => simpa [listed] using hp
    | cons q parts =>
      have hrest := ih (fun r hr => h r (List.mem_cons_of_mem _ hr)) (by simp)
      rw [listed_cons_cons]
      constructor
      · rw [written_append, hp.starts, hp.ends, written_append, hp.ends]
        rfl
      · intro glued
        rw [gluedAfter_append, gluedAfter, hrest.ends]

/-- Phrases with commas between them are written with a comma and a blank between them. -/
theorem written_listed {parts : List (List Lexeme)} (h : ∀ p ∈ parts, IsPhrase p) :
    written true (listed parts) = [',', ' '].intercalate (parts.map (written true)) := by
  induction parts with
  | nil => rfl
  | cons p parts ih =>
    have hp := h p (List.mem_cons_self ..)
    cases parts with
    | nil => simp [listed]
    | cons q parts =>
      have hall : ∀ r ∈ q :: parts, IsPhrase r := fun r hr => h r (List.mem_cons_of_mem _ hr)
      have hrest := isPhrase_listed hall (by simp)
      rw [listed_cons_cons, written_append, hp.ends, List.map_cons, List.map_cons,
        List.intercalate_cons_cons, ← List.map_cons, ← ih hall]
      simp [written, closes, opens, text, hrest.starts]

/-- Phrases in a row are a phrase, if there are any. -/
theorem isPhrase_flatten {parts : List (List Lexeme)} (h : ∀ p ∈ parts, IsPhrase p)
    (hne : parts ≠ []) : IsPhrase parts.flatten := by
  induction parts with
  | nil => exact absurd rfl hne
  | cons p parts ih =>
    have hp := h p (List.mem_cons_self ..)
    cases parts with
    | nil => simpa using hp
    | cons q parts =>
      rw [List.flatten_cons]
      exact hp.append (ih (fun r hr => h r (List.mem_cons_of_mem _ hr)) (by simp))

/-- Phrases in a row are written with blanks between them. -/
theorem written_flatten {parts : List (List Lexeme)} (h : ∀ p ∈ parts, IsPhrase p) :
    written true parts.flatten = [' '].intercalate (parts.map (written true)) := by
  induction parts with
  | nil => rfl
  | cons p parts ih =>
    have hp := h p (List.mem_cons_self ..)
    cases parts with
    | nil => simp
    | cons q parts =>
      have hall : ∀ r ∈ q :: parts, IsPhrase r := fun r hr => h r (List.mem_cons_of_mem _ hr)
      rw [List.flatten_cons, hp.written_append (isPhrase_flatten hall (by simp)), ih hall]
      simp only [List.map_cons, List.intercalate_cons_cons, List.append_assoc,
        List.singleton_append]

/-- A lexeme that takes blanks on both sides is a phrase. -/
theorem isPhrase_singleton {l : Lexeme} (hc : l.closes = false) (ho : l.opens = false) :
    IsPhrase [l] where
  starts := by simp [written, hc]
  ends glued := ho

theorem isPhrase_words {texts : List String} (h : texts ≠ []) : IsPhrase (words texts) := by
  have hflat : words texts = (texts.map fun w => [Lexeme.word w]).flatten := by
    rw [← List.flatMap_def, ← List.map_eq_flatMap, words]
  rw [hflat]
  refine isPhrase_flatten ?_ (by simpa using h)
  intro p hp
  obtain ⟨w, _, rfl⟩ := List.mem_map.mp hp
  exact isPhrase_singleton rfl rfl

/-- A list is written as joined text if its parts are. -/
theorem written_listed_eq {parts : List (List Lexeme)} {texts : List String}
    (h : ∀ p ∈ parts, IsPhrase p) (ht : parts.map (written true) = texts.map String.toList) :
    written true (listed parts) = (Text.joined ", " texts).toList := by
  rw [written_listed h, toList_joined, ht]
  rfl

theorem isPhrase_among (column : String) (count : Nat) : IsPhrase (among column count) :=
  (isPhrase_singleton rfl rfl : IsPhrase [.name column]).append
    ((isPhrase_singleton rfl rfl : IsPhrase [.word "IN"]).append (isPhrase_bracketed _))

theorem isPhrase_overwritten (column : String) : IsPhrase (overwritten column) where
  starts := by simp [overwritten, written, opens, closes]
  ends glued := by simp [overwritten, gluedAfter, opens]

theorem isPhrase_assigned (column : String) : IsPhrase (assigned column) where
  starts := by simp [assigned, written, opens, closes]
  ends glued := by simp [assigned, gluedAfter, opens]

theorem isPhrase_branch (discriminator : String) : IsPhrase (branch discriminator) where
  starts := by simp [branch, written, opens, closes]
  ends glued := by simp [branch, gluedAfter, opens]

theorem written_names (texts : List String) :
    written true (names texts) = (Text.joined ", " (texts.map quotedName)).toList := by
  refine written_listed_eq ?_ ?_
  · intro p hp
    obtain ⟨s, _, rfl⟩ := List.mem_map.mp hp
    exact isPhrase_singleton rfl rfl
  · simp [written, text]

theorem written_marks (count : Nat) : written true (marks count) = (placeholders count).toList := by
  refine written_listed_eq ?_ ?_
  · intro p hp
    rw [List.eq_of_mem_replicate hp]
    exact isPhrase_singleton rfl rfl
  · simp [written, text]

theorem written_among (column : String) (count : Nat) :
    written true (among column count) = (Clause.among (quotedName column) count).toList := by
  have hin : IsPhrase [Lexeme.word "IN"] := isPhrase_singleton rfl rfl
  have hcolumn : IsPhrase [Lexeme.name column] := isPhrase_singleton rfl rfl
  have hmarks := isPhrase_bracketed (marks count)
  have hsplit : among column count
      = [.name column] ++ ([.word "IN"] ++ bracketed (marks count)) := rfl
  rw [hsplit, hcolumn.written_append (hin.append hmarks), hin.written_append hmarks,
    written_bracketed, written_marks]
  unfold Clause.among
  simp [written, text]

/-- The rows of a VALUES list. -/
theorem written_values (rows columns : Nat) :
    written true (listed (List.replicate rows (bracketed (marks columns))))
      = (Clause.values rows columns).toList := by
  refine written_listed_eq ?_ ?_
  · intro p hp
    rw [List.eq_of_mem_replicate hp]
    exact isPhrase_bracketed _
  · simp [written_bracketed, written_marks]

/-- The parts of a column's choice among branches. -/
theorem isPhrase_choice (discriminator : String) {column : String × Nat} (h : 0 < column.2) :
    IsPhrase [.name column.1, .symbol '=', .word "CASE"] ∧
      IsPhrase (List.replicate column.2 (branch discriminator)).flatten ∧
      IsPhrase [.word "ELSE", .name column.1, .word "END"] := by
  refine ⟨⟨by simp [written, opens, closes], by simp [gluedAfter, opens]⟩, ?_,
    ⟨by simp [written, opens, closes], by simp [gluedAfter, opens]⟩⟩
  refine isPhrase_flatten ?_ (by simp; omega)
  intro p hp
  rw [List.eq_of_mem_replicate hp]
  exact isPhrase_branch discriminator

theorem written_choice (discriminator : String) {column : String × Nat} (h : 0 < column.2) :
    written true (choice discriminator column)
      = (Clause.choice (quotedName discriminator) (quotedName column.1) column.2).toList := by
  obtain ⟨hopen, hbranches, hclose⟩ := isPhrase_choice discriminator h
  have hbranch : ∀ p ∈ List.replicate column.2 (branch discriminator), IsPhrase p := by
    intro p hp
    rw [List.eq_of_mem_replicate hp]
    exact isPhrase_branch discriminator
  have htext : written true (branch discriminator)
      = ("WHEN " ++ quotedName discriminator ++ " = ? THEN ?").toList := by
    simp [branch, written, opens, closes, text]
  rw [choice, (hopen.append hbranches).written_append hclose, hopen.written_append hbranches,
    written_flatten hbranch, List.map_replicate, htext]
  unfold Clause.choice
  simp [toList_joined, written, opens, closes, text]

theorem isPhrase_table (ref : TableRef String) : IsPhrase ref.lexemes := by
  unfold TableRef.lexemes
  split
  · exact ⟨by simp [written, opens, closes], by simp [gluedAfter, opens]⟩
  · exact isPhrase_singleton rfl rfl

theorem written_table (ref : TableRef String) :
    written true ref.lexemes = (ref.map quotedName).text.toList := by
  obtain ⟨table, schema⟩ := ref
  cases schema <;>
    simp [TableRef.lexemes, TableRef.map, TableRef.text, written, opens, closes, text]

/-- A plain insert with at least one row. -/
theorem written_insertion (table : TableRef String) (columns : List String) {rows : Nat}
    (h : 0 < rows) : IsPhrase (insertion table columns rows) ∧
      written true (insertion table columns rows) =
        (Clause.insert (table.map quotedName).text (columns.map quotedName)
          (Clause.values rows columns.length)).toList := by
  have hrows : IsPhrase (listed (List.replicate rows (bracketed (marks columns.length)))) := by
    refine isPhrase_listed ?_ (by simp; omega)
    intro p hp
    rw [List.eq_of_mem_replicate hp]
    exact isPhrase_bracketed _
  have h₁ : IsPhrase (words ["INSERT", "INTO"]) := isPhrase_words (by simp)
  have h₂ := h₁.append (isPhrase_table table)
  have h₃ := h₂.append (isPhrase_bracketed (names columns))
  have hw : IsPhrase (words ["VALUES"]) := isPhrase_words (by simp)
  have h₄ := h₃.append hw
  refine ⟨h₄.append hrows, ?_⟩
  rw [insertion, h₄.written_append hrows, h₃.written_append hw,
    h₂.written_append (isPhrase_bracketed _), h₁.written_append (isPhrase_table table),
    written_table, written_bracketed, written_names, written_values]
  unfold Clause.insert
  simp [words, written, opens, closes, text]

theorem written_target (target : ConflictTarget String) : IsPhrase target.lexemes ∧
    written true target.lexemes = (target.map quotedName).text.toList := by
  cases target with
  | columns chosen =>
    have hw : IsPhrase (words ["ON", "CONFLICT"]) := isPhrase_words (by simp)
    rw [ConflictTarget.lexemes]
    refine ⟨hw.append (isPhrase_bracketed _), ?_⟩
    rw [hw.written_append (isPhrase_bracketed _), written_bracketed, written_names]
    simp only [ConflictTarget.map, ConflictTarget.text]
    unfold Clause.onColumns
    simp [words, written, opens, closes, text]
  | constraint chosen =>
    have hw : IsPhrase (words ["ON", "CONFLICT", "ON", "CONSTRAINT"]) := isPhrase_words (by simp)
    have hn : IsPhrase [Lexeme.name chosen] := isPhrase_singleton rfl rfl
    rw [ConflictTarget.lexemes]
    refine ⟨hw.append hn, ?_⟩
    rw [hw.written_append hn]
    simp only [ConflictTarget.map, ConflictTarget.text]
    unfold Clause.onConstraint
    simp [words, written, opens, closes, text]

/-- The assignments of an upsert. -/
theorem written_overwritten {columns : List String} (h : columns ≠ []) :
    IsPhrase (listed (columns.map overwritten)) ∧
      written true (listed (columns.map overwritten)) =
        (Text.joined ", "
          ((columns.map quotedName).map fun c => c ++ " = EXCLUDED." ++ c)).toList := by
  have hall : ∀ p ∈ columns.map overwritten, IsPhrase p := by
    intro p hp
    obtain ⟨c, _, rfl⟩ := List.mem_map.mp hp
    exact isPhrase_overwritten c
  refine ⟨isPhrase_listed hall (by simpa using h), written_listed_eq hall ?_⟩
  simp [overwritten, written, opens, closes, text]

/-- The assignments of an update. -/
theorem written_assigned {columns : List String} (h : columns ≠ []) :
    IsPhrase (listed (columns.map assigned)) ∧
      written true (listed (columns.map assigned)) =
        (Text.joined ", " ((columns.map quotedName).map fun c => c ++ " = ?")).toList := by
  have hall : ∀ p ∈ columns.map assigned, IsPhrase p := by
    intro p hp
    obtain ⟨c, _, rfl⟩ := List.mem_map.mp hp
    exact isPhrase_assigned c
  refine ⟨isPhrase_listed hall (by simpa using h), written_listed_eq hall ?_⟩
  simp [assigned, written, opens, closes, text]

/-- The assignments of an update with branches. -/
theorem written_choices (discriminator : String) {branches : List (String × Nat)}
    (hne : branches ≠ []) (hpos : ∀ b ∈ branches, 0 < b.2) :
    IsPhrase (listed (branches.map (choice discriminator))) ∧
      written true (listed (branches.map (choice discriminator))) =
        (Text.joined ", " (branches.map fun (c, n) =>
          Clause.choice (quotedName discriminator) (quotedName c) n)).toList := by
  have hall : ∀ p ∈ branches.map (choice discriminator), IsPhrase p := by
    intro p hp
    obtain ⟨b, hb, rfl⟩ := List.mem_map.mp hp
    obtain ⟨hopen, hbranches, hclose⟩ := isPhrase_choice discriminator (hpos b hb)
    exact (hopen.append hbranches).append hclose
  refine ⟨isPhrase_listed hall (by simpa using hne), written_listed_eq hall ?_⟩
  rw [List.map_map, List.map_map]
  exact List.map_congr_left fun b hb => written_choice discriminator (hpos b hb)

/-- An update around its assignments. -/
theorem written_update (table : TableRef String) {assignments : List Lexeme} {text : String}
    (hp : IsPhrase assignments) (ht : written true assignments = text.toList) (column : String)
    (count : Nat) :
    written true (words ["UPDATE"] ++ table.lexemes ++ words ["SET"] ++ assignments
        ++ words ["WHERE"] ++ among column count) =
      ("UPDATE " ++ (table.map quotedName).text ++ " SET " ++ text ++ " WHERE "
        ++ Clause.among (quotedName column) count).toList := by
  have h₁ : IsPhrase (words ["UPDATE"]) := isPhrase_words (by simp)
  have h₂ := h₁.append (isPhrase_table table)
  have hset : IsPhrase (words ["SET"]) := isPhrase_words (by simp)
  have h₃ := h₂.append hset
  have h₄ := h₃.append hp
  have hwhere : IsPhrase (words ["WHERE"]) := isPhrase_words (by simp)
  have h₅ := h₄.append hwhere
  rw [h₅.written_append (isPhrase_among column count), h₄.written_append hwhere,
    h₃.written_append hp, h₂.written_append hset, h₁.written_append (isPhrase_table table),
    written_table, written_among, ht]
  simp [words, written, closes, Lexeme.text]

/-- A delete up to what stands behind its condition. -/
theorem written_delete (table : TableRef String) {condition : List Lexeme}
    (hp : IsPhrase condition) :
    written true (words ["DELETE", "FROM"] ++ table.lexemes ++ words ["WHERE"] ++ condition) =
      ("DELETE FROM " ++ (table.map quotedName).text ++ " WHERE ").toList
        ++ written true condition := by
  have h₁ : IsPhrase (words ["DELETE", "FROM"]) := isPhrase_words (by simp)
  have h₂ := h₁.append (isPhrase_table table)
  have hwhere : IsPhrase (words ["WHERE"]) := isPhrase_words (by simp)
  have h₃ := h₂.append hwhere
  rw [h₃.written_append hp, h₂.written_append hwhere, h₁.written_append (isPhrase_table table),
    written_table]
  simp [words, written, opens, closes, text]

/-- A choice of physical rows. -/
theorem written_selection (table : TableRef String) (column : String) (count : Nat) (limit : Int) :
    written true (selection table column count limit) =
      ("SELECT ctid FROM " ++ (table.map quotedName).text ++ " WHERE "
        ++ Clause.among (quotedName column) count ++ " LIMIT " ++ Text.decimal limit).toList := by
  have h₁ : IsPhrase (words ["SELECT", "ctid", "FROM"]) := isPhrase_words (by simp)
  have h₂ := h₁.append (isPhrase_table table)
  have hwhere : IsPhrase (words ["WHERE"]) := isPhrase_words (by simp)
  have h₃ := h₂.append hwhere
  have h₄ := h₃.append (isPhrase_among column count)
  have hlimit : IsPhrase [.word "LIMIT", .integer limit] :=
    ⟨by simp [written, opens, closes], by simp [gluedAfter, opens]⟩
  rw [selection, h₄.written_append hlimit, h₃.written_append (isPhrase_among column count),
    h₂.written_append hwhere, h₁.written_append (isPhrase_table table), written_table,
    written_among]
  simp [words, written, opens, closes, text]

end Lexeme

/-- The text of a statement is its template as lexemes are written. -/
theorem Statement.toList_render {s : Statement String} (h : s.Filled) :
    s.render.toList = written true s.template := by
  cases s with
  | insert table columns rows conflicts =>
    have hrows : 0 < rows := by
      cases conflicts with
      | fail | skip => exact h
      | overwrite => exact h.1
    obtain ⟨hphrase, hplain⟩ := written_insertion table columns hrows
    have hlength : (columns.map quotedName).length = columns.length := List.length_map ..
    cases conflicts with
    | fail =>
      simp only [render, map, Statement.text, textOver, width, template, ConflictRule.lexemes,
        List.append_nil, hplain, hlength]
    | skip =>
      have hw : IsPhrase (words ["ON", "CONFLICT", "DO", "NOTHING"]) := isPhrase_words (by simp)
      simp only [render, map, Statement.text, textOver, width, template, ConflictRule.lexemes,
        hphrase.written_append hw, hplain, hlength]
      unfold Clause.skipConflicts
      simp [words, written, opens, closes, Lexeme.text]
    | overwrite target assigned =>
      obtain ⟨htarget, htargetText⟩ := written_target target
      obtain ⟨hset, hsetText⟩ := written_overwritten h.2
      have hw : IsPhrase (words ["DO", "UPDATE", "SET"]) := isPhrase_words (by simp)
      simp only [render, map, Statement.text, textOver, width, template, ConflictRule.lexemes,
        hphrase.written_append ((htarget.append hw).append hset),
        (htarget.append hw).written_append hset, htarget.written_append hw, hplain, hlength,
        htargetText, hsetText]
      unfold Clause.overwrite
      simp [words, written, opens, closes, Lexeme.text]
  | delete table column count =>
    simp only [render, map, Statement.text, textOver, template,
      written_delete table (isPhrase_among ..), written_among]
    unfold Clause.delete
    simp
  | deleteLimited table column count limit =>
    have hin : IsPhrase (words ["ctid", "IN"]) := isPhrase_words (by simp)
    simp only [render, map, Statement.text, textOver, template,
      written_delete table (hin.append (isPhrase_bracketed _)),
      hin.written_append (isPhrase_bracketed _), written_bracketed,
      written_selection table column count limit]
    unfold Clause.deleteLimited
    simp [words, written, opens, closes, Lexeme.text]
  | update table columns column count =>
    obtain ⟨hset, hsetText⟩ := written_assigned h
    simp only [render, map, Statement.text, textOver, template, written_update table hset hsetText]
    unfold Clause.update
    simp
  | caseUpdate table discriminator branches count =>
    obtain ⟨hset, hsetText⟩ := written_choices discriminator h.1 h.2
    simp only [render, map, Statement.text, textOver, template, written_update table hset hsetText]
    unfold Clause.caseUpdate
    simp [List.map_map, Function.comp_def]

end PgWrite
