import Mathlib.Data.Finset.Dedup
import Mathlib.Data.Finset.Card
import PgWrite.Proofs.Update

/-!
# The meaning of deletes

A delete is read from the lexemes of a query with its values bound to the question marks. It is
executed on a table as it is stored, whose rows have addresses: a plain delete removes the rows that
its condition admits. A capped one removes the rows whose addresses a selection has given it, and
the selection may give any of the rows that the condition admits, as many as the cap leaves. So a
capped delete may leave behind one of several tables.
-/

namespace PgWrite

/-- `DELETE FROM table WHERE condition`, or `DELETE FROM table WHERE ctid IN (SELECT ctid FROM table
WHERE condition LIMIT cap)` if there is a cap. -/
structure Removal where
  table : TableRef String
  condition : Membership
  cap : Option Int

namespace Removal

/-! ## Reading -/

/-- Reads the condition of a selection and the cap behind it. -/
def readCapped? (table : TableRef String) (tokens : List Token) : Option Removal :=
  match tokens.reverse with
  | .lexeme (.integer cap) :: .lexeme (.word "LIMIT") :: rest =>
    (Membership.read? rest.reverse).map fun condition => { table, condition, cap := some cap }
  | _ => none

/-- Reads the selection of rows to be removed, which must be from the same table. -/
def readSelection? (table : TableRef String) : List Token → Option Removal
  | .lexeme (.word "SELECT") :: .lexeme (.word "ctid") :: .lexeme (.word "FROM") :: rest =>
    match readTable? rest with
    | some (source, .lexeme (.word "WHERE") :: rest) =>
      if source = table then readCapped? table rest else none
    | _ => none
  | _ => none

/-- Reads which rows of a table are to be removed. -/
def readWhere? (table : TableRef String) : List Token → Option Removal
  | .lexeme (.word "WHERE") :: .lexeme (.word "ctid") :: .lexeme (.word "IN")
      :: .lexeme (.symbol '(') :: rest =>
    match rest.getLast? with
    | some (.lexeme (.symbol ')')) => readSelection? table rest.dropLast
    | _ => none
  | .lexeme (.word "WHERE") :: rest =>
    (Membership.read? rest).map fun condition => { table, condition, cap := none }
  | _ => none

/-- Reads a delete. -/
def read? : List Token → Option Removal
  | .lexeme (.word "DELETE") :: .lexeme (.word "FROM") :: rest =>
    (readTable? rest).bind fun (table, rest) => readWhere? table rest
  | _ => none

end Removal

/-- The delete that a query is read as, with its values bound to the question marks. -/
def Query.removal? (q : Query) : Option Removal := do
  let sql ← q.sql.text?
  let lexemes ← lexemes? sql.toList
  let tokens ← bindMarks lexemes (List.zipWith Bound.mk q.params q.types)
  Removal.read? tokens

/-! ## Execution -/

/-- A table as it is stored: records at addresses, no two at the same one. -/
structure Stored where
  rows : List (Nat × Record)
  distinct : (rows.map Prod.fst).Nodup

namespace Stored

/-- The rows of a table that pass a test. -/
def keep (d : Stored) (test : Nat × Record → Bool) : Stored where
  rows := d.rows.filter test
  distinct := d.distinct.sublist (List.filter_sublist.map Prod.fst)

/-- The addresses of the rows whose records are admitted. -/
def addresses (d : Stored) (admits : Record → Bool) : Finset Nat :=
  ((d.rows.filter fun r => admits r.2).map Prod.fst).toFinset

/-- The table without the rows at some addresses. -/
def without (d : Stored) (chosen : Finset Nat) : Stored :=
  d.keep fun r => decide (r.1 ∉ chosen)

end Stored

section

variable (eq : Value → Value → Bool)

/-- A selection may give these addresses: they are addresses of admitted rows, and no more of them
are left out than the cap demands. -/
structure Selects (condition : Membership) (cap : Int) (d : Stored) (chosen : Finset Nat) :
    Prop where
  admitted : chosen ⊆ d.addresses (condition.holds eq)
  count : (chosen.card : Int) = min cap (d.addresses (condition.holds eq)).card

/-- The tables that a delete may leave behind. -/
def Removal.Leaves (u : Removal) (before after : Stored) : Prop :=
  match u.cap with
  | none => after = before.keep fun r => !u.condition.holds eq r.2
  | some cap => ∃ chosen, Selects eq u.condition cap before chosen ∧ after = before.without chosen

end

/-! ## Writing -/

/-- The tokens that a delete is read from. -/
def Removal.tokens (u : Removal) : List Token :=
  Token.all (Lexeme.words ["DELETE", "FROM"] ++ u.table.lexemes ++ Lexeme.words ["WHERE"]) ++
    match u.cap with
    | none => u.condition.tokens
    | some cap =>
      Token.all (Lexeme.words ["ctid", "IN"] ++ [.symbol '(']
          ++ Lexeme.words ["SELECT", "ctid", "FROM"] ++ u.table.lexemes ++ Lexeme.words ["WHERE"])
        ++ u.condition.tokens ++ Token.all [.word "LIMIT", .integer cap, .symbol ')']

/-- The statement that a delete is written as. -/
def Removal.statement (u : Removal) : Statement String :=
  match u.cap with
  | none => .delete u.table u.condition.column u.condition.values.length
  | some cap => .deleteLimited u.table u.condition.column u.condition.values.length cap

/-- A delete is read back. -/
theorem Removal.read?_tokens {u : Removal} (h : u.condition.values ≠ []) :
    read? u.tokens = some u := by
  obtain ⟨table, condition, cap⟩ := u
  have hcondition := Membership.read?_tokens h
  cases cap with
  | none =>
    have hopen : (Removal.mk table condition none).tokens =
        .lexeme (.word "DELETE") :: .lexeme (.word "FROM")
          :: (Token.all table.lexemes ++ .lexeme (.word "WHERE") :: condition.tokens) := by
      simp [tokens, Token.all, Lexeme.words]
    have hwhere : readWhere? table (.lexeme (.word "WHERE") :: condition.tokens) =
        (Membership.read? condition.tokens).map fun condition =>
          { table, condition, cap := none } :=
      rfl
    simp only [hopen, read?, readTable?_lexemes, Option.bind_some, hwhere, hcondition,
      Option.map_some]
  | some cap =>
    have hopen : (Removal.mk table condition (some cap)).tokens =
        .lexeme (.word "DELETE") :: .lexeme (.word "FROM")
          :: (Token.all table.lexemes ++ .lexeme (.word "WHERE") :: .lexeme (.word "ctid")
            :: .lexeme (.word "IN") :: .lexeme (.symbol '(') :: (.lexeme (.word "SELECT")
            :: .lexeme (.word "ctid") :: .lexeme (.word "FROM") :: (Token.all table.lexemes
              ++ .lexeme (.word "WHERE") :: (condition.tokens
                ++ [.lexeme (.word "LIMIT"), .lexeme (.integer cap)]))
            ++ [.lexeme (.symbol ')')])) := by
      simp [tokens, Token.all, Lexeme.words]
    have hcapped : readCapped? table
        (condition.tokens ++ [.lexeme (.word "LIMIT"), .lexeme (.integer cap)]) =
          some { table, condition, cap := some cap } := by
      simp only [readCapped?, List.reverse_append, List.reverse_cons, List.reverse_nil,
        List.nil_append, List.cons_append, List.reverse_reverse, hcondition, Option.map_some]
    simp only [hopen, read?, readTable?_lexemes, Option.bind_some, readWhere?,
      List.getLast?_concat, List.dropLast_concat, readSelection?, if_true, hcapped]

/-- A delete binds the values of its condition. -/
theorem Removal.bindMarks_template (u : Removal) :
    bindMarks u.statement.template u.condition.values = some u.tokens := by
  obtain ⟨table, condition, cap⟩ := u
  have hhead := bindMarks_append
    (bindMarks_append (bindMarks_words ["DELETE", "FROM"]) table.bindMarks_lexemes)
    (bindMarks_words ["WHERE"])
  cases cap with
  | none =>
    have hall := bindMarks_append hhead condition.bindMarks_among
    simpa [statement, Statement.template, tokens, Token.all] using hall
  | some cap =>
    have hopen : bindMarks [.symbol '('] [] = some [.lexeme (.symbol '(')] := rfl
    have hclose : bindMarks [.word "LIMIT", .integer cap, .symbol ')'] [] =
        some (Token.all [.word "LIMIT", .integer cap, .symbol ')']) := rfl
    have hsource := bindMarks_append
      (bindMarks_append (bindMarks_words ["SELECT", "ctid", "FROM"]) table.bindMarks_lexemes)
      (bindMarks_words ["WHERE"])
    have hselection := bindMarks_append hsource (bindMarks_append condition.bindMarks_among hclose)
    have hall := bindMarks_append hhead
      (bindMarks_append (bindMarks_words ["ctid", "IN"]) (bindMarks_append hopen hselection))
    simpa [statement, Statement.template, selection, Lexeme.bracketed, tokens, Token.all]
      using hall

end PgWrite
