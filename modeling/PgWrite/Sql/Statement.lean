import PgWrite.Sql.Clause
import PgWrite.Sql.Identifier

/-!
# Statements

A statement is its kind, its names and its counts; the values it binds are no part of it. It
is written in two steps: a quoter writes every name, then the clauses are put around the
written names, which cannot fail.
-/

namespace PgWrite

/-- What decides that a row is in conflict with a present one. -/
inductive ConflictTarget (ν : Type) where
  | columns (names : List ν)
  | constraint (name : ν)
  deriving DecidableEq, Repr

/-- What an insert does with a row in conflict. -/
inductive ConflictRule (ν : Type) where
  | fail
  | skip
  | overwrite (target : ConflictTarget ν) (columns : List ν)
  deriving DecidableEq, Repr

/-- A statement that writes, over names of some form. -/
inductive Statement (ν : Type) where
  | insert (table : TableRef ν) (columns : List ν) (rows : Nat) (conflicts : ConflictRule ν)
  | delete (table : TableRef ν) (column : ν) (count : Nat)
  | deleteLimited (table : TableRef ν) (column : ν) (count : Nat) (limit : Int)
  | update (table : TableRef ν) (columns : List ν) (column : ν) (count : Nat)
  /-- Each column with its number of branches on the discriminator column. -/
  | caseUpdate (table : TableRef ν) (discriminator : ν) (branches : List (ν × Nat)) (count : Nat)
  deriving DecidableEq, Repr

namespace ConflictTarget

/-- Applies a function to every name. -/
def map {ν μ : Type} (f : ν → μ) : ConflictTarget ν → ConflictTarget μ
  | .columns names => .columns (names.map f)
  | .constraint name => .constraint (f name)

/-- The clause of a target whose names are written already. -/
def text : ConflictTarget String → String
  | .columns names => Clause.onColumns names
  | .constraint name => Clause.onConstraint name

/-- Writes the names of a target. -/
def quoted (q : Quoter) : ConflictTarget Value → Except Fault (ConflictTarget String)
  | .columns names => (q.quoteAll names).map .columns
  | .constraint name => (q.quote name).map .constraint

end ConflictTarget

namespace Statement

/-- Applies a function to every name. -/
def map {ν μ : Type} (f : ν → μ) : Statement ν → Statement μ
  | .insert table columns rows conflicts =>
    .insert (table.map f) (columns.map f) rows <| match conflicts with
      | .fail => .fail
      | .skip => .skip
      | .overwrite target assigned => .overwrite (target.map f) (assigned.map f)
  | .delete table column count => .delete (table.map f) (f column) count
  | .deleteLimited table column count limit => .deleteLimited (table.map f) (f column) count limit
  | .update table columns column count => .update (table.map f) (columns.map f) (f column) count
  | .caseUpdate table discriminator branches count =>
    .caseUpdate (table.map f) (f discriminator) (branches.map fun (c, n) => (f c, n)) count

/-- The number of cells in each row of an insert. -/
def width {ν : Type} : Statement ν → Nat
  | .insert _ columns _ _ => columns.length
  | _ => 0

/-- The text of a statement whose names are written already, over rows of some width. -/
def textOver (width : Nat) : Statement String → String
  | .insert table columns rows conflicts =>
    let plain := Clause.insert table.text columns (Clause.values rows width)
    match conflicts with
    | .fail => plain
    | .skip => Clause.skipConflicts plain
    | .overwrite target assigned => Clause.overwrite plain target.text assigned
  | .delete table column count => Clause.delete table.text column count
  | .deleteLimited table column count limit => Clause.deleteLimited table.text column count limit
  | .update table columns column count => Clause.update table.text columns column count
  | .caseUpdate table discriminator branches count =>
    Clause.caseUpdate table.text discriminator branches count

/-- The text of a statement whose names are written already. -/
def text (s : Statement String) : String :=
  s.textOver s.width

/-- The text of a statement with standard identifiers. -/
def render (s : Statement String) : String :=
  (s.map quotedName).text

/-- Writes every name of a statement; a conflict target is written before all others. -/
def quoted (q : Quoter) : Statement Value → Except Fault (Statement String)
  | .insert table columns rows .fail => do
    return .insert (← table.quoted q) (← q.quoteAll columns) rows .fail
  | .insert table columns rows .skip => do
    return .insert (← table.quoted q) (← q.quoteAll columns) rows .skip
  | .insert table columns rows (.overwrite target assigned) => do
    let target ← target.quoted q
    return .insert (← table.quoted q) (← q.quoteAll columns) rows
      (.overwrite target (← q.quoteAll assigned))
  | .delete table column count => do
    return .delete (← table.quoted q) (← q.quote column) count
  | .deleteLimited table column count limit => do
    return .deleteLimited (← table.quoted q) (← q.quote column) count limit
  | .update table columns column count => do
    return .update (← table.quoted q) (← q.quoteAll columns) (← q.quote column) count
  | .caseUpdate table discriminator branches count => do
    let table ← table.quoted q
    let discriminator ← q.quote discriminator
    let branches ← branches.mapM fun (column, n) => (q.quote column).map fun c => (c, n)
    return .caseUpdate table discriminator branches count

/-- The text of a statement under a quoter. A row of an insert has a cell for each column, however
many names the quoter makes of the columns. -/
def sql (q : Quoter) (s : Statement Value) : Except Fault String :=
  (s.quoted q).map fun written => written.textOver s.width

end Statement

end PgWrite
