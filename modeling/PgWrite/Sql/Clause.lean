import PgWrite.Sql.MarkerStyle

/-!
# Clauses of statements

The fixed words of every kind of statement around names that are written already. Counts say
how many question marks stand in a list.
-/

namespace PgWrite.Clause

/-- The rows of a VALUES list, each with the same number of question marks. -/
def values (rows columns : Nat) : String :=
  Text.joined ", " (List.replicate rows ("(" ++ placeholders columns ++ ")"))

/-- `INSERT INTO table (columns) VALUES values`. -/
def insert (table : String) (columns : List String) (values : String) : String :=
  "INSERT INTO " ++ table ++ " (" ++ Text.joined ", " columns ++ ") VALUES " ++ values

/-- An insert that passes over rows in conflict. -/
def skipConflicts (insert : String) : String :=
  insert ++ " ON CONFLICT DO NOTHING"

/-- An insert that overwrites columns of rows in conflict with the values meant for them. -/
def overwrite (insert target : String) (columns : List String) : String :=
  insert ++ " " ++ target ++ " DO UPDATE SET "
    ++ Text.joined ", " (columns.map fun c => c ++ " = EXCLUDED." ++ c)

/-- The conflict target of a column list. -/
def onColumns (columns : List String) : String :=
  "ON CONFLICT (" ++ Text.joined ", " columns ++ ")"

/-- The conflict target of a constraint. -/
def onConstraint (constraint : String) : String :=
  "ON CONFLICT ON CONSTRAINT " ++ constraint

/-- `column IN (?, …)`. -/
def among (column : String) (count : Nat) : String :=
  column ++ " IN (" ++ placeholders count ++ ")"

/-- `DELETE FROM table WHERE column IN (?, …)`. -/
def delete (table column : String) (count : Nat) : String :=
  "DELETE FROM " ++ table ++ " WHERE " ++ among column count

/-- A delete of at most `limit` physical rows, chosen by their row address. -/
def deleteLimited (table column : String) (count : Nat) (limit : Int) : String :=
  "DELETE FROM " ++ table ++ " WHERE ctid IN (SELECT ctid FROM " ++ table ++ " WHERE "
    ++ among column count ++ " LIMIT " ++ Text.decimal limit ++ ")"

/-- `UPDATE table SET a = ?, … WHERE column IN (?, …)`. -/
def update (table : String) (columns : List String) (column : String) (count : Nat) : String :=
  "UPDATE " ++ table ++ " SET " ++ Text.joined ", " (columns.map fun c => c ++ " = ?")
    ++ " WHERE " ++ among column count

/-- The choice among branches on the discriminator column; without a match the column keeps its
value. -/
def choice (discriminator column : String) (branches : Nat) : String :=
  column ++ " = CASE "
    ++ Text.joined " " (List.replicate branches ("WHEN " ++ discriminator ++ " = ? THEN ?"))
    ++ " ELSE " ++ column ++ " END"

/-- An update that gives every row its own values. -/
def caseUpdate (table discriminator : String) (branches : List (String × Nat)) (count : Nat) :
    String :=
  "UPDATE " ++ table ++ " SET "
    ++ Text.joined ", " (branches.map fun (column, n) => choice discriminator column n)
    ++ " WHERE " ++ among discriminator count

end PgWrite.Clause
