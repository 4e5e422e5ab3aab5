import EntitySql.Fault
import EntitySql.Sql.Render

/-!
# Statements

The statements that read and write data.

* `Insert.checked` and `Update.checked` refuse statements that have nothing to write, or rows that
  do not match their columns.
* `Statement.text` renders a statement.
-/

namespace EntitySql

set_option autoImplicit false

open Lexeme

/-- Adds rows of values to the columns of a table. -/
structure Insert where
  table : String
  columns : List String
  rows : List (List Expr)

/-- Sets columns of the rows that satisfy the condition. -/
structure Update where
  table : String
  assignments : List (String × Expr)
  filter : Condition

/-- Removes the rows that satisfy the condition. -/
structure Delete where
  table : String
  filter : Condition

/-- A statement that reads or writes data. -/
inductive Statement where
  | query (query : Query)
  | insert (insert : Insert)
  | update (update : Update)
  | delete (delete : Delete)

namespace Insert

/-- The statement, if it has columns and rows and every row has a value for each column. -/
def checked (insert : Insert) : Result Insert :=
  if insert.columns.isEmpty then .error (.shape .noColumns)
  else if insert.rows.isEmpty then .error (.shape .noRows)
  else match insert.rows.find? (·.length ≠ insert.columns.length) with
    | some row => .error (.shape (.rowWidth row.length insert.columns.length))
    | none => .ok insert

def lexemes (insert : Insert) : List Lexeme :=
  [plain "INSERT INTO ", ident insert.table, plain " ("] ++
    separated ", " (insert.columns.map fun column => [ident column]) ++
    [plain ") VALUES "] ++
    separated ", " (insert.rows.map fun row =>
      [plain "("] ++ separated ", " (Expr.listLexemes row) ++ [plain ")"])

end Insert

namespace Update

/-- The statement, if it sets any column. -/
def checked (update : Update) : Result Update :=
  if update.assignments.isEmpty then .error (.shape .noAssignments) else .ok update

def lexemes (update : Update) : List Lexeme :=
  [plain "UPDATE ", ident update.table, plain " SET "] ++
    separated ", " (update.assignments.map fun (column, value) =>
      [ident column, plain " = "] ++ value.lexemes) ++
    [plain " WHERE "] ++ update.filter.lexemes

end Update

namespace Delete

def lexemes (delete : Delete) : List Lexeme :=
  [plain "DELETE FROM ", ident delete.table, plain " WHERE "] ++ delete.filter.lexemes

end Delete

namespace Statement

def lexemes : Statement → List Lexeme
  | .query q => q.lexemes
  | .insert i => i.lexemes
  | .update u => u.lexemes
  | .delete d => d.lexemes

def text (statement : Statement) : String :=
  Lexeme.join statement.lexemes

end Statement

end EntitySql
