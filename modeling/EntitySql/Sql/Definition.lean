import EntitySql.Naming
import EntitySql.Sql.Lexeme

/-!
# Definitions

The statements that create tables, add columns and add foreign keys.

* `ColumnClause` declares a column.
* `Definition` is a statement, with `Definition.text` its text.
-/

namespace EntitySql

set_option autoImplicit false

open Lexeme

/-- The declaration of a column. -/
structure ColumnClause where
  column : String
  type : SqlType
  constraints : Constraints := {}
deriving DecidableEq

namespace ColumnClause

/-- The default of a column: a string is an expression, any other value a literal. -/
def defaultClause : Option Json → List Lexeme
  | none => []
  | some .null => []
  | some (.str expression) => [plain (" DEFAULT " ++ expression)]
  | some value => [plain " DEFAULT ", Lexeme.ofJson value]

def lexemes (clause : ColumnClause) : List Lexeme :=
  [ident clause.column, plain (" " ++ clause.type.text)] ++
    (if clause.constraints.primary then [plain " PRIMARY KEY"] else []) ++
    (if clause.constraints.unique then [plain " UNIQUE"] else []) ++
    (if clause.constraints.notNull then [plain " NOT NULL"] else []) ++
    defaultClause clause.constraints.defaultValue

end ColumnClause

/-- The name of the foreign key of a join. -/
def Link.constraintName (link : Link) : String :=
  link.fromTable ++ "_" ++ link.fromColumn ++ "_fkey"

/-- Renders the foreign key of a join. Rows go with the row they refer to. -/
def Link.foreignKey (link : Link) : List Lexeme :=
  [plain "ADD CONSTRAINT ", ident link.constraintName, plain " FOREIGN KEY (",
    ident link.fromColumn, plain ") REFERENCES ", ident link.toTable, plain " (",
    ident link.toColumn, plain ") ON DELETE CASCADE"]

/-- A statement that defines part of a table. -/
inductive Definition where
  | createTable (table : String) (columns : List ColumnClause)
  | addColumns (table : String) (columns : List ColumnClause)
  | addForeignKeys (table : String) (links : List Link)
deriving DecidableEq

namespace Definition

def lexemes : Definition → List Lexeme
  | createTable table columns =>
    [plain "CREATE TABLE ", ident table, plain " ("] ++
      separated ", " (columns.map ColumnClause.lexemes) ++ [plain ")"]
  | addColumns table columns =>
    [plain "ALTER TABLE ", ident table, plain " "] ++
      separated ", " (columns.map fun column => plain "ADD COLUMN " :: column.lexemes)
  | addForeignKeys table links =>
    [plain "ALTER TABLE ", ident table, plain " "] ++
      separated ", " (links.map Link.foreignKey)

def text (definition : Definition) : String :=
  Lexeme.join definition.lexemes

end Definition

end EntitySql
