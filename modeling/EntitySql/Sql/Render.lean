import EntitySql.Sql.Lexeme
import EntitySql.Sql.Query

/-!
# Rendering queries

From trees to lexemes. Names and literals become quoted lexemes, so that nothing in them can end
the quotes around it; everything else is plain text.

* `Expr.lexemes`, `Condition.lexemes` and `Query.lexemes` render the trees.
* `Query.text` is the text of a query.

A conjunction is written without parentheses, a disjunction with parentheses around each
alternative and around the whole, and an empty group of either kind is true.
-/

namespace EntitySql

set_option autoImplicit false

open Lexeme

/-- A sort criterion, absent values last. -/
def SortItem.lexemes (item : SortItem) : List Lexeme :=
  [ident item.column, plain (" " ++ item.direction.text ++ " NULLS LAST")]

/-- A clause that lists sort criteria, if there are any. -/
def SortItem.clause (order : List SortItem) : List Lexeme :=
  if order.isEmpty then []
  else plain " ORDER BY " :: separated ", " (order.map SortItem.lexemes)

/-- A clause with a number, if there is one. -/
def numberClause (keyword : String) : Option Nat → List Lexeme
  | none => []
  | some n => [plain (keyword ++ toString n)]

mutual

def Expr.lexemes : Expr → List Lexeme
  | .star => [plain "*"]
  | .column source name => [ident source, plain ".", ident name]
  | .ident name => [ident name]
  | .param index => [Lexeme.param index]
  | .cast expr type => expr.lexemes ++ [plain ("::" ++ type.text)]
  | .literal value => [Lexeme.ofJson value]
  | .tuple items => [plain "("] ++ separated ", " (Expr.listLexemes items) ++ [plain ")"]
  | .aggregate function argument =>
    [plain (function.name ++ "(")] ++ argument.lexemes ++ [plain ")"]
  | .toJson expr => [plain "to_json("] ++ expr.lexemes ++ [plain ")"]
  | .rowToJson query => [plain "row_to_json(("] ++ query.lexemes ++ [plain "))"]
  | .jsonAgg expr order first =>
    let array := [plain "json_agg("] ++ expr.lexemes ++ SortItem.clause order ++ [plain ")"]
    if first then [plain "coalesce(("] ++ array ++ [plain " -> 0), ", str "null", plain ")"]
    else [plain "coalesce("] ++ array ++ [plain ", ", str "[]", plain ")"]
termination_by structural expr => expr

def Expr.listLexemes : List Expr → List (List Lexeme)
  | [] => []
  | expr :: rest => expr.lexemes :: Expr.listLexemes rest
termination_by structural exprs => exprs

def Condition.lexemes : Condition → List Lexeme
  | .literal true => [plain "true"]
  | .literal false => [plain "false"]
  | .compare left op right =>
    left.lexemes ++ [plain (" " ++ op.text)] ++
      (if op.isNullTest then [] else Expr.operandLexemes right)
  | .all conditions =>
    if conditions.isEmpty then [plain "true"]
    else separated " AND " (Condition.listLexemes conditions)
  | .any conditions =>
    if conditions.isEmpty then [plain "true"]
    else
      [plain "( "] ++
        separated " OR " ((Condition.listLexemes conditions).map
          fun part => [plain "("] ++ part ++ [plain ")"]) ++
        [plain " )"]
  | .exists query => [plain "( EXISTS ( "] ++ query.lexemes ++ [plain " ) )"]
termination_by structural condition => condition

/-- Renders the right operand of a comparison, if there is one. -/
def Expr.operandLexemes : Option Expr → List Lexeme
  | none => []
  | some expr => plain " " :: expr.lexemes
termination_by structural operand => operand

def Condition.listLexemes : List Condition → List (List Lexeme)
  | [] => []
  | condition :: rest => condition.lexemes :: Condition.listLexemes rest
termination_by structural conditions => conditions

/-- Renders a query, clause by clause. -/
def Query.lexemes : Query → List Lexeme
  | { columns, source, joins, filter, order, limit, offset } =>
    [plain "SELECT"] ++
      (if columns.isEmpty then []
        else plain " " :: separated ", " (Query.columnLexemes columns)) ++
      Query.sourceClause source ++
      Query.joinClauses joins ++
      Query.filterClause filter ++
      SortItem.clause order ++
      numberClause " LIMIT " limit ++
      numberClause " OFFSET " offset
termination_by structural query => query

def Query.columnLexemes : List (Expr × Option String) → List (List Lexeme)
  | [] => []
  | (expr, none) :: rest => expr.lexemes :: Query.columnLexemes rest
  | (expr, some label) :: rest =>
    (expr.lexemes ++ [plain " AS ", ident label]) :: Query.columnLexemes rest
termination_by structural columns => columns

def Query.sourceClause : Option Source → List Lexeme
  | none => []
  | some source => plain " FROM " :: source.lexemes
termination_by structural source => source

def Source.lexemes : Source → List Lexeme
  | .table name none => [ident name]
  | .table name (some label) => [ident name, plain " AS ", ident label]
  | .subquery query label => [plain "("] ++ query.lexemes ++ [plain ") AS ", ident label]
termination_by structural source => source

def Query.joinClauses : List (Query × String) → List Lexeme
  | [] => []
  | (query, label) :: rest =>
    [plain " LEFT JOIN LATERAL ("] ++ query.lexemes ++
      [plain ") AS ", ident label, plain " ON true"] ++ Query.joinClauses rest
termination_by structural joins => joins

def Query.filterClause : Option Condition → List Lexeme
  | none => []
  | some condition => plain " WHERE " :: condition.lexemes
termination_by structural filter => filter

end

def Expr.text (expr : Expr) : String :=
  Lexeme.join expr.lexemes

def Condition.text (condition : Condition) : String :=
  Lexeme.join condition.lexemes

def Query.text (query : Query) : String :=
  Lexeme.join query.lexemes

end EntitySql
