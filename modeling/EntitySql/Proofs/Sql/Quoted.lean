import EntitySql.Proofs.Sql.Scan
import EntitySql.Sql.Statement

/-!
# What is quoted in a tree

The names and strings of a tree, read off the tree itself, and the tree without them.

* `Expr.quoted` and its like list the names and strings of a tree in the order in which it is rendered.
* `Expr.casts` and its like list the types that it casts to.
* `Expr.blank` and its like empty the names and strings of a tree. Trees that are equal without them
  differ in names and strings alone.
* `Tree` is an expression, a condition or a statement.
-/

namespace EntitySql

set_option autoImplicit false

/-- The string of a literal, if it is one. Documents are quoted as compact text. -/
def Json.quotedLiteral : Json → List Quoted
  | .str content => [.str content]
  | .arr items => [.str (Json.arr items).compact]
  | .obj members => [.str (Json.obj members).compact]
  | .null | .bool _ | .int _ | .double _ => []

def Json.blankLiteral : Json → Json
  | .str _ | .arr _ | .obj _ => .str ""
  | value => value

namespace SortItem

def quoted (item : SortItem) : Quoted :=
  .ident item.column

def blank (item : SortItem) : SortItem :=
  { item with column := "" }

end SortItem

/-! ## Names and strings -/

mutual

def Expr.quoted : Expr → List Quoted
  | .column source name => [.ident source, .ident name]
  | .ident name => [.ident name]
  | .cast expr _ => expr.quoted
  | .literal value => value.quotedLiteral
  | .tuple items => Expr.quotedAll items
  | .aggregate _ argument => argument.quoted
  | .toJson expr => expr.quoted
  | .rowToJson query => query.quoted
  | .jsonAgg expr order first =>
    expr.quoted ++ order.map SortItem.quoted ++ [.str (if first then "null" else "[]")]
  | .star | .param _ => []
termination_by structural expr => expr

def Expr.quotedAll : List Expr → List Quoted
  | [] => []
  | expr :: rest => expr.quoted ++ Expr.quotedAll rest
termination_by structural exprs => exprs

def Expr.quotedOf : Option Expr → List Quoted
  | none => []
  | some expr => expr.quoted
termination_by structural expr => expr

/-- A test for absence is rendered without a right operand. -/
def Condition.quoted : Condition → List Quoted
  | .literal _ => []
  | .compare left op right => left.quoted ++ if op.isNullTest then [] else Expr.quotedOf right
  | .all conditions => Condition.quotedAll conditions
  | .any conditions => Condition.quotedAll conditions
  | .exists query => query.quoted
termination_by structural condition => condition

def Condition.quotedAll : List Condition → List Quoted
  | [] => []
  | condition :: rest => condition.quoted ++ Condition.quotedAll rest
termination_by structural conditions => conditions

def Condition.quotedOf : Option Condition → List Quoted
  | none => []
  | some condition => condition.quoted
termination_by structural condition => condition

def Query.quoted : Query → List Quoted
  | { columns, source, joins, filter, order, .. } =>
    Query.quotedColumns columns ++ Source.quotedOf source ++ Query.quotedJoins joins ++
      Condition.quotedOf filter ++ order.map SortItem.quoted
termination_by structural query => query

def Query.quotedColumns : List (Expr × Option String) → List Quoted
  | [] => []
  | (expr, none) :: rest => expr.quoted ++ Query.quotedColumns rest
  | (expr, some label) :: rest => expr.quoted ++ [.ident label] ++ Query.quotedColumns rest
termination_by structural columns => columns

def Query.quotedJoins : List (Query × String) → List Quoted
  | [] => []
  | (query, label) :: rest => query.quoted ++ [.ident label] ++ Query.quotedJoins rest
termination_by structural joins => joins

def Source.quoted : Source → List Quoted
  | .table name none => [.ident name]
  | .table name (some label) => [.ident name, .ident label]
  | .subquery query label => query.quoted ++ [.ident label]
termination_by structural source => source

def Source.quotedOf : Option Source → List Quoted
  | none => []
  | some source => source.quoted
termination_by structural source => source

end

def Statement.quoted : Statement → List Quoted
  | .query q => q.quoted
  | .insert i => .ident i.table :: (i.columns.map .ident ++ i.rows.flatMap Expr.quotedAll)
  | .update u => .ident u.table ::
    (u.assignments.flatMap (fun (column, value) => .ident column :: value.quoted) ++ u.filter.quoted)
  | .delete d => .ident d.table :: d.filter.quoted

/-! ## Types -/

mutual

def Expr.casts : Expr → List SqlType
  | .cast expr type => expr.casts ++ [type]
  | .tuple items => Expr.castsAll items
  | .aggregate _ argument => argument.casts
  | .toJson expr => expr.casts
  | .rowToJson query => query.casts
  | .jsonAgg expr _ _ => expr.casts
  | .star | .column .. | .ident _ | .param _ | .literal _ => []
termination_by structural expr => expr

def Expr.castsAll : List Expr → List SqlType
  | [] => []
  | expr :: rest => expr.casts ++ Expr.castsAll rest
termination_by structural exprs => exprs

def Expr.castsOf : Option Expr → List SqlType
  | none => []
  | some expr => expr.casts
termination_by structural expr => expr

def Condition.casts : Condition → List SqlType
  | .literal _ => []
  | .compare left _ right => left.casts ++ Expr.castsOf right
  | .all conditions => Condition.castsAll conditions
  | .any conditions => Condition.castsAll conditions
  | .exists query => query.casts
termination_by structural condition => condition

def Condition.castsAll : List Condition → List SqlType
  | [] => []
  | condition :: rest => condition.casts ++ Condition.castsAll rest
termination_by structural conditions => conditions

def Condition.castsOf : Option Condition → List SqlType
  | none => []
  | some condition => condition.casts
termination_by structural condition => condition

def Query.casts : Query → List SqlType
  | { columns, source, joins, filter, .. } =>
    Query.columnCasts columns ++ Source.castsOf source ++ Query.joinCasts joins ++
      Condition.castsOf filter
termination_by structural query => query

def Query.columnCasts : List (Expr × Option String) → List SqlType
  | [] => []
  | (expr, _) :: rest => expr.casts ++ Query.columnCasts rest
termination_by structural columns => columns

def Query.joinCasts : List (Query × String) → List SqlType
  | [] => []
  | (query, _) :: rest => query.casts ++ Query.joinCasts rest
termination_by structural joins => joins

def Source.casts : Source → List SqlType
  | .table .. => []
  | .subquery query _ => query.casts
termination_by structural source => source

def Source.castsOf : Option Source → List SqlType
  | none => []
  | some source => source.casts
termination_by structural source => source

end

def Statement.casts : Statement → List SqlType
  | .query q => q.casts
  | .insert i => i.rows.flatMap Expr.castsAll
  | .update u => u.assignments.flatMap (fun (_, value) => value.casts) ++ u.filter.casts
  | .delete d => d.filter.casts

/-! ## Trees without names and strings -/

mutual

def Expr.blank : Expr → Expr
  | .star => .star
  | .column _ _ => .column "" ""
  | .ident _ => .ident ""
  | .param index => .param index
  | .cast expr type => .cast expr.blank type
  | .literal value => .literal value.blankLiteral
  | .tuple items => .tuple (Expr.blankAll items)
  | .aggregate function argument => .aggregate function argument.blank
  | .toJson expr => .toJson expr.blank
  | .rowToJson query => .rowToJson query.blank
  | .jsonAgg expr order first => .jsonAgg expr.blank (order.map SortItem.blank) first
termination_by structural expr => expr

def Expr.blankAll : List Expr → List Expr
  | [] => []
  | expr :: rest => expr.blank :: Expr.blankAll rest
termination_by structural exprs => exprs

def Expr.blankOf : Option Expr → Option Expr
  | none => none
  | some expr => some expr.blank
termination_by structural expr => expr

def Condition.blank : Condition → Condition
  | .literal value => .literal value
  | .compare left op right => .compare left.blank op (Expr.blankOf right)
  | .all conditions => .all (Condition.blankAll conditions)
  | .any conditions => .any (Condition.blankAll conditions)
  | .exists query => .exists query.blank
termination_by structural condition => condition

def Condition.blankAll : List Condition → List Condition
  | [] => []
  | condition :: rest => condition.blank :: Condition.blankAll rest
termination_by structural conditions => conditions

def Condition.blankOf : Option Condition → Option Condition
  | none => none
  | some condition => some condition.blank
termination_by structural condition => condition

def Query.blank : Query → Query
  | { columns, source, joins, filter, order, limit, offset } =>
    { columns := Query.blankColumns columns, source := Source.blankOf source
      joins := Query.blankJoins joins, filter := Condition.blankOf filter
      order := order.map SortItem.blank, limit, offset }
termination_by structural query => query

def Query.blankColumns : List (Expr × Option String) → List (Expr × Option String)
  | [] => []
  | (expr, label) :: rest => (expr.blank, label.map fun _ => "") :: Query.blankColumns rest
termination_by structural columns => columns

def Query.blankJoins : List (Query × String) → List (Query × String)
  | [] => []
  | (query, _) :: rest => (query.blank, "") :: Query.blankJoins rest
termination_by structural joins => joins

def Source.blank : Source → Source
  | .table _ label => .table "" (label.map fun _ => "")
  | .subquery query _ => .subquery query.blank ""
termination_by structural source => source

def Source.blankOf : Option Source → Option Source
  | none => none
  | some source => some source.blank
termination_by structural source => source

end

def Statement.blank : Statement → Statement
  | .query q => .query q.blank
  | .insert i => .insert {
      table := "", columns := i.columns.map fun _ => "", rows := i.rows.map Expr.blankAll }
  | .update u => .update {
      table := "", assignments := u.assignments.map fun (_, value) => ("", value.blank)
      filter := u.filter.blank }
  | .delete d => .delete { table := "", filter := d.filter.blank }

/-! ## Trees -/

/-- Whatever is rendered. -/
inductive Tree where
  | expr (expr : Expr)
  | condition (condition : Condition)
  | statement (statement : Statement)

namespace Tree

def lexemes : Tree → List Lexeme
  | expr e => e.lexemes
  | condition c => c.lexemes
  | statement s => s.lexemes

def text : Tree → String
  | expr e => e.text
  | condition c => c.text
  | statement s => s.text

def quoted : Tree → List Quoted
  | expr e => e.quoted
  | condition c => c.quoted
  | statement s => s.quoted

def casts : Tree → List SqlType
  | expr e => e.casts
  | condition c => c.casts
  | statement s => s.casts

def blank : Tree → Tree
  | expr e => expr e.blank
  | condition c => condition c.blank
  | statement s => statement s.blank

end Tree

end EntitySql
