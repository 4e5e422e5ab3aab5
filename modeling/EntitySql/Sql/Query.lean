import EntitySql.Json.Value
import EntitySql.Sql.Keyword
import EntitySql.Sql.Type

/-!
# Queries

Queries as trees of expressions, conditions and sources. Requests are compiled to these trees, and
only a tree is ever rendered.

* `Expr`, `Condition`, `Query` and `Source` are the trees.
* `Query.column`, `Query.fromTable`, `Query.lateral` and their like extend a query by one clause.
-/

namespace EntitySql

set_option autoImplicit false

/-- A sort criterion, by the name of a column. -/
structure SortItem where
  column : String
  direction : Direction
deriving DecidableEq, Repr

mutual

/-- A scalar expression. -/
inductive Expr where
  | star
  /-- A column of a source. -/
  | column (source name : String)
  /-- A name without its source. -/
  | ident (name : String)
  /-- The parameter with the index, counted from one. -/
  | param (index : Nat)
  | cast (expr : Expr) (type : SqlType)
  | literal (value : Json)
  | tuple (items : List Expr)
  | aggregate (function : Aggregate) (argument : Expr)
  | toJson (expr : Expr)
  /-- The only row of a query as an object. -/
  | rowToJson (query : Query)
  /-- The values of a group as an array, empty for no rows; or the first of them, or `null`. -/
  | jsonAgg (expr : Expr) (order : List SortItem) (first : Bool)

/-- A truth-valued expression. -/
inductive Condition where
  | literal (value : Bool)
  | compare (left : Expr) (op : Comparison) (right : Option Expr)
  | all (conditions : List Condition)
  | any (conditions : List Condition)
  | exists (query : Query)

/-- A query. Its joins are lateral sub-queries under a label, each joined to all rows. -/
structure Query where
  columns : List (Expr × Option String) := []
  source : Option Source := none
  joins : List (Query × String) := []
  filter : Option Condition := none
  order : List SortItem := []
  limit : Option Nat := none
  offset : Option Nat := none

/-- What a query reads from. -/
inductive Source where
  | table (name : String) (label : Option String)
  | subquery (query : Query) (label : String)

end

instance : Inhabited Expr := ⟨.star⟩

namespace Expr

/-- A parameter cast to the type of the column it meets. -/
def typedParam (index : Nat) (type : SqlType) : Expr :=
  .cast (.param index) type

end Expr

namespace Condition

/-- Two expressions are equal. -/
def equal (left right : Expr) : Condition :=
  .compare left .eq (some right)

end Condition

namespace Query

def column (query : Query) (expr : Expr) : Query :=
  { query with columns := query.columns ++ [(expr, none)] }

def columnAs (query : Query) (expr : Expr) (label : String) : Query :=
  { query with columns := query.columns ++ [(expr, some label)] }

def fromTable (query : Query) (name : String) (label : Option String) : Query :=
  { query with source := some (.table name label) }

def fromSubquery (query inner : Query) (label : String) : Query :=
  { query with source := some (.subquery inner label) }

def lateral (query inner : Query) (label : String) : Query :=
  { query with joins := query.joins ++ [(inner, label)] }

def filterBy (query : Query) (condition : Condition) : Query :=
  { query with filter := some condition }

/-- Adds a condition to the filter. -/
def andFilter (query : Query) (condition : Condition) : Query :=
  { query with
    filter := some (match query.filter with
      | some (.all conditions) => .all (conditions ++ [condition])
      | some existing => .all [existing, condition]
      | none => condition) }

def orderBy (query : Query) (column : String) (direction : Direction) : Query :=
  { query with order := query.order ++ [⟨column, direction⟩] }

end Query

end EntitySql
