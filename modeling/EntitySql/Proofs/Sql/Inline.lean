import EntitySql.Sql.Query
import EntitySql.Naming

/-!
# Values for placeholders

Statements with the values that were bound for them in their places.

* `valueAt` is the value of a placeholder, counted from one.
* `Expr.inline`, `Condition.inline`, `Query.inline` and `Source.inline` put the literal of its value in
  the place of every placeholder that is cast to a type.
* `Expr.inlineAll_eq_map` and its like say what that is on lists.
-/

namespace EntitySql

set_option autoImplicit false

/-- The value bound for a placeholder. -/
def valueAt (values : List Json) (index : Nat) : Json :=
  values.getD (index - 1) .null

/-- A cast whose operand has been inlined: the cast of a placeholder is the literal of its value. -/
def Expr.inlineCast (values : List Json) (type : SqlType) (inlined : Expr) : Expr → Expr
  | .param index => .literal (valueAt values index)
  | _ => .cast inlined type

mutual

def Expr.inline (values : List Json) : Expr → Expr
  | .cast expr type => Expr.inlineCast values type (expr.inline values) expr
  | .tuple items => .tuple (Expr.inlineAll values items)
  | .aggregate function argument => .aggregate function (argument.inline values)
  | .toJson expr => .toJson (expr.inline values)
  | .rowToJson query => .rowToJson (query.inline values)
  | .jsonAgg expr order first => .jsonAgg (expr.inline values) order first
  | .star => .star
  | .column source name => .column source name
  | .ident name => .ident name
  | .param index => .param index
  | .literal value => .literal value
termination_by structural expr => expr

def Expr.inlineAll (values : List Json) : List Expr → List Expr
  | [] => []
  | expr :: rest => expr.inline values :: Expr.inlineAll values rest
termination_by structural exprs => exprs

def Expr.inlineOf (values : List Json) : Option Expr → Option Expr
  | none => none
  | some expr => some (expr.inline values)
termination_by structural expr => expr

def Condition.inline (values : List Json) : Condition → Condition
  | .literal value => .literal value
  | .compare left op right => .compare (left.inline values) op (Expr.inlineOf values right)
  | .all conditions => .all (Condition.inlineAll values conditions)
  | .any conditions => .any (Condition.inlineAll values conditions)
  | .exists query => .exists (query.inline values)
termination_by structural condition => condition

def Condition.inlineAll (values : List Json) : List Condition → List Condition
  | [] => []
  | condition :: rest => condition.inline values :: Condition.inlineAll values rest
termination_by structural conditions => conditions

def Condition.inlineOf (values : List Json) : Option Condition → Option Condition
  | none => none
  | some condition => some (condition.inline values)
termination_by structural condition => condition

def Query.inline (values : List Json) : Query → Query
  | { columns, source, joins, filter, order, limit, offset } =>
    { columns := Query.inlineColumns values columns
      source := Source.inlineOf values source
      joins := Query.inlineJoins values joins
      filter := Condition.inlineOf values filter
      order, limit, offset }
termination_by structural query => query

def Query.inlineColumns (values : List Json) :
    List (Expr × Option String) → List (Expr × Option String)
  | [] => []
  | (expr, label) :: rest => (expr.inline values, label) :: Query.inlineColumns values rest
termination_by structural columns => columns

def Query.inlineJoins (values : List Json) : List (Query × String) → List (Query × String)
  | [] => []
  | (query, label) :: rest => (query.inline values, label) :: Query.inlineJoins values rest
termination_by structural joins => joins

def Source.inline (values : List Json) : Source → Source
  | .table name label => .table name label
  | .subquery query label => .subquery (query.inline values) label
termination_by structural source => source

def Source.inlineOf (values : List Json) : Option Source → Option Source
  | none => none
  | some source => some (source.inline values)
termination_by structural source => source

end

/-! ## Lists -/

variable (values : List Json)

theorem Expr.inlineAll_eq_map (items : List Expr) :
    inlineAll values items = items.map (Expr.inline values) := by
  induction items with
  | nil => rfl
  | cons item rest ih => rw [inlineAll, ih, List.map_cons]

theorem Condition.inlineAll_eq_map (conditions : List Condition) :
    inlineAll values conditions = conditions.map (Condition.inline values) := by
  induction conditions with
  | nil => rfl
  | cons condition rest ih => rw [inlineAll, ih, List.map_cons]

/-- Columns without placeholders stay as they are. -/
theorem Query.inlineColumns_eq_self {columns : List (Expr × Option String)}
    (h : ∀ column ∈ columns, column.1.inline values = column.1) :
    inlineColumns values columns = columns := by
  induction columns with
  | nil => rfl
  | cons column rest ih =>
    obtain ⟨hfirst, hrest⟩ := List.forall_mem_cons.1 h
    rw [inlineColumns, ih hrest, hfirst]

theorem Query.inlineJoins_eq_map (joins : List (Query × String)) :
    inlineJoins values joins = joins.map (Prod.map (Query.inline values) id) := by
  induction joins with
  | nil => rfl
  | cons join rest ih =>
    rw [inlineJoins, ih]
    rfl

end EntitySql
