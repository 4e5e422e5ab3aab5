import EntitySql.Sql.Query

/-!
# Other labels

Statements that read their sources under other labels. A label stands where a source is given it, where a
column is read from the source, and where the whole row is meant; names of tables, of columns and of sort
values are no labels.

* `Expr.relabel`, `Condition.relabel`, `Query.relabel` and `Source.relabel` put another label in the place
  of every label.
* `Expr.relabelAll_eq_map` and its like say what that is on lists.
-/

namespace EntitySql

set_option autoImplicit false

/-- What is collected into an array, after its labels have changed: a name is that of a column there. -/
def Expr.relabelCollected (relabeled : Expr) : Expr → Expr
  | .ident name => .ident name
  | _ => relabeled

mutual

def Expr.relabel (labels : String → String) : Expr → Expr
  | .column source name => .column (labels source) name
  | .ident name => .ident (labels name)
  | .cast expr type => .cast (expr.relabel labels) type
  | .tuple items => .tuple (Expr.relabelAll labels items)
  | .aggregate function argument => .aggregate function (argument.relabel labels)
  | .toJson expr => .toJson (expr.relabel labels)
  | .rowToJson query => .rowToJson (query.relabel labels)
  | .jsonAgg expr order first =>
    .jsonAgg (Expr.relabelCollected (expr.relabel labels) expr) order first
  | .star => .star
  | .param index => .param index
  | .literal value => .literal value
termination_by structural expr => expr

def Expr.relabelAll (labels : String → String) : List Expr → List Expr
  | [] => []
  | expr :: rest => expr.relabel labels :: Expr.relabelAll labels rest
termination_by structural exprs => exprs

def Expr.relabelOf (labels : String → String) : Option Expr → Option Expr
  | none => none
  | some expr => some (expr.relabel labels)
termination_by structural expr => expr

def Condition.relabel (labels : String → String) : Condition → Condition
  | .literal value => .literal value
  | .compare left op right => .compare (left.relabel labels) op (Expr.relabelOf labels right)
  | .all conditions => .all (Condition.relabelAll labels conditions)
  | .any conditions => .any (Condition.relabelAll labels conditions)
  | .exists query => .exists (query.relabel labels)
termination_by structural condition => condition

def Condition.relabelAll (labels : String → String) : List Condition → List Condition
  | [] => []
  | condition :: rest => condition.relabel labels :: Condition.relabelAll labels rest
termination_by structural conditions => conditions

def Condition.relabelOf (labels : String → String) : Option Condition → Option Condition
  | none => none
  | some condition => some (condition.relabel labels)
termination_by structural condition => condition

def Query.relabel (labels : String → String) : Query → Query
  | { columns, source, joins, filter, order, limit, offset } =>
    { columns := Query.relabelColumns labels columns
      source := Source.relabelOf labels source
      joins := Query.relabelJoins labels joins
      filter := Condition.relabelOf labels filter
      order, limit, offset }
termination_by structural query => query

def Query.relabelColumns (labels : String → String) :
    List (Expr × Option String) → List (Expr × Option String)
  | [] => []
  | (expr, name) :: rest => (expr.relabel labels, name) :: Query.relabelColumns labels rest
termination_by structural columns => columns

def Query.relabelJoins (labels : String → String) : List (Query × String) → List (Query × String)
  | [] => []
  | (query, label) :: rest => (query.relabel labels, labels label) :: Query.relabelJoins labels rest
termination_by structural joins => joins

def Source.relabel (labels : String → String) : Source → Source
  | .table name label => .table name (label.map labels)
  | .subquery query label => .subquery (query.relabel labels) (labels label)
termination_by structural source => source

def Source.relabelOf (labels : String → String) : Option Source → Option Source
  | none => none
  | some source => some (source.relabel labels)
termination_by structural source => source

end

/-! ## Lists -/

variable (labels : String → String)

theorem Expr.relabelAll_eq_map (items : List Expr) :
    relabelAll labels items = items.map (Expr.relabel labels) := by
  induction items with
  | nil => rfl
  | cons item rest ih => rw [relabelAll, ih, List.map_cons]

theorem Condition.relabelAll_eq_map (conditions : List Condition) :
    relabelAll labels conditions = conditions.map (Condition.relabel labels) := by
  induction conditions with
  | nil => rfl
  | cons condition rest ih => rw [relabelAll, ih, List.map_cons]

theorem Query.relabelColumns_eq_map (columns : List (Expr × Option String)) :
    relabelColumns labels columns = columns.map (Prod.map (Expr.relabel labels) id) := by
  induction columns with
  | nil => rfl
  | cons column rest ih =>
    rw [relabelColumns, ih]
    rfl

theorem Query.relabelJoins_eq_map (joins : List (Query × String)) :
    relabelJoins labels joins = joins.map (Prod.map (Query.relabel labels) labels) := by
  induction joins with
  | nil => rfl
  | cons join rest ih =>
    rw [relabelJoins, ih]
    rfl

end EntitySql
