import EntitySql.Proofs.Sql.Sites

/-!
# Layers of statements

The queries that a tree is made of: the query itself, its sub-queries, theirs, and so on.

* `Layer` is a query with the sources around it.
* `Query.layers` and its like list the layers of a tree. As in `Query.sites`, a sub-query that is read
  from sees the levels outside only, a lateral one the sources before it as well.
* `Layer.labels` are the names under which a layer knows its sources.
-/

namespace EntitySql

set_option autoImplicit false

/-- A query where it stands in a tree. -/
structure Layer where
  around : Context
  query : Query

/-- The sources of a query, each under its name. -/
def Query.level : Query → Assoc Range
  | { source, joins, .. } => Query.sourceLevel source ++ Query.joinLevel joins

namespace Layer

/-- The sources around the expressions of a layer: its own, then those outside. -/
def inside (layer : Layer) : Context :=
  layer.query.level :: layer.around

def labels (layer : Layer) : List String :=
  layer.query.level.map Prod.fst

end Layer

mutual

def Expr.layers (around : Context) : Expr → List Layer
  | .cast expr _ => expr.layers around
  | .tuple items => Expr.layersAll around items
  | .aggregate _ argument => argument.layers around
  | .toJson expr => expr.layers around
  | .rowToJson query => query.layers around
  | .jsonAgg expr _ _ => expr.layers around
  | .star | .column .. | .ident _ | .param _ | .literal _ => []
termination_by structural expr => expr

def Expr.layersAll (around : Context) : List Expr → List Layer
  | [] => []
  | expr :: rest => expr.layers around ++ Expr.layersAll around rest
termination_by structural exprs => exprs

def Expr.layersOf (around : Context) : Option Expr → List Layer
  | none => []
  | some expr => expr.layers around
termination_by structural expr => expr

def Condition.layers (around : Context) : Condition → List Layer
  | .literal _ => []
  | .compare left _ right => left.layers around ++ Expr.layersOf around right
  | .all conditions => Condition.layersAll around conditions
  | .any conditions => Condition.layersAll around conditions
  | .exists query => query.layers around
termination_by structural condition => condition

def Condition.layersAll (around : Context) : List Condition → List Layer
  | [] => []
  | condition :: rest => condition.layers around ++ Condition.layersAll around rest
termination_by structural conditions => conditions

def Condition.layersOf (around : Context) : Option Condition → List Layer
  | none => []
  | some condition => condition.layers around
termination_by structural condition => condition

/-- The layers of a query with `around` outside, the query itself first. -/
def Query.layers (around : Context) : Query → List Layer
  | { columns, source, joins, filter, order, limit, offset } =>
    let query : Query := { columns, source, joins, filter, order, limit, offset }
    let level := Query.sourceLevel source ++ Query.joinLevel joins
    ⟨around, query⟩ :: (Query.columnLayers (level :: around) columns ++
      Source.layersOf around source ++ Query.joinLayers around (Query.sourceLevel source) joins ++
      Condition.layersOf (level :: around) filter)
termination_by structural query => query

def Query.columnLayers (around : Context) : List (Expr × Option String) → List Layer
  | [] => []
  | (expr, _) :: rest => expr.layers around ++ Query.columnLayers around rest
termination_by structural columns => columns

/-- The layers of lateral joins, with the sources that stand before them. -/
def Query.joinLayers (around : Context) (before : Assoc Range) : List (Query × String) → List Layer
  | [] => []
  | (query, label) :: rest => query.layers (before :: around) ++
    Query.joinLayers around (before ++ [(label, .rows query)]) rest
termination_by structural joins => joins

def Source.layers (around : Context) : Source → List Layer
  | .table .. => []
  | .subquery query _ => query.layers around
termination_by structural source => source

def Source.layersOf (around : Context) : Option Source → List Layer
  | none => []
  | some source => source.layers around
termination_by structural source => source

end

/-! ## Lists -/

theorem Condition.layersAll_append (around : Context) (conditions others : List Condition) :
    layersAll around (conditions ++ others) =
      layersAll around conditions ++ layersAll around others := by
  induction conditions with
  | nil => rfl
  | cons condition rest ih =>
    rw [List.cons_append, layersAll, layersAll, ih, List.append_assoc]

theorem Condition.layersAll_singleton (around : Context) (condition : Condition) :
    layersAll around [condition] = condition.layers around := by
  rw [layersAll, layersAll, List.append_nil]

theorem Query.columnLayers_eq_nil {around : Context} {columns : List (Expr × Option String)}
    (h : ∀ column ∈ columns, column.1.layers around = []) : columnLayers around columns = [] := by
  induction columns with
  | nil => rfl
  | cons column rest ih =>
    rw [columnLayers, h column (List.mem_cons_self ..), List.nil_append]
    exact ih fun other hother => h other (List.mem_cons_of_mem _ hother)

theorem Query.joinLayers_append (around : Context) (before : Assoc Range)
    (joins others : List (Query × String)) : joinLayers around before (joins ++ others) =
      joinLayers around before joins ++ joinLayers around (before ++ joinLevel joins) others := by
  induction joins generalizing before with
  | nil => simp [joinLayers, joinLevel]
  | cons join rest ih =>
    rw [List.cons_append, joinLayers, joinLayers, ih, List.append_assoc, List.append_assoc]
    rfl

theorem Query.joinLevel_append (joins others : List (Query × String)) :
    joinLevel (joins ++ others) = joinLevel joins ++ joinLevel others :=
  List.map_append

/-! ## Values -/

/-- A literal, or a placeholder under a type. -/
def Expr.IsValue (expr : Expr) : Prop :=
  (∃ value, expr = .literal value) ∨ ∃ index type, expr = .typedParam index type

/-- What a column is compared with: nothing, a value or a tuple of values. -/
inductive Expr.IsOperand : Option Expr → Prop
  | none : IsOperand none
  | value {expr : Expr} (h : expr.IsValue) : IsOperand (some expr)
  | tuple {items : List Expr} (h : ∀ item ∈ items, item.IsValue) : IsOperand (some (.tuple items))

theorem Expr.IsValue.layers {expr : Expr} (h : expr.IsValue) (around : Context) :
    expr.layers around = [] := by
  rcases h with ⟨value, rfl⟩ | ⟨index, type, rfl⟩
  · rfl
  · rfl

theorem Expr.IsOperand.layersOf {right : Option Expr} (h : IsOperand right) (around : Context) :
    Expr.layersOf around right = [] := by
  cases h with
  | none => rfl
  | value h => exact h.layers around
  | @tuple items h =>
    change Expr.layersAll around items = []
    induction items with
    | nil => rfl
    | cons item rest ih =>
      rw [layersAll, (h item (List.mem_cons_self ..)).layers, List.nil_append]
      exact ih fun other hother => h other (List.mem_cons_of_mem _ hother)

end EntitySql
