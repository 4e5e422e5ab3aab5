import EntitySql.Proofs.Relational.Scope

/-!
# Evaluating queries

What the trees of expressions, conditions and queries mean over stored data.

* `Query.exports` are the names of the columns of a query, rows or none.
* `Expr.eval`, `Condition.eval` and `Query.eval` evaluate the trees.
* `Expr.evalGroup` evaluates an expression over all rows of a query at once.

A query reads its source row by row, joins its lateral sub-queries to each row, keeps the joined
rows whose filter holds, and lists one row for each, or one row for all of them when a column
aggregates. A lateral sub-query without rows is joined as one row of absent values.
-/

namespace EntitySql

set_option autoImplicit false

variable {V : Type}

/-- The name of a column that has no label. -/
def Expr.columnName : Expr → String
  | .column _ name => name
  | .ident name => name
  | _ => "?column?"

/-- Whether an expression is evaluated over all rows of its query at once. -/
def Expr.isGrouped : Expr → Bool
  | .aggregate .. => true
  | .jsonAgg .. => true
  | .cast expr _ => expr.isGrouped
  | .toJson expr => expr.isGrouped
  | _ => false

mutual

/-- The names of the columns of a query. -/
def Query.exports (db : Instance V) : Query → List String
  | { columns, source, joins, .. } =>
    columns.flatMap fun (expr, label) => match expr, label with
      | .star, _ => Query.sourceExports db source ++ Query.joinExports db joins
      | _, some label => [label]
      | expr, none => [expr.columnName]
termination_by structural query => query

def Query.sourceExports (db : Instance V) : Option Source → List String
  | none => []
  | some source => source.exports db
termination_by structural source => source

def Source.exports (db : Instance V) : Source → List String
  | .table name _ => (db name).columns
  | .subquery query _ => query.exports db
termination_by structural source => source

def Query.joinExports (db : Instance V) : List (Query × String) → List String
  | [] => []
  | (query, _) :: rest => query.exports db ++ Query.joinExports db rest
termination_by structural joins => joins

end

def oneCell : List (Cells V) → Eval (Option (Cell V))
  | [] => .ok none
  | [[(_, cell)]] => .ok (some cell)
  | _ => .error .illTyped

def sortValues (engine : Engine V) (scope : Scope V) (order : List SortItem) : Eval (List V) :=
  order.mapM fun item => do (← scope.ident engine item.column).stored

/-- The elements in the order of their sort values. -/
def Engine.sorted {α : Type} (engine : Engine V) (order : List SortItem)
    (rows : List (List V × α)) : List α :=
  (engine.arrange (order.map SortItem.direction) rows).map Prod.snd

/-- The rows after the first `offset` ones, at most `limit` of them. -/
def Query.window {α : Type} (limit offset : Option Nat) (rows : List α) : List α :=
  let rest := rows.drop (offset.getD 0)
  match limit with
  | none => rest
  | some n => rest.take n

/-- A lateral sub-query without rows gives one row of absent values. -/
def orAbsent (engine : Engine V) (names : List String) (rows : List (Cells V)) : List (Cells V) :=
  if rows.isEmpty then [names.map fun name => (name, .value engine.null)] else rows

section

variable (engine : Engine V) (db : Instance V)

mutual

/-- Evaluates an expression for one row. -/
def Expr.eval (scope : Scope V) : Expr → Eval (Cell V)
  | .column source name => scope.column source name
  | .ident name => scope.ident engine name
  | .param index => .ok (.value (engine.param index))
  | .cast expr type => do return .value (engine.cast (← (← expr.eval scope).stored) type)
  | .literal value => .ok (.value (engine.literal value))
  | .toJson expr => do return .document ((← expr.eval scope).toJson engine)
  | .rowToJson query => do
    match ← oneCell (← query.eval scope) with
    | none => return .value engine.null
    | some (.record members) => return .document (.obj members)
    | some _ => throw .illTyped
  | .star | .tuple _ | .aggregate .. | .jsonAgg .. => .error .illTyped
termination_by structural expr => expr

/-- Evaluates an expression for all rows of a query, each with its scope. -/
def Expr.evalGroup (scopes : List (Scope V)) : Expr → Eval (Cell V)
  | .jsonAgg expr order first => do
    let rows ← gather (fun scope => do
      return [(← sortValues engine scope order, (← expr.eval scope).toJson engine)]) scopes
    let documents := engine.sorted order rows
    return .document (if first then documents.head?.getD .null else .arr documents)
  | .aggregate function .star =>
    .ok (.value (engine.aggregate function (scopes.map fun _ => engine.literal (.int 1))))
  | .aggregate function argument => do
    let values ← gather (fun scope => do return [← (← argument.eval scope).stored]) scopes
    return .value (engine.aggregate function values)
  | .cast expr type => do
    return .value (engine.cast (← (← expr.evalGroup scopes).stored) type)
  | .toJson expr => do return .document ((← expr.evalGroup scopes).toJson engine)
  | .param index => .ok (.value (engine.param index))
  | .literal value => .ok (.value (engine.literal value))
  | .column .. | .ident _ | .rowToJson _ | .star | .tuple _ => .error .illTyped
termination_by structural expr => expr

def Expr.evalItems (scope : Scope V) : List Expr → Eval (List V)
  | [] => .ok []
  | expr :: rest => do
    let value ← (← expr.eval scope).stored
    return value :: (← Expr.evalItems scope rest)
termination_by structural exprs => exprs

def Expr.evalOperand (scope : Scope V) : Option Expr → Eval (List V)
  | none => .ok []
  | some (.tuple items) => Expr.evalItems scope items
  | some expr => do return [← (← expr.eval scope).stored]
termination_by structural operand => operand

/-- Evaluates a condition. -/
def Condition.eval (scope : Scope V) : Condition → Eval Truth
  | .literal value => .ok (.ofBool value)
  | .compare left op right => do
    let value ← (← left.eval scope).stored
    let operand ← if op.isNullTest then .ok [] else Expr.evalOperand scope right
    return engine.compare op value operand
  | .all conditions => do return .all (← Condition.evalList scope conditions)
  | .any conditions =>
    if conditions.isEmpty then .ok .holds
    else do return .any (← Condition.evalList scope conditions)
  | .exists query => do return .ofBool !(← query.eval scope).isEmpty
termination_by structural condition => condition

def Condition.evalList (scope : Scope V) : List Condition → Eval (List Truth)
  | [] => .ok []
  | condition :: rest => do
    let truth ← condition.eval scope
    return truth :: (← Condition.evalList scope rest)
termination_by structural conditions => conditions

/-- Evaluates a query to its rows. -/
def Query.eval (scope : Scope V) : Query → Eval (List (Cells V))
  | { columns, source, joins, filter, order, limit, offset } => do
    let frames ← gather (fun frame => do
      gather (fun joined => Query.evalFilter scope joined filter)
        (← Query.evalJoins scope frame joins)) (← Query.evalSource scope source)
    let scopes := frames.map (· :: scope)
    let rows ← (if columns.any (·.1.isGrouped) then (· :: []) <$> Query.evalGroups scopes columns
      else engine.sorted order <$> gather (fun frame => do
        let values ← sortValues engine (frame :: scope) order
        return [(values, ← Query.evalColumns scope frame columns)]) frames)
    return Query.window limit offset rows
termination_by structural query => query

/-- The frames of what a query reads from; without a source there is one empty frame. -/
def Query.evalSource (scope : Scope V) : Option Source → Eval (List (Frame V))
  | none => .ok [[]]
  | some source => source.eval scope
termination_by structural source => source

/-- The frames of a source, one for each of its rows. -/
def Source.eval (scope : Scope V) : Source → Eval (List (Frame V))
  | .table name label =>
    .ok ((db name).tuples.map fun tuple => [(label.getD name, (db name).cells tuple)])
  | .subquery query label => do return (← query.eval scope).map fun row => [(label, row)]
termination_by structural source => source

/-- Extends a frame by each combination of rows of lateral joins. -/
def Query.evalJoins (scope : Scope V) (frame : Frame V) :
    List (Query × String) → Eval (List (Frame V))
  | [] => .ok [frame]
  | (query, label) :: rest => do
    let rows := orAbsent engine (query.exports db) (← query.eval (frame :: scope))
    gather (fun row => Query.evalJoins scope (frame ++ [(label, row)]) rest) rows
termination_by structural joins => joins

/-- The frame if the filter of the query holds there, or if there is none. -/
def Query.evalFilter (scope : Scope V) (frame : Frame V) :
    Option Condition → Eval (List (Frame V))
  | none => .ok [frame]
  | some condition => do
    return if (← condition.eval (frame :: scope)) = .holds then [frame] else []
termination_by structural filter => filter

/-- The row of a query for one frame. -/
def Query.evalColumns (scope : Scope V) (frame : Frame V) :
    List (Expr × Option String) → Eval (Cells V)
  | [] => .ok []
  | (.star, _) :: rest => do
    return frame.flatMap (·.2) ++ (← Query.evalColumns scope frame rest)
  | (expr, label) :: rest => do
    let cell ← expr.eval (frame :: scope)
    return (label.getD expr.columnName, cell) :: (← Query.evalColumns scope frame rest)
termination_by structural columns => columns

/-- The one row of a query whose columns aggregate. -/
def Query.evalGroups (scopes : List (Scope V)) : List (Expr × Option String) → Eval (Cells V)
  | [] => .ok []
  | (expr, label) :: rest => do
    let cell ← expr.evalGroup scopes
    return (label.getD expr.columnName, cell) :: (← Query.evalGroups scopes rest)
termination_by structural columns => columns

end

end

end EntitySql
