import EntitySql.Compile.Filter
import EntitySql.Compile.ReadPlan
import EntitySql.Request.Operation

/-!
# Compiling reads

From planned reads to single queries. A node reads its table under a base alias, with its filter,
its limit and lateral joins for its relations; around that it shapes one JSON document per row,
beside the values to sort by; and a list collects the documents of all rows into one array.

* `ReadPlan.compile` compiles one node with everything below it.
* `Selection.compile` is the array of all rows, `Selection.compileOne` the first of them.
* `compileAggregate` compiles an aggregate function over the rows of an entity.
-/

namespace EntitySql

set_option autoImplicit false

open Compile

/-- The join of a node to the row above: its own column, and the expression it has to equal. -/
structure Correlation where
  column : String
  parent : Expr

namespace ReadPlan

/-- The column that carries a sort value. A path of one name is read from the entity's own field,
a longer one from the join that carries it. -/
def sortColumn (schema : Schema) (naming : Naming) (entity base : String) (key : SortKey) :
    Result (Expr × Option String) :=
  match key.path with
  | [name] => do
    let field ← schema.field entity name
    let column ← naming.column entity field.name
    return (.column base column, some key.label)
  | _ => .ok (.column base key.label, none)

def sortColumns (schema : Schema) (naming : Naming) (entity base : String)
    (keys : List SortKey) : Result (List (Expr × Option String)) :=
  keys.mapM (sortColumn schema naming entity base)

/-- The names of the relations that appear in the documents of a node. -/
def shownRelations (joins : List JoinPlan) : List String :=
  joins.filterMap fun join => match join with
    | .on relation true _ => some relation
    | _ => none

/-- The query for the document of one row: a whole-row reference to its fields and relations. -/
def document (naming : Naming) (entity base output : String) (fields relations : List String) :
    Result Query := do
  let columns ← fields.mapM fun field => do
    return (Expr.column base (← naming.column entity field), some field)
  let shown := relations.map fun relation => (Expr.column base relation, none)
  return {
    columns := [(.ident output, none)]
    source := some (.subquery { columns := columns ++ shown } output) }

/-- The sort criteria of keys, by the columns that carry their values. -/
def sortItems (keys : List SortKey) : List SortItem :=
  keys.map fun key => ⟨key.label, key.direction⟩

/-- A bound on rows; zero is none. -/
def positive (bound : Option Nat) : Option Nat :=
  bound.filter (0 < ·)

/-- Collects the documents of a node into an array in the order of its own sort keys. -/
def collect (head : ReadHead) (shaped : Query) (label : String) : Query where
  columns := [(.jsonAgg (.ident head.name) (sortItems head.args.sortKeys) false, some head.name)]
  source := some (.subquery shaped label)

/-- The condition that joins a node to the row above, if there is one. -/
def jointCondition (root : String) : Option Correlation → List Condition
  | none => []
  | some { column, parent } => [.equal (.column root column) parent]

def filterConditions (schema : Schema) (naming : Naming) (entity root : String) :
    Option Filter → Compile (List Condition)
  | none => return []
  | some filter => do return [← filter.compile schema naming entity root]

mutual

/-- Compiles a planned read that is joined to the row above, or to none, and is a list or not. -/
def compile (schema : Schema) (naming : Naming) (correlation : Option Correlation)
    (isList : Bool) : ReadPlan → Compile Query
  | .refused fault => throw fault
  | .node head joins lists => do
    let root ← fresh "root.base"
    let table ← ofResult (naming.table head.entity)
    let joined ← compileJoins schema naming head.entity root false joins
    let listed ← compileJoins schema naming head.entity root true lists
    let filter ← filterConditions schema naming head.entity root head.args.filter
    let base ← fresh "base"
    let output ← fresh "o"
    let document ← ofResult (document naming head.entity base output head.fields
      (shownRelations joins ++ shownRelations lists))
    let sorts ← ofResult (sortColumns schema naming head.entity base head.carried)
    let rows : Query := {
      columns := [(.star, none)]
      source := some (.table table (some root))
      joins := joined ++ listed
      filter := some (.all ([.literal true] ++ jointCondition root correlation ++ filter))
      limit := positive head.args.limit
      offset := positive head.args.offset }
    let shaped : Query := {
      columns := (.rowToJson document, some head.name) :: sorts
      source := some (.subquery rows base) }
    if isList then return collect head shaped (← fresh "agg") else return shaped
termination_by structural plan => plan

/-- Compiles joins of many-to-ones or of one-to-manys, each under a fresh alias. -/
def compileJoins (schema : Schema) (naming : Naming) (entity root : String) (isList : Bool) :
    List JoinPlan → Compile (List (Query × String))
  | [] => return []
  | join :: rest => do
    let first ← compileJoin schema naming entity root isList join
    return first :: (← compileJoins schema naming entity root isList rest)
termination_by structural joins => joins

def compileJoin (schema : Schema) (naming : Naming) (entity root : String) (isList : Bool) :
    JoinPlan → Compile (Query × String)
  | .unknown fault => throw fault
  | .on relation _ plan => do
    let link ← ofResult (naming.link entity relation)
    let query ← compile schema naming
      (some ⟨link.toColumn, .column root link.fromColumn⟩) isList plan
    return (query, ← fresh "j")
termination_by structural join => join

end

end ReadPlan

namespace Selection

/-- The query for all rows of a read, as one array. -/
def compile (schema : Schema) (naming : Naming) (entity : String) (selection : Selection) :
    Compile Query :=
  (ReadPlan.ofSelection schema entity [] selection).compile schema naming none true

/-- The query for the first row of a read, or `null`. -/
def compileOne (schema : Schema) (naming : Naming) (entity : String) (selection : Selection) :
    Compile Query := do
  let rows ← (ReadPlan.ofSelection schema entity [] selection).compile schema naming none false
  let order := ReadPlan.sortItems selection.args.sortKeys
  return {
    columns := [(.jsonAgg (.ident selection.name) order true, some selection.name)]
    source := some (.subquery rows "_final_root") }

end Selection

/-- The argument of an aggregate function over a table. -/
def AggregateTarget.argument (schema : Schema) (naming : Naming) (entity table : String) :
    AggregateTarget → Result Expr
  | .number value => .ok (.literal (.int value))
  | .name text =>
    if text = "*" then .ok .star
    else do
      let field ← schema.field entity text
      return .column table (← naming.column entity field.name)

/-- The query for an aggregate function over the rows of an entity that satisfy the filter. -/
def compileAggregate (schema : Schema) (naming : Naming) (entity : String)
    (function : Aggregate) (target : AggregateTarget) (filter : Option Filter) :
    Compile Query := do
  let table ← ofResult (naming.table entity)
  let argument ← ofResult (target.argument schema naming entity table)
  let conditions ← ReadPlan.filterConditions schema naming entity table filter
  return {
    columns := [(.toJson (.aggregate function argument), some function.name)]
    source := some (.table table none)
    filter := some (.all (.literal true :: conditions)) }

end EntitySql
