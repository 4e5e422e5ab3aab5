import EntitySql.Compile.Read
import EntitySql.Compile.Write

/-!
# Compiling operations

From an operation to one statement with its parameters, and what its result is read from. Values are
bound before anything is compiled, and a statement has aliases and parameters of its own.

* `Operation.plan` compiles an operation.
-/

namespace EntitySql

set_option autoImplicit false

structure BoundStatement where
  statement : Statement
  params : List Json

/-- What running an operation comes to. -/
inductive OperationPlan where
  /-- Query, and take the value of a column of the first row. -/
  | fetch (bound : BoundStatement) (column : String)
  /-- Execute, and take the number of rows. -/
  | count (bound : BoundStatement)
  /-- Nothing to do. -/
  | skip

namespace Operation

/-- The result of a compilation with aliases of its own. -/
def compiled {α : Type} (compilation : Compile α) : Result α :=
  (compilation.run.run {}).1

/-- The plan of a read of all rows, or of the first one. -/
def planSelect (schema : Schema) (naming : Naming) (entity : String) (request : ReadRequest)
    (one : Bool) : Result OperationPlan := do
  let selection ← Selection.ofRequest schema entity request
  let (selection, bindings) := selection.bind.run {}
  let query ← compiled
    (if one then selection.compileOne schema naming entity
      else selection.compile schema naming entity)
  return .fetch ⟨.query query, bindings.values⟩ selection.name

def planAggregate (schema : Schema) (naming : Naming) (entity : String) (function : Aggregate)
    (target : AggregateTarget) (filter : Option Filter) : Result OperationPlan := do
  let (filter, bindings) := (Filter.bindOptional filter).run {}
  let query ← compiled (compileAggregate schema naming entity function target filter)
  return .fetch ⟨.query query, bindings.values⟩ function.name

/-- The plan of an insert. Without records there is nothing to do. -/
def planInsert (schema : Schema) (naming : Naming) (entity : String) (data : List Record) :
    Result OperationPlan :=
  if data.isEmpty then .ok .skip
  else do
    let (records, bindings) := (Record.bindAll schema entity data).run.run {}
    let insert ← compileInsert schema naming entity (← records)
    return .count ⟨.insert insert, bindings.values⟩

/-- The plan of an update. The data is bound before the filter. -/
def planUpdate (schema : Schema) (naming : Naming) (entity : String) (data : Record)
    (filter : Option Filter) : Result OperationPlan := do
  let (record, bindings) := (Record.bind schema entity data).run.run {}
  let record ← record
  let (filter, bindings) := (Filter.bindOptional filter).run bindings
  let update ← compileUpdate schema naming entity record filter
  return .count ⟨.update update, bindings.values⟩

def planDelete (schema : Schema) (naming : Naming) (entity : String) (filter : Option Filter) :
    Result OperationPlan := do
  let (filter, bindings) := (Filter.bindOptional filter).run {}
  let delete ← compileDelete schema naming entity filter
  return .count ⟨.delete delete, bindings.values⟩

def plan (schema : Schema) (naming : Naming) : Operation → Result OperationPlan
  | .select entity request one => planSelect schema naming entity request one
  | .aggregate entity function target filter =>
    planAggregate schema naming entity function target filter
  | .insert entity data => planInsert schema naming entity [data]
  | .insertMany entity data => planInsert schema naming entity data
  | .update entity data filter => planUpdate schema naming entity data filter
  | .delete entity filter => planDelete schema naming entity filter

/-- Compiles operations in order, up to the first fault. -/
def planAll (schema : Schema) (naming : Naming) (operations : List Operation) :
    Result (List OperationPlan) :=
  operations.mapM (plan schema naming)

end Operation

end EntitySql
