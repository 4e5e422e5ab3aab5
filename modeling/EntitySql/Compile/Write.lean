import EntitySql.Binding.Record
import EntitySql.Compile.Filter
import EntitySql.Sql.Statement

/-!
# Compiling writes

From bound records and filters to statements that write. Every placeholder is cast to the type of
its column; the column of a many-to-one has the type of the field it refers to.

* `assignments` are the columns and values of a record.
* `compileInsert`, `compileUpdate` and `compileDelete` compile the statements.

An update or a delete without a filter touches every row.
-/

namespace EntitySql

set_option autoImplicit false

/-- A column and the value it receives. -/
abbrev Assignment := String × Expr

def fieldAssignment (naming : Naming) (entity name : String) (field : Field) :
    BoundValue → Result Assignment
  | .param index => do
    return (← naming.column entity field.name, .typedParam index field.sqlType)
  | _ => .error (.shape (.fieldValue entity name))

/-- The placeholder of a many-to-one: its own, or that of the target field in its data. -/
def targetParameter (entity name : String) (relation : ManyToOne) : BoundValue → Result Nat
  | .param index => .ok index
  | .record entries =>
    match Assoc.get? relation.targetField entries with
    | some (.param index) => .ok index
    | _ => .error (.shape (.targetValueMissing relation.name relation.targetField))
  | .list _ => .error (.shape (.objectExpected entity name))

def relationAssignment (schema : Schema) (naming : Naming) (entity name : String)
    (relation : ManyToOne) (value : BoundValue) : Result Assignment := do
  let index ← targetParameter entity name relation value
  let link ← naming.link entity relation.name
  let target ← schema.field relation.targetEntity relation.targetField
  return (link.fromColumn, .typedParam index target.sqlType)

def assignment (schema : Schema) (naming : Naming) (entity : String) :
    String × BoundValue → Result Assignment
  | (name, value) => do
    match ← schema.resolve entity name with
    | some (.field field) => fieldAssignment naming entity name field value
    | some (.manyToOne relation) => relationAssignment schema naming entity name relation value
    | _ => throw (.shape (.notWritable entity name))

def assignments (schema : Schema) (naming : Naming) (entity : String) (record : BoundRecord) :
    Result (List Assignment) :=
  record.mapM (assignment schema naming entity)

/-- Adds the rows of records to those of records before them, which all set the same columns. -/
def insertRows (schema : Schema) (naming : Naming) (entity : String)
    (before : Option (List String)) : List BoundRecord → Result (List String × List (List Expr))
  | [] => .ok (before.getD [], [])
  | record :: rest => do
    let pairs ← assignments schema naming entity record
    let columns := pairs.map Prod.fst
    match before with
    | some expected =>
      if expected ≠ columns then throw (.shape (.mixedColumns entity expected columns))
    | none => pure ()
    let (all, rows) ← insertRows schema naming entity (some columns) rest
    return (all, pairs.map Prod.snd :: rows)

def compileInsert (schema : Schema) (naming : Naming) (entity : String)
    (records : List BoundRecord) : Result Insert := do
  let (columns, rows) ← insertRows schema naming entity none records
  let table ← naming.table entity
  Insert.checked { table, columns, rows }

/-- The condition on the rows that a write touches, with aliases of its own. -/
def compileTouched (schema : Schema) (naming : Naming) (entity : String)
    (filter : Option Filter) : Result Condition :=
  ((filter.getD {}).compileOn schema naming entity none).run.run {} |>.1

def compileUpdate (schema : Schema) (naming : Naming) (entity : String) (record : BoundRecord)
    (filter : Option Filter) : Result Update := do
  let pairs ← assignments schema naming entity record
  let condition ← compileTouched schema naming entity filter
  let table ← naming.table entity
  Update.checked { table, assignments := pairs, filter := condition }

def compileDelete (schema : Schema) (naming : Naming) (entity : String)
    (filter : Option Filter) : Result Delete := do
  let condition ← compileTouched schema naming entity filter
  return { table := ← naming.table entity, filter := condition }

end EntitySql
