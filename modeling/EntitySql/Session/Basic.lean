import EntitySql.Compile.Operation
import EntitySql.Database.Transaction
import EntitySql.Migration.Run

/-!
# Sessions

A schema with its physical names, used to run operations on a database. Everything is compiled
before the database is called, so a faulty operation never reaches it.

* `Session.establish` makes a session, after bringing the database up to date if that is asked for.
* `Session.run` runs one operation, `Session.transaction` runs several or none.
* `Output` is what an operation gives.
-/

namespace EntitySql

set_option autoImplicit false

open Json

/-- How a session is set up. -/
structure Config where
  /-- Whether opening a session brings the database up to date. -/
  synchronize : Bool := true
  /-- Physical names that override the derived ones. -/
  overrides : Assoc String := []
deriving DecidableEq

/-- Texts under text keys. -/
def textsOfJson? (value : Json) : Option (Assoc String) := do
  (← value.asMembers?).mapM fun (key, value) => do return (key, ← value.asString?)

/-- Both settings may be left out. -/
def Config.ofJson? (value : Json) : Option Config := do
  let members ← value.asRecord? ["synchronize", "nameOverrides"]
  return {
    synchronize := ← defaulted "synchronize" true asBool? members
    overrides := ← defaulted "nameOverrides" [] textsOfJson? members }

/-- Both settings, the names in the order of what they override. -/
def Config.toJson (config : Config) : Json :=
  let overrides := config.overrides.map fun (key, name) => (key, Json.str name)
  .obj [("synchronize", .bool config.synchronize),
    ("nameOverrides", .obj (Assoc.sorted overrides))]

/-- What an operation gives: a document or a number of rows. -/
inductive Output where
  | value (value : Json)
  | rowCount (count : Nat)
deriving DecidableEq

namespace Output

def toJson : Output → Json
  | .value document => document
  | .rowCount count => .ofNat count

/-- The number of rows, which is zero for a document. -/
def rows : Output → Nat
  | .value _ => 0
  | .rowCount count => count

end Output

/-- A checked schema with its physical names. -/
structure Session where
  schema : Schema
  naming : Naming
  config : Config

namespace Session

variable {σ : Type}

/-- Checks entities and names them. -/
def prepare (entities : List Entity) (config : Config) : Result Session := do
  let schema ← Schema.ofEntities entities
  let naming ← Naming.ofSchema config.overrides schema
  return { schema, naming, config }

/-- Brings the database up to date and returns the number of definitions sent. -/
def synchronize (session : Session) (database : Database σ) : Call σ Nat :=
  migrate database session.schema session.naming

/-- Opens a session over entities. -/
def establish (database : Database σ) (entities : List Entity) (config : Config) :
    Call σ Session := do
  let session ← Call.ofResult (prepare entities config)
  if config.synchronize then
    let _ ← session.synchronize database
  return session

/-- Connects the database to an address and opens a session over it. -/
def connect (database : Database σ) (url : String) (entities : List Entity) (config : Config) :
    Call σ Session := do
  database.connect url
  Session.establish database entities config

def plan (session : Session) (operation : Operation) : Result OperationPlan :=
  operation.plan session.schema session.naming

/-- The value of a column of the first row, or `null`. -/
def fetched (result : ResultSet) (column : String) : Json :=
  .ofOption (result.first?.bind (·.value? column))

/-- Runs a compiled operation: one call, or none when there is nothing to do. -/
def runPlan (database : Database σ) : OperationPlan → Call σ Output
  | .fetch bound column => do
    let result ← database.query bound.statement.text bound.params
    return .value (fetched result column)
  | .count bound => do return .rowCount (← database.execute bound.statement.text bound.params)
  | .skip => return .rowCount 0

def runPlans (database : Database σ) : List OperationPlan → Call σ (List Output)
  | [] => return []
  | plan :: rest => do
    let output ← runPlan database plan
    return output :: (← runPlans database rest)

/-- Compiles and runs an operation. -/
def run (session : Session) (database : Database σ) (operation : Operation) : Call σ Output := do
  runPlan database (← Call.ofResult (session.plan operation))

/-- Sends a statement as it is. -/
def raw (database : Database σ) (sql : String) (params : List Json) : Call σ ResultSet :=
  database.query sql params

/-- Undoes a transaction in which a call was interrupted. After a fault it is rolled back, and the
fault is reported whatever comes of that; a call that never completes leaves it abandoned. -/
def undo {α : Type} (database : Database σ) (interruption : Interruption) : Call σ α :=
  match interruption with
  | .fault fault => do
    tryCatch (database.finish database.rollback) fun
      | .fault _ => return ()
      | .stalled => throw .stalled
    throw (.fault fault)
  | .stalled => do
    modify database.abandon
    throw .stalled

/-- Compiles operations and runs them in order in one transaction. -/
def transaction (session : Session) (database : Database σ) (operations : List Operation) :
    Call σ (List Output) := do
  let plans ← Call.ofResult (Operation.planAll session.schema session.naming operations)
  database.start
  let outputs ← tryCatch (runPlans database plans) (undo database)
  database.finish database.commit
  return outputs

end Session

end EntitySql
