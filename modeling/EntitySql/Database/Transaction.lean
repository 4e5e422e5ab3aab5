import EntitySql.Database.Basic

/-!
# Transactions

A guard over an open transaction. A commit or a rollback ends it; a transaction that ends in any
other way is abandoned.

* `Database.finish` ends a transaction by a commit or a rollback and abandons it when that fails.
* `Guard.start` opens a guard, `Guard.step` performs one step under it, and `Guard.drop` ends it.
-/

namespace EntitySql

set_option autoImplicit false

variable {σ : Type}

/-- Ends a transaction by a call, and abandons it unless the call succeeds. -/
def Database.finish (database : Database σ) (call : Call σ Unit) : Call σ Unit :=
  tryCatch call fun interruption => do
    modify database.abandon
    throw interruption

/-- The state of a database, and whether a guard holds a transaction open on it. -/
structure Guard (σ : Type) where
  state : σ
  isOpen : Bool

namespace Guard

/-- A statement of a transaction. -/
inductive Request where
  | query (sql : String) (params : List Json)
  | execute (sql : String) (params : List Json)
  | batch (sql : String)
deriving DecidableEq

/-- A step under a guard. The last three end it. -/
inductive Step where
  /-- A statement. Whoever gives it up keeps the guard, or drops it as well. -/
  | send (request : Request) (keeps : Bool)
  | commit
  | rollback
  | drop
deriving DecidableEq

namespace Step

/-- A query that takes the guard with it when it is given up. -/
def query (sql : String) (params : List Json) : Step :=
  send (.query sql params) false

def execute (sql : String) (params : List Json) : Step :=
  send (.execute sql params) false

def batch (sql : String) : Step :=
  send (.batch sql) false

end Step

/-- What a step gives. -/
inductive Answer where
  | rows (result : ResultSet)
  | count (rows : Nat)
  | done
  | committed
  | rolledBack
  | dropped
  /-- No guard holds a transaction open. -/
  | finished
deriving DecidableEq

/-- The call for a statement. -/
def Request.call (database : Database σ) : Request → Call σ Answer
  | query sql params => do return .rows (← database.query sql params)
  | execute sql params => do return .count (← database.execute sql params)
  | batch sql => do return (fun _ => .done) (← database.batch sql)

/-- Opens a guard by starting a transaction. -/
def start (database : Database σ) (state : σ) : Except Interruption Unit × Guard σ :=
  match database.start.run.run state with
  | (.ok (), state) => (.ok (), ⟨state, true⟩)
  | (.error interruption, state) => (.error interruption, ⟨state, false⟩)

/-- Ends the guard, if it is open, and abandons its transaction. -/
def drop (database : Database σ) (guard : Guard σ) : Guard σ :=
  if guard.isOpen then ⟨database.abandon guard.state, false⟩ else guard

/-- Sends a statement. One that never completes is given up, and takes the guard with it unless the
guard is kept. -/
def call (database : Database σ) (guard : Guard σ) (request : Request) (keeps : Bool) :
    Except Interruption Answer × Guard σ :=
  match (request.call database).run.run guard.state with
  | (.error .stalled, state) =>
    (.error .stalled, if keeps then ⟨state, true⟩ else drop database ⟨state, true⟩)
  | (answer, state) => (answer, ⟨state, true⟩)

/-- Ends the guard by a commit or a rollback. -/
def finish (database : Database σ) (guard : Guard σ) (call : Call σ Unit) (answer : Answer) :
    Except Interruption Answer × Guard σ :=
  match (database.finish call).run.run guard.state with
  | (.ok (), state) => (.ok answer, ⟨state, false⟩)
  | (.error interruption, state) => (.error interruption, ⟨state, false⟩)

/-- Performs one step. Once the guard has ended, every step finds it finished. -/
def step (database : Database σ) (guard : Guard σ) (step : Step) :
    Except Interruption Answer × Guard σ :=
  if guard.isOpen then
    match step with
    | .send request keeps => guard.call database request keeps
    | .commit => guard.finish database database.commit .committed
    | .rollback => guard.finish database database.rollback .rolledBack
    | .drop => (.ok .dropped, guard.drop database)
  else (.ok .finished, guard)

end Guard

end EntitySql
