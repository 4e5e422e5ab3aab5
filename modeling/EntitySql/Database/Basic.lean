import EntitySql.Database.Row
import EntitySql.Fault

/-!
# Databases

What a session asks of a database. A database is a state with calls on it; a call gives a value,
fails, or never completes, and then it is cancelled by whoever waits for it.

* `Call` is a call on a state.
* `Database` lists the calls.
-/

namespace EntitySql

set_option autoImplicit false

/-- Why a call gives no value. -/
inductive Interruption where
  | fault (fault : Fault)
  /-- The call never completes. -/
  | stalled
deriving DecidableEq

/-- A call on a database with states of type `σ`. -/
abbrev Call (σ : Type) := ExceptT Interruption (StateM σ)

/-- The value of a result that needs no database. -/
def Call.ofResult {σ α : Type} : Result α → Call σ α
  | .ok value => return value
  | .error fault => throw (.fault fault)

/-- The calls on a database with states of type `σ`. -/
structure Database (σ : Type) where
  connect (url : String) : Call σ Unit
  /-- Runs a statement and returns rows. -/
  query (sql : String) (params : List Json) : Call σ ResultSet
  /-- Runs a statement and returns the number of rows it touched. -/
  execute (sql : String) (params : List Json) : Call σ Nat
  batch (sql : String) : Call σ Unit
  start : Call σ Unit
  commit : Call σ Unit
  rollback : Call σ Unit
  /-- Discards the transaction without waiting for an answer. -/
  abandon : σ → σ
  close : Call σ Unit

end EntitySql
