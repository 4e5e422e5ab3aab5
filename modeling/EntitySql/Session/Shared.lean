import EntitySql.Session.Basic

/-!
# Shared sessions

A session with a number of handles on it. Only the last handle can close the database.

* `SharedSession.clone` adds a handle.
* `SharedSession.close` gives a handle up.
-/

namespace EntitySql

set_option autoImplicit false

/-- A session and the number of handles on it. -/
structure SharedSession where
  session : Session
  handles : Nat

namespace SharedSession

variable {σ : Type}

/-- A session with one handle. -/
def ofSession (session : Session) : SharedSession where
  session := session
  handles := 1

/-- Adds a handle. -/
def clone (shared : SharedSession) : SharedSession :=
  { shared with handles := shared.handles + 1 }

/-- The session with one handle less. -/
def released (shared : SharedSession) : SharedSession :=
  { shared with handles := shared.handles - 1 }

/-- Closes the database. It fails while there are other handles. -/
def close (shared : SharedSession) (database : Database σ) : Call σ Unit :=
  if shared.handles = 1 then database.close else throw (.fault (.connection .shared))

end SharedSession

end EntitySql
