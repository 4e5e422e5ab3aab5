import EntitySql.Database.Basic

/-!
# Scripted databases

A database that follows a script: it answers with prepared replies, fails or stalls where the script
says so, and logs every call.

* `Script` is the state: what is still to be answered, where to fail, and the log.
* `Script.database` is the database.
-/

namespace EntitySql

set_option autoImplicit false

/-- A call about the connection or its transaction. -/
inductive Event where
  | start
  | commit
  | rollback
  | abandon
  | close
deriving DecidableEq, Repr

/-- The name of an event, by which a script makes it fail. -/
def Event.name : Event → String
  | start => "begin"
  | commit => "commit"
  | rollback => "rollback"
  | abandon => "abandon"
  | close => "close"

/-- A logged call. -/
inductive LogEntry where
  | connect (url : String)
  | query (sql : String) (params : List Json)
  | execute (sql : String) (params : List Json)
  | batch (sql : String)
  | event (event : Event)
deriving DecidableEq

/-- A logged call as an object that names its kind. -/
def LogEntry.toJson : LogEntry → Json
  | connect url => .obj [("connect", .str url)]
  | query sql params => .obj [("query", .str sql), ("params", .arr params)]
  | execute sql params => .obj [("execute", .str sql), ("params", .arr params)]
  | batch sql => .obj [("batch", .str sql)]
  | event happened => .obj [("event", .str happened.name)]

/-- The state of a scripted database. -/
structure Script where
  /-- The replies to come, each for one statement. -/
  replies : List ResultSet := []
  /-- Statements that contain this text fail. -/
  failOn : Option String := none
  /-- The first statement that contains this text stalls. -/
  stallOn : Option String := none
  /-- The names of the events that fail, and `batch`. -/
  failing : List String := []
  /-- The calls so far, in order. -/
  log : List LogEntry := []
deriving DecidableEq

def isInside (part : List Char) : List Char → Bool
  | [] => part.isEmpty
  | c :: rest => part.isPrefixOf (c :: rest) || isInside part rest

/-- Whether a text contains the given part. -/
def containsText (text part : String) : Bool :=
  isInside part.toList text.toList

namespace Script

def record (entry : LogEntry) : Call Script Unit :=
  modify fun script => { script with log := script.log ++ [entry] }

/-- Stalls or fails where the script says so about a statement. -/
def obstruct (sql : String) : Call Script Unit := do
  let script ← get
  if script.stallOn.any (containsText sql) then
    set { script with stallOn := none }
    throw .stalled
  match script.failOn.filter (containsText sql) with
  | some text =>
    throw (.fault (.database (.reported ("statement failed: " ++ text))))
  | none => pure ()

/-- Takes the next reply, or the given one when there is none. -/
def reply (otherwise : ResultSet) : Call Script ResultSet := do
  let script ← get
  match script.replies with
  | [] => return otherwise
  | next :: rest =>
    set { script with replies := rest }
    return next

/-- Logs an event, and fails if the script says so. -/
def happen (event : Event) : Call Script Unit := do
  record (.event event)
  if event.name ∈ (← get).failing then
    throw (.fault (.transaction (event.name ++ " failed")))

/-- Connects, unless the address says that its host is down. -/
def connect (url : String) : Call Script Unit := do
  record (.connect url)
  if containsText url "down" then
    throw (.fault (.connection (.reported ("cannot reach " ++ url))))

def query (sql : String) (params : List Json) : Call Script ResultSet := do
  record (.query sql params)
  obstruct sql
  reply {}

def execute (sql : String) (params : List Json) : Call Script Nat := do
  record (.execute sql params)
  obstruct sql
  return (← reply { rowCount := 1 }).rowCount

def batch (sql : String) : Call Script Unit := do
  record (.batch sql)
  if "batch" ∈ (← get).failing then
    throw (.fault (.database (.reported "batch failed")))

def abandon (script : Script) : Script :=
  { script with log := script.log ++ [.event .abandon] }

/-- The database that follows the script in its state. -/
def database : Database Script where
  connect := connect
  query := query
  execute := execute
  batch := batch
  start := happen .start
  commit := happen .commit
  rollback := happen .rollback
  abandon := abandon
  close := happen .close

end Script

end EntitySql
