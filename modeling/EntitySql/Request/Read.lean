import EntitySql.Json.Decode
import EntitySql.Request.Filter
import EntitySql.Request.Sort

/-!
# Read requests

What callers send to read: a named node that lists members, each bare or as a node of its own, with
the arguments of the read.

* `ReadArgs.ofJson?` and `ReadRequest.ofJson?` read them from JSON.
-/

namespace EntitySql

set_option autoImplicit false

open Json

/-- The arguments of one node of a read. -/
structure ReadArgs where
  filter : Option Filter := none
  order : Option (List SortKey) := none
  limit : Option Nat := none
  offset : Option Nat := none

mutual

/-- A node of a read request. -/
structure ReadRequest where
  name : String := ""
  items : List ReadItem := []
  args : ReadArgs := {}

/-- A member to read: its name alone, or a node named after it. -/
inductive ReadItem where
  | bare (name : String)
  | node (request : ReadRequest)

end

instance : Inhabited ReadRequest := ⟨{}⟩

def Filter.ofJson? (value : Json) : Option Filter :=
  (Filter.parse value).toOption

def SortKey.listOfJson? (value : Json) : Option (List SortKey) :=
  (SortKey.parse value).toOption

namespace ReadArgs

def sortKeys (args : ReadArgs) : List SortKey :=
  args.order.getD []

/-- Every argument may be left out. -/
def ofJson? (value : Json) : Option ReadArgs := do
  let members ← value.asRecord? ["where", "orderBy", "limit", "offset"]
  return {
    filter := ← optional "where" Filter.ofJson? members
    order := ← optional "orderBy" SortKey.listOfJson? members
    limit := ← optional "limit" (asUnsigned? 64) members
    offset := ← optional "offset" (asUnsigned? 64) members }

end ReadArgs

namespace ReadRequest

/-- Reads a member of a node, in addition to what has been read. A value of `fields` is given with
the members to read that it lists, if it does. -/
def addMember? (read : ReadRequest) (key : String) (value : Json)
    (listed : Option (List ReadItem)) : Option ReadRequest :=
  if key = "name" then do return { read with name := ← value.asString? }
  else if key = "fields" then do return { read with items := ← listed }
  else if key = "args" then do return { read with args := ← ReadArgs.ofJson? value }
  else some read

/-- The members of a node, in order. -/
def memberKeys : List String :=
  ["name", "fields", "args"]

mutual

/-- Reads the members of a node, in addition to what has been read. -/
def ofMembers? (read : ReadRequest) : List (String × Json) → Option ReadRequest
  | [] => some read
  | (key, value) :: rest => do
    ofMembers? (← addMember? read key value (itemsOfJson? value)) rest
termination_by structural members => members

/-- Reads the values of the members with these keys, in order, in addition to what has been read. -/
def ofValues? (read : ReadRequest) (keys : List String) : List Json → Option ReadRequest
  | [] => some read
  | value :: rest =>
    match keys with
    | [] => none
    | key :: keys => do
      ofValues? (← addMember? read key value (itemsOfJson? value)) keys rest
termination_by structural values => values

def itemsOfJson? : Json → Option (List ReadItem)
  | .arr items => itemsOfList? items
  | _ => none
termination_by structural value => value

def itemsOfList? : List Json → Option (List ReadItem)
  | [] => some []
  | item :: rest => do
    let first ← itemOfJson? item
    return first :: (← itemsOfList? rest)
termination_by structural items => items

/-- Reads a member to read: text is a bare name, any record is a node. -/
def itemOfJson? : Json → Option ReadItem
  | .str name => some (.bare name)
  | .obj members => (ofMembers? {} members).map .node
  | .arr values => (ofValues? {} memberKeys values).map .node
  | _ => none
termination_by structural value => value

end

/-- Reads a node. Every member may be left out. -/
def ofJson? (value : Json) : Option ReadRequest := do
  ofMembers? {} (← value.asRecord? memberKeys)

end ReadRequest

end EntitySql
