import EntitySql.Request.Read

/-!
# Operations

The operations that a session runs: reads, aggregates, inserts, updates and deletes.

* `Operation.ofJson?` reads an operation from JSON. Its `type` says which one it is, and
  `Operation.memberKeys?` which members it has.
-/

namespace EntitySql

set_option autoImplicit false

open Json

/-- Data of one record, under the names of fields and relations. -/
abbrev Record := Assoc Json

/-- What an aggregate function is applied to. -/
inductive AggregateTarget where
  | number (value : Int)
  /-- A field, or `*`. -/
  | name (name : String)
deriving DecidableEq

/-- An operation on an entity. -/
inductive Operation where
  | select (entity : String) (request : ReadRequest) (one : Bool)
  | aggregate (entity : String) (function : Aggregate) (target : AggregateTarget)
    (filter : Option Filter)
  | insert (entity : String) (data : Record)
  | insertMany (entity : String) (data : List Record)
  | update (entity : String) (data : Record) (filter : Option Filter)
  | delete (entity : String) (filter : Option Filter)

def Aggregate.ofJson? (value : Json) : Option Aggregate :=
  value.asString?.bind Aggregate.ofName?

/-- An integer of 64 bits, or a text. -/
def AggregateTarget.ofJson? : Json → Option AggregateTarget
  | .str text => some (.name text)
  | value => value.asInt64?.map .number

def Record.ofJson? (value : Json) : Option Record :=
  value.asMembers?

namespace Operation

/-- The members of an operation of a type, in order. -/
def memberKeys? : String → Option (List String)
  | "select" => some ["entity", "ast", "one"]
  | "aggregate" => some ["entity", "function", "target", "where"]
  | "insert" | "insertMany" => some ["entity", "data"]
  | "update" => some ["entity", "data", "where"]
  | "delete" => some ["entity", "where"]
  | _ => none

/-- Reads the members of an operation of a type. Filters may be left out, and so may `one`. -/
def ofMembers? (type : String) (members : Assoc Json) : Option Operation := do
  let entity ← required "entity" asString? members
  match type with
  | "select" =>
    return .select entity (← required "ast" ReadRequest.ofJson? members)
      (← defaulted "one" false asBool? members)
  | "aggregate" =>
    return .aggregate entity (← required "function" Aggregate.ofJson? members)
      (← required "target" AggregateTarget.ofJson? members)
      (← optional "where" Filter.ofJson? members)
  | "insert" =>
    return .insert entity (← required "data" Record.ofJson? members)
  | "insertMany" =>
    return .insertMany entity (← required "data" (listOf Record.ofJson?) members)
  | "update" =>
    return .update entity (← required "data" Record.ofJson? members)
      (← optional "where" Filter.ofJson? members)
  | "delete" =>
    return .delete entity (← optional "where" Filter.ofJson? members)
  | _ => none

/-- Reads an operation, which says its type first or as a member. -/
def ofJson? (value : Json) : Option Operation := do
  let (type, content) ← value.asTagged? "type"
  ofMembers? type (← content.asRecord? (← memberKeys? type))

end Operation

end EntitySql
