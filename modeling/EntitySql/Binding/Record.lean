import EntitySql.Binding.Basic
import EntitySql.Request.Operation

/-!
# Binding records

Replacing the data of a record by placeholders, key by key.

* `Record.bind` binds the data of a record on an entity. A field binds its value, a many-to-one the
  value of the field it refers to or `null`, and a one-to-many the records in it.

Values bound before a fault stay bound.
-/

namespace EntitySql

set_option autoImplicit false

/-- Data of a record after binding. -/
inductive BoundValue where
  | param (index : Nat)
  /-- The data of a many-to-one. -/
  | record (entries : List (String × BoundValue))
  /-- The data of a one-to-many. -/
  | list (records : List (List (String × BoundValue)))
deriving Inhabited

abbrev BoundRecord := Assoc BoundValue

abbrev RecordBinding := ExceptT Fault Binding

def bindDatum (value : Json) : RecordBinding BoundValue := do
  return .param (← bindValue value)

/-- The value that a field receives. Documents travel as their text, which the cast to the column
type reads; `null` stays `null`. -/
def Field.parameter (field : Field) (value : Json) : Json :=
  if value = .null then .null
  else if field.type.isDocument then .str value.compact
  else value

/-- Binds the data of a many-to-one. Of an object only the value of the target field counts. -/
def bindManyToOne (entity name : String) (relation : ManyToOne) :
    Json → RecordBinding BoundValue
  | .null => bindDatum .null
  | .obj members =>
    match Assoc.get? relation.targetField members with
    | some key => do return .record [(relation.targetField, ← bindDatum key)]
    | none => return .record []
  | got => throw (.shape (.manyToOneValue entity name got))

namespace Record

mutual

def bind (schema : Schema) (entity : String) :
    List (String × Json) → RecordBinding BoundRecord
  | [] => return []
  | (name, value) :: rest => do
    let bound ← match ← MonadExcept.ofExcept (schema.resolve entity name) with
      | some (.field field) => bindDatum (field.parameter value)
      | some (.manyToOne relation) => bindManyToOne entity name relation value
      | some (.oneToMany relation) => bindOneToMany schema entity name relation.targetEntity value
      | none => throw (.name (.recordKey entity name))
    return (name, bound) :: (← bind schema entity rest)
termination_by structural members => members

/-- Binds the data of a one-to-many, which has to be a list of objects. -/
def bindOneToMany (schema : Schema) (entity name target : String) :
    Json → RecordBinding BoundValue
  | .arr items => do return .list (← bindItems schema entity name target items)
  | _ => throw (.shape (.oneToManyValue entity name))
termination_by structural value => value

def bindItems (schema : Schema) (entity name target : String) :
    List Json → RecordBinding (List BoundRecord)
  | [] => return []
  | .obj members :: rest => do
    let record ← bind schema target members
    return record :: (← bindItems schema entity name target rest)
  | _ :: _ => throw (.shape (.oneToManyValue entity name))
termination_by structural items => items

end

def bindAll (schema : Schema) (entity : String) :
    List Record → RecordBinding (List BoundRecord)
  | [] => return []
  | record :: rest => do
    let record ← bind schema entity record
    return record :: (← bindAll schema entity rest)

end Record

end EntitySql
