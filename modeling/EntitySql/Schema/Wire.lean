import EntitySql.Json.Decode
import EntitySql.Json.Reader
import EntitySql.Schema.Basic

/-!
# Declarations as JSON

How entities are written as JSON and read from it.

* `Entity.toJson` writes every member, with `null` for what is absent.
* `Entity.ofJson?` reads an entity; options, constraints and lists may be left out, and every record
  may be an array of its members.
* `Schema.ofText` reads a list of entities from a text and checks it.
-/

namespace EntitySql

set_option autoImplicit false

open Json

namespace FieldType

/-- A type is written as its name. -/
def toJson (type : FieldType) : Json :=
  .str type.name

/-- A type is a name, or an object that has the name as its only key and no value. -/
def ofJson? : Json → Option FieldType
  | .str name => ofName? name
  | .obj [(name, .null)] => ofName? name
  | _ => none

end FieldType

namespace TypeOptions

/-- All three options, in order. -/
def toJson (options : TypeOptions) : Json :=
  .obj [("length", .ofOption (options.length.map .ofUInt32)),
    ("precision", .ofOption (options.precision.map .ofUInt32)),
    ("scale", .ofOption (options.scale.map .ofUInt32))]

/-- Every option may be left out; numbers have 32 bits. -/
def ofJson? (value : Json) : Option TypeOptions := do
  let members ← value.asRecord? ["length", "precision", "scale"]
  return {
    length := ← optional "length" asUInt32? members
    precision := ← optional "precision" asUInt32? members
    scale := ← optional "scale" asUInt32? members }

def shape : Shape :=
  .record [("length", .free), ("precision", .free), ("scale", .free)]

end TypeOptions

namespace Constraints

/-- All four constraints, in order. -/
def toJson (constraints : Constraints) : Json :=
  .obj [("primary", .bool constraints.primary), ("unique", .bool constraints.unique),
    ("notNull", .bool constraints.notNull),
    ("defaultValue", .ofOption constraints.defaultValue)]

/-- Every constraint may be left out. A default of `null` is no default. -/
def ofJson? (value : Json) : Option Constraints := do
  let members ← value.asRecord? ["primary", "unique", "notNull", "defaultValue"]
  return {
    primary := ← defaulted "primary" false asBool? members
    unique := ← defaulted "unique" false asBool? members
    notNull := ← defaulted "notNull" false asBool? members
    defaultValue := ← optional "defaultValue" some members }

def shape : Shape :=
  .record [("primary", .free), ("unique", .free), ("notNull", .free), ("defaultValue", .free)]

end Constraints

namespace Field

def toJson (field : Field) : Json :=
  .obj [("name", .str field.name), ("type", field.type.toJson),
    ("typeOptions", field.options.toJson), ("constraints", field.constraints.toJson)]

/-- Name and type are required. -/
def ofJson? (value : Json) : Option Field := do
  let members ← value.asRecord? ["name", "type", "typeOptions", "constraints"]
  return {
    name := ← required "name" asString? members
    type := ← required "type" FieldType.ofJson? members
    options := ← defaulted "typeOptions" {} TypeOptions.ofJson? members
    constraints := ← defaulted "constraints" {} Constraints.ofJson? members }

def shape : Shape :=
  .record [("name", .free), ("type", .tagged), ("typeOptions", TypeOptions.shape),
    ("constraints", Constraints.shape)]

end Field

namespace ManyToOne

def toJson (relation : ManyToOne) : Json :=
  .obj [("name", .str relation.name), ("targetEntity", .str relation.targetEntity),
    ("targetField", .str relation.targetField), ("constraints", relation.constraints.toJson)]

/-- All members but the constraints are required. -/
def ofJson? (value : Json) : Option ManyToOne := do
  let members ← value.asRecord? ["name", "targetEntity", "targetField", "constraints"]
  return {
    name := ← required "name" asString? members
    targetEntity := ← required "targetEntity" asString? members
    targetField := ← required "targetField" asString? members
    constraints := ← defaulted "constraints" {} Constraints.ofJson? members }

def shape : Shape :=
  .record [("name", .free), ("targetEntity", .free), ("targetField", .free),
    ("constraints", Constraints.shape)]

end ManyToOne

namespace OneToMany

def toJson (relation : OneToMany) : Json :=
  .obj [("name", .str relation.name), ("targetEntity", .str relation.targetEntity),
    ("targetManyToOne", .str relation.targetManyToOne)]

/-- All members are required. -/
def ofJson? (value : Json) : Option OneToMany := do
  let members ← value.asRecord? ["name", "targetEntity", "targetManyToOne"]
  return {
    name := ← required "name" asString? members
    targetEntity := ← required "targetEntity" asString? members
    targetManyToOne := ← required "targetManyToOne" asString? members }

def shape : Shape :=
  .record [("name", .free), ("targetEntity", .free), ("targetManyToOne", .free)]

end OneToMany

namespace Entity

def toJson (entity : Entity) : Json :=
  .obj [("name", .str entity.name), ("fields", .arr (entity.fields.map Field.toJson)),
    ("manyToOne", .arr (entity.manyToOne.map ManyToOne.toJson)),
    ("oneToMany", .arr (entity.oneToMany.map OneToMany.toJson))]

/-- The name is required, the lists may be left out. -/
def ofJson? (value : Json) : Option Entity := do
  let members ← value.asRecord? ["name", "fields", "manyToOne", "oneToMany"]
  return {
    name := ← required "name" asString? members
    fields := ← defaulted "fields" [] (listOf Field.ofJson?) members
    manyToOne := ← defaulted "manyToOne" [] (listOf ManyToOne.ofJson?) members
    oneToMany := ← defaulted "oneToMany" [] (listOf OneToMany.ofJson?) members }

def shape : Shape :=
  .record [("name", .free), ("fields", .list Field.shape), ("manyToOne", .list ManyToOne.shape),
    ("oneToMany", .list OneToMany.shape)]

def listToJson (entities : List Entity) : Json :=
  .arr (entities.map toJson)

def listOfJson? (value : Json) : Option (List Entity) :=
  listOf ofJson? value

end Entity

/-- The schema of the entities that a JSON text declares. -/
def Schema.ofText (text : String) : Result Schema := do
  let entities ← Result.decoded
    ((Json.ofTextAs? (.list Entity.shape) text).bind Entity.listOfJson?)
  Schema.ofEntities entities

end EntitySql
