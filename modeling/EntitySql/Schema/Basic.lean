import EntitySql.Fault
import EntitySql.Schema.Entity

/-!
# Schemas

A schema is a list of entities that has been checked: every name is given and unambiguous, every
entity with fields has one primary field, and every relation refers to something that exists.

* `Schema.ofEntities` checks a list of entities and reports the first violation.
* `Schema.entity?`, `Schema.field?` and their like look names up; `Schema.entity`, `Schema.field`
  and their like do so too and fail when there is nothing.
* `Schema.resolve` decides what a name refers to on an entity.
-/

namespace EntitySql

set_option autoImplicit false

/-- Declared entities, in order. -/
structure Schema where
  entities : List Entity
deriving DecidableEq

namespace Schema

/-! ## Looking names up -/

def entity? (schema : Schema) (name : String) : Option Entity :=
  schema.entities.find? (·.name = name)

/-- The entity of a name, which has to be declared. -/
def entity (schema : Schema) (name : String) : Result Entity :=
  match schema.entity? name with
  | some entity => .ok entity
  | none => .error (.name (.entity name))

def field? (schema : Schema) (entity name : String) : Option Field :=
  (schema.entity? entity).bind (·.field? name)

def field (schema : Schema) (entity name : String) : Result Field := do
  match (← schema.entity entity).field? name with
  | some field => return field
  | none => throw (.name (.field entity name))

def manyToOne? (schema : Schema) (entity name : String) : Option ManyToOne :=
  (schema.entity? entity).bind (·.manyToOne? name)

def manyToOne (schema : Schema) (entity name : String) : Result ManyToOne := do
  match (← schema.entity entity).manyToOne? name with
  | some relation => return relation
  | none => throw (.name (.manyToOne entity name))

def oneToMany? (schema : Schema) (entity name : String) : Option OneToMany :=
  (schema.entity? entity).bind (·.oneToMany? name)

def oneToMany (schema : Schema) (entity name : String) : Result OneToMany := do
  match (← schema.entity entity).oneToMany? name with
  | some relation => return relation
  | none => throw (.name (.oneToMany entity name))

/-- What a name refers to on an entity, which has to be declared; the name may refer to nothing. -/
def resolve (schema : Schema) (entity name : String) : Result (Option Member) := do
  return (← schema.entity entity).member? name

/-! ## Checking declarations -/

def refuse {α : Type} (cause : SchemaFault) : Result α :=
  .error (.schema cause)

/-- Checks that the entities have distinct names, none of them empty and none among `seen`. -/
def checkEntityNames (seen : List String) : List Entity → Result Unit
  | [] => .ok ()
  | entity :: rest =>
    if entity.name = "" then refuse .entityUnnamed
    else if entity.name ∈ seen then refuse (.entityRepeated entity.name)
    else checkEntityNames (entity.name :: seen) rest

/-- Takes a member name that has not been taken yet. -/
def claim (entity name : String) (taken : List String) : Result (List String) :=
  if name ∈ taken then refuse (.memberRepeated entity name) else .ok (name :: taken)

/-- Checks the names of fields, and returns the names taken. -/
def checkFields (entity : String) (taken : List String) : List Field → Result (List String)
  | [] => .ok taken
  | field :: rest =>
    if field.name = "" then refuse (.fieldUnnamed entity)
    else do checkFields entity (← claim entity field.name taken) rest

/-- Checks that an entity with fields has one primary field. -/
def checkPrimary (entity : Entity) : Result Unit :=
  if entity.fields.isEmpty then .ok ()
  else match entity.fields.countP (·.constraints.primary) with
    | 0 => refuse (.primaryMissing entity.name)
    | 1 => .ok ()
    | _ => refuse (.primaryRepeated entity.name)

/-- Checks that a many-to-one refers to a key field of a declared entity. -/
def checkManyToOne (schema : Schema) (entity : String) (relation : ManyToOne) : Result Unit :=
  let { name, targetEntity, targetField, .. } := relation
  if targetEntity = "" then refuse (.targetUnnamed entity name)
  else if targetField = "" then refuse (.targetFieldUnnamed entity name)
  else match schema.entity? targetEntity with
    | none => refuse (.targetUnknown entity name targetEntity)
    | some target => match target.field? targetField with
      | none => refuse (.targetFieldUnknown entity name targetEntity targetField)
      | some field =>
        if field.isKey then .ok ()
        else refuse (.targetFieldNoKey entity name targetEntity targetField)

/-- Checks that a one-to-many is the inverse of a many-to-one that refers to its entity. -/
def checkOneToMany (schema : Schema) (entity : String) (relation : OneToMany) : Result Unit :=
  let { name, targetEntity, targetManyToOne } := relation
  if targetEntity = "" then refuse (.sourceUnnamed entity name)
  else if targetManyToOne = "" then refuse (.inverseUnnamed entity name)
  else match schema.entity? targetEntity with
    | none => refuse (.sourceUnknown entity name targetEntity)
    | some target => match target.manyToOne? targetManyToOne with
      | none => refuse (.inverseUnknown entity name targetEntity targetManyToOne)
      | some inverse =>
        if inverse.targetEntity = entity then .ok ()
        else refuse (.inverseElsewhere entity name targetEntity targetManyToOne
          inverse.targetEntity)

/-- Checks the names and the targets of many-to-ones, and returns the names taken. -/
def checkManyToOnes (schema : Schema) (entity : String) (taken : List String) :
    List ManyToOne → Result (List String)
  | [] => .ok taken
  | relation :: rest =>
    if relation.name = "" then refuse (.manyToOneUnnamed entity)
    else do
      let taken ← claim entity relation.name taken
      schema.checkManyToOne entity relation
      checkManyToOnes schema entity taken rest

/-- Checks the names and the targets of one-to-manys, and returns the names taken. -/
def checkOneToManys (schema : Schema) (entity : String) (taken : List String) :
    List OneToMany → Result (List String)
  | [] => .ok taken
  | relation :: rest =>
    if relation.name = "" then refuse (.oneToManyUnnamed entity)
    else do
      let taken ← claim entity relation.name taken
      schema.checkOneToMany entity relation
      checkOneToManys schema entity taken rest

/-- Checks one entity: its fields, its primary field, its many-to-ones and its one-to-manys. -/
def checkEntity (schema : Schema) (entity : Entity) : Result Unit := do
  let taken ← checkFields entity.name [] entity.fields
  checkPrimary entity
  let taken ← schema.checkManyToOnes entity.name taken entity.manyToOne
  let _ ← schema.checkOneToManys entity.name taken entity.oneToMany
  return ()

def checkEntities (schema : Schema) : List Entity → Result Unit
  | [] => .ok ()
  | entity :: rest => do
    schema.checkEntity entity
    checkEntities schema rest

/-- The schema of a list of entities, or the first violation. -/
def ofEntities (entities : List Entity) : Result Schema := do
  checkEntityNames [] entities
  checkEntities ⟨entities⟩ entities
  return ⟨entities⟩

end Schema

end EntitySql
