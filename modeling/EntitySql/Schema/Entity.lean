import EntitySql.Schema.Field

/-!
# Entities

Declared record types with their fields and relations.

* A `ManyToOne` refers to a key field of another entity.
* A `OneToMany` is the inverse of a many-to-one that another entity declares.
* `Entity.member?` decides what a name refers to.
-/

namespace EntitySql

set_option autoImplicit false

/-- A reference to a key field of another entity. The owning table holds a column for it. -/
structure ManyToOne where
  name : String
  targetEntity : String
  targetField : String
  constraints : Constraints := {}
deriving DecidableEq

/-- The inverse of a many-to-one that the target entity declares. -/
structure OneToMany where
  name : String
  targetEntity : String
  targetManyToOne : String
deriving DecidableEq

/-- A declared record type. -/
structure Entity where
  name : String
  fields : List Field := []
  manyToOne : List ManyToOne := []
  oneToMany : List OneToMany := []
deriving DecidableEq

/-- What a name refers to on an entity. -/
inductive Member where
  | field (field : Field)
  | manyToOne (relation : ManyToOne)
  | oneToMany (relation : OneToMany)
deriving DecidableEq

namespace Entity

def field? (entity : Entity) (name : String) : Option Field :=
  entity.fields.find? (·.name = name)

def manyToOne? (entity : Entity) (name : String) : Option ManyToOne :=
  entity.manyToOne.find? (·.name = name)

def oneToMany? (entity : Entity) (name : String) : Option OneToMany :=
  entity.oneToMany.find? (·.name = name)

def primaryField? (entity : Entity) : Option Field :=
  entity.fields.find? (·.constraints.primary)

/-- What a name refers to: a field, else a many-to-one, else a one-to-many. -/
def member? (entity : Entity) (name : String) : Option Member :=
  match entity.field? name with
  | some field => some (.field field)
  | none => match entity.manyToOne? name with
    | some relation => some (.manyToOne relation)
    | none => (entity.oneToMany? name).map .oneToMany

end Entity

end EntitySql
