import EntitySql.Schema.Basic
import EntitySql.Text.SnakeCase

/-!
# Physical names

The tables, columns and joins behind the entities, fields and relations of a schema. A name is the
snake case of the declared one unless it is overridden: `"Entity"` overrides a table,
`"Entity.field"` a column and `"Entity.relation"` the column of a many-to-one.

* `Link` is the pair of columns that joins the tables of a relation.
* `Naming.ofSchema` names everything: tables and columns first, then many-to-ones, then
  one-to-manys, each of which is its inverse seen from the other side.
* `Naming.table`, `Naming.column` and `Naming.link` look names up.
-/

namespace EntitySql

set_option autoImplicit false

/-- The columns whose equality joins the tables of a relation, seen from the table it starts at. -/
structure Link where
  fromTable : String
  fromColumn : String
  toTable : String
  toColumn : String
deriving DecidableEq, Repr

/-- The same join seen from the other table. -/
def Link.reversed (link : Link) : Link where
  fromTable := link.toTable
  fromColumn := link.toColumn
  toTable := link.fromTable
  toColumn := link.fromColumn

/-- The names behind one entity. -/
structure EntityNames where
  table : String
  columns : Assoc String := []
  links : Assoc Link := []
deriving DecidableEq

/-- The names behind the entities of a schema. -/
structure Naming where
  entities : Assoc EntityNames := []
deriving DecidableEq

/-- The key that overrides the name of a member. -/
def memberKey (entity name : String) : String :=
  entity ++ "." ++ name

namespace Naming

/-! ## Looking names up -/

def names (naming : Naming) (entity : String) : Result EntityNames :=
  match Assoc.get? entity naming.entities with
  | some names => .ok names
  | none => .error (.naming (.table entity))

def table (naming : Naming) (entity : String) : Result String := do
  return (← naming.names entity).table

def column (naming : Naming) (entity field : String) : Result String := do
  match Assoc.get? field (← naming.names entity).columns with
  | some column => return column
  | none => throw (.naming (.column entity field))

def link (naming : Naming) (entity relation : String) : Result Link := do
  match Assoc.get? relation (← naming.names entity).links with
  | some link => return link
  | none => throw (.naming (.link entity relation))

/-! ## Naming a schema -/

/-- The override of a key, or the snake case of the declared name. -/
def nameFor (overrides : Assoc String) (key declared : String) : String :=
  (Assoc.get? key overrides).getD (snakeCase declared)

def withNames (naming : Naming) (entity : String) (names : EntityNames) : Naming :=
  ⟨Assoc.insert entity names naming.entities⟩

def columnsOf (overrides : Assoc String) (entity : Entity) : Assoc String :=
  Assoc.ofPairs (entity.fields.map fun field =>
    (field.name, nameFor overrides (memberKey entity.name field.name) field.name))

/-- Names the table and the columns of an entity. -/
def addEntity (overrides : Assoc String) (naming : Naming) (entity : Entity) : Naming :=
  naming.withNames entity.name {
    table := nameFor overrides entity.name entity.name
    columns := columnsOf overrides entity }

/-- Adds the join of a relation to the names behind an entity. -/
def addLink (naming : Naming) (entity relation : String) (link : Link) : Result Naming := do
  let names ← naming.names entity
  return naming.withNames entity { names with links := Assoc.insert relation link names.links }

/-- Names the join of a many-to-one. Its column is the snake case of the relation and the column it
refers to, joined with an underscore. -/
def addManyToOne (overrides : Assoc String) (entity : String) (naming : Naming)
    (relation : ManyToOne) : Result Naming := do
  let toColumn ← naming.column relation.targetEntity relation.targetField
  let fromColumn := (Assoc.get? (memberKey entity relation.name) overrides).getD
    (snakeCase relation.name ++ "_" ++ toColumn)
  let fromTable ← naming.table entity
  let toTable ← naming.table relation.targetEntity
  naming.addLink entity relation.name { fromTable, fromColumn, toTable, toColumn }

/-- Names the join of a one-to-many, which is its inverse reversed. -/
def addOneToMany (entity : String) (naming : Naming) (relation : OneToMany) : Result Naming := do
  let inverse ← naming.link relation.targetEntity relation.targetManyToOne
  naming.addLink entity relation.name inverse.reversed

def ofEntities (overrides : Assoc String) (entities : List Entity) : Result Naming := do
  let tables := entities.foldl (addEntity overrides) {}
  let owned ← entities.foldlM
    (fun naming entity => entity.manyToOne.foldlM (addManyToOne overrides entity.name) naming)
    tables
  entities.foldlM
    (fun naming entity => entity.oneToMany.foldlM (addOneToMany entity.name) naming) owned

/-- Names everything in a schema. -/
def ofSchema (overrides : Assoc String) (schema : Schema) : Result Naming :=
  ofEntities overrides schema.entities

end Naming

end EntitySql
