import EntitySql.Request.Read
import EntitySql.Schema.Basic

/-!
# Selections

A read request checked against a schema: every node has its fields, its many-to-ones and its
one-to-manys apart.

* `Selection.ofRequest` checks a request on an entity. A bare relation name selects the relation
  without fields, and a root without a name is named after the entity.
-/

namespace EntitySql

set_option autoImplicit false

/-- A node of a checked read. -/
structure Selection where
  name : String
  fields : List String := []
  args : ReadArgs := {}
  manyToOne : List Selection := []
  oneToMany : List Selection := []

instance : Inhabited Selection := ⟨{ name := "" }⟩

namespace Selection

def withField (selection : Selection) (name : String) : Selection :=
  { selection with fields := selection.fields ++ [name] }

def withManyToOne (selection child : Selection) : Selection :=
  { selection with manyToOne := selection.manyToOne ++ [child] }

def withOneToMany (selection child : Selection) : Selection :=
  { selection with oneToMany := selection.oneToMany ++ [child] }

mutual

/-- Checks a request on an entity. -/
def ofRequest (schema : Schema) (entity : String) : ReadRequest → Result Selection
  | { name, items, args } =>
    addItems schema entity { name := if name = "" then entity else name, args } items
termination_by structural request => request

/-- Adds the members to read on an entity to those selected so far. -/
def addItems (schema : Schema) (entity : String) (selection : Selection) :
    List ReadItem → Result Selection
  | [] => .ok selection
  | .bare name :: rest => do
    match ← schema.resolve entity name with
    | some (.field field) => addItems schema entity (selection.withField field.name) rest
    | some (.manyToOne _) => addItems schema entity (selection.withManyToOne { name }) rest
    | some (.oneToMany _) => addItems schema entity (selection.withOneToMany { name }) rest
    | none => throw (.name (.member entity name))
  | .node request :: rest => do
    match ← schema.resolve entity request.name with
    | some (.field field) => addItems schema entity (selection.withField field.name) rest
    | some (.manyToOne relation) =>
      let child ← ofRequest schema relation.targetEntity request
      addItems schema entity (selection.withManyToOne child) rest
    | some (.oneToMany relation) =>
      let child ← ofRequest schema relation.targetEntity request
      addItems schema entity (selection.withOneToMany child) rest
    | none => throw (.name (.member entity request.name))
termination_by structural items => items

end

end Selection

end EntitySql
