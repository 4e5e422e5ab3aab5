import EntitySql.Migration.Catalog
import EntitySql.Sql.Definition

/-!
# Migration plans

The definitions that a database lacks for a schema. Nothing that exists is changed or dropped, so a
database that has everything needs no definition.

* `missingFieldColumns` and `missingLinkColumns` are the columns that a catalog lacks.
* `migrationPlan` lists the definitions: tables and columns first, then the foreign keys of the
  many-to-ones among the new columns.
-/

namespace EntitySql

set_option autoImplicit false

/-- The columns of fields that the catalog lacks. -/
def missingFieldColumns (naming : Naming) (catalog : Catalog) (entity table : String) :
    List Field → Result (List ColumnClause)
  | [] => .ok []
  | field :: rest => do
    let column ← naming.column entity field.name
    let others ← missingFieldColumns naming catalog entity table rest
    if catalog.hasColumn table column then return others
    else return { column, type := field.sqlType, constraints := field.constraints } :: others

/-- The columns of many-to-ones that the catalog lacks, with their joins. The constraints of a
relation stay off its column, so that it can be added to a table that has rows. -/
def missingLinkColumns (schema : Schema) (naming : Naming) (catalog : Catalog) (entity : String) :
    List ManyToOne → Result (List (ColumnClause × Link))
  | [] => .ok []
  | relation :: rest => do
    let link ← naming.link entity relation.name
    if catalog.hasColumn link.fromTable link.fromColumn then
      missingLinkColumns schema naming catalog entity rest
    else
      let target ← schema.field relation.targetEntity relation.targetField
      let others ← missingLinkColumns schema naming catalog entity rest
      return ({ column := link.fromColumn, type := target.sqlType }, link) :: others

/-- The definitions that one entity needs: of its table or columns, and of its foreign keys. -/
def missingDefinitions (schema : Schema) (naming : Naming) (catalog : Catalog)
    (entity : Entity) : Result (List Definition × List Definition) := do
  let table ← naming.table entity.name
  let fields ← missingFieldColumns naming catalog entity.name table entity.fields
  let links ← missingLinkColumns schema naming catalog entity.name entity.manyToOne
  let columns := fields ++ links.map Prod.fst
  let tables : List Definition :=
    if !catalog.hasTable table then [.createTable table columns]
    else if columns.isEmpty then []
    else [.addColumns table columns]
  let keys : List Definition :=
    if links.isEmpty then [] else [.addForeignKeys table (links.map Prod.snd)]
  return (tables, keys)

/-- The definitions that the catalog lacks: all tables and columns, then all foreign keys. -/
def migrationPlan (schema : Schema) (naming : Naming) (catalog : Catalog) :
    Result (List Definition) := do
  let parts ← schema.entities.mapM (missingDefinitions schema naming catalog)
  return parts.flatMap Prod.fst ++ parts.flatMap Prod.snd

end EntitySql
