import EntitySql.Database.Row
import EntitySql.Fault
import EntitySql.Json.Decode

/-!
# Catalogs

The tables and columns that a database has.

* `Catalog.ofRows` reads a catalog from rows that each list columns of one table.
* `Catalog.addTable` adds columns to a table, which is new or known.
* `Catalog.hasTable` and `Catalog.hasColumn` ask for a table or a column.
-/

namespace EntitySql

set_option autoImplicit false

open Json

/-- A column that a database has. -/
structure CatalogColumn where
  name : String
  dataType : String
  length : Option Int := none
  nullable : Bool := true
  default : Option String := none
deriving DecidableEq

/-- Reads a column. Name and type are required; a column is not nullable unless it says so. -/
def CatalogColumn.ofJson? (value : Json) : Option CatalogColumn := do
  let members ← value.asRecord? ["name", "type", "length", "nullable", "default"]
  return {
    name := ← required "name" asString? members
    dataType := ← required "type" asString? members
    length := ← optional "length" asInt64? members
    nullable := ← defaulted "nullable" false asBool? members
    default := ← optional "default" asString? members }

/-- A column with all its members, `null` standing for what is absent. -/
def CatalogColumn.toJson (column : CatalogColumn) : Json :=
  .obj [("name", .str column.name), ("type", .str column.dataType),
    ("length", .ofOption (column.length.map .int)), ("nullable", .bool column.nullable),
    ("default", .ofOption (column.default.map .str))]

/-- The tables that a database has, with their columns by name. -/
structure Catalog where
  tables : Assoc (Assoc CatalogColumn) := []
deriving DecidableEq

namespace Catalog

/-- Adds columns to a table. A column replaces a known one of its name. -/
def addTable (catalog : Catalog) (table : String) (columns : List CatalogColumn) : Catalog :=
  let known := (Assoc.get? table catalog.tables).getD []
  ⟨Assoc.insert table
    (columns.foldl (fun known column => Assoc.insert column.name column known) known)
    catalog.tables⟩

def hasTable (catalog : Catalog) (table : String) : Bool :=
  Assoc.has table catalog.tables

def column? (catalog : Catalog) (table column : String) : Option CatalogColumn :=
  (Assoc.get? table catalog.tables).bind (Assoc.get? column)

def hasColumn (catalog : Catalog) (table column : String) : Bool :=
  (catalog.column? table column).isSome

def tableCount (catalog : Catalog) : Nat :=
  catalog.tables.length

/-- The columns that a row lists. A row may list none. -/
def rowColumns (row : Row) : Result (List CatalogColumn) :=
  match row.value? "columns" with
  | none => .ok []
  | some .null => .ok []
  | some value => Result.decoded (listOf CatalogColumn.ofJson? value)

/-- Adds the table and the columns that a row names. -/
def addRow (catalog : Catalog) (row : Row) : Result Catalog :=
  match (row.value? "table").bind asString? with
  | none => .error (.database .catalogRow)
  | some table => do return catalog.addTable table (← rowColumns row)

/-- The catalog that rows describe, each naming a table and columns of it. -/
def ofRows (rows : List Row) : Result Catalog :=
  rows.foldlM addRow {}

end Catalog

end EntitySql
