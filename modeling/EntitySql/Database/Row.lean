import EntitySql.Json.Value

/-!
# Rows

Rows of a query result: values under column names.

* `Row.value?` reads a column, `Row.take` removes it as well.
* `ResultSet` is a list of rows with a count.
-/

namespace EntitySql

set_option autoImplicit false

/-- A row: values under the names of columns. -/
structure Row where
  columns : Assoc Json := []
deriving DecidableEq

namespace Row

def value? (row : Row) (name : String) : Option Json :=
  Assoc.get? name row.columns

def has (row : Row) (name : String) : Bool :=
  Assoc.has name row.columns

def insert (row : Row) (name : String) (value : Json) : Row :=
  ⟨Assoc.insert name value row.columns⟩

/-- The value of a column, and the row without that column. -/
def take (row : Row) (name : String) : Option Json × Row :=
  (row.value? name, ⟨Assoc.erase name row.columns⟩)

def ofJson? (value : Json) : Option Row :=
  value.asMembers?.map fun columns => ⟨columns⟩

/-- The row as an object, its columns in the order of their names. -/
def toJson (row : Row) : Json :=
  .obj (Assoc.sorted row.columns)

end Row

/-- Rows, and the number of rows returned or touched. -/
structure ResultSet where
  rows : List Row := []
  rowCount : Nat := 0
deriving DecidableEq

namespace ResultSet

def first? (result : ResultSet) : Option Row :=
  result.rows.head?

/-- The rows, their count, and the first row or `null`. -/
def toJson (result : ResultSet) : Json :=
  .obj [("rows", .arr (result.rows.map Row.toJson)), ("rowCount", .ofNat result.rowCount),
    ("first", .ofOption (result.first?.map Row.toJson))]

end ResultSet

end EntitySql
