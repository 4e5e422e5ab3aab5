import EntitySql.Json.Value
import EntitySql.Sql.Type

/-!
# Fields

The scalar attributes of an entity, with their types and constraints.

* `FieldType.name` and `FieldType.ofName?` relate the types to the names declarations use.
* `Field.sqlType` is the column type of a field.
-/

namespace EntitySql

set_option autoImplicit false

inductive FieldType where
  | string
  | text
  | smallInt
  | integer
  | bigInt
  | float
  | double
  | decimal
  | boolean
  | date
  | time
  | dateTime
  | dateTimeTz
  | uuid
  | json
  | jsonb
  | binary
  | stringArray
  | integerArray
deriving DecidableEq, Repr

namespace FieldType

/-- The name that declarations use. -/
def name : FieldType → String
  | string => "string"
  | text => "text"
  | smallInt => "smallint"
  | integer => "integer"
  | bigInt => "bigint"
  | float => "float"
  | double => "double"
  | decimal => "decimal"
  | boolean => "boolean"
  | date => "date"
  | time => "time"
  | dateTime => "datetime"
  | dateTimeTz => "datetimetz"
  | uuid => "uuid"
  | json => "json"
  | jsonb => "jsonb"
  | binary => "binary"
  | stringArray => "stringArray"
  | integerArray => "integerArray"

/-- The type of a name. Three types have a second name. -/
def ofName? : String → Option FieldType
  | "string" => some string
  | "text" => some text
  | "smallint" => some smallInt
  | "integer" | "int" => some integer
  | "bigint" => some bigInt
  | "float" => some float
  | "double" => some double
  | "decimal" => some decimal
  | "boolean" => some boolean
  | "date" => some date
  | "time" => some time
  | "datetime" | "timestamp" => some dateTime
  | "datetimetz" | "timestamptz" => some dateTimeTz
  | "uuid" => some uuid
  | "json" => some json
  | "jsonb" => some jsonb
  | "binary" => some binary
  | "stringArray" => some stringArray
  | "integerArray" => some integerArray
  | _ => none

/-- The name of the column type, without arguments and array suffix. -/
def baseSql : FieldType → String
  | string | stringArray => "varchar"
  | text => "text"
  | smallInt => "smallint"
  | integer | integerArray => "integer"
  | bigInt => "bigint"
  | float => "real"
  | double => "double precision"
  | decimal => "numeric"
  | boolean => "boolean"
  | date => "date"
  | time => "time"
  | dateTime => "timestamp"
  | dateTimeTz => "timestamptz"
  | uuid => "uuid"
  | json => "json"
  | jsonb => "jsonb"
  | binary => "bytea"

/-- Whether values of the type are lists. -/
def isArray : FieldType → Bool
  | stringArray | integerArray => true
  | _ => false

/-- Whether values of the type are JSON documents. -/
def isDocument : FieldType → Bool
  | json | jsonb => true
  | _ => false

theorem ofName?_name (type : FieldType) : ofName? type.name = some type := by
  cases type <;> rfl

end FieldType

/-- The length of a text, and the precision and scale of a number or a time. -/
structure TypeOptions where
  length : Option UInt32 := none
  precision : Option UInt32 := none
  scale : Option UInt32 := none
deriving DecidableEq, Repr

/-- The constraints of a field or a relation. -/
structure Constraints where
  primary : Bool := false
  unique : Bool := false
  notNull : Bool := false
  /-- The default of the column: a string is an SQL expression, any other value a literal. -/
  defaultValue : Option Json := none
deriving DecidableEq

/-- A scalar attribute of an entity. -/
structure Field where
  name : String
  type : FieldType
  options : TypeOptions := {}
  constraints : Constraints := {}
deriving DecidableEq

namespace Field

/-- The arguments of the column type. Texts take the length, exact numbers the precision and the
scale, times the precision, and all other types none. -/
def typeArguments (field : Field) : List UInt32 :=
  match field.type with
  | .string | .stringArray => field.options.length.toList
  | .decimal => match field.options.precision with
    | some precision => precision :: field.options.scale.toList
    | none => []
  | .time | .dateTime | .dateTimeTz => field.options.precision.toList
  | _ => []

def sqlType (field : Field) : SqlType where
  name := field.type.baseSql
  arguments := field.typeArguments.map UInt32.toNat
  isArray := field.type.isArray

/-- Whether the field identifies its record, so that a relation may refer to it. -/
def isKey (field : Field) : Bool :=
  field.constraints.primary || field.constraints.unique

end Field

end EntitySql
