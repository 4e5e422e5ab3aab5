import EntitySql.Json.Compact
import EntitySql.Request.Operator

/-!
# Faults

What can go wrong, by cause. A fault belongs to one of ten classes, and its text is written from
the cause by `Fault.message`.

* `SchemaFault` and its companions list the causes of one class each.
* `Fault.kind` is the class of a fault.
* `Fault.message` is its text, headed by the name of the class.
-/

namespace EntitySql

set_option autoImplicit false

/-- Why declared entities make no schema. -/
inductive SchemaFault where
  | entityUnnamed
  | entityRepeated (entity : String)
  | fieldUnnamed (entity : String)
  | manyToOneUnnamed (entity : String)
  | oneToManyUnnamed (entity : String)
  | memberRepeated (entity name : String)
  | primaryMissing (entity : String)
  | primaryRepeated (entity : String)
  | targetUnnamed (entity name : String)
  | targetFieldUnnamed (entity name : String)
  | targetUnknown (entity name target : String)
  | targetFieldUnknown (entity name target field : String)
  | targetFieldNoKey (entity name target field : String)
  | sourceUnnamed (entity name : String)
  | inverseUnnamed (entity name : String)
  | sourceUnknown (entity name source : String)
  | inverseUnknown (entity name source inverse : String)
  | inverseElsewhere (entity name source inverse target : String)
deriving DecidableEq

/-- Why a name refers to nothing. -/
inductive NameFault where
  | entity (entity : String)
  | field (entity name : String)
  | manyToOne (entity name : String)
  | oneToMany (entity name : String)
  | member (entity name : String)
  | recordKey (entity name : String)
  | sortPath (entity : String) (path : List String) (relation : String)
deriving DecidableEq

/-- Why a keyword is refused. -/
inductive OperatorFault where
  | unknown (name : String)
  | direction (name : String)
  | aggregate (name : String)
  | onField (entity field key : String)
deriving DecidableEq

/-- Why a filter or an ordering is malformed. -/
inductive FilterFault where
  | noObject (got : Json)
  | noGroup (key : String) (got : Json)
  | noCriterion (key : String) (got : Json)
  | listExpected (op : Operator)
  | flagExpected
  | orderNoObject (got : Json)
  | orderLeaf (path : List String) (got : Json)
  | onRelation (entity relation : String) (op : Operator)
  | operand (op : Operator)
  | singleExpected (op : Operator)
deriving DecidableEq

/-- Why data cannot be written. -/
inductive ShapeFault where
  | manyToOneValue (entity name : String) (got : Json)
  | oneToManyValue (entity name : String)
  | fieldValue (entity name : String)
  | targetValueMissing (relation field : String)
  | objectExpected (entity name : String)
  | notWritable (entity name : String)
  | mixedColumns (entity : String) (expected got : List String)
  | noColumns
  | noRows
  | rowWidth (values columns : Nat)
  | noAssignments
deriving DecidableEq

/-- Why a physical name is missing. -/
inductive NamingFault where
  | table (entity : String)
  | column (entity field : String)
  | link (entity relation : String)
deriving DecidableEq

/-- Why a database call failed. -/
inductive DatabaseFault where
  | catalogRow
  | reported (text : String)
deriving DecidableEq

/-- Why a connection failed. -/
inductive ConnectionFault where
  | shared
  | reported (text : String)
deriving DecidableEq

/-- A failure, by its cause. -/
inductive Fault where
  | schema (cause : SchemaFault)
  | name (cause : NameFault)
  | operator (cause : OperatorFault)
  | filter (cause : FilterFault)
  | shape (cause : ShapeFault)
  | naming (cause : NamingFault)
  | database (cause : DatabaseFault)
  | connection (cause : ConnectionFault)
  | transaction (text : String)
  /-- A JSON value or text that does not decode. -/
  | undecodable
deriving DecidableEq

/-! ## Texts -/

namespace SchemaFault

def message : SchemaFault → String
  | entityUnnamed => "Invalid entity, missing name"
  | entityRepeated e => "Entity " ++ e ++ " declared more than once"
  | fieldUnnamed e => "No name provided for field in " ++ e
  | manyToOneUnnamed e => "No name provided for many-to-one in " ++ e
  | oneToManyUnnamed e => "No name provided for one-to-many in " ++ e
  | memberRepeated e n => "Entity " ++ e ++ " declares " ++ n ++ " more than once"
  | primaryMissing e => "Entity " ++ e ++ " does not have a primary field"
  | primaryRepeated e => "Entity " ++ e ++ " has multiple primary fields"
  | targetUnnamed e n =>
    "Property targetEntity not provided for many-to-one " ++ n ++ " in entity " ++ e
  | targetFieldUnnamed e n =>
    "Property targetField not provided for many-to-one " ++ n ++ " in entity " ++ e
  | targetUnknown e n t =>
    "Many-to-one " ++ e ++ "." ++ n ++ ": target entity " ++ t ++ " not found in schema"
  | targetFieldUnknown e n t f =>
    "Many-to-one " ++ e ++ "." ++ n ++ ": field " ++ f ++ " in entity " ++ t ++
      " not found in schema"
  | targetFieldNoKey e n t f =>
    "Many-to-one " ++ e ++ "." ++ n ++ ": field " ++ f ++ " in entity " ++ t ++
      " must be primary or unique"
  | sourceUnnamed e n =>
    "Property targetEntity not provided for one-to-many " ++ n ++ " in entity " ++ e
  | inverseUnnamed e n =>
    "Property targetManyToOne not provided for one-to-many " ++ n ++ " in entity " ++ e
  | sourceUnknown e n s =>
    "One-to-many " ++ e ++ "." ++ n ++ ": target entity " ++ s ++ " not found in schema"
  | inverseUnknown e n s i =>
    "One-to-many " ++ e ++ "." ++ n ++ ": many-to-one " ++ i ++ " in entity " ++ s ++
      " not found in schema"
  | inverseElsewhere e n s i t =>
    "One-to-many " ++ e ++ "." ++ n ++ ": many-to-one " ++ s ++ "." ++ i ++ " points to " ++ t ++
      ", not " ++ e

end SchemaFault

namespace NameFault

def message : NameFault → String
  | entity e => "Entity " ++ e ++ " not found in schema"
  | field e n => "Field " ++ n ++ " of entity " ++ e ++ " not found in schema"
  | manyToOne e n => "Many-to-one " ++ n ++ " of entity " ++ e ++ " not found in schema"
  | oneToMany e n => "One-to-many " ++ n ++ " of entity " ++ e ++ " not found in schema"
  | member e n => "Field " ++ n ++ " not found in entity " ++ e
  | recordKey e n => "Invalid field provided " ++ e ++ "." ++ n
  | sortPath e path relation =>
    "Order by " ++ ".".intercalate path ++ ": " ++ relation ++ " is not a many-to-one of entity " ++
      e

end NameFault

namespace OperatorFault

def message : OperatorFault → String
  | unknown name => "Invalid operator " ++ name
  | direction name => "Invalid sort direction " ++ name
  | aggregate name => "Invalid aggregate function provided " ++ name
  | onField e f key => "Invalid operator " ++ key ++ " on field " ++ e ++ "." ++ f

end OperatorFault

namespace FilterFault

def message : FilterFault → String
  | noObject got => "Filter must be an object, got " ++ got.compact
  | noGroup key got => key ++ " expects a list of filters, got " ++ got.compact
  | noCriterion key got => "Filter for " ++ key ++ " must be an object, got " ++ got.compact
  | listExpected op => "Operator " ++ op.name ++ " expects a list"
  | flagExpected => "Operator _isnull expects a boolean"
  | orderNoObject got => "Order by must be an object, got " ++ got.compact
  | orderLeaf path got =>
    "Invalid order by value " ++ got.compact ++ " for " ++ ".".intercalate path
  | onRelation e r op =>
    "Relation " ++ e ++ "." ++ r ++ " expects a nested filter, got operator " ++ op.name
  | operand op => "Invalid operand for operator " ++ op.name
  | singleExpected op => "Operator " ++ op.name ++ " expects a single value"

end FilterFault

namespace ShapeFault

def message : ShapeFault → String
  | manyToOneValue e n got =>
    "Many-to-one " ++ e ++ "." ++ n ++ " expects an object or null, got " ++ got.compact
  | oneToManyValue e n => "One-to-many " ++ e ++ "." ++ n ++ " expects a list of objects"
  | fieldValue e n => "Field " ++ e ++ "." ++ n ++ " expects a scalar value"
  | targetValueMissing r f =>
    "Invalid data provided. field " ++ r ++ "." ++ f ++ " does not have a value"
  | objectExpected e n => "Many-to-one " ++ e ++ "." ++ n ++ " expects an object"
  | notWritable e n =>
    "Invalid data provided. " ++ e ++ "." ++ n ++ " is neither a field or a many to one"
  | mixedColumns e expected got =>
    "Batch insert into " ++ e ++ " mixes column sets (" ++ ", ".intercalate expected ++
      ") and (" ++ ", ".intercalate got ++ ")"
  | noColumns => "INSERT must have at least one column"
  | noRows => "INSERT must have at least one row"
  | rowWidth values columns =>
    "INSERT row has " ++ toString values ++ " values for " ++ toString columns ++ " columns"
  | noAssignments => "UPDATE must have at least one SET value"

end ShapeFault

namespace NamingFault

def message : NamingFault → String
  | table e => "Entity " ++ e ++ " has no corresponding table in the dictionary"
  | column e f => "Field " ++ e ++ "." ++ f ++ " has no corresponding column in the dictionary"
  | link e r =>
    "Relation " ++ e ++ "." ++ r ++ " has no corresponding relation in the dictionary"

end NamingFault

namespace DatabaseFault

def message : DatabaseFault → String
  | catalogRow => "Catalog row without a table name"
  | reported text => text

end DatabaseFault

namespace ConnectionFault

def message : ConnectionFault → String
  | shared => "Connection is still shared"
  | reported text => text

end ConnectionFault

/-! ## Classes -/

/-- The class of a fault. -/
inductive FaultKind where
  | schemaDefinition
  | nameResolution
  | invalidOperator
  | invalidFilter
  | dataShape
  | dictionary
  | database
  | connection
  | transaction
  | json
deriving DecidableEq, Repr

namespace FaultKind

/-- The name of the class, for programs that tell faults apart. -/
def name : FaultKind → String
  | schemaDefinition => "SchemaDefinition"
  | nameResolution => "NameResolution"
  | invalidOperator => "InvalidOperator"
  | invalidFilter => "InvalidFilter"
  | dataShape => "DataShape"
  | dictionary => "Dictionary"
  | database => "Database"
  | connection => "Connection"
  | transaction => "Transaction"
  | json => "Json"

/-- The words that head the text of a fault of the class. -/
def title : FaultKind → String
  | schemaDefinition => "Schema definition error"
  | nameResolution => "Name resolution error"
  | invalidOperator => "Invalid operator"
  | invalidFilter => "Invalid filter"
  | dataShape => "Data shape error"
  | dictionary => "Dictionary error"
  | database => "Database error"
  | connection => "Connection error"
  | transaction => "Transaction error"
  | json => "JSON error"

end FaultKind

namespace Fault

def kind : Fault → FaultKind
  | schema _ => .schemaDefinition
  | name _ => .nameResolution
  | operator _ => .invalidOperator
  | filter _ => .invalidFilter
  | shape _ => .dataShape
  | naming _ => .dictionary
  | database _ => .database
  | connection _ => .connection
  | transaction _ => .transaction
  | undecodable => .json

def detail : Fault → String
  | schema cause => cause.message
  | name cause => cause.message
  | operator cause => cause.message
  | filter cause => cause.message
  | shape cause => cause.message
  | naming cause => cause.message
  | database cause => cause.message
  | connection cause => cause.message
  | transaction text => text
  | undecodable => "the value does not decode"

/-- The text of a fault: the words of its class, a colon and the cause. -/
def message (fault : Fault) : String :=
  fault.kind.title ++ ": " ++ fault.detail

end Fault

/-- A value or a fault. -/
abbrev Result (α : Type) := Except Fault α

/-- A decoded value, or the fault of a value that does not decode. -/
def Result.decoded {α : Type} : Option α → Result α
  | some value => .ok value
  | none => .error .undecodable

end EntitySql
