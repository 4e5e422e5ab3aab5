/-!
# Column types

* `SqlType.text` writes a type with its arguments and its array suffix, such as `varchar(64)[]`.
-/

namespace EntitySql

set_option autoImplicit false

/-- A column type: its name, its length or precision arguments, and whether it is an array. -/
structure SqlType where
  name : String
  arguments : List Nat := []
  isArray : Bool := false
deriving DecidableEq, Repr

namespace SqlType

def text (type : SqlType) : String :=
  let arguments := match type.arguments with
    | [] => ""
    | arguments => "(" ++ ", ".intercalate (arguments.map toString) ++ ")"
  type.name ++ arguments ++ (if type.isArray then "[]" else "")

end SqlType

end EntitySql
