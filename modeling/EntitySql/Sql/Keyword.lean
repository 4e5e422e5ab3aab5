/-!
# Keywords of statements

* `Comparison` lists the comparison operators.
* `Direction` lists the sort directions.
* `Aggregate` lists the aggregate functions.

Directions and functions can be read from their names, in any case of the letters.
-/

namespace EntitySql

set_option autoImplicit false

/-- The text with its seven-bit letters in lower case. -/
def asciiLower (text : String) : String :=
  text.map Char.toLower

inductive Comparison where
  | eq
  | ne
  | lt
  | le
  | gt
  | ge
  | like
  | ilike
  | notLike
  | isIn
  | notIn
  | isNull
  | isNotNull
deriving DecidableEq, Repr

namespace Comparison

/-- The operator as statements spell it. -/
def text : Comparison → String
  | eq => "="
  | ne => "<>"
  | lt => "<"
  | le => "<="
  | gt => ">"
  | ge => ">="
  | like => "LIKE"
  | ilike => "ILIKE"
  | notLike => "NOT LIKE"
  | isIn => "IN"
  | notIn => "NOT IN"
  | isNull => "IS NULL"
  | isNotNull => "IS NOT NULL"

/-- Whether the operator tests its left operand alone. -/
def isNullTest : Comparison → Bool
  | isNull | isNotNull => true
  | _ => false

end Comparison

inductive Direction where
  | asc
  | desc
deriving DecidableEq, Repr

namespace Direction

/-- The direction as statements spell it. -/
def text : Direction → String
  | asc => "ASC"
  | desc => "DESC"

/-- The direction of a name, in any case of its letters. -/
def ofName? (name : String) : Option Direction :=
  match asciiLower name with
  | "asc" => some asc
  | "desc" => some desc
  | _ => none

end Direction

inductive Aggregate where
  | count
  | sum
  | avg
  | min
  | max
deriving DecidableEq, Repr

namespace Aggregate

def name : Aggregate → String
  | count => "count"
  | sum => "sum"
  | avg => "avg"
  | min => "min"
  | max => "max"

/-- The function of a name, in any case of its letters. -/
def ofName? (name : String) : Option Aggregate :=
  match asciiLower name with
  | "count" => some count
  | "sum" => some sum
  | "avg" => some avg
  | "min" => some min
  | "max" => some max
  | _ => none

end Aggregate

end EntitySql
