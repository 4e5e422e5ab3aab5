/-!
# Filter operators

The operators a filter may use on a field, with the names requests use for them.

* `Operator.name` and `Operator.ofName?` are inverse to each other.
-/

namespace EntitySql

set_option autoImplicit false

/-- An operator of the filter language. -/
inductive Operator where
  | eq
  | neq
  | like
  | ilike
  | nlike
  | oneOf
  | noneOf
  | gt
  | gte
  | lt
  | lte
  | isNull
deriving DecidableEq, Repr

namespace Operator

/-- The name that requests use. -/
def name : Operator → String
  | eq => "_eq"
  | neq => "_neq"
  | like => "_like"
  | ilike => "_ilike"
  | nlike => "_nlike"
  | oneOf => "_in"
  | noneOf => "_nin"
  | gt => "_gt"
  | gte => "_gte"
  | lt => "_lt"
  | lte => "_lte"
  | isNull => "_isnull"

def ofName? : String → Option Operator
  | "_eq" => some eq
  | "_neq" => some neq
  | "_like" => some like
  | "_ilike" => some ilike
  | "_nlike" => some nlike
  | "_in" => some oneOf
  | "_nin" => some noneOf
  | "_gt" => some gt
  | "_gte" => some gte
  | "_lt" => some lt
  | "_lte" => some lte
  | "_isnull" => some isNull
  | _ => none

/-- Whether the operator compares with a list of values. -/
def takesList : Operator → Bool
  | oneOf | noneOf => true
  | _ => false

theorem ofName?_name (op : Operator) : ofName? op.name = some op := by
  cases op <;> rfl

end Operator

end EntitySql
