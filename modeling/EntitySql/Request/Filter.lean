import EntitySql.Fault

/-!
# Filters

The filter language of requests: an object of fields with operators, of relations with nested
filters, and of `_and` and `_or` groups.

* `Filter.parse` reads a filter from JSON.
* `Filter.firstKey?` is the key that messages name.

An object whose keys all start with an underscore, `_and` and `_or` excepted, is a list of
predicates; any other object is a nested filter.
-/

namespace EntitySql

set_option autoImplicit false

/-- What an operator compares with. Values become parameters when a statement is bound. -/
inductive Operand where
  | value (value : Json)
  | list (values : List Json)
  | flag (value : Bool)
  | param (index : Nat)
  | params (indices : List Nat)
deriving DecidableEq

/-- An operator and what it compares with. -/
structure Predicate where
  operator : Operator
  operand : Operand
deriving DecidableEq

mutual

/-- A filter: all terms and all conjuncts hold, and one of the alternatives unless there is none. -/
structure Filter where
  terms : List Term := []
  conjuncts : List Filter := []
  alternatives : List Filter := []

/-- A condition on a member of the entity. -/
inductive Term where
  | predicates (name : String) (predicates : List Predicate)
  | nested (name : String) (filter : Filter)

end

instance : Inhabited Filter := ⟨{}⟩

def Term.name : Term → String
  | .predicates name _ => name
  | .nested name _ => name

namespace Filter

/-- Whether the filter asks for nothing. -/
def isEmpty (filter : Filter) : Bool :=
  filter.terms.isEmpty && filter.conjuncts.isEmpty && filter.alternatives.isEmpty

/-- The key of the first thing that the filter asks for. -/
def firstKey? (filter : Filter) : Option String :=
  match filter.terms with
  | term :: _ => some term.name
  | [] =>
    if !filter.conjuncts.isEmpty then some "_and"
    else if !filter.alternatives.isEmpty then some "_or"
    else none

end Filter

/-! ## Reading -/

def Operator.parse (name : String) : Result Operator :=
  match Operator.ofName? name with
  | some op => .ok op
  | none => .error (.operator (.unknown name))

namespace Predicate

/-- Reads a predicate from an operator name and an operand. List operators take an array, the null
test a truth value, and all others any value. -/
def parse (key : String) (value : Json) : Result Predicate := do
  let op ← Operator.parse key
  match op, value with
  | .oneOf, .arr items => return ⟨op, .list items⟩
  | .noneOf, .arr items => return ⟨op, .list items⟩
  | .oneOf, _ => throw (.filter (.listExpected op))
  | .noneOf, _ => throw (.filter (.listExpected op))
  | .isNull, .bool flag => return ⟨op, .flag flag⟩
  | .isNull, _ => throw (.filter .flagExpected)
  | _, value => return ⟨op, .value value⟩

end Predicate

/-- Whether a key can be that of a predicate. -/
def isPredicateKey (key : String) : Bool :=
  key.toList.head? = some '_' && key ≠ "_and" && key ≠ "_or"

namespace Filter

mutual

/-- Reads a filter from JSON. -/
def parse : Json → Result Filter
  | .obj members => parseMembers {} members
  | got => .error (.filter (.noObject got))
termination_by structural value => value

/-- Reads the members of a filter in order, after those in `read`. -/
def parseMembers (read : Filter) : List (String × Json) → Result Filter
  | [] => .ok read
  | (key, value) :: rest =>
    if key = "_and" then do
      parseMembers { read with conjuncts := ← parseGroup key value } rest
    else if key = "_or" then do
      parseMembers { read with alternatives := ← parseGroup key value } rest
    else do
      parseMembers { read with terms := read.terms ++ [← parseTerm key value] } rest
termination_by structural members => members

/-- Reads a group of filters. `null` is an empty group. -/
def parseGroup (key : String) : Json → Result (List Filter)
  | .null => .ok []
  | .arr items => parseItems items
  | got => .error (.filter (.noGroup key got))
termination_by structural value => value

def parseItems : List Json → Result (List Filter)
  | [] => .ok []
  | item :: rest => do
    let filter ← parse item
    return filter :: (← parseItems rest)
termination_by structural items => items

def parseTerm (key : String) : Json → Result Term
  | .obj members =>
    if members.all fun (key, _) => isPredicateKey key then do
      return .predicates key (← members.mapM fun (key, value) => Predicate.parse key value)
    else do
      return .nested key (← parseMembers {} members)
  | got => .error (.filter (.noCriterion key got))
termination_by structural value => value

end

end Filter

end EntitySql
