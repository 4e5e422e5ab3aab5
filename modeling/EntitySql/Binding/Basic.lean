import EntitySql.Request.Selection

/-!
# Binding values

Replacing the values of a request by the placeholders of parameters. Placeholders are counted from
one, in the order in which values are met, and the values are kept for the statement.

* `Bindings.push` binds one value.
* `Filter.bind` binds the operands of a filter: its terms, then its conjuncts, then its
  alternatives. The flags of null tests stay.
* `Selection.bind` binds the filters of a read: the node's own, then those of its many-to-ones, then
  those of its one-to-manys.
-/

namespace EntitySql

set_option autoImplicit false

/-- The values bound so far, in order. -/
structure Bindings where
  values : List Json := []
deriving DecidableEq

/-- Binds a value and returns its placeholder. -/
def Bindings.push (value : Json) (bindings : Bindings) : Nat × Bindings :=
  (bindings.values.length + 1, ⟨bindings.values ++ [value]⟩)

abbrev Binding := StateM Bindings

def bindValue (value : Json) : Binding Nat :=
  modifyGet (Bindings.push value)

def bindValues : List Json → Binding (List Nat)
  | [] => return []
  | value :: rest => do
    let index ← bindValue value
    return index :: (← bindValues rest)

def Operand.bind : Operand → Binding Operand
  | .value v => do return .param (← bindValue v)
  | .list vs => do return .params (← bindValues vs)
  | operand => return operand

def Predicate.bindAll : List Predicate → Binding (List Predicate)
  | [] => return []
  | { operator, operand } :: rest => do
    let operand ← operand.bind
    return { operator, operand } :: (← bindAll rest)

namespace Filter

mutual

def bind : Filter → Binding Filter
  | { terms, conjuncts, alternatives } => do
    let terms ← bindTerms terms
    let conjuncts ← bindList conjuncts
    let alternatives ← bindList alternatives
    return { terms, conjuncts, alternatives }
termination_by structural filter => filter

def bindTerm : Term → Binding Term
  | .predicates name predicates => do return .predicates name (← Predicate.bindAll predicates)
  | .nested name filter => do return .nested name (← filter.bind)
termination_by structural term => term

def bindTerms : List Term → Binding (List Term)
  | [] => return []
  | term :: rest => do
    let term ← bindTerm term
    return term :: (← bindTerms rest)
termination_by structural terms => terms

def bindList : List Filter → Binding (List Filter)
  | [] => return []
  | filter :: rest => do
    let filter ← filter.bind
    return filter :: (← bindList rest)
termination_by structural filters => filters

end

def bindOptional : Option Filter → Binding (Option Filter)
  | none => return none
  | some filter => do return some (← filter.bind)

end Filter

namespace Selection

mutual

def bind : Selection → Binding Selection
  | { name, fields, args, manyToOne, oneToMany } => do
    let filter ← Filter.bindOptional args.filter
    let manyToOne ← bindList manyToOne
    let oneToMany ← bindList oneToMany
    return { name, fields, args := { args with filter }, manyToOne, oneToMany }
termination_by structural selection => selection

def bindList : List Selection → Binding (List Selection)
  | [] => return []
  | selection :: rest => do
    let selection ← selection.bind
    return selection :: (← bindList rest)
termination_by structural selections => selections

end

end Selection

end EntitySql
