import EntitySql.Proofs.Relational.Stored
import EntitySql.Request.Filter

/-!
# What filters mean

The meaning of a filter on a stored row, said on the data alone: without statements, sources and
aliases.

* `Predicate.meaning` compares the value of a field.
* `Filter.meaning` is the conjunction of all terms, all conjuncts and one of the alternatives.
-/

namespace EntitySql

set_option autoImplicit false

variable {V : Type}

/-- The values that an operand stands for. Those of parameters are read as values of the type. -/
def Operand.values (engine : Engine V) (type : SqlType) : Operand → List V
  | .value json => [engine.literal json]
  | .list jsons => jsons.map engine.literal
  | .flag _ => []
  | .param index => [engine.cast (engine.param index) type]
  | .params indices => indices.map fun index => engine.cast (engine.param index) type

/-- What a predicate says about a value. Nothing is in an empty list. -/
def Predicate.meaning (engine : Engine V) (type : SqlType) (value : V) : Predicate → Truth
  | ⟨.eq, operand⟩ => engine.compare .eq value (operand.values engine type)
  | ⟨.neq, operand⟩ => engine.compare .ne value (operand.values engine type)
  | ⟨.like, operand⟩ => engine.compare .like value (operand.values engine type)
  | ⟨.ilike, operand⟩ => engine.compare .ilike value (operand.values engine type)
  | ⟨.nlike, operand⟩ => engine.compare .notLike value (operand.values engine type)
  | ⟨.gt, operand⟩ => engine.compare .gt value (operand.values engine type)
  | ⟨.gte, operand⟩ => engine.compare .ge value (operand.values engine type)
  | ⟨.lt, operand⟩ => engine.compare .lt value (operand.values engine type)
  | ⟨.lte, operand⟩ => engine.compare .le value (operand.values engine type)
  | ⟨.isNull, .flag false⟩ => engine.compare .isNotNull value []
  | ⟨.isNull, _⟩ => engine.compare .isNull value []
  | ⟨.oneOf, operand⟩ => match operand.values engine type with
    | [] => .fails
    | items => engine.compare .isIn value items
  | ⟨.noneOf, operand⟩ => match operand.values engine type with
    | [] => .holds
    | items => engine.compare .notIn value items

section

variable (engine : Engine V) (db : Instance V) (schema : Schema) (layout : Layout)

mutual

/-- What a filter on an entity says about a row. -/
def Filter.meaning (entity : String) (tuple : Tuple V) : Filter → Truth
  | { terms, conjuncts, alternatives } =>
    (Truth.all (Term.meanings entity tuple terms)).and
      ((Truth.all (Filter.meanings entity tuple conjuncts)).and
        (if alternatives.isEmpty then .holds
          else .any (Filter.meanings entity tuple alternatives)))
termination_by structural filter => filter

/-- What a term on an entity says about a row. A relation without predicates asks for a related
row. -/
def Term.meaning (entity : String) (tuple : Tuple V) : Term → Truth
  | .predicates name predicates => match schema.member? entity name with
    | some (.field field) => .all (predicates.map
        (Predicate.meaning engine field.sqlType (tuple (layout.column entity field.name))))
    | some (.manyToOne relation) =>
      db.related engine (layout.link entity relation) tuple fun _ => .holds
    | some (.oneToMany relation) => match layout.inverseLink? schema relation with
      | some link => db.related engine link tuple fun _ => .holds
      | none => .fails
    | none => .fails
  | .nested name filter => match schema.member? entity name with
    | some (.field _) => .holds
    | some (.manyToOne relation) =>
      db.related engine (layout.link entity relation) tuple fun other =>
        filter.meaning relation.targetEntity other
    | some (.oneToMany relation) => match layout.inverseLink? schema relation with
      | some link => db.related engine link tuple fun other =>
          filter.meaning relation.targetEntity other
      | none => .fails
    | none => .fails
termination_by structural term => term

def Term.meanings (entity : String) (tuple : Tuple V) : List Term → List Truth
  | [] => []
  | term :: rest => term.meaning entity tuple :: Term.meanings entity tuple rest
termination_by structural terms => terms

def Filter.meanings (entity : String) (tuple : Tuple V) : List Filter → List Truth
  | [] => []
  | filter :: rest => filter.meaning entity tuple :: Filter.meanings entity tuple rest
termination_by structural filters => filters

end

end

end EntitySql
