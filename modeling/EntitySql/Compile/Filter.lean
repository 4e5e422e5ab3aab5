import EntitySql.Naming
import EntitySql.Request.Filter
import EntitySql.Sql.Alias
import EntitySql.Sql.Query

/-!
# Compiling filters

From filters to conditions. A term on a relation becomes an `EXISTS` over the target table, which is
read under a fresh alias and joined to the row outside.

* `Predicate.compile` compiles a predicate on a column.
* `Filter.compile` compiles a filter on an entity whose rows are known as a source.
* `Filter.compileOn` lets the source default to the name of the table.

Aliases taken before a fault stay taken.
-/

namespace EntitySql

set_option autoImplicit false

/-- A compilation: it takes aliases and may fail. -/
abbrev Compile := ExceptT Fault (StateM Aliases)

namespace Compile

/-- Takes the next alias of a prefix. -/
def fresh (stem : String) : Compile String :=
  modifyGet (Aliases.next stem)

/-- The result of a step that takes no alias. -/
def ofResult {α : Type} (result : Result α) : Compile α :=
  MonadExcept.ofExcept result

end Compile

open Compile

def Operator.comparison : Operator → Comparison
  | .eq => .eq
  | .neq => .ne
  | .like => .like
  | .ilike => .ilike
  | .nlike => .notLike
  | .oneOf => .isIn
  | .noneOf => .notIn
  | .gt => .gt
  | .gte => .ge
  | .lt => .lt
  | .lte => .le
  | .isNull => .isNull

namespace Predicate

/-- A membership test, which is decided when there is nothing to be a member of. -/
def membership (left : Expr) (op : Operator) (items : List Expr) : Condition :=
  if items.isEmpty then .literal (op = .noneOf)
  else .compare left op.comparison (some (.tuple items))

/-- Compiles a predicate on a column. Parameters are cast to the type of the column. -/
def compile (left : Expr) (type : SqlType) (predicate : Predicate) : Result Condition :=
  let { operator, operand } := predicate
  let compare (right : Expr) : Result Condition :=
    .ok (.compare left operator.comparison (some right))
  if operator = .isNull then
    match operand with
    | .flag true => .ok (.compare left .isNull none)
    | .flag false => .ok (.compare left .isNotNull none)
    | _ => .error (.filter (.operand operator))
  else if operator.takesList then
    match operand with
    | .params indices => .ok (membership left operator (indices.map (Expr.typedParam · type)))
    | .list values => .ok (membership left operator (values.map Expr.literal))
    | _ => .error (.filter (.operand operator))
  else
    match operand with
    | .param index => compare (.typedParam index type)
    | .value value => compare (.literal value)
    | _ => .error (.filter (.singleExpected operator))

def compileAll (naming : Naming) (entity source : String) (field : Field)
    (predicates : List Predicate) : Result (List Condition) := do
  let column ← naming.column entity field.name
  predicates.mapM (compile (.column source column) field.sqlType)

end Predicate

/-- The condition that some row of the target table is joined to the row outside and satisfies the
inner condition, which is given the alias of the row. -/
def compileExists (naming : Naming) (entity source relation target : String)
    (inner : String → Compile Condition) : Compile Condition := do
  let link ← ofResult (naming.link entity relation)
  let table ← ofResult (naming.table target)
  let joined ← fresh "w"
  let joint := Condition.equal (.column joined link.toColumn) (.column source link.fromColumn)
  let condition ← inner joined
  return .exists {
    columns := [(.literal (.int 1), none)]
    source := some (.table table (some joined))
    filter := some (.all [joint, condition]) }

namespace Filter

/-- Compiles the predicates on a relation, which takes none. Without any, the condition is that there
is a related row. -/
def compileOnRelation (naming : Naming) (entity source relation target : String) :
    List Predicate → Compile (List Condition)
  | predicate :: _ => throw (.filter (.onRelation entity relation predicate.operator))
  | [] => do return [← compileExists naming entity source relation target fun _ => return .all []]

def compilePredicates (naming : Naming) (entity source : String) (predicates : List Predicate) :
    Member → Compile (List Condition)
  | .field field => ofResult (Predicate.compileAll naming entity source field predicates)
  | .manyToOne relation =>
    compileOnRelation naming entity source relation.name relation.targetEntity predicates
  | .oneToMany relation =>
    compileOnRelation naming entity source relation.name relation.targetEntity predicates

/-- The result of a nested filter on a field, which may ask for nothing only. -/
def compileOnField (entity : String) (field : Field) (filter : Filter) : Result (List Condition) :=
  match filter.firstKey? with
  | some key => .error (.operator (.onField entity field.name key))
  | none => .ok []

mutual

/-- Compiles a filter on an entity whose rows are known as the source. -/
def compile (schema : Schema) (naming : Naming) (entity source : String) :
    Filter → Compile Condition
  | { terms, conjuncts, alternatives } => do
    let terms ← compileTerms schema naming entity source terms
    let conjuncts ← compileList schema naming entity source conjuncts
    let options ← compileList schema naming entity source alternatives
    return .all (terms ++ conjuncts ++ if alternatives.isEmpty then [] else [.any options])
termination_by structural filter => filter

/-- Compiles a term to conditions that all have to hold. -/
def compileTerm (schema : Schema) (naming : Naming) (entity source : String) :
    Term → Compile (List Condition)
  | .predicates name predicates => do
    match ← ofResult (schema.resolve entity name) with
    | some member => compilePredicates naming entity source predicates member
    | none => throw (.name (.member entity name))
  | .nested name filter => do
    match ← ofResult (schema.resolve entity name) with
    | some (.field field) => ofResult (compileOnField entity field filter)
    | some (.manyToOne relation) =>
      return [← compileExists naming entity source relation.name relation.targetEntity fun joined =>
        compile schema naming relation.targetEntity joined filter]
    | some (.oneToMany relation) =>
      return [← compileExists naming entity source relation.name relation.targetEntity fun joined =>
        compile schema naming relation.targetEntity joined filter]
    | none => throw (.name (.member entity name))
termination_by structural term => term

def compileTerms (schema : Schema) (naming : Naming) (entity source : String) :
    List Term → Compile (List Condition)
  | [] => return []
  | term :: rest => do
    let conditions ← compileTerm schema naming entity source term
    return conditions ++ (← compileTerms schema naming entity source rest)
termination_by structural terms => terms

def compileList (schema : Schema) (naming : Naming) (entity source : String) :
    List Filter → Compile (List Condition)
  | [] => return []
  | filter :: rest => do
    let condition ← compile schema naming entity source filter
    return condition :: (← compileList schema naming entity source rest)
termination_by structural filters => filters

end

/-- Compiles a filter on an entity whose rows are known as the source, or as the name of the table
if none is given. -/
def compileOn (schema : Schema) (naming : Naming) (entity : String) (source : Option String)
    (filter : Filter) : Compile Condition := do
  let source ← match source with
    | some source => pure source
    | none => ofResult (naming.table entity)
  filter.compile schema naming entity source

end Filter

end EntitySql
