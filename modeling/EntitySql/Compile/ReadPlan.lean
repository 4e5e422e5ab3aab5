import EntitySql.Request.Selection

/-!
# Read plans

Which tables a read joins, and what it carries upwards to sort by. A sort path that walks through a
relation is handed to the join of that relation with its first step removed; a relation that only
sorting needs gets a join of its own, which yields nothing but the values to sort by.

* `SortStep` is a sort key on its way through a relation.
* `ReadPlan.ofSelection` plans a checked read.

Faults stay in the plan, at the place where a compilation will meet them.
-/

namespace EntitySql

set_option autoImplicit false

/-- What a node of a plan reads, apart from its joins. -/
structure ReadHead where
  entity : String
  name : String
  fields : List String := []
  args : ReadArgs := {}
  /-- The sort keys of nodes above that pass through this one, then its own. -/
  carried : List SortKey := []

mutual

/-- A planned read of one entity. -/
inductive ReadPlan where
  | refused (fault : Fault)
  | node (head : ReadHead) (joins lists : List JoinPlan)

/-- A planned join: a many-to-one or a one-to-many. One that is not requested carries sort values
only. -/
inductive JoinPlan where
  | unknown (fault : Fault)
  | on (relation : String) (requested : Bool) (plan : ReadPlan)

end

instance : Inhabited ReadPlan := ⟨.refused .undecodable⟩

/-! ## Sort keys on their way -/

/-- A sort key that walks through a relation: what is left of it behind that relation. -/
structure SortStep where
  relation : String
  key : SortKey
deriving DecidableEq, Repr

namespace SortStep

/-- The step of a key, if its path has more than one name. -/
def ofKey? (key : SortKey) : Option SortStep :=
  match key.path with
  | relation :: name :: rest => some ⟨relation, { key with path := name :: rest }⟩
  | _ => none

/-- The steps of the keys that walk through a relation. The relation has to be a many-to-one of the
entity. -/
def ofKeys (schema : Schema) (entity : String) : List SortKey → Result (List SortStep)
  | [] => .ok []
  | key :: rest =>
    match ofKey? key with
    | none => ofKeys schema entity rest
    | some step =>
      if (schema.manyToOne? entity step.relation).isSome then do
        return step :: (← ofKeys schema entity rest)
      else .error (.name (.sortPath entity key.path step.relation))

/-- What is left of the keys behind a relation, in order. -/
def keysThrough (relation : String) (steps : List SortStep) : List SortKey :=
  (steps.filter (·.relation = relation)).map (·.key)

/-- The relations of the steps, each once, in order, without those in `known`. -/
def relations (known : List String) : List SortStep → List String
  | [] => []
  | step :: rest =>
    if step.relation ∈ known then relations known rest
    else step.relation :: relations (step.relation :: known) rest

end SortStep

/-! ## Planning -/

namespace ReadPlan

/-- The length of the longest path. -/
def depth (keys : List SortKey) : Nat :=
  keys.foldr (fun key longest => max key.path.length longest) 0

def joinManyToOne (schema : Schema) (entity relation : String) (requested : Bool)
    (plan : String → ReadPlan) : JoinPlan :=
  match schema.manyToOne entity relation with
  | .ok target => .on relation requested (plan target.targetEntity)
  | .error fault => .unknown fault

def joinOneToMany (schema : Schema) (entity relation : String) (plan : String → ReadPlan) :
    JoinPlan :=
  match schema.oneToMany entity relation with
  | .ok target => .on relation true (plan target.targetEntity)
  | .error fault => .unknown fault

/-- The joins that only sorting needs, for steps whose paths are at most `depth` long. -/
def sortJoins (schema : Schema) : (depth : Nat) → (entity : String) → (requested : List String) →
    List SortStep → List JoinPlan
  | 0, _, _, _ => []
  | depth + 1, entity, requested, steps =>
    (SortStep.relations requested steps).map fun relation =>
      joinManyToOne schema entity relation false fun target =>
        let carried := SortStep.keysThrough relation steps
        match SortStep.ofKeys schema target carried with
        | .error fault => .refused fault
        | .ok steps =>
          .node { entity := target, name := relation, carried }
            (sortJoins schema depth target [] steps) []

mutual

/-- Plans a checked read on an entity, with the sort keys of nodes above that pass through it. -/
def ofSelection (schema : Schema) (entity : String) (passing : List SortKey) :
    Selection → ReadPlan
  | { name, fields, args, manyToOne, oneToMany } =>
    let carried := passing ++ args.sortKeys
    match SortStep.ofKeys schema entity carried with
    | .error fault => .refused fault
    | .ok steps =>
      .node { entity, name, fields, args, carried }
        (requestedJoins schema entity steps [] manyToOne ++
          sortJoins schema (depth carried) entity (manyToOne.map (·.name)) steps)
        (requestedLists schema entity oneToMany)
termination_by structural selection => selection

/-- Plans the requested many-to-ones. Of several with one name the first takes the sort keys. -/
def requestedJoins (schema : Schema) (entity : String) (steps : List SortStep)
    (earlier : List String) : List Selection → List JoinPlan
  | [] => []
  | child :: rest =>
    let passing :=
      if child.name ∈ earlier then [] else SortStep.keysThrough child.name steps
    joinManyToOne schema entity child.name true
        (fun target => ofSelection schema target passing child) ::
      requestedJoins schema entity steps (child.name :: earlier) rest
termination_by structural children => children

/-- Plans the requested one-to-manys. -/
def requestedLists (schema : Schema) (entity : String) : List Selection → List JoinPlan
  | [] => []
  | child :: rest =>
    joinOneToMany schema entity child.name
        (fun target => ofSelection schema target [] child) ::
      requestedLists schema entity rest
termination_by structural children => children

end

end ReadPlan

end EntitySql
