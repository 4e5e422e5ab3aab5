import EntitySql.Compile.ReadPlan
import EntitySql.Proofs.Binding.Operands
import EntitySql.Proofs.Sql.Inline

/-!
# Requests with their values back

Putting the values that were bound in the places of their placeholders undoes binding.

* `Filter.inline`, `Selection.inline` and `ReadPlan.inline` put values in the places of placeholders.
* `Filter.inline_bind` and `Selection.inline_bind` give back what was bound, if it had values only.
* `ReadPlan.ofSelection_inline` plans a read with its values like the read without.
-/

namespace EntitySql

set_option autoImplicit false

def Operand.inline (values : List Json) : Operand → Operand
  | .param index => .value (valueAt values index)
  | .params indices => .list (indices.map (valueAt values))
  | .value given => .value given
  | .list given => .list given
  | .flag given => .flag given

def Predicate.inline (values : List Json) (predicate : Predicate) : Predicate :=
  { predicate with operand := predicate.operand.inline values }

def Predicate.inlineAll (values : List Json) (predicates : List Predicate) : List Predicate :=
  predicates.map (Predicate.inline values)

mutual

/-- A filter with values in the places of its placeholders. -/
def Filter.inline (values : List Json) : Filter → Filter
  | { terms, conjuncts, alternatives } =>
    { terms := Term.inlineAll values terms
      conjuncts := Filter.inlineAll values conjuncts
      alternatives := Filter.inlineAll values alternatives }
termination_by structural filter => filter

def Term.inline (values : List Json) : Term → Term
  | .predicates name predicates => .predicates name (Predicate.inlineAll values predicates)
  | .nested name filter => .nested name (filter.inline values)
termination_by structural term => term

def Term.inlineAll (values : List Json) : List Term → List Term
  | [] => []
  | term :: rest => term.inline values :: Term.inlineAll values rest
termination_by structural terms => terms

def Filter.inlineAll (values : List Json) : List Filter → List Filter
  | [] => []
  | filter :: rest => filter.inline values :: Filter.inlineAll values rest
termination_by structural filters => filters

end

def Filter.inlineOf (values : List Json) (filter : Option Filter) : Option Filter :=
  filter.map (Filter.inline values)

def ReadArgs.inline (values : List Json) (args : ReadArgs) : ReadArgs :=
  { args with filter := Filter.inlineOf values args.filter }

mutual

/-- A checked read with values in the places of its placeholders. -/
def Selection.inline (values : List Json) : Selection → Selection
  | { name, fields, args, manyToOne, oneToMany } =>
    { name, fields, args := args.inline values
      manyToOne := Selection.inlineAll values manyToOne
      oneToMany := Selection.inlineAll values oneToMany }
termination_by structural selection => selection

def Selection.inlineAll (values : List Json) : List Selection → List Selection
  | [] => []
  | selection :: rest => selection.inline values :: Selection.inlineAll values rest
termination_by structural selections => selections

end

def ReadHead.inline (values : List Json) (head : ReadHead) : ReadHead :=
  { head with args := head.args.inline values }

mutual

/-- A planned read with values in the places of its placeholders. -/
def ReadPlan.inline (values : List Json) : ReadPlan → ReadPlan
  | .refused fault => .refused fault
  | .node head joins lists =>
    .node (head.inline values) (JoinPlan.inlineAll values joins) (JoinPlan.inlineAll values lists)
termination_by structural plan => plan

def JoinPlan.inline (values : List Json) : JoinPlan → JoinPlan
  | .unknown fault => .unknown fault
  | .on relation requested plan => .on relation requested (plan.inline values)
termination_by structural join => join

def JoinPlan.inlineAll (values : List Json) : List JoinPlan → List JoinPlan
  | [] => []
  | join :: rest => join.inline values :: JoinPlan.inlineAll values rest
termination_by structural joins => joins

end

/-! ## Binding and inlining -/

theorem valueAt_of_holds {values : List Json} {index : Nat} {value : Json}
    (h : Holds values index value) : valueAt values index = value := by
  rw [valueAt, List.getD_eq_getElem?_getD, h.2, Option.getD_some]

/-- Once bound, what the computation gives is the original with its values. -/
def Recalls {α : Type} (inline : List Json → α → α) (x : Binding α) (original : α) : Prop :=
  Settles x fun values bound => inline values bound = original

theorem Operand.recalls_bind {operand : Operand} (h : operand.IsLiteral) :
    Recalls Operand.inline operand.bind operand := by
  cases operand with
  | value value =>
    exact (settles_bindValue value).bind fun index => .pure fun values hindex => by
      rw [inline, valueAt_of_holds hindex]
  | list given =>
    refine (settles_bindValues given).bind fun indices => .pure fun values hindices => ?_
    rw [inline]
    congr 1
    induction hindices with
    | nil => rfl
    | cons hfirst _ ih => rw [List.map_cons, valueAt_of_holds hfirst, ih trivial]
  | flag value => exact .pure fun _ => rfl
  | param index => exact h.elim
  | params indices => exact h.elim

theorem Predicate.recalls_bindAll {predicates : List Predicate}
    (h : ∀ operand ∈ predicates.map Predicate.operand, operand.IsLiteral) :
    Recalls inlineAll (bindAll predicates) predicates := by
  induction predicates with
  | nil => exact .pure fun _ => rfl
  | cons predicate rest ih =>
    rw [List.map_cons, List.forall_mem_cons] at h
    refine (Operand.recalls_bind h.1).bind fun operand => (ih h.2).bind fun bound => ?_
    refine .pure fun values hrest hfirst => ?_
    rw [inlineAll] at hrest
    rw [inlineAll, List.map_cons, hrest, inline, hfirst]

namespace Filter

mutual

theorem recalls_bind : (filter : Filter) → (∀ operand ∈ filter.operands, operand.IsLiteral) →
    Recalls inline filter.bind filter
  | { terms, conjuncts, alternatives }, h => by
    rw [operands, List.forall_mem_append, List.forall_mem_append] at h
    rw [bind]
    refine (recalls_bindTerms terms h.1.1).bind fun boundTerms => ?_
    refine (recalls_bindList conjuncts h.1.2).bind fun boundConjuncts => ?_
    refine (recalls_bindList alternatives h.2).bind fun options => ?_
    refine .pure fun values halternatives hconjuncts hterms => ?_
    rw [inline, hterms, hconjuncts, halternatives]

theorem recalls_bindTerm : (term : Term) → (∀ operand ∈ term.operands, operand.IsLiteral) →
    Recalls Term.inline (bindTerm term) term
  | .predicates name predicates, h => by
    rw [Term.operands] at h
    rw [bindTerm]
    refine (Predicate.recalls_bindAll h).bind fun bound => .pure fun values hbound => ?_
    rw [Term.inline, hbound]
  | .nested name filter, h => by
    rw [Term.operands] at h
    rw [bindTerm]
    refine (recalls_bind filter h).bind fun bound => .pure fun values hbound => ?_
    rw [Term.inline, hbound]

theorem recalls_bindTerms : (terms : List Term) →
    (∀ operand ∈ Term.operandsAll terms, operand.IsLiteral) →
      Recalls Term.inlineAll (bindTerms terms) terms
  | [], _ => .pure fun _ => rfl
  | term :: rest, h => by
    rw [Term.operandsAll, List.forall_mem_append] at h
    rw [bindTerms]
    refine (recalls_bindTerm term h.1).bind fun bound => ?_
    refine (recalls_bindTerms rest h.2).bind fun others => ?_
    refine .pure fun values hrest hfirst => ?_
    rw [Term.inlineAll, hfirst, hrest]

theorem recalls_bindList : (filters : List Filter) →
    (∀ operand ∈ operandsAll filters, operand.IsLiteral) →
      Recalls inlineAll (bindList filters) filters
  | [], _ => .pure fun _ => rfl
  | filter :: rest, h => by
    rw [operandsAll, List.forall_mem_append] at h
    rw [bindList]
    refine (recalls_bind filter h.1).bind fun bound => ?_
    refine (recalls_bindList rest h.2).bind fun others => ?_
    refine .pure fun values hrest hfirst => ?_
    rw [inlineAll, hfirst, hrest]

end

theorem recalls_bindOptional {filter : Option Filter}
    (h : ∀ operand ∈ operandsOf filter, operand.IsLiteral) :
    Recalls inlineOf (bindOptional filter) filter := by
  cases filter with
  | none => exact .pure fun _ => rfl
  | some filter =>
    refine (recalls_bind filter h).bind fun bound => .pure fun values hbound => ?_
    rw [inlineOf, Option.map_some, hbound]

end Filter

namespace Selection

mutual

theorem recalls_bind : (selection : Selection) →
    (∀ operand ∈ selection.operands, operand.IsLiteral) → Recalls inline selection.bind selection
  | { name, fields, args, manyToOne, oneToMany }, h => by
    rw [operands, List.forall_mem_append, List.forall_mem_append] at h
    rw [bind]
    refine (Filter.recalls_bindOptional h.1.1).bind fun filter => ?_
    refine (recalls_bindList manyToOne h.1.2).bind fun ones => ?_
    refine (recalls_bindList oneToMany h.2).bind fun lists => ?_
    refine .pure fun values hlists hones hfilter => ?_
    rw [inline, hlists, hones, ReadArgs.inline, hfilter]

theorem recalls_bindList : (selections : List Selection) →
    (∀ operand ∈ operandsAll selections, operand.IsLiteral) →
      Recalls inlineAll (bindList selections) selections
  | [], _ => .pure fun _ => rfl
  | selection :: rest, h => by
    rw [operandsAll, List.forall_mem_append] at h
    rw [bindList]
    refine (recalls_bind selection h.1).bind fun bound => ?_
    refine (recalls_bindList rest h.2).bind fun others => ?_
    refine .pure fun values hrest hfirst => ?_
    rw [inlineAll, hfirst, hrest]

end

end Selection

/-- A filter is what it was bound to, with its values. -/
theorem Filter.inline_bind {filter : Filter} (h : ∀ operand ∈ filter.operands, operand.IsLiteral)
    (before : Bindings) :
    (filter.bind.run before).1.inline (filter.bind.run before).2.values = filter :=
  (recalls_bind filter h before).2 _ List.prefix_rfl

/-- A checked read is what it was bound to, with its values. -/
theorem Selection.inline_bind {selection : Selection}
    (h : ∀ operand ∈ selection.operands, operand.IsLiteral) (before : Bindings) :
    (selection.bind.run before).1.inline (selection.bind.run before).2.values = selection :=
  (recalls_bind selection h before).2 _ List.prefix_rfl

/-! ## Plans -/

variable (values : List Json)

theorem JoinPlan.inlineAll_eq_map (joins : List JoinPlan) :
    inlineAll values joins = joins.map (JoinPlan.inline values) := by
  induction joins with
  | nil => rfl
  | cons join rest ih => rw [inlineAll, ih, List.map_cons]

namespace ReadPlan

variable (schema : Schema) (entity : String)

theorem inline_joinManyToOne (relation : String) (requested : Bool) (plan : String → ReadPlan) :
    (joinManyToOne schema entity relation requested plan).inline values =
      joinManyToOne schema entity relation requested fun target => (plan target).inline values := by
  unfold joinManyToOne
  split
  · rw [JoinPlan.inline]
  · rw [JoinPlan.inline]

theorem inline_joinOneToMany (relation : String) (plan : String → ReadPlan) :
    (joinOneToMany schema entity relation plan).inline values =
      joinOneToMany schema entity relation fun target => (plan target).inline values := by
  unfold joinOneToMany
  split
  · rw [JoinPlan.inline]
  · rw [JoinPlan.inline]

/-- The joins that only sorting needs have no filters. -/
theorem inline_sortJoins (depth : Nat) (entity : String) (requested : List String)
    (steps : List SortStep) :
    JoinPlan.inlineAll values (sortJoins schema depth entity requested steps) =
      sortJoins schema depth entity requested steps := by
  induction depth generalizing entity requested steps with
  | zero => rfl
  | succ depth ih =>
    rw [JoinPlan.inlineAll_eq_map, sortJoins, List.map_map]
    refine List.map_congr_left fun relation _ => ?_
    rw [Function.comp_apply, inline_joinManyToOne]
    congr 1
    funext target
    dsimp only
    split
    · rw [ReadPlan.inline]
    · rw [ReadPlan.inline, ih]
      rfl

theorem name_inline (selection : Selection) : (selection.inline values).name = selection.name := by
  cases selection
  rfl

theorem names_inlineAll (selections : List Selection) :
    (Selection.inlineAll values selections).map (·.name) = selections.map (·.name) := by
  induction selections with
  | nil => rfl
  | cons selection rest ih => rw [Selection.inlineAll, List.map_cons, List.map_cons, ih, name_inline]

mutual

theorem ofSelection_inline : (selection : Selection) → ∀ entity passing,
    ofSelection schema entity passing (selection.inline values) =
      (ofSelection schema entity passing selection).inline values
  | { name, fields, args, manyToOne, oneToMany }, entity, passing => by
    rw [Selection.inline, ofSelection, ofSelection]
    have hkeys : (args.inline values).sortKeys = args.sortKeys := rfl
    rw [hkeys]
    split
    · rw [ReadPlan.inline]
    · rw [ReadPlan.inline, JoinPlan.inlineAll_eq_map, List.map_append, ← JoinPlan.inlineAll_eq_map,
        ← JoinPlan.inlineAll_eq_map, inline_sortJoins, requestedJoins_inline manyToOne,
        requestedLists_inline oneToMany, names_inlineAll]
      rfl

theorem requestedJoins_inline : (children : List Selection) → ∀ entity steps earlier,
    requestedJoins schema entity steps earlier (Selection.inlineAll values children) =
      JoinPlan.inlineAll values (requestedJoins schema entity steps earlier children)
  | [], _, _, _ => rfl
  | child :: rest, entity, steps, earlier => by
    rw [Selection.inlineAll, requestedJoins, requestedJoins, JoinPlan.inlineAll,
      inline_joinManyToOne, requestedJoins_inline rest, name_inline]
    congr 2
    funext target
    exact ofSelection_inline child target _

theorem requestedLists_inline : (children : List Selection) → ∀ entity,
    requestedLists schema entity (Selection.inlineAll values children) =
      JoinPlan.inlineAll values (requestedLists schema entity children)
  | [], _ => rfl
  | child :: rest, entity => by
    rw [Selection.inlineAll, requestedLists, requestedLists, JoinPlan.inlineAll,
      inline_joinOneToMany, requestedLists_inline rest, name_inline]
    congr 2
    funext target
    exact ofSelection_inline child target _

end

end ReadPlan

end EntitySql
