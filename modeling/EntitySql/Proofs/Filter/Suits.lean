import EntitySql.Proofs.Binding.Operands
import EntitySql.Proofs.Schema.WellFormed

/-!
# Filters that can be compiled

Which filters a schema has a meaning for: every name is a member of the entity that it stands on, every
operator has an operand that it takes, and only relations hold filters that ask for something.

* `Operator.Takes` is about operands, `Filter.Suits` about filters on an entity.
* `Filter.settles_suits`: binding the values of a filter does not change whether it is one of them.
-/

namespace EntitySql

set_option autoImplicit false

/-! ## What can be compiled -/

/-- The operator compares with operands of this form. -/
def Operator.Takes (op : Operator) : Operand → Prop
  | .flag _ => op = .isNull
  | .list _ | .params _ => op.takesList = true
  | .value _ | .param _ => op ≠ .isNull ∧ op.takesList = false

def Predicate.Suits (predicate : Predicate) : Prop :=
  predicate.operator.Takes predicate.operand

mutual

/-- Everything that the filter asks for can be asked of the entity. -/
def Filter.Suits (schema : Schema) (entity : String) : Filter → Prop
  | { terms, conjuncts, alternatives } =>
    Term.AllSuit schema entity terms ∧ Filter.AllSuit schema entity conjuncts ∧
      Filter.AllSuit schema entity alternatives
termination_by structural filter => filter

/-- Fields have predicates and relations have filters. Of both, only those that ask for nothing may
stand in the other's place. -/
def Term.Suits (schema : Schema) (entity : String) : Term → Prop
  | .predicates name predicates =>
    match schema.member? entity name with
    | some (.field _) => ∀ predicate ∈ predicates, predicate.Suits
    | some (.manyToOne _) => predicates = []
    | some (.oneToMany _) => predicates = []
    | none => False
  | .nested name filter =>
    match schema.member? entity name with
    | some (.field _) => filter.isEmpty
    | some (.manyToOne relation) => filter.Suits schema relation.targetEntity
    | some (.oneToMany relation) => filter.Suits schema relation.targetEntity
    | none => False
termination_by structural term => term

def Term.AllSuit (schema : Schema) (entity : String) : List Term → Prop
  | [] => True
  | term :: rest => term.Suits schema entity ∧ Term.AllSuit schema entity rest
termination_by structural terms => terms

def Filter.AllSuit (schema : Schema) (entity : String) : List Filter → Prop
  | [] => True
  | filter :: rest => filter.Suits schema entity ∧ Filter.AllSuit schema entity rest
termination_by structural filters => filters

end

variable {schema : Schema}

namespace Filter

theorem isEmpty_iff {filter : Filter} : filter.isEmpty = true ↔
    filter.terms = [] ∧ filter.conjuncts = [] ∧ filter.alternatives = [] := by
  simp [isEmpty, and_assoc]

theorem firstKey?_eq_none {filter : Filter} : filter.firstKey? = none ↔ filter.isEmpty = true := by
  obtain ⟨terms, conjuncts, alternatives⟩ := filter
  rw [isEmpty_iff]
  cases terms <;> cases conjuncts <;> cases alternatives <;> simp [firstKey?]

end Filter

/-! ## What is bound -/

/-- An operator takes an operand with its values just as with placeholders for them. -/
theorem Operator.takes_bound {values : List Json} {given bound : Operand} (op : Operator)
    (h : given.Bound values bound) : op.Takes bound ↔ op.Takes given := by
  cases h <;> rfl

theorem Predicate.settles_suits (predicates : List Predicate) :
    Settles (bindAll predicates) fun _ bound => (bound = [] ↔ predicates = []) ∧
      ((∀ predicate ∈ bound, predicate.Suits) ↔ ∀ predicate ∈ predicates, predicate.Suits) := by
  induction predicates with
  | nil => exact .pure fun _ => ⟨Iff.rfl, Iff.rfl⟩
  | cons predicate rest ih =>
    refine (Operand.settles_bind predicate.operand).bind fun operand => ih.bind fun bound => ?_
    refine .pure fun values hrest hfirst => ⟨by simp, ?_⟩
    rw [List.forall_mem_cons, List.forall_mem_cons, hrest.2]
    exact and_congr_left' (Operator.takes_bound predicate.operator hfirst)

namespace Filter

mutual

/-- Bound, a filter asks for something just when it did before, and of an entity just when it did. -/
theorem settles_suits : (filter : Filter) → Settles filter.bind fun _ bound =>
    (bound.isEmpty = true ↔ filter.isEmpty = true) ∧
      ∀ entity, bound.Suits schema entity ↔ filter.Suits schema entity
  | { terms, conjuncts, alternatives } => by
    rw [bind]
    refine (settles_suitsOfTerms terms).bind fun boundTerms => ?_
    refine (settles_allSuit conjuncts).bind fun boundConjuncts => ?_
    refine (settles_allSuit alternatives).bind fun options => ?_
    refine .pure fun _ halternatives hconjuncts hterms => ⟨?_, fun entity => ?_⟩
    · rw [isEmpty_iff, isEmpty_iff]
      exact and_congr hterms.1 (and_congr hconjuncts.1 halternatives.1)
    · rw [Suits, Suits]
      exact and_congr (hterms.2 entity) (and_congr (hconjuncts.2 entity) (halternatives.2 entity))

theorem settles_suitsOfTerm : (term : Term) → Settles (bindTerm term) fun _ bound =>
    ∀ entity, bound.Suits schema entity ↔ term.Suits schema entity
  | .predicates name predicates => by
    rw [bindTerm]
    refine (Predicate.settles_suits predicates).bind fun bound => .pure fun _ hbound entity => ?_
    rw [Term.Suits, Term.Suits]
    cases schema.member? entity name with
    | none => exact Iff.rfl
    | some member =>
      cases member with
      | field field => exact hbound.2
      | manyToOne relation => exact hbound.1
      | oneToMany relation => exact hbound.1
  | .nested name filter => by
    rw [bindTerm]
    refine (settles_suits filter).bind fun bound => .pure fun _ hbound entity => ?_
    rw [Term.Suits, Term.Suits]
    cases schema.member? entity name with
    | none => exact Iff.rfl
    | some member =>
      cases member with
      | field field => exact hbound.1
      | manyToOne relation => exact hbound.2 relation.targetEntity
      | oneToMany relation => exact hbound.2 relation.targetEntity

theorem settles_suitsOfTerms : (terms : List Term) → Settles (bindTerms terms) fun _ bound =>
    (bound = [] ↔ terms = []) ∧
      ∀ entity, Term.AllSuit schema entity bound ↔ Term.AllSuit schema entity terms
  | [] => .pure fun _ => ⟨Iff.rfl, fun _ => Iff.rfl⟩
  | term :: rest => by
    rw [bindTerms]
    refine (settles_suitsOfTerm term).bind fun bound => ?_
    refine (settles_suitsOfTerms rest).bind fun others => ?_
    refine .pure fun _ hrest hfirst => ⟨by simp, fun entity => ?_⟩
    rw [Term.AllSuit, Term.AllSuit]
    exact and_congr (hfirst entity) (hrest.2 entity)

theorem settles_allSuit : (filters : List Filter) → Settles (bindList filters) fun _ bound =>
    (bound = [] ↔ filters = []) ∧
      ∀ entity, AllSuit schema entity bound ↔ AllSuit schema entity filters
  | [] => .pure fun _ => ⟨Iff.rfl, fun _ => Iff.rfl⟩
  | filter :: rest => by
    rw [bindList]
    refine (settles_suits filter).bind fun bound => ?_
    refine (settles_allSuit rest).bind fun others => ?_
    refine .pure fun _ hrest hfirst => ⟨by simp, fun entity => ?_⟩
    rw [AllSuit, AllSuit]
    exact and_congr (hfirst.2 entity) (hrest.2 entity)

end

theorem settles_suitsOptional (filter : Option Filter) :
    Settles (bindOptional filter) fun _ bound =>
      ∀ entity, (bound.getD {}).Suits schema entity ↔ (filter.getD {}).Suits schema entity := by
  cases filter with
  | none => exact .pure fun _ _ => Iff.rfl
  | some filter => exact (settles_suits filter).bind fun _ => .pure fun _ h => h.2

end Filter

end EntitySql
