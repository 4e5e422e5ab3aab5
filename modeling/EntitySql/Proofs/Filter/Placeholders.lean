import EntitySql.Proofs.Compile.Run
import EntitySql.Proofs.Result
import EntitySql.Proofs.Sql.Placeholders

/-!
# Placeholders in filters

A compiled filter has the placeholders of the filter, in their order: compiling drops no operand and
uses none twice.

* `Filter.placeholders` lists the placeholders among the operands of a filter.
* `Filter.placeholders_compile` finds them in the condition.
-/

namespace EntitySql

set_option autoImplicit false

open Compile

def Operand.placeholders : Operand → List Nat
  | .param index => [index]
  | .params indices => indices
  | .value _ | .list _ | .flag _ => []

def Predicate.placeholdersAll (predicates : List Predicate) : List Nat :=
  predicates.flatMap fun predicate => predicate.operand.placeholders

mutual

def Filter.placeholders : Filter → List Nat
  | { terms, conjuncts, alternatives } =>
    Term.placeholdersAll terms ++ Filter.placeholdersAll conjuncts ++
      Filter.placeholdersAll alternatives
termination_by structural filter => filter

def Term.placeholders : Term → List Nat
  | .predicates _ predicates => Predicate.placeholdersAll predicates
  | .nested _ filter => filter.placeholders
termination_by structural term => term

def Term.placeholdersAll : List Term → List Nat
  | [] => []
  | term :: rest => term.placeholders ++ Term.placeholdersAll rest
termination_by structural terms => terms

def Filter.placeholdersAll : List Filter → List Nat
  | [] => []
  | filter :: rest => filter.placeholders ++ Filter.placeholdersAll rest
termination_by structural filters => filters

end

def Filter.placeholdersOf : Option Filter → List Nat
  | none => []
  | some filter => filter.placeholders

/-! ## Predicates -/

namespace Predicate

theorem placeholders_membership {left : Expr} (hleft : left.placeholders = []) (op : Operator)
    (items : List Expr) :
    (membership left op items).placeholders = Expr.placeholdersAll items := by
  cases items with
  | nil => rfl
  | cons item rest =>
    simp [membership, Condition.placeholders, Expr.placeholdersOf, Expr.placeholders, hleft]

theorem placeholders_compile {left : Expr} (hleft : left.placeholders = []) {type : SqlType}
    {predicate : Predicate} {condition : Condition}
    (h : predicate.compile left type = .ok condition) :
    condition.placeholders = predicate.operand.placeholders := by
  obtain ⟨op, operand⟩ := predicate
  unfold compile at h
  simp only at h
  split at h
  · split at h
    · obtain rfl := Except.ok.inj h
      simp [Condition.placeholders, Expr.placeholdersOf, Operand.placeholders, hleft]
    · obtain rfl := Except.ok.inj h
      simp [Condition.placeholders, Expr.placeholdersOf, Operand.placeholders, hleft]
    · cases h
  · split at h
    · split at h
      · obtain rfl := Except.ok.inj h
        rw [placeholders_membership hleft, Expr.placeholdersAll_typedParam, Operand.placeholders]
      · obtain rfl := Except.ok.inj h
        rw [placeholders_membership hleft, Expr.placeholdersAll_literal, Operand.placeholders]
      · cases h
    · split at h
      · obtain rfl := Except.ok.inj h
        simp [Condition.placeholders, Expr.placeholdersOf, Expr.typedParam, Expr.placeholders,
          Operand.placeholders, hleft]
      · obtain rfl := Except.ok.inj h
        simp [Condition.placeholders, Expr.placeholdersOf, Expr.placeholders, Operand.placeholders,
          hleft]
      · cases h

theorem placeholders_compileAll {naming : Naming} {entity source : String} {field : Field}
    {predicates : List Predicate} {conditions : List Condition}
    (h : compileAll naming entity source field predicates = .ok conditions) :
    Condition.placeholdersAll conditions = placeholdersAll predicates := by
  obtain ⟨column, -, hconditions⟩ := bind_eq_ok.1 h
  clear h
  rw [mapM_eq_ok] at hconditions
  have hleft : (Expr.column source column).placeholders = [] := by rw [Expr.placeholders]
  induction hconditions with
  | nil => rfl
  | cons hfirst _ ih =>
    rw [Condition.placeholdersAll, placeholders_compile hleft hfirst, ih, placeholdersAll,
      placeholdersAll, List.flatMap_cons]

end Predicate

/-! ## Relations -/

theorem placeholders_compileExists {naming : Naming} {entity source relation target : String}
    {inner : String → Compile Condition} {placeholders : List Nat}
    (hinner : ∀ label s condition s', Yields (inner label) s condition s' →
      condition.placeholders = placeholders) {s s' : Aliases} {condition : Condition}
    (h : Yields (compileExists naming entity source relation target inner) s condition s') :
    condition.placeholders = placeholders := by
  simp only [compileExists, yields_bind, yields_ofResult, yields_fresh, yields_pure] at h
  obtain ⟨link, _, ⟨-, rfl⟩, table, _, ⟨-, rfl⟩, _, _, ⟨rfl, rfl⟩, c, s₁, hc, rfl, rfl⟩ := h
  simp [Condition.placeholders, Query.placeholders, Query.columnPlaceholders, Source.placeholders,
    Source.placeholdersOf, Condition.placeholdersOf, Condition.placeholdersAll, Condition.equal,
    Query.joinPlaceholders, Expr.placeholders, Expr.placeholdersOf, hinner _ _ _ _ hc]

namespace Filter

theorem placeholders_compileOnRelation {naming : Naming}
    {entity source relation target : String} {predicates : List Predicate} {s s' : Aliases}
    {conditions : List Condition}
    (h : Yields (compileOnRelation naming entity source relation target predicates) s conditions
      s') :
    Condition.placeholdersAll conditions = Predicate.placeholdersAll predicates := by
  cases predicates with
  | cons predicate rest => exact absurd h not_yields_throw
  | nil =>
    simp only [compileOnRelation, yields_bind, yields_pure] at h
    obtain ⟨condition, s₁, hcondition, rfl, rfl⟩ := h
    have hnone : condition.placeholders = [] := by
      refine placeholders_compileExists (fun label s inner s' hinner => ?_) hcondition
      obtain ⟨rfl, -⟩ := yields_pure.1 hinner
      rw [Condition.placeholders, Condition.placeholdersAll]
    rw [Condition.placeholdersAll, hnone]
    rfl

theorem placeholders_compilePredicates {naming : Naming} {entity source : String}
    {predicates : List Predicate} {member : Member} {s s' : Aliases} {conditions : List Condition}
    (h : Yields (compilePredicates naming entity source predicates member) s conditions s') :
    Condition.placeholdersAll conditions = Predicate.placeholdersAll predicates := by
  cases member with
  | field field => exact Predicate.placeholders_compileAll (yields_ofResult.1 h).1
  | manyToOne relation => exact placeholders_compileOnRelation h
  | oneToMany relation => exact placeholders_compileOnRelation h

/-- A nested filter on a field has to be empty. -/
theorem placeholders_compileOnField {entity : String} {field : Field} {filter : Filter}
    {conditions : List Condition} (h : compileOnField entity field filter = .ok conditions) :
    Condition.placeholdersAll conditions = filter.placeholders := by
  obtain ⟨terms, conjuncts, alternatives⟩ := filter
  unfold compileOnField firstKey? at h
  cases terms with
  | cons term rest => cases h
  | nil =>
    cases conjuncts with
    | cons filter rest => cases h
    | nil =>
      cases alternatives with
      | cons filter rest => cases h
      | nil =>
        obtain rfl := Except.ok.inj h
        rfl

mutual

theorem placeholders_compile {schema : Schema} {naming : Naming} : (filter : Filter) →
    ∀ {entity source : String} {s s' : Aliases} {condition : Condition},
      Yields (filter.compile schema naming entity source) s condition s' →
        condition.placeholders = filter.placeholders
  | { terms, conjuncts, alternatives }, entity, source, s, s', condition, h => by
    simp only [compile, yields_bind, yields_pure] at h
    obtain ⟨termConditions, s₁, hterms, conditions, s₂, hconjuncts, options, s₃, halternatives,
      rfl, rfl⟩ := h
    have hoptions : Condition.placeholdersAll (if alternatives.isEmpty then [] else [.any options]) =
        Filter.placeholdersAll alternatives := by
      have hlist := placeholders_compileList alternatives halternatives
      cases alternatives with
      | nil => rfl
      | cons first rest =>
        rw [← hlist]
        exact List.append_nil _
    rw [Condition.placeholders, Condition.placeholdersAll_append, Condition.placeholdersAll_append,
      placeholders_compileTerms terms hterms, placeholders_compileList conjuncts hconjuncts, hoptions,
      placeholders]

theorem placeholders_compileTerm {schema : Schema} {naming : Naming} : (term : Term) →
    ∀ {entity source : String} {s s' : Aliases} {conditions : List Condition},
      Yields (compileTerm schema naming entity source term) s conditions s' →
        Condition.placeholdersAll conditions = term.placeholders
  | .predicates name predicates, entity, source, s, s', conditions, h => by
    simp only [compileTerm, yields_bind, yields_ofResult] at h
    obtain ⟨member, _, ⟨-, rfl⟩, h⟩ := h
    cases member with
    | none => exact absurd h not_yields_throw
    | some member =>
      rw [Term.placeholders]
      exact placeholders_compilePredicates h
  | .nested name filter, entity, source, s, s', conditions, h => by
    simp only [compileTerm, yields_bind, yields_ofResult] at h
    obtain ⟨member, _, ⟨-, rfl⟩, h⟩ := h
    rw [Term.placeholders]
    match member with
    | none => exact absurd h not_yields_throw
    | some (.field field) => exact placeholders_compileOnField (yields_ofResult.1 h).1
    | some (.manyToOne relation) =>
      simp only [yields_bind, yields_pure] at h
      obtain ⟨condition, s₁, hcondition, rfl, rfl⟩ := h
      rw [Condition.placeholdersAll, Condition.placeholdersAll, List.append_nil]
      exact placeholders_compileExists (fun _ _ _ _ => placeholders_compile filter) hcondition
    | some (.oneToMany relation) =>
      simp only [yields_bind, yields_pure] at h
      obtain ⟨condition, s₁, hcondition, rfl, rfl⟩ := h
      rw [Condition.placeholdersAll, Condition.placeholdersAll, List.append_nil]
      exact placeholders_compileExists (fun _ _ _ _ => placeholders_compile filter) hcondition

theorem placeholders_compileTerms {schema : Schema} {naming : Naming} : (terms : List Term) →
    ∀ {entity source : String} {s s' : Aliases} {conditions : List Condition},
      Yields (compileTerms schema naming entity source terms) s conditions s' →
        Condition.placeholdersAll conditions = Term.placeholdersAll terms
  | [], entity, source, s, s', conditions, h => by
    obtain ⟨rfl, -⟩ := yields_pure.1 h
    rfl
  | term :: rest, entity, source, s, s', conditions, h => by
    simp only [compileTerms, yields_bind, yields_pure] at h
    obtain ⟨first, s₁, hfirst, later, s₂, hlater, rfl, rfl⟩ := h
    rw [Condition.placeholdersAll_append, placeholders_compileTerm term hfirst,
      placeholders_compileTerms rest hlater, Term.placeholdersAll]

theorem placeholders_compileList {schema : Schema} {naming : Naming} : (filters : List Filter) →
    ∀ {entity source : String} {s s' : Aliases} {conditions : List Condition},
      Yields (compileList schema naming entity source filters) s conditions s' →
        Condition.placeholdersAll conditions = Filter.placeholdersAll filters
  | [], entity, source, s, s', conditions, h => by
    obtain ⟨rfl, -⟩ := yields_pure.1 h
    rfl
  | filter :: rest, entity, source, s, s', conditions, h => by
    simp only [compileList, yields_bind, yields_pure] at h
    obtain ⟨first, s₁, hfirst, later, s₂, hlater, rfl, rfl⟩ := h
    rw [Condition.placeholdersAll, placeholders_compile filter hfirst,
      placeholders_compileList rest hlater, Filter.placeholdersAll]

end

theorem placeholders_compileOn {schema : Schema} {naming : Naming} {filter : Filter}
    {entity : String} {source : Option String} {s s' : Aliases} {condition : Condition}
    (h : Yields (filter.compileOn schema naming entity source) s condition s') :
    condition.placeholders = filter.placeholders := by
  obtain ⟨label, -, hcompile⟩ := yields_compileOn h
  exact placeholders_compile filter hcompile

end Filter

end EntitySql
