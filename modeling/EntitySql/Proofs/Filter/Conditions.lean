import EntitySql.Proofs.Compile.Labels
import EntitySql.Proofs.Result
import EntitySql.Proofs.Sql.Layers

/-!
# Conditions that filters are compiled to

The trees that a compiled filter can be, with the aliases that each part takes: comparisons of columns
of the source, and below them rows of other tables that are joined to the source.

* `FilterRun` has one case for each such tree. It says nothing of the schema: what a filter is
  compiled to has this form over any.
* `Filter.run_compile`: whatever a filter is compiled to is a run, by induction on the filter.
* `FilterRun.taken`: the labels of its sub-queries are aliases that it takes.
-/

namespace EntitySql

set_option autoImplicit false

open Compile

/-- The rows of a table that are joined to a row outside, and that satisfy a condition. -/
def joinedRows (table label column : String) (outer : Expr) (condition : Condition) : Query where
  columns := [(.literal (.int 1), none)]
  source := some (.table table (some label))
  filter := some (.all [.equal (.column label column) outer, condition])

/-- What filters for rows known as a source can be compiled to, and the aliases that this takes. -/
inductive FilterRun : String → Aliases → List Condition → Aliases → Prop
  | nil {source : String} {s : Aliases} : FilterRun source s [] s
  | append {source : String} {s s₁ s' : Aliases} {conditions others : List Condition}
    (first : FilterRun source s conditions s₁) (later : FilterRun source s₁ others s') :
    FilterRun source s (conditions ++ others) s'
  | literal {source : String} {s : Aliases} (value : Bool) :
    FilterRun source s [.literal value] s
  | compare {source : String} {s : Aliases} (column : String) (op : Comparison)
    {right : Option Expr} (operand : Expr.IsOperand right) :
    FilterRun source s [.compare (.column source column) op right] s
  | all {source : String} {s s' : Aliases} {conditions : List Condition}
    (each : FilterRun source s conditions s') : FilterRun source s [.all conditions] s'
  | any {source : String} {s s' : Aliases} {conditions : List Condition}
    (each : FilterRun source s conditions s') : FilterRun source s [.any conditions] s'
  /-- The condition inside is for the joined rows, under an alias that has just been taken. -/
  | exists {source : String} {s s' : Aliases} (table column outer : String) {condition : Condition}
    (inner : FilterRun (Aliases.name "w" (s.count "w")) (Aliases.next "w" s).2 [condition] s') :
    FilterRun source s [.exists (joinedRows table (Aliases.name "w" (s.count "w")) column
      (.column source outer) condition)] s'

/-! ## Compiled filters -/

theorem FilterRun.cons {source : String} {s s₁ s' : Aliases} {condition : Condition}
    {others : List Condition} (first : FilterRun source s [condition] s₁)
    (later : FilterRun source s₁ others s') : FilterRun source s (condition :: others) s' :=
  first.append later

/-- Compiled, a predicate compares a column with values. -/
theorem Predicate.run_compile {source column : String} {type : SqlType} {predicate : Predicate}
    {condition : Condition} (h : predicate.compile (.column source column) type = .ok condition)
    (s : Aliases) : FilterRun source s [condition] s := by
  have hone : ∀ op expr, expr.IsValue →
      FilterRun source s [.compare (.column source column) op (some expr)] s :=
    fun op expr hexpr => .compare column op (.value hexpr)
  have hmany : ∀ op items, (∀ item ∈ items, item.IsValue) →
      FilterRun source s [membership (.column source column) op items] s := by
    intro op items hitems
    unfold membership
    split
    · exact .literal _
    · exact .compare column _ (.tuple hitems)
  obtain ⟨op, operand⟩ := predicate
  simp only [compile] at h
  split at h
  · split at h
    · obtain rfl := Except.ok.inj h
      exact .compare column _ .none
    · obtain rfl := Except.ok.inj h
      exact .compare column _ .none
    · cases h
  · split at h
    · split at h
      · obtain rfl := Except.ok.inj h
        exact hmany _ _ (List.forall_mem_map.2 fun index _ => .inr ⟨index, type, rfl⟩)
      · obtain rfl := Except.ok.inj h
        exact hmany _ _ (List.forall_mem_map.2 fun value _ => .inl ⟨value, rfl⟩)
      · cases h
    · split at h
      · obtain rfl := Except.ok.inj h
        exact hone _ _ (.inr ⟨_, type, rfl⟩)
      · obtain rfl := Except.ok.inj h
        exact hone _ _ (.inl ⟨_, rfl⟩)
      · cases h

theorem Predicate.run_compileAll {naming : Naming} {entity source : String} {field : Field}
    {predicates : List Predicate} {conditions : List Condition}
    (h : compileAll naming entity source field predicates = .ok conditions) (s : Aliases) :
    FilterRun source s conditions s := by
  obtain ⟨column, -, hmap⟩ := bind_eq_ok.1 h
  have hforall := mapM_eq_ok.1 hmap
  clear h hmap
  induction hforall with
  | nil => exact .nil
  | cons hfirst _ ih => exact (run_compile hfirst s).cons ih

/-- A condition for the target of a relation is put below an alias that is taken before it. -/
theorem run_compileExists {naming : Naming} {entity source relation target : String}
    {inner : String → Compile Condition}
    (hinner : ∀ {joined s condition s'}, Yields (inner joined) s condition s' →
      FilterRun joined s [condition] s')
    {s s' : Aliases} {condition : Condition}
    (h : Yields (compileExists naming entity source relation target inner) s condition s') :
    FilterRun source s [condition] s' := by
  simp only [compileExists, yields_bind, yields_ofResult, yields_fresh, yields_pure] at h
  obtain ⟨link, _, ⟨-, rfl⟩, table, _, ⟨-, rfl⟩, _, _, ⟨rfl, rfl⟩, condition, _, hcondition, rfl,
    rfl⟩ := h
  exact .exists table link.toColumn link.fromColumn (hinner hcondition)

section

variable {naming : Naming} {entity source relation target : String} {s s' : Aliases}
  {conditions : List Condition}

theorem run_compileExists_singleton {inner : String → Compile Condition}
    (hinner : ∀ {joined s condition s'}, Yields (inner joined) s condition s' →
      FilterRun joined s [condition] s')
    (h : Yields (do return [← compileExists naming entity source relation target inner]) s conditions
      s') : FilterRun source s conditions s' := by
  obtain ⟨condition, s₁, hcondition, hpure⟩ := yields_bind.1 h
  obtain ⟨rfl, rfl⟩ := yields_pure.1 hpure
  exact run_compileExists hinner hcondition

theorem Filter.run_compileOnRelation {predicates : List Predicate}
    (h : Yields (compileOnRelation naming entity source relation target predicates) s conditions s') :
    FilterRun source s conditions s' := by
  cases predicates with
  | cons predicate rest => exact absurd h not_yields_throw
  | nil =>
    refine run_compileExists_singleton (fun hnothing => ?_) h
    obtain ⟨rfl, rfl⟩ := yields_pure.1 hnothing
    exact .all .nil

theorem Filter.run_compilePredicates {predicates : List Predicate} {member : Member}
    (h : Yields (compilePredicates naming entity source predicates member) s conditions s') :
    FilterRun source s conditions s' := by
  cases member with
  | field field =>
    obtain ⟨hcompile, rfl⟩ := yields_ofResult.1 h
    exact Predicate.run_compileAll hcompile s'
  | manyToOne relation => exact run_compileOnRelation h
  | oneToMany relation => exact run_compileOnRelation h

end

mutual

/-- Whatever a filter is compiled to, for rows known as a source, is a run for that source. -/
theorem Filter.run_compile {schema : Schema} {naming : Naming} : (filter : Filter) →
    ∀ {entity source : String} {s s' : Aliases} {condition : Condition},
      Yields (filter.compile schema naming entity source) s condition s' →
        FilterRun source s [condition] s'
  | { terms, conjuncts, alternatives }, entity, source, s, s', condition, h => by
    simp only [Filter.compile, yields_bind, yields_pure] at h
    obtain ⟨termConditions, s₁, hterms, conditions, s₂, hconjuncts, options, s₃, halternatives, rfl,
      rfl⟩ := h
    have hboth := (Filter.run_compileTerms terms hterms).append
      (Filter.run_compileList conjuncts hconjuncts)
    have hoptions := Filter.run_compileList alternatives halternatives
    cases alternatives with
    | nil =>
      obtain ⟨rfl, rfl⟩ := yields_pure.1 halternatives
      exact .all (hboth.append .nil)
    | cons alternative rest => exact .all (hboth.append (.any hoptions))

theorem Filter.run_compileTerm {schema : Schema} {naming : Naming} : (term : Term) →
    ∀ {entity source : String} {s s' : Aliases} {conditions : List Condition},
      Yields (Filter.compileTerm schema naming entity source term) s conditions s' →
        FilterRun source s conditions s'
  | .predicates name predicates, entity, source, s, s', conditions, h => by
    simp only [Filter.compileTerm, yields_bind, yields_ofResult] at h
    obtain ⟨member, _, ⟨-, rfl⟩, h⟩ := h
    cases member with
    | none => exact absurd h not_yields_throw
    | some member => exact Filter.run_compilePredicates h
  | .nested name filter, entity, source, s, s', conditions, h => by
    simp only [Filter.compileTerm, yields_bind, yields_ofResult] at h
    obtain ⟨member, _, ⟨-, rfl⟩, h⟩ := h
    cases member with
    | none => exact absurd h not_yields_throw
    | some member =>
      cases member with
      | field field =>
        obtain ⟨hnone, rfl⟩ := yields_ofResult.1 h
        unfold Filter.compileOnField at hnone
        split at hnone
        · cases hnone
        · obtain rfl := Except.ok.inj hnone
          exact .nil
      | manyToOne relation => exact run_compileExists_singleton (Filter.run_compile filter) h
      | oneToMany relation => exact run_compileExists_singleton (Filter.run_compile filter) h

theorem Filter.run_compileTerms {schema : Schema} {naming : Naming} : (terms : List Term) →
    ∀ {entity source : String} {s s' : Aliases} {conditions : List Condition},
      Yields (Filter.compileTerms schema naming entity source terms) s conditions s' →
        FilterRun source s conditions s'
  | [], entity, source, s, s', conditions, h => by
    obtain ⟨rfl, rfl⟩ := yields_pure.1 h
    exact .nil
  | term :: rest, entity, source, s, s', conditions, h => by
    simp only [Filter.compileTerms, yields_bind, yields_pure] at h
    obtain ⟨first, s₁, hfirst, later, s₂, hlater, rfl, rfl⟩ := h
    exact (Filter.run_compileTerm term hfirst).append (Filter.run_compileTerms rest hlater)

theorem Filter.run_compileList {schema : Schema} {naming : Naming} : (filters : List Filter) →
    ∀ {entity source : String} {s s' : Aliases} {conditions : List Condition},
      Yields (Filter.compileList schema naming entity source filters) s conditions s' →
        FilterRun source s conditions s'
  | [], entity, source, s, s', conditions, h => by
    obtain ⟨rfl, rfl⟩ := yields_pure.1 h
    exact .nil
  | filter :: rest, entity, source, s, s', conditions, h => by
    simp only [Filter.compileList, yields_bind, yields_pure] at h
    obtain ⟨first, s₁, hfirst, later, s₂, hlater, rfl, rfl⟩ := h
    exact (Filter.run_compile filter hfirst).cons (Filter.run_compileList rest hlater)

end

/-! ## Layers -/

/-- Joined rows are one layer, with those of the condition inside. -/
theorem Query.layers_joinedRows {table label column source outer : String} {condition : Condition}
    (around : Context) :
    (joinedRows table label column (.column source outer) condition).layers around =
      ⟨around, joinedRows table label column (.column source outer) condition⟩ ::
        Condition.layersAll ([(label, .table table)] :: around) [condition] := by
  simp [joinedRows, Query.layers, Query.columnLayers, Query.sourceLevel, Query.joinLevel,
    Query.joinLayers, Source.layersOf, Source.layers, Condition.layersOf, Condition.layers,
    Condition.layersAll, Condition.equal, Expr.layers, Expr.layersOf]

/-- The sub-queries of compiled filters are known under aliases that the compilation takes. -/
theorem FilterRun.taken {source : String} {s s' : Aliases} {conditions : List Condition}
    (h : FilterRun source s conditions s') (around : Context) :
    Aliases.Taken s s' ((Condition.layersAll around conditions).flatMap Layer.labels) := by
  induction h generalizing around with
  | nil => exact .nil _
  | append _ _ hfirst hlater =>
    rw [Condition.layersAll_append, List.flatMap_append]
    exact (hfirst around).append (hlater around)
  | literal value => exact .nil _
  | compare column op operand =>
    rw [Condition.layersAll_singleton, Condition.layers, Expr.layers, operand.layersOf]
    exact .nil _
  | all _ ih =>
    rw [Condition.layersAll_singleton, Condition.layers]
    exact ih around
  | any _ ih =>
    rw [Condition.layersAll_singleton, Condition.layers]
    exact ih around
  | «exists» table column outer inner ih =>
    rw [Condition.layersAll_singleton, Condition.layers, Query.layers_joinedRows,
      List.flatMap_cons]
    exact (Aliases.Taken.next "w" _).append (ih _)

end EntitySql
