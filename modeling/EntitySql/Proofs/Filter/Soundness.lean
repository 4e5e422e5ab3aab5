import EntitySql.Proofs.Compile.Run
import EntitySql.Proofs.Filter.Meaning
import EntitySql.Proofs.Relational.Rows

/-!
# Compiled filters mean what filters mean

The condition that a filter is compiled to has the truth value of the filter on the row that its
source is bound to.

* `Predicate.eval_predicate` evaluates a compiled predicate.
* `says_compileExists` evaluates the `EXISTS` of a relation: its alias is new, so that the join
  reads the row outside.
* `Filter.says_compile` evaluates a compiled filter, by induction on its terms.
-/

namespace EntitySql

set_option autoImplicit false

open Compile

variable {V : Type} {engine : Engine V} {db : Instance V}

/-! ## Predicates -/

theorem Expr.eval_typedParam (scope : Scope V) (index : Nat) (type : SqlType) :
    (Expr.typedParam index type).eval engine db scope =
      .ok (.value (engine.cast (engine.param index) type)) := by
  rw [Expr.typedParam, Expr.eval, Expr.eval]
  rfl

theorem Expr.evalItems_map {α : Type} {scope : Scope V} {expr : α → Expr} {value : α → V}
    (h : ∀ a, (expr a).eval engine db scope = .ok (.value (value a))) (items : List α) :
    Expr.evalItems engine db scope (items.map expr) = .ok (items.map value) := by
  induction items with
  | nil => rw [List.map_nil, Expr.evalItems, List.map_nil]
  | cons item rest ih =>
    rw [List.map_cons, Expr.evalItems, h item, ih]
    rfl

namespace Condition

theorem eval_compare {scope : Scope V} {left : Expr} {op : Comparison} {right : Option Expr} {v : V}
    {values : List V} (hop : op.isNullTest = false)
    (hleft : left.eval engine db scope = .ok (.value v))
    (hright : Expr.evalOperand engine db scope right = .ok values) :
    (Condition.compare left op right).eval engine db scope = .ok (engine.compare op v values) := by
  rw [Condition.eval, hleft]
  simp only [hop, Bool.false_eq_true, if_false, hright]
  rfl

theorem eval_compare_one {scope : Scope V} {left right : Expr} {op : Comparison} {v w : V}
    (hop : op.isNullTest = false) (hleft : left.eval engine db scope = .ok (.value v))
    (htuple : ∀ items, right ≠ .tuple items) (hright : right.eval engine db scope = .ok (.value w)) :
    (Condition.compare left op (some right)).eval engine db scope =
      .ok (engine.compare op v [w]) := by
  refine eval_compare hop hleft ?_
  rw [Expr.evalOperand, hright]
  · rfl
  · exact htuple

theorem eval_compare_null {scope : Scope V} {left : Expr} {op : Comparison} {v : V}
    (hop : op.isNullTest = true) (hleft : left.eval engine db scope = .ok (.value v)) :
    (Condition.compare left op none).eval engine db scope = .ok (engine.compare op v []) := by
  rw [Condition.eval, hleft]
  simp only [hop, if_true]
  rfl

end Condition

namespace Predicate

/-- An operator that compares with one value. -/
theorem meaning_single {op : Operator} (hnull : op ≠ .isNull) (hlist : op.takesList = false)
    (type : SqlType) (v : V) (operand : Operand) : meaning engine type v ⟨op, operand⟩ =
      engine.compare op.comparison v (operand.values engine type) := by
  cases op with
  | isNull => exact absurd rfl hnull
  | oneOf => cases hlist
  | noneOf => cases hlist
  | _ => rfl

/-- An operator that compares with a list of values. -/
theorem eval_membership {scope : Scope V} {left : Expr} {op : Operator} {items : List Expr} {v : V}
    {type : SqlType} {operand : Operand} (hop : op.takesList = true)
    (hleft : left.eval engine db scope = .ok (.value v))
    (hlength : items.length = (operand.values engine type).length)
    (hitems : Expr.evalItems engine db scope items = .ok (operand.values engine type)) :
    (membership left op items).eval engine db scope = .ok (meaning engine type v ⟨op, operand⟩) := by
  cases items with
  | nil =>
    have hvalues := List.length_eq_zero_iff.1 hlength.symm
    cases op with
    | oneOf => rw [membership, meaning, hvalues]; rfl
    | noneOf => rw [membership, meaning, hvalues]; rfl
    | _ => cases hop
  | cons item rest =>
    have hmember : ∀ comparison : Comparison, comparison.isNullTest = false →
        (Condition.compare left comparison (some (.tuple (item :: rest)))).eval engine db scope =
          .ok (engine.compare comparison v (operand.values engine type)) :=
      fun comparison hnull => Condition.eval_compare hnull hleft (by rw [Expr.evalOperand, hitems])
    rw [membership, if_neg (by simp)]
    cases hvalues : operand.values engine type with
    | nil => rw [hvalues] at hlength; cases hlength
    | cons value values =>
      cases op with
      | oneOf => rw [hmember _ rfl, meaning, hvalues]; rfl
      | noneOf => rw [hmember _ rfl, meaning, hvalues]; rfl
      | _ => cases hop

/-- A compiled predicate says about a column what the predicate says about its value. -/
theorem eval_predicate {scope : Scope V} {left : Expr} {type : SqlType} {v : V}
    {predicate : Predicate} {condition : Condition}
    (hleft : left.eval engine db scope = .ok (.value v))
    (h : predicate.compile left type = .ok condition) :
    condition.eval engine db scope = .ok (predicate.meaning engine type v) := by
  obtain ⟨op, operand⟩ := predicate
  simp only [compile] at h
  split at h
  · next hnull =>
    subst hnull
    split at h
    · obtain rfl := Except.ok.inj h
      exact Condition.eval_compare_null rfl hleft
    · obtain rfl := Except.ok.inj h
      exact Condition.eval_compare_null rfl hleft
    · cases h
  · next hnull =>
    split at h
    · next hlist =>
      split at h
      · next indices =>
        obtain rfl := Except.ok.inj h
        refine eval_membership hlist hleft (by simp [Operand.values]) ?_
        exact Expr.evalItems_map (fun index => Expr.eval_typedParam scope index type) indices
      · next values =>
        obtain rfl := Except.ok.inj h
        refine eval_membership hlist hleft (by simp [Operand.values]) ?_
        exact Expr.evalItems_map (fun value => by rw [Expr.eval]) values
      · cases h
    · next hlist =>
      have hcomparison : op.comparison.isNullTest = false := by
        cases op with
        | isNull => exact absurd rfl hnull
        | _ => rfl
      rw [meaning_single hnull (by simpa using hlist)]
      split at h
      · next index =>
        obtain rfl := Except.ok.inj h
        exact Condition.eval_compare_one hcomparison hleft (fun items heq => by cases heq)
          (Expr.eval_typedParam scope index type)
      · next value =>
        obtain rfl := Except.ok.inj h
        exact Condition.eval_compare_one hcomparison hleft (fun items heq => by cases heq)
          (by rw [Expr.eval])
      · cases h

theorem evalList_predicates {scope : Scope V} {left : Expr} {type : SqlType} {v : V}
    {predicates : List Predicate} {conditions : List Condition}
    (hleft : left.eval engine db scope = .ok (.value v))
    (h : predicates.mapM (compile left type) = .ok conditions) :
    Condition.evalList engine db scope conditions =
      .ok (predicates.map (meaning engine type v)) := by
  rw [mapM_eq_ok] at h
  induction h with
  | nil => rw [Condition.evalList, List.map_nil]
  | cons hfirst _ ih => exact Condition.evalList_cons (eval_predicate hleft hfirst) ih

end Predicate

/-! ## Relations -/

/-- The conditions together have the truth value. -/
def Condition.Mean (engine : Engine V) (db : Instance V) (scope : Scope V)
    (conditions : List Condition) (truth : Truth) : Prop :=
  ∃ truths, Condition.evalList engine db scope conditions = .ok truths ∧ .all truths = truth

theorem Condition.Mean.append {scope : Scope V} {conditions others : List Condition}
    {truth other : Truth} (h : Condition.Mean engine db scope conditions truth)
    (hothers : Condition.Mean engine db scope others other) :
    Condition.Mean engine db scope (conditions ++ others) (truth.and other) := by
  obtain ⟨truths, heval, rfl⟩ := h
  obtain ⟨more, hmore, rfl⟩ := hothers
  exact ⟨truths ++ more, Condition.evalList_append heval hmore, Truth.all_append truths more⟩

theorem Condition.Mean.eval_all {scope : Scope V} {conditions : List Condition} {truth : Truth}
    (h : Condition.Mean engine db scope conditions truth) :
    (Condition.all conditions).eval engine db scope = .ok truth := by
  obtain ⟨truths, heval, rfl⟩ := h
  exact Condition.eval_all heval

theorem Condition.mean_nil (scope : Scope V) : Condition.Mean engine db scope [] .holds :=
  ⟨[], by rw [Condition.evalList], rfl⟩

theorem Condition.mean_singleton {scope : Scope V} {condition : Condition} {truth : Truth}
    (h : condition.eval engine db scope = .ok truth) :
    Condition.Mean engine db scope [condition] truth := by
  refine ⟨[truth], Condition.evalList_cons h ?_, Truth.and_holds truth⟩
  rw [Condition.evalList]

/-- A row of an entity that is read under a source, which is none of the aliases still to come. -/
structure RowUnder (db : Instance V) (layout : Layout) (scope : Scope V) (s : Aliases)
    (entity source : String) (tuple : Tuple V) : Prop where
  cells : scope.cells source = .ok ((db (layout.table entity)).cells tuple)
  avoids : s.Avoids "w" source

theorem RowUnder.mono {layout : Layout} {scope : Scope V} {s s' : Aliases} {entity source : String}
    {tuple : Tuple V} (h : RowUnder db layout scope s entity source tuple) (hle : s ≤ s') :
    RowUnder db layout scope s' entity source tuple :=
  ⟨h.cells, h.avoids.mono hle⟩

/-- Compiled for a row of the entity, the condition has the truth value that `meaning` gives the
row, and takes aliases that are new. -/
def Says (engine : Engine V) (db : Instance V) (layout : Layout) (entity : String)
    (compile : String → Compile Condition) (meaning : Tuple V → Truth) : Prop :=
  ∀ scope s s' source condition tuple, RowUnder db layout scope s entity source tuple →
    Yields (compile source) s condition s' →
      s ≤ s' ∧ condition.eval engine db scope = .ok (meaning tuple)

/-- The same for conditions that all have to hold. -/
def SaysAll (engine : Engine V) (db : Instance V) (layout : Layout) (entity : String)
    (compile : String → Compile (List Condition)) (meaning : Tuple V → Truth) : Prop :=
  ∀ scope s s' source conditions tuple, RowUnder db layout scope s entity source tuple →
    Yields (compile source) s conditions s' →
      s ≤ s' ∧ Condition.Mean engine db scope conditions (meaning tuple)

theorem Says.singleton {layout : Layout} {entity : String} {compile : String → Compile Condition}
    {meaning : Tuple V → Truth} (h : Says engine db layout entity compile meaning) :
    SaysAll engine db layout entity (fun source => do return [← compile source]) meaning := by
  intro scope s s' source conditions tuple hrow hyields
  obtain ⟨condition, s₁, hcondition, hpure⟩ := yields_bind.1 hyields
  obtain ⟨rfl, rfl⟩ := yields_pure.1 hpure
  obtain ⟨hle, heval⟩ := h _ _ _ _ _ _ hrow hcondition
  exact ⟨hle, Condition.mean_singleton heval⟩

section

variable {schema : Schema} {naming : Naming} {layout : Layout}

/-- The `EXISTS` of a join says that a joined row satisfies the inner condition. -/
theorem says_compileExists {entity relation target : String} {link : Link}
    {inner : String → Compile Condition} {meaning : Tuple V → Truth}
    (hjoined : db.Joined layout entity target link)
    (hlink : naming.link entity relation = .ok link)
    (htable : naming.table target = .ok (layout.table target))
    (hinner : Says engine db layout target inner meaning) :
    Says engine db layout entity
      (fun source => compileExists naming entity source relation target inner)
      fun outside => db.related engine link outside meaning := by
  intro scope s s' source condition outside hrow hyields
  simp only [compileExists, yields_bind, yields_ofResult, yields_fresh, yields_pure] at hyields
  obtain ⟨_, _, ⟨hlink', rfl⟩, _, s, ⟨htable', rfl⟩, _, _, ⟨rfl, rfl⟩, c, s₁, hc, rfl, rfl⟩ := hyields
  obtain rfl := Except.ok.inj (hlink.symm.trans hlink')
  obtain rfl := Except.ok.inj (htable.symm.trans htable')
  let joined := Aliases.name "w" (s.count "w")
  let inside (tuple : Tuple V) : Scope V :=
    [(joined, (db (layout.table target)).cells tuple)] :: scope
  -- the alias of the joined row is not the source of the row outside
  have hne : joined ≠ source := fun heq => hrow.avoids _ (Nat.le_refl _) heq.symm
  have hcells : ∀ tuple, (inside tuple).cells joined =
      .ok ((db (layout.table target)).cells tuple) := fun tuple =>
    Scope.cells_cons_head fun item hitem => absurd hitem List.not_mem_nil
  have houtside : ∀ tuple, (inside tuple).cells source =
      .ok ((db (layout.table entity)).cells outside) := by
    intro tuple
    rw [Scope.cells_cons_of_ne, hrow.cells]
    intro item hitem
    rw [List.mem_singleton.1 hitem]
    exact hne
  have hmeaning := fun tuple =>
    hinner (inside tuple) _ _ _ _ tuple ⟨hcells tuple, Aliases.avoids_next "w" s⟩ hc
  refine ⟨le_trans (Aliases.le_next "w" s) (hmeaning outside).1, ?_⟩
  have heval : ∀ tuple ∈ (db (layout.table target)).tuples,
      (Condition.all [.equal (.column joined link.toColumn) (.column source link.fromColumn),
        c]).eval engine db (inside tuple) = .ok (.all
          [engine.compare .eq (tuple link.toColumn) [outside link.fromColumn], meaning tuple]) := by
    intro tuple _
    refine Condition.eval_all (Condition.evalList_cons ?_ (Condition.evalList_cons
      (hmeaning tuple).2 (by rw [Condition.evalList])))
    exact Condition.eval_equal (Expr.eval_column engine db (hcells tuple) hjoined.toColumn)
      (Expr.eval_column engine db (houtside tuple) hjoined.fromColumn)
  show _ = Except.ok (db.related engine link outside meaning)
  rw [Condition.eval_exists heval, Instance.related, Instance.partners, List.any_filter,
    hjoined.toTable]
  simp only [Truth.all_eq_holds, List.forall_mem_cons, List.not_mem_nil, false_implies,
    implies_true, and_true, Bool.decide_and]

/-- Without an inner condition there has to be a joined row. -/
theorem says_nothing (entity : String) :
    Says engine db layout entity (fun _ => return .all []) fun _ => .holds := by
  intro scope s s' source condition tuple _ hyields
  obtain ⟨rfl, rfl⟩ := yields_pure.1 hyields
  exact ⟨le_refl s', (Condition.mean_nil scope).eval_all⟩

variable (h : db.Stores schema naming layout) {entity : Entity} (hentity : entity ∈ schema.entities)
  {inner : String → Compile Condition} {meaning : Tuple V → Truth}

include h hentity

theorem says_manyToOne {relation : ManyToOne} (hrelation : relation ∈ entity.manyToOne)
    (hinner : Says engine db layout relation.targetEntity inner meaning) :
    Says engine db layout entity.name (fun source => compileExists naming entity.name source
      relation.name relation.targetEntity inner)
      fun outside => db.related engine (layout.link entity.name relation) outside meaning := by
  obtain ⟨target, htarget, hname, -⟩ := h.wellFormed.manyToOne_target hentity hrelation
  exact says_compileExists (h.conforms.joined_manyToOne h.wellFormed hentity hrelation)
    (h.follows.manyToOne entity hentity relation hrelation) (hname ▸ h.follows.table target htarget)
    hinner

theorem says_oneToMany {relation : OneToMany} (hrelation : relation ∈ entity.oneToMany)
    (hinner : Says engine db layout relation.targetEntity inner meaning) :
    ∃ link, layout.inverseLink? schema relation = some link ∧
      Says engine db layout entity.name (fun source => compileExists naming entity.name source
        relation.name relation.targetEntity inner)
        fun outside => db.related engine link outside meaning := by
  obtain ⟨target, htarget, hname, -⟩ := h.wellFormed.oneToMany_target hentity hrelation
  obtain ⟨link, hlink, hjoined⟩ := h.conforms.joined_oneToMany h.wellFormed hentity hrelation
  exact ⟨link, hlink, says_compileExists hjoined
    (h.follows.oneToMany entity hentity relation hrelation link hlink)
    (hname ▸ h.follows.table target htarget) hinner⟩

/-- Predicates on a field say about a row what they say about the value of its column. -/
theorem says_predicates {field : Field} (hfield : field ∈ entity.fields)
    (predicates : List Predicate) :
    SaysAll engine db layout entity.name
      (fun source => ofResult (Predicate.compileAll naming entity.name source field predicates))
      fun tuple => .all (predicates.map
        (Predicate.meaning engine field.sqlType (tuple (layout.column entity.name field.name)))) := by
  intro scope s s' source conditions tuple hrow hyields
  obtain ⟨hcompile, rfl⟩ := yields_ofResult.1 hyields
  obtain ⟨column, hcolumn, hpredicates⟩ := bind_eq_ok.1 hcompile
  rw [h.follows.column entity hentity field hfield] at hcolumn
  obtain rfl := Except.ok.inj hcolumn
  have hvalue := Expr.eval_column engine db hrow.cells (h.conforms.field entity hentity field hfield)
  exact ⟨le_refl s', _, Predicate.evalList_predicates hvalue hpredicates, rfl⟩

end

/-! ## Filters -/

/-- A nested filter on a field asks for nothing. -/
theorem compileOnField_eq_ok {entity : String} {field : Field} {filter : Filter}
    {conditions : List Condition}
    (h : Filter.compileOnField entity field filter = .ok conditions) : conditions = [] := by
  unfold Filter.compileOnField at h
  split at h
  · cases h
  · exact (Except.ok.inj h).symm

mutual

/-- A compiled filter says about a row what the filter means. -/
theorem Filter.says_compile {schema : Schema} {naming : Naming} {layout : Layout}
    (hstores : db.Stores schema naming layout) :
    (filter : Filter) → {entity : Entity} → entity ∈ schema.entities → Says engine db layout entity.name
      (fun source => filter.compile schema naming entity.name source)
      fun tuple => filter.meaning engine db schema layout entity.name tuple
  | { terms, conjuncts, alternatives }, entity, hentity => by
    intro scope s s' source condition tuple hrow h
    simp only [Filter.compile, yields_bind, yields_pure] at h
    obtain ⟨termConditions, s₁, hterms, conditions, s₂, hconjuncts, options, s₃, halternatives,
      rfl, rfl⟩ := h
    obtain ⟨hle₁, hmean⟩ := Filter.says_compileTerms hstores terms hentity _ _ _ _ _ tuple hrow hterms
    obtain ⟨hle₂, hconjuncts⟩ :=
      Filter.says_compileList hstores conjuncts hentity (hrow.mono hle₁) hconjuncts
    obtain ⟨hle₃, hoptions⟩ := Filter.says_compileList hstores alternatives hentity
      (hrow.mono (le_trans hle₁ hle₂)) halternatives
    refine ⟨le_trans hle₁ (le_trans hle₂ hle₃), ?_⟩
    have hmeans : Condition.Mean engine db scope
        (if alternatives.isEmpty then [] else [.any options])
        (if alternatives.isEmpty then .holds else
          .any (Filter.meanings engine db schema layout entity.name tuple alternatives)) := by
      cases alternatives with
      | nil => exact Condition.mean_nil scope
      | cons first rest =>
        refine Condition.mean_singleton (Condition.eval_any ?_ hoptions)
        rintro rfl
        rw [Condition.evalList, Filter.meanings] at hoptions
        cases hoptions
    simp only [Filter.meaning]
    rw [← Truth.and_assoc]
    exact ((hmean.append ⟨_, hconjuncts, rfl⟩).append hmeans).eval_all

theorem Filter.says_compileTerm {schema : Schema} {naming : Naming} {layout : Layout}
    (hstores : db.Stores schema naming layout) :
    (term : Term) → {entity : Entity} → entity ∈ schema.entities → SaysAll engine db layout entity.name
      (fun source => Filter.compileTerm schema naming entity.name source term)
      fun tuple => term.meaning engine db schema layout entity.name tuple
  | .predicates name predicates, entity, hentity => by
    intro scope s s' source conditions tuple hrow h
    simp only [Filter.compileTerm, yields_bind, yields_ofResult] at h
    obtain ⟨member, _, ⟨hresolve, rfl⟩, h⟩ := h
    have hmember := Schema.member?_of_resolve hresolve
    cases member with
    | none => exact absurd h not_yields_throw
    | some member =>
      simp only [Term.meaning, hmember]
      rw [hstores.wellFormed.member?_name hentity] at hmember
      rcases Entity.member?_eq_some hmember with ⟨field, rfl, hfield, rfl⟩ |
        ⟨relation, rfl, hrelation, rfl⟩ | ⟨relation, rfl, hrelation, rfl⟩
      · exact says_predicates hstores hentity hfield predicates _ _ _ _ _ _ hrow h
      · cases predicates with
        | cons predicate rest => exact absurd h not_yields_throw
        | nil =>
          exact (says_manyToOne hstores hentity hrelation
            (says_nothing _)).singleton _ _ _ _ _ _ hrow h
      · cases predicates with
        | cons predicate rest => exact absurd h not_yields_throw
        | nil =>
          obtain ⟨link, hlink, hsays⟩ :=
            says_oneToMany hstores hentity hrelation (says_nothing _)
          simp only [hlink]
          exact hsays.singleton _ _ _ _ _ _ hrow h
  | .nested name filter, entity, hentity => by
    intro scope s s' source conditions tuple hrow h
    simp only [Filter.compileTerm, yields_bind, yields_ofResult] at h
    obtain ⟨member, _, ⟨hresolve, rfl⟩, h⟩ := h
    have hmember := Schema.member?_of_resolve hresolve
    cases member with
    | none => exact absurd h not_yields_throw
    | some member =>
      simp only [Term.meaning, hmember]
      rw [hstores.wellFormed.member?_name hentity] at hmember
      rcases Entity.member?_eq_some hmember with ⟨field, rfl, hfield, rfl⟩ |
        ⟨relation, rfl, hrelation, rfl⟩ | ⟨relation, rfl, hrelation, rfl⟩
      · obtain ⟨hnone, rfl⟩ := yields_ofResult.1 h
        obtain rfl := compileOnField_eq_ok hnone
        exact ⟨le_refl s', Condition.mean_nil scope⟩
      · obtain ⟨target, htarget, hname, -⟩ := hstores.wellFormed.manyToOne_target hentity hrelation
        have hinner := Filter.says_compile hstores filter htarget
        rw [hname] at hinner
        exact (says_manyToOne hstores hentity hrelation hinner).singleton
          _ _ _ _ _ _ hrow h
      · obtain ⟨target, htarget, hname, -⟩ := hstores.wellFormed.oneToMany_target hentity hrelation
        have hinner := Filter.says_compile hstores filter htarget
        rw [hname] at hinner
        obtain ⟨link, hlink, hsays⟩ := says_oneToMany hstores hentity hrelation hinner
        simp only [hlink]
        exact hsays.singleton _ _ _ _ _ _ hrow h

theorem Filter.says_compileTerms {schema : Schema} {naming : Naming} {layout : Layout}
    (hstores : db.Stores schema naming layout) :
    (terms : List Term) → {entity : Entity} → entity ∈ schema.entities →
      SaysAll engine db layout entity.name
      (fun source => Filter.compileTerms schema naming entity.name source terms)
      fun tuple => .all (Term.meanings engine db schema layout entity.name tuple terms)
  | [], entity, hentity => by
    intro scope s s' source conditions tuple hrow h
    obtain ⟨rfl, rfl⟩ := yields_pure.1 h
    simp only [Term.meanings]
    exact ⟨le_refl s', Condition.mean_nil scope⟩
  | term :: rest, entity, hentity => by
    intro scope s s' source conditions tuple hrow h
    simp only [Filter.compileTerms, yields_bind, yields_pure] at h
    obtain ⟨first, s₁, hfirst, later, s₂, hlater, rfl, rfl⟩ := h
    obtain ⟨hle₁, hmean⟩ := Filter.says_compileTerm hstores term hentity _ _ _ _ _ tuple hrow hfirst
    obtain ⟨hle₂, hmeans⟩ :=
      Filter.says_compileTerms hstores rest hentity _ _ _ _ _ tuple (hrow.mono hle₁) hlater
    refine ⟨le_trans hle₁ hle₂, ?_⟩
    simp only [Term.meanings, Truth.all_cons]
    exact hmean.append hmeans

theorem Filter.says_compileList {schema : Schema} {naming : Naming} {layout : Layout}
    (hstores : db.Stores schema naming layout) : (filters : List Filter) → {entity : Entity} →
    entity ∈ schema.entities → ∀ {scope : Scope V} {s s' : Aliases} {source : String}
      {conditions : List Condition} {tuple : Tuple V},
      RowUnder db layout scope s entity.name source tuple →
      Yields (Filter.compileList schema naming entity.name source filters) s conditions s' →
        s ≤ s' ∧ Condition.evalList engine db scope conditions =
          .ok (Filter.meanings engine db schema layout entity.name tuple filters)
  | [], entity, hentity, scope, s, s', source, conditions, tuple, hrow, h => by
    obtain ⟨rfl, rfl⟩ := yields_pure.1 h
    rw [Condition.evalList, Filter.meanings]
    exact ⟨le_refl s', rfl⟩
  | filter :: rest, entity, hentity, scope, s, s', source, conditions, tuple, hrow, h => by
    simp only [Filter.compileList, yields_bind, yields_pure] at h
    obtain ⟨first, s₁, hfirst, later, s₂, hlater, rfl, rfl⟩ := h
    obtain ⟨hle₁, heval⟩ := Filter.says_compile hstores filter hentity _ _ _ _ _ tuple hrow hfirst
    obtain ⟨hle₂, hevals⟩ := Filter.says_compileList hstores rest hentity (hrow.mono hle₁) hlater
    refine ⟨le_trans hle₁ hle₂, ?_⟩
    rw [Filter.meanings]
    exact Condition.evalList_cons heval hevals

end

/-- The condition of a filter has the truth value of the filter on the row that its source is bound
to. The source may have any name but those of the aliases that the compilation takes. -/
theorem Filter.eval_compileOn {entities : List Entity} {overrides : Assoc String} {schema : Schema}
    {naming : Naming} (hschema : Schema.ofEntities entities = .ok schema)
    (hnaming : Naming.ofSchema overrides schema = .ok naming) (engine : Engine V)
    (hdb : db.Conforms schema (.ofOverrides overrides)) {entity : Entity}
    (hentity : entity ∈ schema.entities) {filter : Filter} {source : Option String} {label : String}
    (hlabel : label = source.getD ((Layout.ofOverrides overrides).table entity.name))
    (hfree : ∀ number, label ≠ Aliases.name "w" number) {s s' : Aliases} {condition : Condition}
    (h : Yields (filter.compileOn schema naming entity.name source) s condition s')
    {scope : Scope V} {tuple : Tuple V} (hscope : scope.cells label =
      .ok ((db ((Layout.ofOverrides overrides).table entity.name)).cells tuple)) :
    condition.eval engine db scope =
      .ok (filter.meaning engine db schema (.ofOverrides overrides) entity.name tuple) := by
  have hstores := hdb.stores hschema hnaming
  obtain ⟨found, hfound, hsource⟩ := Filter.yields_compileOn h
  obtain rfl : label = found := by
    rw [hlabel, hfound _ (hstores.follows.table entity hentity)]
  have hrow : RowUnder db (.ofOverrides overrides) scope s entity.name label tuple :=
    ⟨hscope, fun number _ => hfree number⟩
  exact (Filter.says_compile hstores filter hentity _ _ _ _ _ tuple hrow hsource).2

/-- Authors of a book called Emma whose author is Austen, and whose number is in an empty list or
one. -/
def Library.authorsOfEmma : Filter where
  terms := [.nested "books" {
    terms := [.predicates "title" [⟨.eq, .value (.str "Emma")⟩],
      .nested "writer" { terms := [.predicates "fullName" [⟨.eq, .value (.str "Austen")⟩]] }] }]
  alternatives := [{ terms := [.predicates "id" [⟨.oneOf, .list []⟩]] },
    { terms := [.predicates "id" [⟨.eq, .value (.int 1)⟩]] }]

/-- Austen is one of these authors, as the compiled condition has it. -/
theorem Filter.eval_compileOn_austen : ∃ condition s',
    Yields (Library.authorsOfEmma.compileOn Library.schema Library.naming "Author"
      (some "root.base_0")) {} condition s' ∧
    condition.eval Library.engine Library.database
      [[("root.base_0", (Library.database "author").cells Library.austen)]] = .ok .holds := by
  obtain ⟨condition, s', h⟩ : ∃ condition s', Yields (Library.authorsOfEmma.compileOn Library.schema
      Library.naming "Author" (some "root.base_0")) {} condition s' := ⟨_, _, rfl⟩
  refine ⟨condition, s', h, ?_⟩
  have hauthor : Library.entities[0] ∈ Library.schema.entities := List.mem_cons_self ..
  rw [Filter.eval_compileOn Library.ofEntities_entities Library.ofSchema_schema Library.engine
    Library.conforms_database hauthor rfl (Aliases.ne_name (by decide)) h rfl]
  decide +kernel

end EntitySql
