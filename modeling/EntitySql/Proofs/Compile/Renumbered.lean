import EntitySql.Proofs.Compile.Labels
import EntitySql.Proofs.Compile.Node
import EntitySql.Proofs.Sql.Relabeled

/-!
# Compilations under other numbers

A compilation takes the next alias of a prefix, whatever its number is, and never looks at the number
again. Started where more aliases have been taken it goes the same way, with larger numbers.

* `Aliases.renumber` adds to the numbers of the aliases of some prefixes: the alias is taken apart by
  `Aliases.number?`.
* `Aliases.Ahead shift s t` says that at `t` more aliases have been taken than at `s`, and how many.
* `Renumbers shift g x y` says that `y`, started ahead, gives what `x` gives, changed by `g`, or fails as
  `x` does, and that it stays ahead. It is shown step by step: `Renumbers.fresh`, `Renumbers.bind`.
* `Filter.renumbers_compile`, `ReadPlan.renumbers_compile` and `renumbers_compileAggregate` go through
  whole compilations.
-/

namespace EntitySql

set_option autoImplicit false

open Compile

/-! ## Aliases -/

namespace Aliases

/-- The number of an alias of the prefix: what stands behind the underscore. -/
def number? (stem label : String) : Option Nat :=
  let number := Nat.ofDigitChars 10 (label.toList.drop (stem.toList.length + 1)) 0
  if name stem number = label then some number else none

theorem number?_eq_some_iff {stem label : String} {number : Nat} :
    number? stem label = some number ↔ label = name stem number := by
  rw [number?, Option.ite_none_right_eq_some, Option.some.injEq]
  constructor
  · rintro ⟨hname, rfl⟩
    exact hname.symm
  · rintro rfl
    have hdigits : (name stem number).toList.drop (stem.toList.length + 1) =
        Nat.toDigits 10 number := by
      rw [toList_name, List.drop_append, List.drop_of_length_le (Nat.le_succ _)]
      simp
    rw [hdigits, Nat.ofDigitChars_ten_toDigits]
    exact ⟨rfl, rfl⟩

/-- The label with a larger number, if it is an alias of one of the prefixes. -/
def renumber (stems : List String) (shift : String → Nat) (label : String) : String :=
  (stems.findSome? fun stem =>
    (number? stem label).map fun number => name stem (number + shift stem)).getD label

variable {stems : List String} {shift : String → Nat}

theorem renumber_name {stem : String} (hstem : stem ∈ stems) (number : Nat) :
    renumber stems shift (name stem number) = name stem (number + shift stem) := by
  have hself : number? stem (name stem number) = some number := number?_eq_some_iff.2 rfl
  have hfound : (stems.findSome? fun other =>
      (number? other (name stem number)).map fun number => name other (number + shift other)) =
        some (name stem (number + shift stem)) := by
    induction stems with
    | nil => exact absurd hstem List.not_mem_nil
    | cons other rest ih =>
      rw [List.findSome?_cons]
      cases hnumber : number? other (name stem number) with
      | some found =>
        -- no other prefix has the alias
        obtain ⟨rfl, rfl⟩ := name_inj.1 (number?_eq_some_iff.1 hnumber)
        rfl
      | none =>
        rcases List.mem_cons.1 hstem with rfl | hrest
        · rw [hself] at hnumber
          cases hnumber
        · exact ih hrest
  rw [renumber, hfound, Option.getD_some]

theorem renumber_eq_self {label : String} (h : ∀ stem ∈ stems, ∀ number, label ≠ name stem number) :
    renumber stems shift label = label := by
  have hnone : (stems.findSome? fun stem =>
      (number? stem label).map fun number => name stem (number + shift stem)) = none := by
    refine List.findSome?_eq_none_iff.2 fun stem hstem => ?_
    rw [Option.map_eq_none_iff, Option.eq_none_iff_forall_ne_some]
    intro number hnumber
    exact h stem hstem number (number?_eq_some_iff.1 hnumber)
  rw [renumber, hnone, Option.getD_none]

example : renumber ["base", "root.base"] (fun _ => 2) "root.base_9" = "root.base_11" := by
  decide +kernel

/-- At the second state more aliases have been taken than at the first, by as many as the shift says. -/
def Ahead (shift : String → Nat) (s t : Aliases) : Prop :=
  ∀ stem, t.count stem = s.count stem + shift stem

theorem ahead_count (t : Aliases) : Ahead t.count {} t :=
  fun stem => (Nat.zero_add (t.count stem)).symm

theorem Ahead.next {s t : Aliases} (h : Ahead shift s t) (stem : String) :
    Ahead shift (Aliases.next stem s).2 (Aliases.next stem t).2 := by
  intro other
  rw [count_next, count_next]
  split
  · next heq =>
    rw [h stem, ← heq]
    omega
  · exact h other

end Aliases

/-! ## Runs -/

section

variable {α β α' β' : Type}

/-- Started ahead, the second compilation gives what the first one gives, changed by a function, or fails
as the first one does; and it ends ahead. -/
def Renumbers (shift : String → Nat) (g : α → β) (x : Compile α) (y : Compile β) : Prop :=
  ∀ s t, Aliases.Ahead shift s t →
    (y.run.run t).1 = (x.run.run s).1.map g ∧
      Aliases.Ahead shift (x.run.run s).2 (y.run.run t).2

namespace Renumbers

variable {stems : List String} {shift : String → Nat} {g : α → β} {x : Compile α} {y : Compile β}

theorem pure {a : α} {b : β} (h : b = g a) :
    Renumbers shift g (Pure.pure a : Compile α) (Pure.pure b) := by
  intro s t hahead
  rw [h]
  exact ⟨rfl, hahead⟩

theorem throw (fault : Fault) :
    Renumbers shift g (throw fault : Compile α) (throw fault : Compile β) :=
  fun _ _ hahead => ⟨rfl, hahead⟩

theorem ofResult {result : Result α} {result' : Result β} (h : result' = result.map g) :
    Renumbers shift g (Compile.ofResult result) (Compile.ofResult result') := by
  intro s t hahead
  rw [h]
  cases result with
  | ok a => exact ⟨rfl, hahead⟩
  | error fault => exact ⟨rfl, hahead⟩

/-- What takes no alias gives the same. -/
theorem ofResult_self (result : Result α) :
    Renumbers shift id (Compile.ofResult result) (Compile.ofResult result) :=
  ofResult (by cases result <;> rfl)

theorem fresh {stem : String} (hstem : stem ∈ stems) :
    Renumbers shift (Aliases.renumber stems shift) (Compile.fresh stem) (Compile.fresh stem) := by
  intro s t hahead
  refine ⟨congrArg Except.ok ?_, hahead.next stem⟩
  show Aliases.name stem (t.count stem) = Aliases.renumber stems shift (Aliases.name stem _)
  rw [Aliases.renumber_name hstem, hahead stem]

theorem bind {f : α → Compile α'} {f' : β → Compile β'} {k : α' → β'} (h : Renumbers shift g x y)
    (hf : ∀ a, Renumbers shift k (f a) (f' (g a))) : Renumbers shift k (x >>= f) (y >>= f') := by
  intro s t hahead
  obtain ⟨hresult, hstate⟩ := h s t hahead
  rw [run_bind, run_bind]
  generalize x.run.run s = first, y.run.run t = second at hresult hstate
  obtain ⟨result, s₁⟩ := first
  obtain ⟨result', t₁⟩ := second
  obtain rfl : result' = result.map g := hresult
  cases result with
  | ok a => exact hf a s₁ t₁ hstate
  | error fault => exact ⟨rfl, hstate⟩

theorem map {f : α → α'} {f' : β → β'} {k : α' → β'} (h : Renumbers shift g x y)
    (hf : ∀ a, f' (g a) = k (f a)) :
    Renumbers shift k (do return f (← x)) (do return f' (← y)) :=
  h.bind fun a => pure (hf a)

end Renumbers

end

/-! ## Filters -/

namespace Predicate

variable (labels : String → String)

theorem membership_relabel (left : Expr) (op : Operator) {items : List Expr}
    (hitems : ∀ item ∈ items, item.relabel labels = item) :
    membership (left.relabel labels) op items = (membership left op items).relabel labels := by
  have hsame : Expr.relabelAll labels items = items := by
    rw [Expr.relabelAll_eq_map, List.map_congr_left hitems, List.map_id']
  cases items with
  | nil => rfl
  | cons item rest =>
    simp only [membership, List.isEmpty_cons, Bool.false_eq_true, if_false, Condition.relabel,
      Expr.relabelOf, Expr.relabel, hsame]

/-- Operands have no labels. -/
theorem compile_relabel (left : Expr) (type : SqlType) (predicate : Predicate) :
    predicate.compile (left.relabel labels) type =
      (predicate.compile left type).map (Condition.relabel labels) := by
  obtain ⟨operator, operand⟩ := predicate
  unfold compile
  dsimp only
  split_ifs
  · cases operand with
    | flag flag => cases flag <;> rfl
    | _ => rfl
  · cases operand with
    | params indices =>
      refine congrArg Except.ok (membership_relabel labels left operator fun item hitem => ?_)
      obtain ⟨index, -, rfl⟩ := List.mem_map.1 hitem
      rfl
    | list values =>
      refine congrArg Except.ok (membership_relabel labels left operator fun item hitem => ?_)
      obtain ⟨value, -, rfl⟩ := List.mem_map.1 hitem
      rfl
    | _ => rfl
  · cases operand <;> rfl

theorem compileAll_relabel (naming : Naming) (entity source : String) (field : Field)
    (predicates : List Predicate) :
    compileAll naming entity (labels source) field predicates =
      (compileAll naming entity source field predicates).map (Condition.relabelAll labels) := by
  have hall : Condition.relabelAll labels = List.map (Condition.relabel labels) :=
    funext (Condition.relabelAll_eq_map labels)
  rw [hall]
  refine bind_eq_map_bind fun column => ?_
  exact mapM_eq_map_mapM (compile_relabel labels (.column source column) field.sqlType) predicates

end Predicate

section

variable {stems : List String} {shift : String → Nat}

/-- Some related row satisfies a condition: the alias of the row is a new one. -/
theorem renumbers_compileExists (hw : "w" ∈ stems) (naming : Naming)
    (entity source relation target : String) {inner : String → Compile Condition}
    (hinner : ∀ joined, Renumbers shift (Condition.relabel (Aliases.renumber stems shift))
      (inner joined) (inner (Aliases.renumber stems shift joined))) :
    Renumbers shift (Condition.relabel (Aliases.renumber stems shift))
      (compileExists naming entity source relation target inner)
      (compileExists naming entity (Aliases.renumber stems shift source) relation target inner) := by
  unfold compileExists
  refine (Renumbers.ofResult_self _).bind fun link => ?_
  refine (Renumbers.ofResult_self _).bind fun table => ?_
  refine (Renumbers.fresh hw).bind fun joined => ?_
  exact (hinner joined).map fun condition => rfl

namespace Filter

theorem renumbers_compileOnRelation (hw : "w" ∈ stems) (naming : Naming)
    (entity source relation target : String) (predicates : List Predicate) :
    Renumbers shift (Condition.relabelAll (Aliases.renumber stems shift))
      (compileOnRelation naming entity source relation target predicates)
      (compileOnRelation naming entity (Aliases.renumber stems shift source) relation target
        predicates) := by
  cases predicates with
  | cons predicate rest => exact .throw _
  | nil =>
    refine (renumbers_compileExists hw naming entity source relation target fun joined => ?_).map
      fun condition => rfl
    exact .pure rfl

variable (schema : Schema) (naming : Naming)

mutual

/-- A filter is compiled for another label of its rows to the condition with other labels. -/
theorem renumbers_compile (hw : "w" ∈ stems) : (filter : Filter) → ∀ entity source,
    Renumbers shift (Condition.relabel (Aliases.renumber stems shift))
      (filter.compile schema naming entity source)
      (filter.compile schema naming entity (Aliases.renumber stems shift source))
  | { terms, conjuncts, alternatives }, entity, source => by
    rw [compile, compile]
    refine (renumbers_compileTerms hw terms entity source).bind fun termConditions => ?_
    refine (renumbers_compileList hw conjuncts entity source).bind fun conjunctConditions => ?_
    refine (renumbers_compileList hw alternatives entity source).map fun options => ?_
    rw [Condition.relabel]
    simp only [Condition.relabelAll_eq_map, List.map_append]
    split
    · rfl
    · rw [List.map_cons, Condition.relabel, Condition.relabelAll_eq_map]
      rfl

theorem renumbers_compileTerm (hw : "w" ∈ stems) : (term : Term) → ∀ entity source,
    Renumbers shift (Condition.relabelAll (Aliases.renumber stems shift))
      (compileTerm schema naming entity source term)
      (compileTerm schema naming entity (Aliases.renumber stems shift source) term)
  | .predicates name predicates, entity, source => by
    rw [compileTerm, compileTerm]
    refine (Renumbers.ofResult_self _).bind fun found => ?_
    cases found with
    | none => exact .throw _
    | some member =>
      cases member with
      | field field => exact .ofResult (Predicate.compileAll_relabel _ naming entity source field _)
      | manyToOne relation => exact renumbers_compileOnRelation hw naming entity source _ _ _
      | oneToMany relation => exact renumbers_compileOnRelation hw naming entity source _ _ _
  | .nested name filter, entity, source => by
    rw [compileTerm, compileTerm]
    refine (Renumbers.ofResult_self _).bind fun found => ?_
    cases found with
    | none => exact .throw _
    | some member =>
      cases member with
      | field field =>
        refine .ofResult ?_
        unfold compileOnField
        cases filter.firstKey? <;> rfl
      | manyToOne relation =>
        exact (renumbers_compileExists hw naming entity source _ _ fun joined =>
          renumbers_compile hw filter relation.targetEntity joined).map fun condition => rfl
      | oneToMany relation =>
        exact (renumbers_compileExists hw naming entity source _ _ fun joined =>
          renumbers_compile hw filter relation.targetEntity joined).map fun condition => rfl

theorem renumbers_compileTerms (hw : "w" ∈ stems) : (terms : List Term) → ∀ entity source,
    Renumbers shift (Condition.relabelAll (Aliases.renumber stems shift))
      (compileTerms schema naming entity source terms)
      (compileTerms schema naming entity (Aliases.renumber stems shift source) terms)
  | [], _, _ => .pure rfl
  | term :: rest, entity, source => by
    rw [compileTerms, compileTerms]
    refine (renumbers_compileTerm hw term entity source).bind fun conditions => ?_
    refine (renumbers_compileTerms hw rest entity source).map fun others => ?_
    simp only [Condition.relabelAll_eq_map, List.map_append]

theorem renumbers_compileList (hw : "w" ∈ stems) : (filters : List Filter) → ∀ entity source,
    Renumbers shift (Condition.relabelAll (Aliases.renumber stems shift))
      (compileList schema naming entity source filters)
      (compileList schema naming entity (Aliases.renumber stems shift source) filters)
  | [], _, _ => .pure rfl
  | filter :: rest, entity, source => by
    rw [compileList, compileList]
    refine (renumbers_compile hw filter entity source).bind fun condition => ?_
    exact (renumbers_compileList hw rest entity source).map fun conditions => rfl

end

/-- The source of a filter is the one given or the table, neither of which may be an alias. -/
theorem renumbers_compileOn (hw : "w" ∈ stems) (entity : String) (source : Option String)
    (filter : Filter)
    (hsource : ∀ label ∈ source.or (naming.table entity).toOption,
      Aliases.renumber stems shift label = label) :
    Renumbers shift (Condition.relabel (Aliases.renumber stems shift))
      (filter.compileOn schema naming entity source)
      (filter.compileOn schema naming entity source) := by
  have hcompile : ∀ label ∈ source.or (naming.table entity).toOption,
      Renumbers shift (Condition.relabel (Aliases.renumber stems shift))
        (filter.compile schema naming entity label) (filter.compile schema naming entity label) := by
    intro label hlabel
    have hfilter : Renumbers shift (Condition.relabel (Aliases.renumber stems shift)) _ _ :=
      renumbers_compile schema naming hw filter entity label
    rw [hsource label hlabel] at hfilter
    exact hfilter
  unfold compileOn
  cases source with
  | some label => exact hcompile label rfl
  | none =>
    cases htable : naming.table entity with
    | error fault => exact .throw fault
    | ok table =>
      rw [htable] at hcompile
      exact hcompile table rfl

end Filter

theorem ReadPlan.renumbers_filterConditions (hw : "w" ∈ stems) (schema : Schema)
    (naming : Naming) (entity root : String) (filter : Option Filter) :
    Renumbers shift (Condition.relabelAll (Aliases.renumber stems shift))
      (filterConditions schema naming entity root filter)
      (filterConditions schema naming entity (Aliases.renumber stems shift root) filter) := by
  cases filter with
  | none => exact .pure rfl
  | some filter =>
    exact (Filter.renumbers_compile schema naming hw filter entity root).map fun condition => rfl

end

/-! ## Reads -/

section

variable (labels : String → String)

def Correlation.relabel (correlation : Correlation) : Correlation :=
  { correlation with parent := correlation.parent.relabel labels }

def NodeQuery.relabel (node : NodeQuery) : NodeQuery :=
  { node with
    root := labels node.root
    base := labels node.base
    correlation := node.correlation.map (Correlation.relabel labels)
    joins := Query.relabelJoins labels node.joins
    conditions := Condition.relabelAll labels node.conditions
    document := node.document.relabel labels
    sorts := Query.relabelColumns labels node.sorts }

namespace ReadPlan

theorem document_relabel (naming : Naming) (entity base output : String)
    (fields relations : List String) :
    document naming entity (labels base) (labels output) fields relations =
      (document naming entity base output fields relations).map (Query.relabel labels) := by
  unfold document
  refine bind_eq_map (mapM_eq_map_mapM (g := Prod.map (Expr.relabel labels) id) ?_ fields)
    fun columns => ?_
  · exact fun field => bind_eq_map_bind fun column => rfl
  · have hshown : relations.map (fun relation => (Expr.column (labels base) relation, none)) =
        (relations.map fun relation => (Expr.column base relation, none)).map
          (Prod.map (Expr.relabel labels) (id : Option String → Option String)) := by
      rw [List.map_map]
      rfl
    dsimp only
    rw [hshown, ← List.map_append, ← Query.relabelColumns_eq_map]
    rfl

theorem sortColumns_relabel (schema : Schema) (naming : Naming) (entity base : String)
    (keys : List SortKey) : sortColumns schema naming entity (labels base) keys =
      (sortColumns schema naming entity base keys).map (Query.relabelColumns labels) := by
  have hcolumns : Query.relabelColumns labels = List.map (Prod.map (Expr.relabel labels) id) :=
    funext (Query.relabelColumns_eq_map labels)
  rw [hcolumns]
  refine mapM_eq_map_mapM (fun key => ?_) keys
  unfold sortColumn
  split
  · exact bind_eq_map_bind fun field => bind_eq_map_bind fun column => rfl
  · rfl

theorem jointCondition_relabel (root : String) (correlation : Option Correlation) :
    jointCondition (labels root) (correlation.map (Correlation.relabel labels)) =
      Condition.relabelAll labels (jointCondition root correlation) := by
  cases correlation <;> rfl

theorem rows_relabel (node : NodeQuery) : (node.relabel labels).rows = node.rows.relabel labels := by
  have hfilter : Condition.relabelAll labels ([.literal true] ++
      jointCondition node.root node.correlation ++ node.conditions) =
        [.literal true] ++ jointCondition (labels node.root) (node.correlation.map
          (Correlation.relabel labels)) ++ Condition.relabelAll labels node.conditions := by
    rw [jointCondition_relabel, Condition.relabelAll_eq_map, Condition.relabelAll_eq_map,
      Condition.relabelAll_eq_map, List.map_append, List.map_append]
    rfl
  rw [NodeQuery.rows, NodeQuery.rows, Query.relabel, Condition.relabelOf, Condition.relabel, hfilter]
  rfl

theorem shaped_relabel (node : NodeQuery) :
    (node.relabel labels).shaped = node.shaped.relabel labels := by
  rw [NodeQuery.shaped, rows_relabel, NodeQuery.shaped, Query.relabel]
  rfl

end ReadPlan

end

namespace ReadPlan

variable {shift : String → Nat}

/-- The prefixes of the aliases of a read. -/
def stems : List String := ["root.base", "base", "o", "agg", "j", "w"]

variable (schema : Schema) (naming : Naming)

mutual

theorem renumbers_compile : (plan : ReadPlan) → ∀ correlation isList,
    Renumbers shift (Query.relabel (Aliases.renumber stems shift))
      (plan.compile schema naming correlation isList)
      (plan.compile schema naming (correlation.map
        (Correlation.relabel (Aliases.renumber stems shift))) isList)
  | .refused fault, _, _ => .throw fault
  | .node head joins lists, correlation, isList => by
    rw [compile, compile]
    refine (Renumbers.fresh (by decide : "root.base" ∈ stems)).bind fun root => ?_
    refine (Renumbers.ofResult_self _).bind fun table => ?_
    refine (renumbers_compileJoins joins head.entity root false).bind fun joined => ?_
    refine (renumbers_compileJoins lists head.entity root true).bind fun listed => ?_
    refine (renumbers_filterConditions (by decide : "w" ∈ stems) schema naming head.entity root
      head.args.filter).bind fun conditions => ?_
    refine (Renumbers.fresh (by decide : "base" ∈ stems)).bind fun base => ?_
    refine (Renumbers.fresh (by decide : "o" ∈ stems)).bind fun output => ?_
    refine (Renumbers.ofResult (document_relabel _ naming head.entity base output head.fields
      _)).bind fun document => ?_
    refine (Renumbers.ofResult (sortColumns_relabel _ schema naming head.entity base
      head.carried)).bind fun sorts => ?_
    let node : NodeQuery := {
      head, table, root, base, correlation, conditions, document, sorts
      joins := joined ++ listed }
    have hshaped := shaped_relabel (Aliases.renumber stems shift) node
    have hjoins : Query.relabelJoins (Aliases.renumber stems shift) (joined ++ listed) =
        Query.relabelJoins (Aliases.renumber stems shift) joined ++
          Query.relabelJoins (Aliases.renumber stems shift) listed := by
      simp only [Query.relabelJoins_eq_map, List.map_append]
    rw [NodeQuery.relabel, hjoins] at hshaped
    cases isList with
    | false => exact .pure hshaped
    | true =>
      refine (Renumbers.fresh (by decide : "agg" ∈ stems)).map fun label => ?_
      exact congrArg (collect head · (Aliases.renumber stems shift label)) hshaped

theorem renumbers_compileJoins : (joins : List JoinPlan) → ∀ entity root isList,
    Renumbers shift (Query.relabelJoins (Aliases.renumber stems shift))
      (compileJoins schema naming entity root isList joins)
      (compileJoins schema naming entity (Aliases.renumber stems shift root) isList joins)
  | [], _, _, _ => .pure rfl
  | join :: rest, entity, root, isList => by
    rw [compileJoins, compileJoins]
    refine (renumbers_compileJoin join entity root isList).bind fun first => ?_
    exact (renumbers_compileJoins rest entity root isList).map fun later => rfl

theorem renumbers_compileJoin : (join : JoinPlan) → ∀ entity root isList,
    Renumbers shift (Prod.map (Query.relabel (Aliases.renumber stems shift))
        (Aliases.renumber stems shift))
      (compileJoin schema naming entity root isList join)
      (compileJoin schema naming entity (Aliases.renumber stems shift root) isList join)
  | .unknown fault, _, _, _ => .throw fault
  | .on relation requested plan, entity, root, isList => by
    rw [compileJoin, compileJoin]
    refine (Renumbers.ofResult_self _).bind fun link => ?_
    refine (renumbers_compile plan (some ⟨link.toColumn, .column root link.fromColumn⟩)
      isList).bind fun query => ?_
    exact (Renumbers.fresh (by decide : "j" ∈ stems)).map fun label => rfl

end

end ReadPlan

namespace Selection

variable {shift : String → Nat} (schema : Schema) (naming : Naming) (entity : String)
  (selection : Selection)

theorem renumbers_compile :
    Renumbers shift (Query.relabel (Aliases.renumber ReadPlan.stems shift))
      (selection.compile schema naming entity) (selection.compile schema naming entity) :=
  ReadPlan.renumbers_compile schema naming (ReadPlan.ofSelection schema entity [] selection) none true

theorem renumbers_compileOne :
    Renumbers shift (Query.relabel (Aliases.renumber ReadPlan.stems shift))
      (selection.compileOne schema naming entity) (selection.compileOne schema naming entity) := by
  have hrows : Renumbers shift (Query.relabel (Aliases.renumber ReadPlan.stems shift)) _ _ :=
    ReadPlan.renumbers_compile schema naming (ReadPlan.ofSelection schema entity [] selection) none
      false
  -- the outermost label is no alias
  have hroot : Aliases.renumber ReadPlan.stems shift "_final_root" = "_final_root" := by
    refine Aliases.renumber_eq_self fun stem hstem => Aliases.ne_name ?_
    revert stem
    decide
  refine hrows.map fun rows => ?_
  rw [Query.relabel, Source.relabelOf, Source.relabel, hroot]
  rfl

end Selection

/-! ## Aggregates -/

theorem AggregateTarget.argument_relabel (labels : String → String) (schema : Schema)
    (naming : Naming) (entity table : String) (target : AggregateTarget) :
    target.argument schema naming entity (labels table) =
      (target.argument schema naming entity table).map (Expr.relabel labels) := by
  cases target with
  | number value => rfl
  | name text =>
    unfold argument
    dsimp only
    split_ifs
    · rfl
    · exact bind_eq_map_bind fun field => bind_eq_map_bind fun column => rfl

/-- An aggregate reads its table under the name of the table, which has to be none of the aliases. -/
theorem renumbers_compileAggregate {stems : List String} {shift : String → Nat} (hw : "w" ∈ stems)
    (schema : Schema) (naming : Naming) (entity : String) (function : Aggregate)
    (target : AggregateTarget) (filter : Option Filter)
    (htable : ∀ table, naming.table entity = .ok table →
      Aliases.renumber stems shift table = table) :
    Renumbers shift (Query.relabel (Aliases.renumber stems shift))
      (compileAggregate schema naming entity function target filter)
      (compileAggregate schema naming entity function target filter) := by
  unfold compileAggregate
  cases hfound : naming.table entity with
  | error fault => exact .throw fault
  | ok table =>
    have hargument := target.argument_relabel (Aliases.renumber stems shift) schema naming entity
      table
    have hconditions : Renumbers shift (Condition.relabelAll (Aliases.renumber stems shift)) _ _ :=
      ReadPlan.renumbers_filterConditions hw schema naming entity table filter
    rw [htable table hfound] at hargument hconditions
    refine (Renumbers.ofResult hargument).bind fun argument => ?_
    exact hconditions.map fun conditions => rfl

end EntitySql
