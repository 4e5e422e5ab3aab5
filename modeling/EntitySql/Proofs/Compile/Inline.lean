import EntitySql.Compile.Read
import EntitySql.Proofs.Binding.Inline
import EntitySql.Proofs.Compile.Node
import EntitySql.Proofs.Relational.Stored
import EntitySql.Proofs.Sql.Placeholders

/-!
# Compiling with and without parameters

A request can be compiled with its values in it, or with placeholders for values that are bound apart.
Both compilations go the same way, and the trees differ in nothing but the values.

* `Filter.compile_inline` compiles a filter with values in the places of its placeholders to the
  condition with these values in their places; `ReadPlan.compile_inline` does so for planned reads,
  `Selection.compile_inline` and `Selection.compileOne_inline` for checked ones.
* `compile_bind_inline` compares a request with what it is bound to.
-/

namespace EntitySql

set_option autoImplicit false

open Compile

/-- What a computation gives may be changed before or after it runs. -/
theorem run_map {σ α β : Type} (g : α → β) (x : ExceptT Fault (StateM σ) α) (s : σ) :
    (g <$> x).run.run s = ((x.run.run s).1.map g, (x.run.run s).2) := by
  rw [map_eq_pure_bind, run_bind]
  cases x.run.run s with
  | mk result s' =>
    cases result with
    | ok a => rfl
    | error fault => rfl

theorem Compile.ofResult_map {α β : Type} (g : α → β) (result : Result α) :
    ofResult (result.map g) = g <$> ofResult result := by
  cases result with
  | ok a => exact (map_pure g a).symm
  | error fault => rfl

variable (values : List Json)

/-! ## Predicates -/

namespace Predicate

theorem inline_membership {left : Expr} (hleft : left.inline values = left) (op : Operator)
    (items : List Expr) : (membership left op items).inline values =
      membership left op (items.map (Expr.inline values)) := by
  cases items with
  | nil => rfl
  | cons item rest =>
    simp only [membership, List.isEmpty_cons, Bool.false_eq_true, if_false, List.map_cons,
      Condition.inline, Expr.inlineOf, Expr.inline, Expr.inlineAll_eq_map, hleft]

/-- Whatever the operand is, its placeholders are compiled where its values are. -/
theorem compile_inline {left : Expr} (hleft : left.inline values = left) (type : SqlType)
    (predicate : Predicate) : (predicate.inline values).compile left type =
      (predicate.compile left type).map (Condition.inline values) := by
  obtain ⟨operator, operand⟩ := predicate
  have hlist : ∀ items : List Expr, (.ok (membership left operator
      (items.map (Expr.inline values))) : Result Condition) =
        (Except.ok (membership left operator items)).map (Condition.inline values) := by
    intro items
    rw [Except.map, inline_membership values hleft]
  have hcompare : ∀ right : Expr, (.ok (.compare left operator.comparison
      (some (right.inline values))) : Result Condition) =
        (Except.ok (.compare left operator.comparison (some right))).map
          (Condition.inline values) := by
    intro right
    rw [Except.map, Condition.inline, Expr.inlineOf, hleft]
  have hnull : ∀ op, (.ok (.compare left op none) : Result Condition) =
      (Except.ok (.compare left op none)).map (Condition.inline values) := by
    intro op
    rw [Except.map, Condition.inline, Expr.inlineOf, hleft]
  unfold compile
  dsimp only [inline]
  split_ifs
  · cases operand with
    | flag flag => cases flag <;> exact hnull _
    | value value => rfl
    | list given => rfl
    | param index => rfl
    | params indices => rfl
  · cases operand with
    | params indices =>
      have hitems := hlist (indices.map (Expr.typedParam · type))
      rw [List.map_map] at hitems
      dsimp only [Operand.inline]
      rw [List.map_map]
      exact hitems
    | list given =>
      have hitems := hlist (given.map Expr.literal)
      rw [List.map_map] at hitems
      exact hitems
    | flag flag => rfl
    | value value => rfl
    | param index => rfl
  · cases operand with
    | param index => exact hcompare (.typedParam index type)
    | value value => exact hcompare (.literal value)
    | flag flag => rfl
    | list given => rfl
    | params indices => rfl

theorem compileAll_inline (naming : Naming) (entity source : String) (field : Field)
    (predicates : List Predicate) :
    compileAll naming entity source field (inlineAll values predicates) =
      (compileAll naming entity source field predicates).map (Condition.inlineAll values) := by
  have hall : Condition.inlineAll values = List.map (Condition.inline values) :=
    funext (Condition.inlineAll_eq_map values)
  rw [hall]
  refine bind_eq_map_bind fun column => ?_
  rw [inlineAll, List.mapM_map]
  exact mapM_eq_map_mapM (compile_inline values rfl field.sqlType) predicates

end Predicate

/-! ## Filters -/

/-- The condition that some related row satisfies a condition has its placeholders there. -/
theorem compileExists_inline (naming : Naming) (entity source relation target : String)
    {inner inlined : String → Compile Condition}
    (hinner : ∀ joined, inlined joined = Condition.inline values <$> inner joined) :
    (do return [← compileExists naming entity source relation target inlined]) =
      Condition.inlineAll values <$>
        (do return [← compileExists naming entity source relation target inner]) := by
  obtain rfl : inlined = fun joined => Condition.inline values <$> inner joined := funext hinner
  simp only [compileExists, map_bind, bind_map_left, map_pure, bind_assoc, pure_bind]
  rfl

namespace Filter

theorem firstKey?_inline (filter : Filter) : (filter.inline values).firstKey? = filter.firstKey? := by
  obtain ⟨terms, conjuncts, alternatives⟩ := filter
  cases terms with
  | cons term rest => cases term <;> rfl
  | nil => cases conjuncts <;> cases alternatives <;> rfl

theorem compileOnField_inline (entity : String) (field : Field) (filter : Filter) :
    compileOnField entity field (filter.inline values) =
      (compileOnField entity field filter).map (Condition.inlineAll values) := by
  unfold compileOnField
  rw [firstKey?_inline]
  cases filter.firstKey? <;> rfl

theorem isEmpty_inlineAll (filters : List Filter) :
    (inlineAll values filters).isEmpty = filters.isEmpty := by
  cases filters <;> rfl

theorem compileOnRelation_inline (naming : Naming) (entity source relation target : String)
    (predicates : List Predicate) :
    compileOnRelation naming entity source relation target (Predicate.inlineAll values predicates) =
      Condition.inlineAll values <$>
        compileOnRelation naming entity source relation target predicates := by
  cases predicates with
  | cons predicate rest => rfl
  | nil => exact compileExists_inline values naming _ _ _ _ fun _ => (map_pure _ _).symm

variable (schema : Schema) (naming : Naming)

mutual

theorem compile_inline : (filter : Filter) → ∀ entity source,
    (filter.inline values).compile schema naming entity source =
      Condition.inline values <$> filter.compile schema naming entity source
  | { terms, conjuncts, alternatives }, entity, source => by
    rw [inline, compile, compile, compileTerms_inline terms, compileList_inline conjuncts,
      compileList_inline alternatives, isEmpty_inlineAll]
    simp only [map_bind, bind_map_left, map_pure, Condition.inline, Condition.inlineAll_eq_map,
      List.map_append]
    split
    · rfl
    · simp only [List.map_cons, List.map_nil, Condition.inline, Condition.inlineAll_eq_map]

theorem compileTerm_inline : (term : Term) → ∀ entity source,
    compileTerm schema naming entity source (term.inline values) =
      Condition.inlineAll values <$> compileTerm schema naming entity source term
  | .predicates name predicates, entity, source => by
    rw [Term.inline, compileTerm, compileTerm, map_bind]
    congr 1
    funext found
    cases found with
    | none => rfl
    | some member =>
      cases member with
      | field field =>
        show ofResult _ = _ <$> ofResult _
        rw [Predicate.compileAll_inline, ofResult_map]
      | manyToOne relation => exact compileOnRelation_inline values naming _ _ _ _ _
      | oneToMany relation => exact compileOnRelation_inline values naming _ _ _ _ _
  | .nested name filter, entity, source => by
    rw [Term.inline, compileTerm, compileTerm, map_bind]
    congr 1
    funext found
    cases found with
    | none => rfl
    | some member =>
      cases member with
      | field field =>
        show ofResult _ = _ <$> ofResult _
        rw [compileOnField_inline, ofResult_map]
      | manyToOne relation =>
        exact compileExists_inline values naming _ _ _ _ fun joined =>
          compile_inline filter relation.targetEntity joined
      | oneToMany relation =>
        exact compileExists_inline values naming _ _ _ _ fun joined =>
          compile_inline filter relation.targetEntity joined

theorem compileTerms_inline : (terms : List Term) → ∀ entity source,
    compileTerms schema naming entity source (Term.inlineAll values terms) =
      Condition.inlineAll values <$> compileTerms schema naming entity source terms
  | [], _, _ => rfl
  | term :: rest, entity, source => by
    rw [Term.inlineAll, compileTerms, compileTerms, compileTerm_inline term,
      compileTerms_inline rest]
    simp only [map_bind, bind_map_left, map_pure, Condition.inlineAll_eq_map, List.map_append]

theorem compileList_inline : (filters : List Filter) → ∀ entity source,
    compileList schema naming entity source (inlineAll values filters) =
      Condition.inlineAll values <$> compileList schema naming entity source filters
  | [], _, _ => rfl
  | filter :: rest, entity, source => by
    rw [inlineAll, compileList, compileList, compile_inline filter, compileList_inline rest]
    simp only [map_bind, bind_map_left, map_pure, Condition.inlineAll]

end

theorem compileOn_inline (entity : String) (source : Option String) (filter : Filter) :
    (filter.inline values).compileOn schema naming entity source =
      Condition.inline values <$> filter.compileOn schema naming entity source := by
  cases source with
  | some source => exact compile_inline values schema naming filter entity source
  | none =>
    show ofResult _ >>= _ = _ <$> (ofResult _ >>= _)
    rw [map_bind]
    exact bind_congr fun source => compile_inline values schema naming filter entity source

end Filter

/-! ## Reads -/

def Correlation.inline (values : List Json) (correlation : Correlation) : Correlation :=
  { correlation with parent := correlation.parent.inline values }

def NodeQuery.inline (values : List Json) (node : NodeQuery) : NodeQuery :=
  { node with
    head := node.head.inline values
    correlation := node.correlation.map (Correlation.inline values)
    joins := Query.inlineJoins values node.joins
    conditions := Condition.inlineAll values node.conditions
    document := node.document.inline values
    sorts := Query.inlineColumns values node.sorts }

namespace ReadPlan

/-- Columns of a document have no placeholders. -/
theorem document_inline (naming : Naming) (entity base output : String)
    (fields relations : List String) :
    document naming entity base output fields relations =
      (document naming entity base output fields relations).map (Query.inline values) := by
  cases h : document naming entity base output fields relations with
  | error fault => rfl
  | ok query =>
    obtain ⟨columns, hcolumns, rfl⟩ := document_eq_ok h
    have hinline : ∀ columns, (documentQuery output columns).inline values =
        documentQuery output (Query.inlineColumns values columns) := fun _ => rfl
    rw [Except.map, hinline, Query.inlineColumns_eq_self values fun column hcolumn => ?_]
    rcases List.mem_append.1 hcolumn with hmem | hmem
    · obtain ⟨field, -, name, -, rfl⟩ := exists_of_mem_right hcolumns hmem
      rfl
    · obtain ⟨relation, -, rfl⟩ := List.mem_map.1 hmem
      rfl

theorem sortColumns_inline (schema : Schema) (naming : Naming) (entity base : String)
    (keys : List SortKey) : sortColumns schema naming entity base keys =
      (sortColumns schema naming entity base keys).map (Query.inlineColumns values) := by
  cases h : sortColumns schema naming entity base keys with
  | error fault => rfl
  | ok columns =>
    rw [Except.map, Query.inlineColumns_eq_self values fun column hcolumn => ?_]
    obtain ⟨key, -, hkey⟩ := exists_of_mem_right (mapM_eq_ok.1 h) hcolumn
    rcases sortColumn_eq_ok hkey with ⟨field, name, -, rfl⟩ | ⟨-, rfl⟩
    · rfl
    · rfl

theorem filterConditions_inline (schema : Schema) (naming : Naming) (entity root : String)
    (filter : Option Filter) :
    filterConditions schema naming entity root (Filter.inlineOf values filter) =
      Condition.inlineAll values <$> filterConditions schema naming entity root filter := by
  cases filter with
  | none => rfl
  | some filter =>
    show (do return [← (filter.inline values).compile schema naming entity root]) = _ <$> _
    rw [Filter.compile_inline, filterConditions]
    simp only [map_bind, bind_map_left, map_pure, Condition.inlineAll]

theorem shownRelations_inlineAll (joins : List JoinPlan) :
    shownRelations (JoinPlan.inlineAll values joins) = shownRelations joins := by
  rw [JoinPlan.inlineAll_eq_map, shownRelations, shownRelations, List.filterMap_map]
  congr 1
  funext join
  cases join with
  | unknown fault => rfl
  | on relation requested plan => cases requested <;> rfl

theorem jointCondition_inline (root : String) (correlation : Option Correlation) :
    jointCondition root (correlation.map (Correlation.inline values)) =
      (jointCondition root correlation).map (Condition.inline values) := by
  cases correlation <;> rfl

theorem rows_inline (node : NodeQuery) : node.rows.inline values = (node.inline values).rows := by
  have hfilter : Condition.inlineAll values ([.literal true] ++
      jointCondition node.root node.correlation ++ node.conditions) =
        [.literal true] ++ jointCondition node.root (node.correlation.map
          (Correlation.inline values)) ++ Condition.inlineAll values node.conditions := by
    rw [jointCondition_inline, Condition.inlineAll_eq_map, Condition.inlineAll_eq_map,
      List.map_append, List.map_append]
    rfl
  rw [NodeQuery.rows, Query.inline, Condition.inlineOf, Condition.inline, hfilter]
  rfl

theorem shaped_inline (node : NodeQuery) :
    node.shaped.inline values = (node.inline values).shaped := by
  rw [NodeQuery.shaped, Query.inline, Source.inlineOf, Source.inline, rows_inline]
  rfl

variable (schema : Schema) (naming : Naming)

mutual

theorem compile_inline : (plan : ReadPlan) → ∀ correlation isList,
    (plan.inline values).compile schema naming (correlation.map (Correlation.inline values)) isList =
      Query.inline values <$> plan.compile schema naming correlation isList
  | .refused fault, _, _ => rfl
  | .node head joins lists, correlation, isList => by
    rw [ReadPlan.inline, compile, compile]
    simp only [map_bind]
    refine bind_congr fun root => bind_congr fun table => ?_
    rw [compileJoins_inline joins, bind_map_left]
    refine bind_congr fun joined => ?_
    rw [compileJoins_inline lists, bind_map_left]
    refine bind_congr fun listed => ?_
    refine (congrArg (· >>= _) (filterConditions_inline values schema naming head.entity root
      head.args.filter)).trans ?_
    rw [bind_map_left]
    refine bind_congr fun conditions => bind_congr fun base => bind_congr fun output => ?_
    rw [shownRelations_inlineAll, shownRelations_inlineAll]
    -- neither the document nor the sort values have placeholders
    refine (congrArg (ofResult · >>= _) (document_inline values naming head.entity base output
      head.fields _)).trans ?_
    rw [ofResult_map, bind_map_left]
    refine bind_congr fun document => ?_
    refine (congrArg (ofResult · >>= _) (sortColumns_inline values schema naming head.entity base
      head.carried)).trans ?_
    rw [ofResult_map, bind_map_left]
    refine bind_congr fun sorts => ?_
    let node : NodeQuery := {
      head, table, root, base, correlation, conditions, document, sorts
      joins := joined ++ listed }
    have hjoins : Query.inlineJoins values joined ++ Query.inlineJoins values listed =
        Query.inlineJoins values (joined ++ listed) := by
      simp only [Query.inlineJoins_eq_map, List.map_append]
    have hshaped := shaped_inline values node
    cases isList with
    | false =>
      rw [hjoins]
      exact (congrArg pure hshaped.symm).trans (map_pure _ _).symm
    | true =>
      rw [hjoins]
      simp only [if_true, map_bind, map_pure]
      refine bind_congr fun label => ?_
      exact congrArg (fun shaped => pure (collect head shaped label)) hshaped.symm

theorem compileJoins_inline : (joins : List JoinPlan) → ∀ entity root isList,
    compileJoins schema naming entity root isList (JoinPlan.inlineAll values joins) =
      Query.inlineJoins values <$> compileJoins schema naming entity root isList joins
  | [], _, _, _ => rfl
  | join :: rest, entity, root, isList => by
    rw [JoinPlan.inlineAll, compileJoins, compileJoins, compileJoin_inline join,
      compileJoins_inline rest]
    simp only [map_bind, bind_map_left, map_pure, Query.inlineJoins_eq_map, List.map_cons]

theorem compileJoin_inline : (join : JoinPlan) → ∀ entity root isList,
    compileJoin schema naming entity root isList (join.inline values) =
      Prod.map (Query.inline values) id <$> compileJoin schema naming entity root isList join
  | .unknown fault, _, _, _ => rfl
  | .on relation requested plan, entity, root, isList => by
    rw [JoinPlan.inline, compileJoin, compileJoin, map_bind]
    refine bind_congr fun link => ?_
    have hplan := compile_inline plan (some ⟨link.toColumn, .column root link.fromColumn⟩) isList
    have hcorrelation : (some (⟨link.toColumn, .column root link.fromColumn⟩ : Correlation)).map
        (Correlation.inline values) = some ⟨link.toColumn, .column root link.fromColumn⟩ := rfl
    rw [hcorrelation] at hplan
    rw [hplan]
    simp only [map_bind, bind_map_left, map_pure, Prod.map, id]

end

end ReadPlan

namespace Selection

variable (schema : Schema) (naming : Naming) (entity : String) (selection : Selection)

theorem compile_inline : (selection.inline values).compile schema naming entity =
    Query.inline values <$> selection.compile schema naming entity := by
  rw [compile, compile, ReadPlan.ofSelection_inline]
  exact ReadPlan.compile_inline values schema naming _ none true

theorem compileOne_inline : (selection.inline values).compileOne schema naming entity =
    Query.inline values <$> selection.compileOne schema naming entity := by
  have hrows := ReadPlan.compile_inline values schema naming
    (ReadPlan.ofSelection schema entity [] selection) none false
  rw [Option.map_none] at hrows
  rw [compileOne, compileOne, ReadPlan.ofSelection_inline, hrows]
  simp only [map_bind, bind_map_left, map_pure]
  cases selection
  rfl

end Selection

/-! ## Requests that are bound first -/

/-- The second computation comes to the first one with values in it: from every state both fail with
the same fault, or both succeed, and they leave the same state. -/
def AlikeUpTo {σ α : Type} (inline : α → α) (x y : ExceptT Fault (StateM σ) α) : Prop :=
  ∀ s, y.run.run s = ((x.run.run s).1.map inline, (x.run.run s).2)

/-- A request that has its values may be compiled as it is or after its values have been bound, at any
place in a statement: it comes to the same up to the values, which the compiled tree has in one case
where it has cast placeholders for them in the other. -/
theorem compile_bind_inline (schema : Schema) (naming : Naming) (entity : String)
    (before : Bindings) :
    (∀ (filter : Filter) (source : Option String),
      (∀ operand ∈ filter.operands, operand.IsLiteral) →
        AlikeUpTo (Condition.inline (filter.bind.run before).2.values)
          ((filter.bind.run before).1.compileOn schema naming entity source)
          (filter.compileOn schema naming entity source)) ∧
      ∀ selection : Selection, (∀ operand ∈ selection.operands, operand.IsLiteral) →
        AlikeUpTo (Query.inline (selection.bind.run before).2.values)
          ((selection.bind.run before).1.compile schema naming entity)
          (selection.compile schema naming entity) ∧
        AlikeUpTo (Query.inline (selection.bind.run before).2.values)
          ((selection.bind.run before).1.compileOne schema naming entity)
          (selection.compileOne schema naming entity) := by
  refine ⟨fun filter source hliteral s => ?_, fun selection hliteral => ⟨fun s => ?_, fun s => ?_⟩⟩
  · conv_lhs => rw [← Filter.inline_bind hliteral before]
    rw [Filter.compileOn_inline, run_map]
  · conv_lhs => rw [← Selection.inline_bind hliteral before]
    rw [Selection.compile_inline, run_map]
  · conv_lhs => rw [← Selection.inline_bind hliteral before]
    rw [Selection.compileOne_inline, run_map]

/-- Two books, if Austen has written them. -/
def Library.austensBooks : Filter where
  terms := [.predicates "id" [⟨.oneOf, .list [.int 7, .int 8]⟩],
    .nested "writer" { terms := [.predicates "fullName" [⟨.eq, .value (.str "Austen")⟩]] }]

theorem compile_bind_inline_austensBooks :
    let bound := Library.austensBooks.bind.run ⟨[.str "bound before"]⟩
    (∀ operand ∈ Library.austensBooks.operands, operand.IsLiteral) ∧
      bound.2.values = [.str "bound before", .int 7, .int 8, .str "Austen"] ∧
      ∃ condition s', Yields (bound.1.compileOn Library.schema Library.naming "Book" none) {}
        condition s' ∧ condition.placeholders = [2, 3, 4] ∧
        Yields (Library.austensBooks.compileOn Library.schema Library.naming "Book" none) {}
          (condition.inline bound.2.values) s' := by
  intro bound
  have hliteral : ∀ operand ∈ Library.austensBooks.operands, operand.IsLiteral := by
    intro operand hoperand
    simp only [Library.austensBooks, Filter.operands, Term.operandsAll, Term.operands,
      Filter.operandsAll, List.map_cons, List.map_nil, List.append_nil, List.cons_append,
      List.nil_append, List.mem_cons, List.not_mem_nil, or_false] at hoperand
    rcases hoperand with rfl | rfl
    · trivial
    · trivial
  obtain ⟨condition, s', hyields, hplaceholders⟩ : ∃ condition s',
      Yields (bound.1.compileOn Library.schema Library.naming "Book" none) {} condition s' ∧
        condition.placeholders = [2, 3, 4] := ⟨_, _, rfl, rfl⟩
  have halike := (compile_bind_inline Library.schema Library.naming "Book"
    ⟨[.str "bound before"]⟩).1 Library.austensBooks none hliteral {}
  rw [hyields] at halike
  exact ⟨hliteral, rfl, condition, s', hyields, hplaceholders, halike⟩

end EntitySql
