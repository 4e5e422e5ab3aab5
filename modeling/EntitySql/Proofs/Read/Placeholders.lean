import EntitySql.Proofs.Compile.Node
import EntitySql.Proofs.Filter.Placeholders

/-!
# Placeholders in reads

A compiled read has the placeholders of the filters of its nodes, in their order. A node is compiled
to several layers of queries, but its filter and its joins stand in one of them only; the joins that
only sorting needs have no placeholders.

* `Selection.placeholders` lists the placeholders of a read.
* `Selection.placeholders_compile` and `Selection.placeholders_compileOne` find them in the queries,
  `placeholders_compileAggregate` does so for aggregates.
-/

namespace EntitySql

set_option autoImplicit false

open Compile

mutual

def Selection.placeholders : Selection → List Nat
  | { args, manyToOne, oneToMany, .. } =>
    Filter.placeholdersOf args.filter ++ (Selection.placeholdersAll manyToOne ++
      Selection.placeholdersAll oneToMany)
termination_by structural selection => selection

def Selection.placeholdersAll : List Selection → List Nat
  | [] => []
  | selection :: rest => selection.placeholders ++ Selection.placeholdersAll rest
termination_by structural selections => selections

end

theorem placeholders_filterConditions {schema : Schema} {naming : Naming} {entity root : String}
    {filter : Option Filter} {s s' : Aliases} {conditions : List Condition}
    (h : Yields (ReadPlan.filterConditions schema naming entity root filter) s conditions s') :
    Condition.placeholdersAll conditions = Filter.placeholdersOf filter := by
  cases filter with
  | none =>
    obtain ⟨rfl, -⟩ := yields_pure.1 h
    rfl
  | some filter =>
    obtain ⟨condition, s₁, hcondition, hpure⟩ := yields_bind.1 h
    obtain ⟨rfl, -⟩ := yields_pure.1 hpure
    rw [Condition.placeholdersAll, Condition.placeholdersAll, List.append_nil]
    exact Filter.placeholders_compile filter hcondition

namespace ReadPlan

variable {schema : Schema} {naming : Naming}

/-! ## A node -/

theorem placeholders_document {entity base output : String} {fields relations : List String}
    {query : Query} (h : document naming entity base output fields relations = .ok query) :
    query.placeholders = [] := by
  obtain ⟨columns, hcolumns, rfl⟩ := document_eq_ok h
  have hnone : Query.columnPlaceholders
      (columns ++ relations.map fun relation => (Expr.column base relation, none)) = [] := by
    refine Query.columnPlaceholders_eq_nil fun column hcolumn => ?_
    rcases List.mem_append.1 hcolumn with hmem | hmem
    · obtain ⟨field, -, name, -, rfl⟩ := exists_of_mem_right hcolumns hmem
      rw [Expr.placeholders]
    · obtain ⟨relation, -, rfl⟩ := List.mem_map.1 hmem
      rw [Expr.placeholders]
  simp [documentQuery, Query.placeholders, Query.columnPlaceholders, Source.placeholders,
    Source.placeholdersOf, Condition.placeholdersOf, Query.joinPlaceholders, Expr.placeholders, hnone]

theorem placeholders_sortColumns {entity base : String} {keys : List SortKey}
    {columns : List (Expr × Option String)}
    (h : sortColumns schema naming entity base keys = .ok columns) :
    Query.columnPlaceholders columns = [] := by
  refine Query.columnPlaceholders_eq_nil fun column hcolumn => ?_
  obtain ⟨key, -, hkey⟩ := exists_of_mem_right (mapM_eq_ok.1 h) hcolumn
  unfold sortColumn at hkey
  split at hkey
  · obtain ⟨field, -, hkey⟩ := bind_eq_ok.1 hkey
    obtain ⟨name, -, hkey⟩ := bind_eq_ok.1 hkey
    obtain rfl := pure_eq_ok.1 hkey
    rw [Expr.placeholders]
  · obtain rfl := Except.ok.inj hkey
    rw [Expr.placeholders]

theorem placeholders_query {node : NodeQuery} (hdocument : node.document.placeholders = [])
    (hsorts : Query.columnPlaceholders node.sorts = [])
    (hcorrelation : ∀ joint ∈ node.correlation, joint.parent.placeholders = []) (isList : Bool)
    (label : String) : (node.query isList label).placeholders =
      Condition.placeholdersAll node.conditions ++ Query.joinPlaceholders node.joins := by
  have hjoint : Condition.placeholdersAll (jointCondition node.root node.correlation) = [] := by
    cases hgiven : node.correlation with
    | none => rfl
    | some joint =>
      have hparent := hcorrelation joint hgiven
      simp [jointCondition, Condition.placeholdersAll, Condition.equal, Condition.placeholders,
        Expr.placeholders, Expr.placeholdersOf, hparent]
  have hrows : node.rows.placeholders =
      Condition.placeholdersAll node.conditions ++ Query.joinPlaceholders node.joins := by
    simp only [NodeQuery.rows, Query.placeholders, Query.columnPlaceholders, Expr.placeholders,
      Source.placeholdersOf, Source.placeholders, Condition.placeholdersOf, Condition.placeholders,
      Condition.placeholdersAll_append, Condition.placeholdersAll, hjoint, List.nil_append]
  have hshaped : node.shaped.placeholders =
      Condition.placeholdersAll node.conditions ++ Query.joinPlaceholders node.joins := by
    simp only [NodeQuery.shaped, Query.placeholders, Query.columnPlaceholders, Expr.placeholders,
      Source.placeholdersOf, Source.placeholders, Condition.placeholdersOf, hdocument, hsorts,
      Query.joinPlaceholders, hrows, List.nil_append, List.append_nil]
  cases isList with
  | false => exact hshaped
  | true =>
    rw [NodeQuery.query, if_pos rfl, collect, ← hshaped]
    simp only [Query.placeholders, Query.columnPlaceholders, Expr.placeholders,
      Source.placeholdersOf, Source.placeholders, Condition.placeholdersOf, Query.joinPlaceholders,
      List.nil_append, List.append_nil]

/-! ## Plans and joins -/

/-- Compiled, the plan has the placeholders. -/
def Places (schema : Schema) (naming : Naming) (plan : ReadPlan) (placeholders : List Nat) : Prop :=
  ∀ correlation isList s query s',
    (∀ joint ∈ correlation, joint.parent.placeholders = []) →
      Yields (plan.compile schema naming correlation isList) s query s' →
        query.placeholders = placeholders

/-- Compiled, the joins have the placeholders. -/
def JoinsPlace (schema : Schema) (naming : Naming) (joins : List JoinPlan)
    (placeholders : List Nat) : Prop :=
  ∀ entity root isList s queries s',
    Yields (compileJoins schema naming entity root isList joins) s queries s' →
      Query.joinPlaceholders queries = placeholders

theorem places_refused (fault : Fault) (placeholders : List Nat) :
    Places schema naming (.refused fault) placeholders := by
  intro correlation isList s query s' _ h
  rw [compile] at h
  exact absurd h not_yields_throw

theorem joinsPlace_nil : JoinsPlace schema naming [] [] := by
  intro entity root isList s queries s' h
  rw [compileJoins] at h
  obtain ⟨rfl, -⟩ := yields_pure.1 h
  rfl

theorem joinsPlace_unknown (fault : Fault) (rest : List JoinPlan) (placeholders : List Nat) :
    JoinsPlace schema naming (.unknown fault :: rest) placeholders := by
  intro entity root isList s queries s' h
  exact absurd h not_yields_joins_unknown

theorem joinsPlace_cons {relation : String} {requested : Bool} {plan : ReadPlan}
    {rest : List JoinPlan} {first later : List Nat} (hplan : Places schema naming plan first)
    (hrest : JoinsPlace schema naming rest later) :
    JoinsPlace schema naming (.on relation requested plan :: rest) (first ++ later) := by
  intro entity root isList s queries s' h
  obtain ⟨link, query, others, s₁, -, hquery, hothers, rfl⟩ := yields_joins_cons h
  have hparent : ∀ joint ∈ some (⟨link.toColumn, .column root link.fromColumn⟩ : Correlation),
      joint.parent.placeholders = [] := by
    intro joint hjoint
    obtain rfl := Option.some.inj hjoint
    rw [Expr.placeholders]
  rw [Query.joinPlaceholders, hplan _ _ _ _ _ hparent hquery, hrest _ _ _ _ _ _ hothers]

theorem joinsPlace_joinManyToOne {entity relation : String} {requested : Bool}
    {plan : String → ReadPlan} {rest : List JoinPlan} {first later : List Nat}
    (hplan : ∀ target, Places schema naming (plan target) first)
    (hrest : JoinsPlace schema naming rest later) :
    JoinsPlace schema naming (joinManyToOne schema entity relation requested plan :: rest)
      (first ++ later) := by
  unfold joinManyToOne
  cases schema.manyToOne entity relation with
  | error fault => exact joinsPlace_unknown fault _ _
  | ok target => exact joinsPlace_cons (hplan _) hrest

theorem joinsPlace_joinOneToMany {entity relation : String} {plan : String → ReadPlan}
    {rest : List JoinPlan} {first later : List Nat}
    (hplan : ∀ target, Places schema naming (plan target) first)
    (hrest : JoinsPlace schema naming rest later) :
    JoinsPlace schema naming (joinOneToMany schema entity relation plan :: rest)
      (first ++ later) := by
  unfold joinOneToMany
  cases schema.oneToMany entity relation with
  | error fault => exact joinsPlace_unknown fault _ _
  | ok target => exact joinsPlace_cons (hplan _) hrest

theorem joinsPlace_append {joins others : List JoinPlan} {first later : List Nat}
    (hjoins : JoinsPlace schema naming joins first)
    (hothers : JoinsPlace schema naming others later) :
    JoinsPlace schema naming (joins ++ others) (first ++ later) := by
  intro entity root isList s queries s' h
  obtain ⟨before, after, s₁, rfl, hbefore, hafter⟩ := yields_joins_append h
  rw [Query.joinPlaceholders_append, hjoins _ _ _ _ _ _ hbefore, hothers _ _ _ _ _ _ hafter]

theorem places_node {head : ReadHead} {joins lists : List JoinPlan} {ones others : List Nat}
    (hjoins : JoinsPlace schema naming joins ones)
    (hlists : JoinsPlace schema naming lists others) :
    Places schema naming (.node head joins lists)
      (Filter.placeholdersOf head.args.filter ++ (ones ++ others)) := by
  intro correlation isList s query s' hparent h
  obtain ⟨node, label, rfl, rfl, rfl, hrun⟩ := yields_node h
  obtain ⟨output, hdocument⟩ := hrun.document
  obtain ⟨joined, listed, s₁, s₂, s₃, hnode, hjoined, hlisted, hconditions, -⟩ := hrun.parts
  rw [placeholders_query (placeholders_document hdocument) (placeholders_sortColumns hrun.sorts)
    hparent, placeholders_filterConditions hconditions, hnode, Query.joinPlaceholders_append,
    hjoins _ _ _ _ _ _ hjoined, hlists _ _ _ _ _ _ hlisted]

/-- The joins that only sorting needs have no placeholders. -/
theorem joinsPlace_sortJoins (depth : Nat) (entity : String) (requested : List String)
    (steps : List SortStep) :
    JoinsPlace schema naming (sortJoins schema depth entity requested steps) [] := by
  induction depth generalizing entity requested steps with
  | zero => exact joinsPlace_nil
  | succ depth ih =>
    rw [sortJoins]
    induction SortStep.relations requested steps with
    | nil => exact joinsPlace_nil
    | cons relation rest ihRest =>
      rw [List.map_cons]
      show JoinsPlace schema naming _ ([] ++ [])
      refine joinsPlace_joinManyToOne (fun target => ?_) ihRest
      dsimp only
      split
      · exact places_refused _ _
      · exact places_node (ih _ _ _) joinsPlace_nil

mutual

theorem places_ofSelection : (selection : Selection) → ∀ (entity : String) (passing : List SortKey),
    Places schema naming (ofSelection schema entity passing selection) selection.placeholders
  | { name, fields, args, manyToOne, oneToMany }, entity, passing => by
    rw [ofSelection]
    split
    · exact places_refused _ _
    · next steps _ =>
      have hones := joinsPlace_append (joinsPlace_requestedJoins manyToOne entity steps [])
        (joinsPlace_sortJoins (depth (passing ++ args.sortKeys)) entity (manyToOne.map (·.name)) steps)
      rw [List.append_nil] at hones
      rw [Selection.placeholders]
      exact places_node hones (joinsPlace_requestedLists oneToMany entity)

theorem joinsPlace_requestedJoins : (children : List Selection) → ∀ (entity : String)
    (steps : List SortStep) (earlier : List String), JoinsPlace schema naming
      (requestedJoins schema entity steps earlier children) (Selection.placeholdersAll children)
  | [], entity, steps, earlier => joinsPlace_nil
  | child :: rest, entity, steps, earlier => by
    rw [requestedJoins, Selection.placeholdersAll]
    apply joinsPlace_joinManyToOne
    · intro target
      exact places_ofSelection child _ _
    · exact joinsPlace_requestedJoins rest _ _ _

theorem joinsPlace_requestedLists : (children : List Selection) → ∀ (entity : String),
    JoinsPlace schema naming (requestedLists schema entity children)
      (Selection.placeholdersAll children)
  | [], entity => joinsPlace_nil
  | child :: rest, entity => by
    rw [requestedLists, Selection.placeholdersAll]
    apply joinsPlace_joinOneToMany
    · intro target
      exact places_ofSelection child _ _
    · exact joinsPlace_requestedLists rest _

end

end ReadPlan

/-! ## Reads and aggregates -/

namespace Selection

variable {schema : Schema} {naming : Naming} {entity : String} {selection : Selection}
  {s s' : Aliases} {query : Query}

theorem placeholders_compile (h : Yields (selection.compile schema naming entity) s query s') :
    query.placeholders = selection.placeholders := by
  refine ReadPlan.places_ofSelection selection entity [] none true s query s' ?_ h
  intro joint hjoint
  cases hjoint

theorem placeholders_compileOne
    (h : Yields (selection.compileOne schema naming entity) s query s') :
    query.placeholders = selection.placeholders := by
  unfold compileOne at h
  obtain ⟨rows, s₁, hrows, h⟩ := yields_bind.1 h
  obtain ⟨rfl, rfl⟩ := yields_pure.1 h
  have hplaces : rows.placeholders = selection.placeholders := by
    refine ReadPlan.places_ofSelection selection entity [] none false s rows s' ?_ hrows
    intro joint hjoint
    cases hjoint
  simp only [Query.placeholders, Query.columnPlaceholders, Expr.placeholders,
    Source.placeholdersOf, Source.placeholders, Condition.placeholdersOf, Query.joinPlaceholders,
    hplaces, List.nil_append, List.append_nil]

end Selection

theorem placeholders_compileAggregate {schema : Schema} {naming : Naming} {entity : String}
    {function : Aggregate} {target : AggregateTarget} {filter : Option Filter} {s s' : Aliases}
    {query : Query}
    (h : Yields (compileAggregate schema naming entity function target filter) s query s') :
    query.placeholders = Filter.placeholdersOf filter := by
  simp only [compileAggregate, yields_bind, yields_ofResult, yields_pure] at h
  obtain ⟨table, _, ⟨-, rfl⟩, argument, _, ⟨hargument, rfl⟩, conditions, s₁, hconditions, rfl,
    rfl⟩ := h
  have hnone : argument.placeholders = [] := by
    unfold AggregateTarget.argument at hargument
    split at hargument
    · obtain rfl := Except.ok.inj hargument
      rw [Expr.placeholders]
    · split at hargument
      · obtain rfl := Except.ok.inj hargument
        rw [Expr.placeholders]
      · obtain ⟨field, -, hargument⟩ := bind_eq_ok.1 hargument
        obtain ⟨column, -, hargument⟩ := bind_eq_ok.1 hargument
        obtain rfl := pure_eq_ok.1 hargument
        rw [Expr.placeholders]
  simp only [Query.placeholders, Query.columnPlaceholders, Expr.placeholders, hnone,
    Source.placeholdersOf, Source.placeholders, Condition.placeholdersOf, Condition.placeholders,
    Condition.placeholdersAll, Query.joinPlaceholders, placeholders_filterConditions hconditions,
    List.nil_append, List.append_nil]

end EntitySql
