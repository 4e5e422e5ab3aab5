import EntitySql.Compile.Read
import EntitySql.Proofs.Compile.Run
import EntitySql.Proofs.Result

/-!
# Runs of compiled reads

What the compilation of a planned read comes to when it succeeds.

* `NodeQuery` names the queries that one node is compiled to.
* `NodeSteps` are the steps of a node with the aliases that they take, `NodeEnd` is the last of them.
  `ReadPlan.steps_node` takes the compilation of a node apart into these, `ReadPlan.yields_joins_cons`
  that of joins; `ReadPlan.yields_node` is what most proofs need of a node.
* `ReadPlan.document_eq_ok` are the columns of a document, `ReadPlan.sortColumn_eq_ok` is the column
  of a sort key.
-/

namespace EntitySql

set_option autoImplicit false

open Compile

/-- What the queries of one node are put together from. -/
structure NodeQuery where
  head : ReadHead
  table : String
  root : String
  base : String
  correlation : Option Correlation
  joins : List (Query × String)
  conditions : List Condition
  document : Query
  sorts : List (Expr × Option String)

namespace NodeQuery

/-- The rows of the table, joined, filtered and cut. -/
def rows (node : NodeQuery) : Query where
  columns := [(.star, none)]
  source := some (.table node.table (some node.root))
  joins := node.joins
  filter := some (.all ([.literal true] ++ ReadPlan.jointCondition node.root node.correlation ++
    node.conditions))
  limit := ReadPlan.positive node.head.args.limit
  offset := ReadPlan.positive node.head.args.offset

/-- One document for each row, with its sort values. -/
def shaped (node : NodeQuery) : Query where
  columns := (.rowToJson node.document, some node.head.name) :: node.sorts
  source := some (.subquery node.rows node.base)

/-- All documents as one array, or one row for each. -/
def query (node : NodeQuery) (isList : Bool) (label : String) : Query :=
  if isList then ReadPlan.collect node.head node.shaped label else node.shaped

end NodeQuery

def documentQuery (output : String) (columns : List (Expr × Option String)) : Query where
  columns := [(.ident output, none)]
  source := some (.subquery { columns := columns } output)

/-- The documents of rows as one array, or the first of them. -/
def collectedQuery (name : String) (order : List SortItem) (first : Bool) (rows : Query)
    (label : String) : Query where
  columns := [(.jsonAgg (.ident name) order first, some name)]
  source := some (.subquery rows label)

/-- The steps of a node: joins, lists and filter, then the document of a row and its sort values. -/
structure NodeSteps (schema : Schema) (naming : Naming) (joins lists : List JoinPlan)
    (s s₁ s₂ s₃ : Aliases) (joined listed : List (Query × String)) (node : NodeQuery) : Prop where
  root : node.root = Aliases.name "root.base" (s.count "root.base")
  table : naming.table node.head.entity = .ok node.table
  joinSteps : Yields (ReadPlan.compileJoins schema naming node.head.entity node.root false joins)
    (Aliases.next "root.base" s).2 joined s₁
  listSteps : Yields (ReadPlan.compileJoins schema naming node.head.entity node.root true lists) s₁
    listed s₂
  all : node.joins = joined ++ listed
  conditions : Yields (ReadPlan.filterConditions schema naming node.head.entity node.root
    node.head.args.filter) s₂ node.conditions s₃
  base : node.base = Aliases.name "base" (s₃.count "base")
  document : ReadPlan.document naming node.head.entity node.base (Aliases.name "o" (s₃.count "o"))
    node.head.fields (ReadPlan.shownRelations joins ++ ReadPlan.shownRelations lists) =
      .ok node.document
  sorts : ReadPlan.sortColumns schema naming node.head.entity node.base node.head.carried =
    .ok node.sorts

/-- The last step of a node: a list is collected under one more alias. -/
inductive NodeEnd (node : NodeQuery) (s : Aliases) : Bool → Query → Aliases → Prop
  | one : NodeEnd node s false node.shaped (Aliases.next "o" (Aliases.next "base" s).2).2
  | list : NodeEnd node s true
      (collectedQuery node.head.name (ReadPlan.sortItems node.head.args.sortKeys) false node.shaped
        (Aliases.name "agg" (s.count "agg")))
      (Aliases.next "agg" (Aliases.next "o" (Aliases.next "base" s).2).2).2

namespace ReadPlan

variable {schema : Schema} {naming : Naming}

/-- A successful compilation of a node: its queries, and the parts in the order in which they are
compiled. -/
structure NodeRun (schema : Schema) (naming : Naming) (joins lists : List JoinPlan)
    (s s' : Aliases) (node : NodeQuery) : Prop where
  root : node.root = Aliases.name "root.base" (s.count "root.base")
  table : naming.table node.head.entity = .ok node.table
  document : ∃ output, document naming node.head.entity node.base output node.head.fields
    (shownRelations joins ++ shownRelations lists) = .ok node.document
  sorts : sortColumns schema naming node.head.entity node.base node.head.carried = .ok node.sorts
  parts : ∃ joined listed s₁ s₂ s₃, node.joins = joined ++ listed ∧
    Yields (compileJoins schema naming node.head.entity node.root false joins)
      (Aliases.next "root.base" s).2 joined s₁ ∧
    Yields (compileJoins schema naming node.head.entity node.root true lists) s₁ listed s₂ ∧
    Yields (filterConditions schema naming node.head.entity node.root node.head.args.filter) s₂
      node.conditions s₃ ∧ s₃ ≤ s'

theorem steps_node {correlation : Option Correlation} {isList : Bool} {head : ReadHead}
    {joins lists : List JoinPlan} {s s' : Aliases} {query : Query}
    (h : Yields ((ReadPlan.node head joins lists).compile schema naming correlation isList) s query
      s') :
    ∃ node joined listed s₁ s₂ s₃, node.head = head ∧ node.correlation = correlation ∧
      NodeSteps schema naming joins lists s s₁ s₂ s₃ joined listed node ∧
        NodeEnd node s₃ isList query s' := by
  simp only [compile, yields_bind, yields_fresh, yields_ofResult] at h
  obtain ⟨_, _, ⟨rfl, rfl⟩, table, _, ⟨htable, rfl⟩, joined, s₁, hjoined, listed, s₂, hlisted,
    conditions, s₃, hconditions, base, _, ⟨rfl, rfl⟩, output, _, ⟨rfl, rfl⟩, document, _,
    ⟨hdocument, rfl⟩, sorts, _, ⟨hsorts, rfl⟩, h⟩ := h
  -- the alias of one prefix leaves those of the others as they are
  have houtput : (Aliases.next "base" s₃).2.count "o" = s₃.count "o" := by
    rw [Aliases.count_next, if_neg (by decide)]
  have hcollected : (Aliases.next "o" (Aliases.next "base" s₃).2).2.count "agg" =
      s₃.count "agg" := by
    rw [Aliases.count_next, if_neg (by decide), Aliases.count_next, if_neg (by decide)]
  rw [houtput] at hdocument
  let node : NodeQuery := {
    head, table, correlation, conditions, document, sorts
    root := Aliases.name "root.base" (s.count "root.base")
    base := Aliases.name "base" (s₃.count "base")
    joins := joined ++ listed }
  refine ⟨node, joined, listed, s₁, s₂, s₃, rfl, rfl, ⟨rfl, htable, hjoined, hlisted, rfl,
    hconditions, rfl, hdocument, hsorts⟩, ?_⟩
  cases isList with
  | false =>
    obtain ⟨rfl, rfl⟩ := yields_pure.1 h
    exact .one
  | true =>
    obtain ⟨label, s₅, hlabel, hpure⟩ := yields_bind.1 h
    obtain ⟨rfl, rfl⟩ := yields_fresh.1 hlabel
    obtain ⟨rfl, rfl⟩ := yields_pure.1 hpure
    rw [hcollected]
    exact .list

theorem yields_node {correlation : Option Correlation} {isList : Bool} {head : ReadHead}
    {joins lists : List JoinPlan} {s s' : Aliases} {query : Query}
    (h : Yields ((ReadPlan.node head joins lists).compile schema naming correlation isList) s query
      s') :
    ∃ node label, query = NodeQuery.query node isList label ∧ node.head = head ∧
      node.correlation = correlation ∧ NodeRun schema naming joins lists s s' node := by
  obtain ⟨node, joined, listed, s₁, s₂, s₃, rfl, rfl, hsteps, hend⟩ := steps_node h
  have hle : s₃ ≤ (Aliases.next "o" (Aliases.next "base" s₃).2).2 :=
    le_trans (Aliases.le_next "base" s₃) (Aliases.le_next "o" _)
  have hrun : ∀ s', s₃ ≤ s' → NodeRun schema naming joins lists s s' node := fun s' hle' =>
    ⟨hsteps.root, hsteps.table, ⟨_, hsteps.document⟩, hsteps.sorts, joined, listed, s₁, s₂, s₃,
      hsteps.all, hsteps.root ▸ hsteps.joinSteps, hsteps.listSteps, hsteps.conditions, hle'⟩
  cases hend with
  | one => exact ⟨node, "", rfl, rfl, rfl, hrun _ hle⟩
  | list => exact ⟨node, _, rfl, rfl, rfl, hrun _ (le_trans hle (Aliases.le_next "agg" _))⟩

theorem yields_joins_cons {entity root relation : String} {isList requested : Bool}
    {plan : ReadPlan} {rest : List JoinPlan} {s s' : Aliases} {queries : List (Query × String)}
    (h : Yields (compileJoins schema naming entity root isList (.on relation requested plan :: rest))
      s queries s') :
    ∃ link query later s₁, naming.link entity relation = .ok link ∧
      Yields (plan.compile schema naming (some ⟨link.toColumn, .column root link.fromColumn⟩) isList)
        s query s₁ ∧
      Yields (compileJoins schema naming entity root isList rest) (Aliases.next "j" s₁).2 later s' ∧
      queries = (query, Aliases.name "j" (s₁.count "j")) :: later := by
  simp only [compileJoins, compileJoin, yields_bind, yields_ofResult, yields_fresh, yields_pure] at h
  obtain ⟨_, _, ⟨link, _, ⟨hlink, rfl⟩, query, s₁, hquery, _, _, ⟨rfl, rfl⟩, rfl, rfl⟩, later, _,
    hlater, rfl, rfl⟩ := h
  exact ⟨link, query, later, s₁, hlink, hquery, hlater, rfl⟩

theorem yields_joins_append {entity root : String} {isList : Bool} {joins others : List JoinPlan}
    {s s' : Aliases} {queries : List (Query × String)}
    (h : Yields (compileJoins schema naming entity root isList (joins ++ others)) s queries s') :
    ∃ first later s₁, queries = first ++ later ∧
      Yields (compileJoins schema naming entity root isList joins) s first s₁ ∧
      Yields (compileJoins schema naming entity root isList others) s₁ later s' := by
  induction joins generalizing s queries with
  | nil =>
    refine ⟨[], queries, s, rfl, ?_, h⟩
    rw [compileJoins]
    exact yields_pure.2 ⟨rfl, rfl⟩
  | cons join rest ih =>
    rw [List.cons_append, compileJoins] at h
    obtain ⟨first, s₁, hfirst, h⟩ := yields_bind.1 h
    obtain ⟨later, s₂, hlater, h⟩ := yields_bind.1 h
    obtain ⟨rfl, rfl⟩ := yields_pure.1 h
    obtain ⟨before, after, s₃, rfl, hbefore, hafter⟩ := ih hlater
    refine ⟨first :: before, after, s₃, rfl, ?_, hafter⟩
    rw [compileJoins]
    exact yields_bind.2 ⟨first, s₁, hfirst, yields_bind.2 ⟨before, s₃, hbefore,
      yields_pure.2 ⟨rfl, rfl⟩⟩⟩

theorem not_yields_joins_unknown {entity root : String} {isList : Bool} {fault : Fault}
    {rest : List JoinPlan} {s s' : Aliases} {queries : List (Query × String)} :
    ¬ Yields (compileJoins schema naming entity root isList (.unknown fault :: rest)) s queries
      s' := by
  intro h
  rw [compileJoins, compileJoin] at h
  obtain ⟨_, _, hthrow, -⟩ := yields_bind.1 h
  exact not_yields_throw hthrow

/-- The columns of a document: its fields, and the relations that it shows. -/
theorem document_eq_ok {entity base output : String} {fields relations : List String}
    {query : Query} (h : document naming entity base output fields relations = .ok query) :
    ∃ columns, List.Forall₂ (fun field column => ∃ name, naming.column entity field = .ok name ∧
        column = (Expr.column base name, some field)) fields columns ∧
      query = documentQuery output
        (columns ++ relations.map fun relation => (.column base relation, none)) := by
  obtain ⟨columns, hcolumns, h⟩ := bind_eq_ok.1 h
  refine ⟨columns, (mapM_eq_ok.1 hcolumns).imp fun field column hcolumn => ?_,
    (pure_eq_ok.1 h).symm⟩
  obtain ⟨name, hname, hpure⟩ := bind_eq_ok.1 hcolumn
  exact ⟨name, hname, (pure_eq_ok.1 hpure).symm⟩

/-- The column of a sort key: a column of the table, or one that a join carries. -/
theorem sortColumn_eq_ok {entity base : String} {key : SortKey} {column : Expr × Option String}
    (h : sortColumn schema naming entity base key = .ok column) :
    (∃ field name, naming.column entity field = .ok name ∧
      column = (.column base name, some key.label)) ∨
    (∀ field, key.path ≠ [field]) ∧ column = (.column base key.label, none) := by
  unfold sortColumn at h
  split at h
  · obtain ⟨field, -, h⟩ := bind_eq_ok.1 h
    obtain ⟨name, hname, h⟩ := bind_eq_ok.1 h
    exact .inl ⟨field.name, name, hname, (pure_eq_ok.1 h).symm⟩
  · next hpath => exact .inr ⟨hpath, (Except.ok.inj h).symm⟩

end ReadPlan

end EntitySql
