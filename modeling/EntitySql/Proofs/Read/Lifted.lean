import EntitySql.Proofs.Read.First
import EntitySql.Proofs.Read.Handed

/-!
# Values to sort by

How the value of a sort key gets to the rows that are sorted by it: from the column of a field,
through the joins of the relations on its path, under the label of the key.

* `Supplies` follows the path of one key down from a query that has its value.
* `Lifts` says at every node of a read that the joins are those that are planned, that the query has
  the values of all keys of the node, and that a list is collected in the order of its own.
* `ReadPlan.lifts_compile` goes from plans to queries, `Selection.compile_lifts` to whole reads.
-/

namespace EntitySql

set_option autoImplicit false

open Compile

/-- The query of a node on an entity has a column for the field at the end of a path, under a label
that is the same all the way up. -/
inductive Supplies (schema : Schema) (naming : Naming) (label : String) :
    List String → String → NodeQuery → Prop
  /-- A field of the entity is read from its column in the table. -/
  | field {entity name : String} {node : NodeQuery} {field : Field} {column : String}
      (table : naming.table entity = .ok node.table)
      (declared : schema.field? entity name = some field)
      (stored : naming.column entity field.name = .ok column)
      (exported : (.column node.base column, some label) ∈ node.sorts) :
      Supplies schema naming label [name] entity node
  /-- What is behind a relation comes from a join of that relation, and is passed on. -/
  | relation {entity relation name : String} {names : List String} {node inner : NodeQuery}
      {found : ManyToOne} {link : Link} {source : String}
      (declared : schema.manyToOne? entity relation = some found)
      (linked : naming.link entity relation = .ok link)
      (joined : (inner.shaped, source) ∈ node.joins)
      (correlated : inner.correlation = some ⟨link.toColumn, .column node.root link.fromColumn⟩)
      (behind : Supplies schema naming label (name :: names) found.targetEntity inner)
      (exported : (.column node.base label, none) ∈ node.sorts) :
      Supplies schema naming label (relation :: name :: names) entity node

mutual

/-- A node, with everything below it, is compiled to a query that has the values to sort by: those
of the keys that pass through it, and those of its own. -/
inductive Lifts (schema : Schema) (naming : Naming) :
    String → List SortKey → Selection → NodeQuery → Prop
  | node {entity : String} {passing : List SortKey} {selection : Selection} {node : NodeQuery}
      {joins : List PlannedJoin} {joined listed : List (Query × String)}
      (head : node.head = selection.head entity passing)
      (plan : ReadPlan.ofSelection schema entity passing selection = .node node.head
        (joins.map (PlannedJoin.plan schema entity))
        (selection.oneToMany.map (Selection.listPlan schema entity)))
      (planned : JoinsPlanned selection.manyToOne node.head.carried joins)
      (ones : JoinsLift schema naming entity node.root joins joined)
      (lists : ListsLift schema naming entity node.root selection.oneToMany listed)
      (all : node.joins = joined ++ listed)
      (supplies : ∀ key ∈ node.head.carried, Supplies schema naming key.label key.path entity node) :
      Lifts schema naming entity passing selection node

/-- Each of the many-to-ones is joined, with the sort keys that it is handed. It has one document,
so that nothing is collected. -/
inductive JoinsLift (schema : Schema) (naming : Naming) :
    String → String → List PlannedJoin → List (Query × String) → Prop
  | nil {entity root : String} : JoinsLift schema naming entity root [] []
  | cons {entity root source : String} {join : PlannedJoin} {joins : List PlannedJoin}
      {queries : List (Query × String)} {inner : NodeQuery} {found : ManyToOne} {link : Link}
      (declared : schema.manyToOne? entity join.child.name = some found)
      (linked : naming.link entity join.child.name = .ok link)
      (correlated : inner.correlation = some ⟨link.toColumn, .column root link.fromColumn⟩)
      (behind : Lifts schema naming found.targetEntity join.keys join.child inner)
      (rest : JoinsLift schema naming entity root joins queries) :
      JoinsLift schema naming entity root (join :: joins) ((inner.shaped, source) :: queries)

/-- Each of the one-to-manys is joined, and its documents are collected in the order of its sort
keys. -/
inductive ListsLift (schema : Schema) (naming : Naming) :
    String → String → List Selection → List (Query × String) → Prop
  | nil {entity root : String} : ListsLift schema naming entity root [] []
  | cons {entity root label source : String} {child : Selection} {children : List Selection}
      {queries : List (Query × String)} {inner : NodeQuery} {found : OneToMany} {link : Link}
      (declared : schema.oneToMany? entity child.name = some found)
      (linked : naming.link entity child.name = .ok link)
      (correlated : inner.correlation = some ⟨link.toColumn, .column root link.fromColumn⟩)
      (behind : Lifts schema naming found.targetEntity [] child inner)
      (rest : ListsLift schema naming entity root children queries) :
      ListsLift schema naming entity root (child :: children)
        ((collectedQuery child.name (child.args.sortKeys.map fun key => ⟨key.label, key.direction⟩)
          false inner.shaped label, source) :: queries)

end

variable {schema : Schema} {naming : Naming}

/-! ## Joins of a plan -/

/-- The joins of a node have sort keys with paths, and what they read has. -/
theorem JoinsPlanned.ordered {children : List Selection} {carried : List SortKey}
    {joins : List PlannedJoin} (h : JoinsPlanned children carried joins)
    (hordered : Selection.EachAll ReadArgs.Ordered children) {join : PlannedJoin}
    (hjoin : join ∈ joins) :
    join.child.Each ReadArgs.Ordered ∧ ∀ key ∈ join.keys, key.path ≠ [] := by
  constructor
  · obtain ⟨added, -, -, hjoined⟩ := h.joined
    have hmem := List.mem_map_of_mem (f := fun join => (join.child, join.requested)) hjoin
    rw [hjoined] at hmem
    rcases List.mem_append.1 hmem with hmem | hmem
    · obtain ⟨child, hchild, heq⟩ := List.mem_map.1 hmem
      exact (Prod.mk.inj heq).1 ▸ Selection.eachAll_iff.1 hordered child hchild
    · obtain ⟨relation, -, heq⟩ := List.mem_map.1 hmem
      exact (Prod.mk.inj heq).1 ▸ Selection.each_bare relation ReadArgs.ordered_default
  · obtain ⟨before, after, hjoins⟩ := List.append_of_mem hjoin
    intro key hkey
    rw [h.keys before join after hjoins] at hkey
    split at hkey
    · cases hkey
    · obtain ⟨above, -, habove⟩ := List.mem_filterMap.1 hkey
      obtain ⟨name, names, -, rfl⟩ := SortKey.behind?_eq_some.1 habove
      exact List.cons_ne_nil _ _

theorem PlannedJoin.plan_eq_on {entity relation : String} {requested : Bool} {plan : ReadPlan}
    {join : PlannedJoin} (h : join.plan schema entity = .on relation requested plan) :
    ∃ found, schema.manyToOne? entity join.child.name = some found ∧ relation = join.child.name ∧
      plan = ReadPlan.ofSelection schema found.targetEntity join.keys join.child := by
  unfold PlannedJoin.plan ReadPlan.joinManyToOne at h
  split at h
  · next found hfound =>
    obtain ⟨rfl, -, rfl⟩ := JoinPlan.on.inj h
    exact ⟨found, Schema.manyToOne?_of_manyToOne hfound, rfl, rfl⟩
  · cases h

theorem Selection.listPlan_eq_on {entity relation : String} {requested : Bool} {plan : ReadPlan}
    {child : Selection} (h : child.listPlan schema entity = .on relation requested plan) :
    ∃ found, schema.oneToMany? entity child.name = some found ∧ relation = child.name ∧
      plan = ReadPlan.ofSelection schema found.targetEntity [] child := by
  unfold Selection.listPlan ReadPlan.joinOneToMany at h
  split at h
  · next found hfound =>
    obtain ⟨rfl, -, rfl⟩ := JoinPlan.on.inj h
    exact ⟨found, Schema.oneToMany?_of_oneToMany hfound, rfl, rfl⟩
  · cases h

/-! ## Sort keys of a node -/

namespace ReadPlan

variable {entity base : String} {key : SortKey}

theorem sortColumn_field {name : String} (hpath : key.path = [name]) {column : Expr × Option String}
    (h : sortColumn schema naming entity base key = .ok column) :
    ∃ field stored, schema.field? entity name = some field ∧
      naming.column entity field.name = .ok stored ∧
        column = (.column base stored, some key.label) := by
  unfold sortColumn at h
  rw [hpath] at h
  obtain ⟨field, hfield, h⟩ := bind_eq_ok.1 h
  obtain ⟨stored, hstored, h⟩ := bind_eq_ok.1 h
  exact ⟨field, stored, Schema.field_eq_ok.1 hfield, hstored, (pure_eq_ok.1 h).symm⟩

theorem sortColumn_relation {relation name : String} {names : List String}
    (hpath : key.path = relation :: name :: names) :
    sortColumn schema naming entity base key = .ok (.column base key.label, none) := by
  unfold sortColumn
  rw [hpath]

end ReadPlan

theorem Lifts.supplies {entity : String} {passing : List SortKey} {selection : Selection}
    {node : NodeQuery} (h : Lifts schema naming entity passing selection node) {key : SortKey}
    (hkey : key ∈ passing) : Supplies schema naming key.label key.path entity node := by
  cases h with
  | node head _ _ _ _ _ supplies => exact supplies key (head ▸ List.mem_append_left _ hkey)

/-- A join that is handed a sort key has its value. -/
theorem JoinsLift.supplies {entity root : String} {joins : List PlannedJoin}
    {queries : List (Query × String)} (h : JoinsLift schema naming entity root joins queries)
    {join : PlannedJoin} (hjoin : join ∈ joins) {key : SortKey} (hkey : key ∈ join.keys) :
    ∃ found link inner source, schema.manyToOne? entity join.child.name = some found ∧
      naming.link entity join.child.name = .ok link ∧
      inner.correlation = some ⟨link.toColumn, .column root link.fromColumn⟩ ∧
      (NodeQuery.shaped inner, source) ∈ queries ∧
      Supplies schema naming key.label key.path found.targetEntity inner := by
  induction joins generalizing queries with
  | nil => cases hjoin
  | cons first rest ih =>
    cases h with
    | cons declared linked correlated behind hrest =>
      rcases List.mem_cons.1 hjoin with rfl | hmem
      · exact ⟨_, _, _, _, declared, linked, correlated, List.mem_cons_self .., behind.supplies hkey⟩
      · obtain ⟨found, link, inner, source, hdeclared, hlinked, hcorrelated, hquery, hsupplies⟩ :=
          ih hrest hmem
        exact ⟨found, link, inner, source, hdeclared, hlinked, hcorrelated,
          List.mem_cons_of_mem _ hquery, hsupplies⟩

/-- A node has the value of a sort key if its joins have those of the keys that they are handed. -/
theorem supplies_of_joinsLift {entity : String} {node : NodeQuery} {children : List Selection}
    {joins : List PlannedJoin} {joined listed : List (Query × String)}
    (hplanned : JoinsPlanned children node.head.carried joins)
    (hjoined : JoinsLift schema naming entity node.root joins joined)
    (hall : node.joins = joined ++ listed) (htable : naming.table entity = .ok node.table)
    (hsorts : ReadPlan.sortColumns schema naming entity node.base node.head.carried = .ok node.sorts)
    {key : SortKey} (hkey : key ∈ node.head.carried) (hpath : key.path ≠ []) :
    Supplies schema naming key.label key.path entity node := by
  obtain ⟨column, hcolumn, hsort⟩ := exists_of_mem_left (mapM_eq_ok.1 hsorts) hkey
  match hnames : key.path with
  | [] => exact absurd hnames hpath
  | [name] =>
    obtain ⟨field, stored, hfield, hstored, rfl⟩ := ReadPlan.sortColumn_field hnames hsort
    exact .field htable hfield hstored hcolumn
  | relation :: name :: names =>
    obtain rfl := Except.ok.inj ((ReadPlan.sortColumn_relation hnames).symm.trans hsort)
    obtain ⟨before, join, after, rfl, rfl, hhanded, -⟩ :=
      hplanned.handed key hkey relation _ (SortKey.behind?_eq_some.2 ⟨name, names, hnames, rfl⟩)
    obtain ⟨found, link, inner, source, hdeclared, hlinked, hcorrelated, hquery, hsupplies⟩ :=
      hjoined.supplies (List.mem_append_right _ (List.mem_cons_self ..)) hhanded
    exact .relation hdeclared hlinked (hall ▸ List.mem_append_left _ hquery) hcorrelated hsupplies
      hcolumn

/-! ## From plans to queries -/

namespace ReadPlan

mutual

/-- Compiled, the plan of a read has the values to sort by at every node. -/
theorem lifts_compile : (plan : ReadPlan) → ∀ {entity : String} {passing : List SortKey}
    {selection : Selection}, plan = ofSelection schema entity passing selection →
      selection.Each ReadArgs.Ordered → (∀ key ∈ passing, key.path ≠ []) →
        ∀ {correlation : Option Correlation} {isList : Bool} {s s' : Aliases} {query : Query},
          Yields (plan.compile schema naming correlation isList) s query s' →
            ∃ node label, query = NodeQuery.query node isList label ∧
              node.correlation = correlation ∧ Lifts schema naming entity passing selection node
  | .refused fault, _, _, _, _, _, _, _, _, _, _, _, h => by
    rw [compile] at h
    exact absurd h not_yields_throw
  | .node head joins lists, entity, passing, selection, hplan, hordered, hpassing, correlation,
      isList, s, s', query, h => by
    cases hsteps : SortStep.ofKeys schema entity (selection.head entity passing).carried with
    | error fault =>
      obtain ⟨name, fields, args, manyToOne, oneToMany⟩ := selection
      change SortStep.ofKeys schema entity (passing ++ args.sortKeys) = _ at hsteps
      rw [ofSelection, hsteps] at hplan
      cases hplan
    | ok steps =>
      have hplanned := ofSelection_eq_node hsteps
      obtain ⟨rfl, hjoins, hlists⟩ := ReadPlan.node.inj (hplan.trans hplanned)
      obtain ⟨node, label, rfl, hhead, rfl, hrun⟩ := yields_node h
      obtain ⟨joined, listed, s₁, s₂, s₃, hall, hjoined, hlisted, -⟩ := hrun.parts
      have htable := hrun.table
      have hsorts := hrun.sorts
      have hentity : node.head.entity = entity := congrArg ReadHead.entity hhead
      rw [hentity] at hjoined hlisted htable hsorts
      rw [← hhead] at hjoins hplanned
      rw [Selection.each_iff] at hordered
      have hpaths : ∀ key ∈ node.head.carried, key.path ≠ [] := by
        rw [hhead]
        exact List.forall_mem_append.2 ⟨hpassing, hordered.1⟩
      have hplannedJoins := joinsPlanned_plannedJoins selection.manyToOne node.head.carried
      have hones := lifts_compileJoins joins hjoins
        (fun join hjoin => hplannedJoins.ordered hordered.2.1 hjoin) hjoined
      have hmany := lifts_compileLists lists hlists hordered.2.2 hlisted
      exact ⟨node, label, rfl, rfl, .node hhead hplanned hplannedJoins hones hmany hall
        fun key hkey => supplies_of_joinsLift hplannedJoins hones hall htable hsorts hkey
          (hpaths key hkey)⟩

theorem lifts_compileJoins : (joins : List JoinPlan) → ∀ {entity : String}
    {planned : List PlannedJoin}, joins = planned.map (PlannedJoin.plan schema entity) →
      (∀ join ∈ planned, join.child.Each ReadArgs.Ordered ∧ ∀ key ∈ join.keys, key.path ≠ []) →
        ∀ {root : String} {s s' : Aliases} {queries : List (Query × String)},
          Yields (compileJoins schema naming entity root false joins) s queries s' →
            JoinsLift schema naming entity root planned queries
  | [], _, planned, hplan, _, _, _, _, _, h => by
    obtain rfl := List.map_eq_nil_iff.1 hplan.symm
    rw [compileJoins] at h
    obtain ⟨rfl, -⟩ := yields_pure.1 h
    exact .nil
  | .unknown fault :: rest, _, _, _, _, _, _, _, _, h => absurd h not_yields_joins_unknown
  | .on relation requested plan :: rest, _, planned, hplan, hordered, _, _, _, _, h => by
    obtain ⟨join, others, rfl, hjoin, hothers⟩ := List.map_eq_cons_iff.1 hplan.symm
    obtain ⟨found, hfound, rfl, hbehind⟩ := PlannedJoin.plan_eq_on hjoin
    obtain ⟨⟨heach, hpaths⟩, hordered⟩ := List.forall_mem_cons.1 hordered
    obtain ⟨link, query, later, s₁, hlink, hquery, hlater, rfl⟩ := yields_joins_cons h
    obtain ⟨inner, label, rfl, hcorrelated, hlifts⟩ :=
      lifts_compile plan hbehind heach hpaths hquery
    exact .cons hfound hlink hcorrelated hlifts
      (lifts_compileJoins rest hothers.symm hordered hlater)

theorem lifts_compileLists : (lists : List JoinPlan) → ∀ {entity : String}
    {children : List Selection}, lists = children.map (Selection.listPlan schema entity) →
      Selection.EachAll ReadArgs.Ordered children →
        ∀ {root : String} {s s' : Aliases} {queries : List (Query × String)},
          Yields (compileJoins schema naming entity root true lists) s queries s' →
            ListsLift schema naming entity root children queries
  | [], _, children, hplan, _, _, _, _, _, h => by
    obtain rfl := List.map_eq_nil_iff.1 hplan.symm
    rw [compileJoins] at h
    obtain ⟨rfl, -⟩ := yields_pure.1 h
    exact .nil
  | .unknown fault :: rest, _, _, _, _, _, _, _, _, h => absurd h not_yields_joins_unknown
  | .on relation requested plan :: rest, _, children, hplan, hordered, _, _, _, _, h => by
    obtain ⟨child, others, rfl, hchild, hothers⟩ := List.map_eq_cons_iff.1 hplan.symm
    obtain ⟨found, hfound, rfl, hbehind⟩ := Selection.listPlan_eq_on hchild
    rw [Selection.EachAll] at hordered
    obtain ⟨link, query, later, s₁, hlink, hquery, hlater, rfl⟩ := yields_joins_cons h
    obtain ⟨inner, label, rfl, hcorrelated, hlifts⟩ :=
      lifts_compile plan hbehind hordered.1 (fun key hkey => absurd hkey List.not_mem_nil) hquery
    have hquery : inner.query true label = collectedQuery child.name
        (child.args.sortKeys.map fun key => ⟨key.label, key.direction⟩) false inner.shaped label := by
      obtain ⟨hhead, -⟩ := hlifts
      rw [NodeQuery.query, if_pos rfl, collect, hhead]
      rfl
    rw [hquery]
    exact .cons hfound hlink hcorrelated hlifts
      (lifts_compileLists rest hothers.symm hordered.2 hlater)

end

end ReadPlan

/-! ## Reads -/

/-- A read is collected in the order of its sort keys, and their values are carried up from the
joins of their relations, as at every node below. The sort keys have paths, as those of requests
that are read have (`ReadRequest.ordered_ofJson?`). -/
theorem Selection.compile_lifts {entity : String} {selection : Selection}
    (hordered : selection.Each ReadArgs.Ordered) {one : Bool} {s s' : Aliases} {query : Query}
    (h : Yields (if one then selection.compileOne schema naming entity
      else selection.compile schema naming entity) s query s') :
    ∃ node label, query = collectedQuery selection.name
        (selection.args.sortKeys.map fun key => ⟨key.label, key.direction⟩) one
        (NodeQuery.shaped node) label ∧
      node.correlation = none ∧ Lifts schema naming entity [] selection node := by
  obtain ⟨rows, label, s₁, hrows, rfl⟩ : ∃ rows label s₁,
      Yields (selection.compileRows schema naming entity) s rows s₁ ∧
        query = collectedQuery selection.name (ReadPlan.sortItems selection.args.sortKeys) one rows
          label := by
    cases one with
    | false =>
      rw [if_neg Bool.false_ne_true, compile_eq] at h
      obtain ⟨rows, s₁, hrows, h⟩ := yields_bind.1 h
      obtain ⟨label, s₂, -, h⟩ := yields_bind.1 h
      exact ⟨rows, label, s₁, hrows, (yields_pure.1 h).1⟩
    | true =>
      rw [if_pos rfl, compileOne_eq] at h
      obtain ⟨rows, s₁, hrows, h⟩ := yields_bind.1 h
      exact ⟨rows, _, s₁, hrows, (yields_pure.1 h).1⟩
  obtain ⟨node, unused, rfl, hcorrelation, hlifts⟩ := ReadPlan.lifts_compile _ rfl hordered
    (fun key hkey => absurd hkey List.not_mem_nil) hrows
  exact ⟨node, label, rfl, hcorrelation, hlifts⟩

/-- Authors by their names, each with their books by the names of their writers, which are not asked
for. -/
def Library.authorsByName : Selection where
  name := "Author"
  fields := ["fullName"]
  args := { order := some [⟨["fullName"], "ob.fullName", .asc⟩] }
  oneToMany := [{
    name := "books"
    fields := ["title"]
    args := {
      order := some [⟨["writer", "fullName"], "ob.writer.fullName", .desc⟩, ⟨["id"], "ob.id", .asc⟩] }
  }]

theorem Selection.compile_lifts_authorsByName : ∃ query s' node label,
    Yields (Library.authorsByName.compile Library.schema Library.naming "Author") {} query s' ∧
      query = collectedQuery "Author" [⟨"ob.fullName", .asc⟩] false (NodeQuery.shaped node) label ∧
        node.correlation = none ∧
          Lifts Library.schema Library.naming "Author" [] Library.authorsByName node := by
  have hordered : Library.authorsByName.Each ReadArgs.Ordered := by
    simp [Library.authorsByName, Selection.Each, Selection.EachAll, ReadArgs.Ordered,
      ReadArgs.sortKeys]
  obtain ⟨query, s', hquery⟩ : ∃ query s', Yields
      (Library.authorsByName.compile Library.schema Library.naming "Author") {} query s' :=
    ⟨_, _, rfl⟩
  have hlisted : Yields (if false = true then
      Library.authorsByName.compileOne Library.schema Library.naming "Author"
      else Library.authorsByName.compile Library.schema Library.naming "Author") {} query s' :=
    hquery
  obtain ⟨node, label, hcollected, hcorrelation, hlifts⟩ :=
    Selection.compile_lifts hordered hlisted
  exact ⟨query, s', node, label, hquery, hcollected, hcorrelation, hlifts⟩

end EntitySql
