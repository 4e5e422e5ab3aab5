import EntitySql.Proofs.Filter.Faults
import EntitySql.Proofs.Read.Lifted

/-!
# Reads without their orders

What the orders of a read change in its statement: which relations are joined and what is carried beside
the documents, but not the documents.

* `Selection.unordered` is a read without its orders.
* `Simulates x y R` says that wherever `x` gives something, `y` does too, and that the two are related. The
  aliases that the two have taken may be different.
* `SameShape` relates the two nodes of a read and of the read without orders: their documents have the same
  columns, of the fields and of the relations that are requested, and the ordered node has joins of which
  no document has anything (`SortJoins`).
* `ReadPlan.simulates_compile` goes through a plan, `Selection.unordered_sameShape` is about whole reads.
-/

namespace EntitySql

set_option autoImplicit false

open Compile

/-! ## Reads without orders -/

namespace Selection

mutual

/-- The same read without any order. -/
def unordered : Selection → Selection
  | { name, fields, args, manyToOne, oneToMany } =>
    { name, fields, args := { args with order := none }, manyToOne := unorderedAll manyToOne,
      oneToMany := unorderedAll oneToMany }
termination_by structural selection => selection

def unorderedAll : List Selection → List Selection
  | [] => []
  | child :: rest => child.unordered :: unorderedAll rest
termination_by structural children => children

end

theorem unorderedAll_eq_map (children : List Selection) :
    unorderedAll children = children.map unordered := by
  induction children with
  | nil => rfl
  | cons child rest ih => rw [unorderedAll, ih, List.map_cons]

theorem unordered_eq (selection : Selection) :
    selection.unordered = { selection with
      args := { selection.args with order := none }
      manyToOne := selection.manyToOne.map unordered
      oneToMany := selection.oneToMany.map unordered } := by
  cases selection
  rw [unordered, unorderedAll_eq_map, unorderedAll_eq_map]

@[simp] theorem name_unordered (selection : Selection) : selection.unordered.name = selection.name := by
  rw [unordered_eq]

end Selection

/-! ## Simulations -/

section

variable {α α' β β' : Type}

/-- Wherever the first computation gives something, the second does from every state, and the two are
related. -/
def Simulates (x : Compile α) (y : Compile β) (R : α → β → Prop) : Prop :=
  ∀ s a s', Yields x s a s' → ∀ t, ∃ b t', Yields y t b t' ∧ R a b

namespace Simulates

variable {x : Compile α} {y : Compile β} {R : α → β → Prop}

theorem mono {S : α → β → Prop} (h : Simulates x y R) (hRS : ∀ a b, R a b → S a b) :
    Simulates x y S := by
  intro s a s' hx t
  obtain ⟨b, t', hy, hR⟩ := h s a s' hx t
  exact ⟨b, t', hy, hRS a b hR⟩

theorem pure {a : α} {b : β} (h : R a b) :
    Simulates (Pure.pure a : Compile α) (Pure.pure b : Compile β) R := by
  intro s a' s' hx t
  obtain ⟨rfl, rfl⟩ := yields_pure.1 hx
  exact ⟨b, t, yields_pure.2 ⟨rfl, rfl⟩, h⟩

theorem throw (fault : Fault) : Simulates (throw fault : Compile α) y R :=
  fun _ _ _ hx => absurd hx not_yields_throw

theorem fresh (stem : String) :
    Simulates (Compile.fresh stem) (Compile.fresh stem) fun _ _ => True := by
  intro s a s' _ t
  exact ⟨_, _, yields_fresh.2 ⟨rfl, rfl⟩, trivial⟩

theorem ofResult {result : Result α} {other : Result β}
    (h : ∀ a, result = .ok a → ∃ b, other = .ok b ∧ R a b) :
    Simulates (Compile.ofResult result) (Compile.ofResult other) R := by
  intro s a s' hx t
  obtain ⟨hresult, rfl⟩ := yields_ofResult.1 hx
  obtain ⟨b, hother, hR⟩ := h a hresult
  exact ⟨b, t, yields_ofResult.2 ⟨hother, rfl⟩, hR⟩

/-- The same result gives the same. -/
theorem ofResult_self (result : Result α) :
    Simulates (Compile.ofResult result) (Compile.ofResult result)
      fun a b => a = b ∧ result = .ok a :=
  ofResult fun a ha => ⟨a, ha, rfl, ha⟩

theorem bind {f : α → Compile α'} {g : β → Compile β'} {S : α' → β' → Prop}
    (h : Simulates x y R) (hfg : ∀ a b, R a b → Simulates (f a) (g b) S) :
    Simulates (x >>= f) (y >>= g) S := by
  intro s a' s' hx t
  obtain ⟨a, s₁, ha, hf⟩ := yields_bind.1 hx
  obtain ⟨b, t₁, hb, hR⟩ := h s a s₁ ha t
  obtain ⟨b', t', hg, hS⟩ := hfg a b hR s₁ a' s' hf t₁
  exact ⟨b', t', yields_bind.2 ⟨b, t₁, hb, hg⟩, hS⟩

theorem map {f : α → α'} {g : β → β'} {S : α' → β' → Prop} (h : Simulates x y R)
    (hfg : ∀ a b, R a b → S (f a) (g b)) :
    Simulates (do return f (← x)) (do return g (← y)) S :=
  h.bind fun a b hR => pure (hfg a b hR)

end Simulates

end

variable {schema : Schema} {naming : Naming} {entity : String}

/-! ## Filters -/

/-- Predicates are compiled whatever the source of the column is. -/
theorem Predicate.exists_compileAll {field : Field} {predicates : List Predicate}
    {source other : String} {conditions : List Condition}
    (h : compileAll naming entity source field predicates = .ok conditions) :
    ∃ others, compileAll naming entity other field predicates = .ok others ∧ True := by
  obtain ⟨column, hcolumn, hconditions⟩ := bind_eq_ok.1 h
  obtain ⟨others, hothers⟩ : ∃ others,
      predicates.mapM (compile (.column other column) field.sqlType) = .ok others := by
    rw [exists_mapM_eq_ok_iff]
    intro predicate hpredicate
    rw [exists_compile_iff, ← exists_compile_iff (.column source column) field.sqlType]
    exact exists_mapM_eq_ok_iff.1 ⟨conditions, hconditions⟩ predicate hpredicate
  exact ⟨others, bind_eq_ok.2 ⟨column, hcolumn, hothers⟩, trivial⟩

theorem simulates_compileExists {relation target source other : String}
    {inner inner' : String → Compile Condition}
    (hinner : ∀ joined joined', Simulates (inner joined) (inner' joined') fun _ _ => True) :
    Simulates (compileExists naming entity source relation target inner)
      (compileExists naming entity other relation target inner') fun _ _ => True := by
  refine (Simulates.ofResult_self _).bind fun link _ hlink => ?_
  obtain ⟨rfl, -⟩ := hlink
  refine (Simulates.ofResult_self _).bind fun table _ htable => ?_
  obtain ⟨rfl, -⟩ := htable
  refine (Simulates.fresh "w").bind fun joined joined' _ => ?_
  exact (hinner joined joined').map fun _ _ _ => trivial

namespace Filter

theorem simulates_compileOnRelation {relation target : String} (source other : String)
    (predicates : List Predicate) :
    Simulates (compileOnRelation naming entity source relation target predicates)
      (compileOnRelation naming entity other relation target predicates) fun _ _ => True := by
  cases predicates with
  | nil =>
    have hexists : Simulates
        (compileExists naming entity source relation target fun _ => return .all [])
        (compileExists naming entity other relation target fun _ => return .all [])
        fun _ _ => True := simulates_compileExists fun _ _ => .pure trivial
    exact hexists.map fun _ _ _ => trivial
  | cons predicate rest => exact .throw _

mutual

/-- A filter that is compiled for a source is compiled for every source. -/
theorem simulates_compile : (filter : Filter) → ∀ entity source other,
    Simulates (filter.compile schema naming entity source)
      (filter.compile schema naming entity other) fun _ _ => True
  | { terms, conjuncts, alternatives }, entity, source, other => by
    rw [compile, compile]
    refine (simulates_compileTerms terms entity source other).bind fun _ _ _ => ?_
    refine (simulates_compileList conjuncts entity source other).bind fun _ _ _ => ?_
    exact (simulates_compileList alternatives entity source other).map fun _ _ _ => trivial

theorem simulates_compileTerm : (term : Term) → ∀ entity source other,
    Simulates (compileTerm schema naming entity source term)
      (compileTerm schema naming entity other term) fun _ _ => True
  | .predicates name predicates, entity, source, other => by
    rw [compileTerm, compileTerm]
    refine (Simulates.ofResult_self _).bind fun found _ hfound => ?_
    obtain ⟨rfl, -⟩ := hfound
    cases found with
    | none => exact .throw _
    | some member =>
      cases member with
      | field field => exact .ofResult fun conditions h => Predicate.exists_compileAll h
      | manyToOne relation => exact simulates_compileOnRelation source other predicates
      | oneToMany relation => exact simulates_compileOnRelation source other predicates
  | .nested name filter, entity, source, other => by
    rw [compileTerm, compileTerm]
    refine (Simulates.ofResult_self _).bind fun found _ hfound => ?_
    obtain ⟨rfl, -⟩ := hfound
    have hinner := fun target joined joined' => simulates_compile filter target joined joined'
    cases found with
    | none => exact .throw _
    | some member =>
      cases member with
      | field field => exact (Simulates.ofResult_self _).mono fun _ _ _ => trivial
      | manyToOne relation =>
        exact (simulates_compileExists (hinner _)).map fun _ _ _ => trivial
      | oneToMany relation =>
        exact (simulates_compileExists (hinner _)).map fun _ _ _ => trivial

theorem simulates_compileTerms : (terms : List Term) → ∀ entity source other,
    Simulates (compileTerms schema naming entity source terms)
      (compileTerms schema naming entity other terms) fun _ _ => True
  | [], _, _, _ => .pure trivial
  | term :: rest, entity, source, other => by
    rw [compileTerms, compileTerms]
    refine (simulates_compileTerm term entity source other).bind fun _ _ _ => ?_
    exact (simulates_compileTerms rest entity source other).map fun _ _ _ => trivial

theorem simulates_compileList : (filters : List Filter) → ∀ entity source other,
    Simulates (compileList schema naming entity source filters)
      (compileList schema naming entity other filters) fun _ _ => True
  | [], _, _, _ => .pure trivial
  | filter :: rest, entity, source, other => by
    rw [compileList, compileList]
    refine (simulates_compile filter entity source other).bind fun _ _ _ => ?_
    exact (simulates_compileList rest entity source other).map fun _ _ _ => trivial

end

end Filter

/-! ## Shapes -/

/-- The query for a document with columns under labels, and after them with relations. -/
def projection (base output : String) (fields : List (String × String)) (relations : List String) :
    Query :=
  documentQuery output (fields.map (fun field => (.column base field.1, some field.2)) ++
    relations.map fun relation => (.column base relation, none))

/-- Joins of many-to-ones of which nothing is shown. Each is correlated on the columns of its relation,
and so are those behind it, of which it shows nothing either. -/
inductive SortJoins (schema : Schema) (naming : Naming) :
    String → String → List String → List (Query × String) → Prop
  | nil {entity root : String} : SortJoins schema naming entity root [] []
  | cons {entity root relation output source : String} {relations further : List String}
      {queries : List (Query × String)} {inner : NodeQuery} {found : ManyToOne} {link : Link}
      (declared : schema.manyToOne? entity relation = some found)
      (linked : naming.link entity relation = .ok link)
      (table : naming.table found.targetEntity = .ok inner.table)
      (correlated : inner.correlation = some ⟨link.toColumn, .column root link.fromColumn⟩)
      (document : inner.document = projection inner.base output [] [])
      (behind : SortJoins schema naming found.targetEntity inner.root further inner.joins)
      (rest : SortJoins schema naming entity root relations queries) :
      SortJoins schema naming entity root (relation :: relations) ((inner.shaped, source) :: queries)

mutual

/-- A node of a read, and the same node without orders. Their documents have the same columns: the fields
in order under their names, then the many-to-ones that are requested, then the one-to-manys. The ordered
node has further joins, for relations that are not requested. -/
inductive SameShape (schema : Schema) (naming : Naming) :
    String → Selection → NodeQuery → NodeQuery → Prop
  | node {entity output output' : String} {selection : Selection} {node plain : NodeQuery}
      {columns further : List String} {ones ones' added listed listed' : List (Query × String)}
      (name : node.head.name = selection.name) (plainName : plain.head.name = selection.name)
      (stored : List.Forall₂ (fun field column => naming.column entity field = .ok column)
        selection.fields columns)
      (document : node.document = projection node.base output (columns.zip selection.fields)
        (selection.manyToOne.map (·.name) ++ selection.oneToMany.map (·.name)))
      (plainDocument : plain.document = projection plain.base output' (columns.zip selection.fields)
        (selection.manyToOne.map (·.name) ++ selection.oneToMany.map (·.name)))
      (joins : node.joins = ones ++ added ++ listed) (plainJoins : plain.joins = ones' ++ listed')
      (manyToOne : OnesShape schema naming entity node.root plain.root selection.manyToOne ones ones')
      (sorting : SortJoins schema naming entity node.root further added)
      (hidden : ∀ relation ∈ further, relation ∉ selection.manyToOne.map (·.name) ∧
        relation ∉ selection.oneToMany.map (·.name))
      (oneToMany : ListsShape schema naming entity node.root plain.root selection.oneToMany listed
        listed')
      (unsorted : plain.sorts = []) : SameShape schema naming entity selection node plain

/-- The joins of requested many-to-ones, one document for each. -/
inductive OnesShape (schema : Schema) (naming : Naming) : String → String → String →
    List Selection → List (Query × String) → List (Query × String) → Prop
  | nil {entity root root' : String} : OnesShape schema naming entity root root' [] [] []
  | cons {entity root root' source source' : String} {child : Selection}
      {children : List Selection} {queries queries' : List (Query × String)}
      {inner plain : NodeQuery} {found : ManyToOne} {link : Link}
      (declared : schema.manyToOne? entity child.name = some found)
      (linked : naming.link entity child.name = .ok link)
      (correlated : inner.correlation = some ⟨link.toColumn, .column root link.fromColumn⟩)
      (plainCorrelated : plain.correlation = some ⟨link.toColumn, .column root' link.fromColumn⟩)
      (behind : SameShape schema naming found.targetEntity child inner plain)
      (rest : OnesShape schema naming entity root root' children queries queries') :
      OnesShape schema naming entity root root' (child :: children)
        ((inner.shaped, source) :: queries) ((plain.shaped, source') :: queries')

/-- The joins of requested one-to-manys, the documents of each of which are collected. -/
inductive ListsShape (schema : Schema) (naming : Naming) : String → String → String →
    List Selection → List (Query × String) → List (Query × String) → Prop
  | nil {entity root root' : String} : ListsShape schema naming entity root root' [] [] []
  | cons {entity root root' label label' source source' : String} {child : Selection}
      {children : List Selection} {queries queries' : List (Query × String)}
      {inner plain : NodeQuery} {found : OneToMany} {link : Link}
      (declared : schema.oneToMany? entity child.name = some found)
      (linked : naming.link entity child.name = .ok link)
      (correlated : inner.correlation = some ⟨link.toColumn, .column root link.fromColumn⟩)
      (plainCorrelated : plain.correlation = some ⟨link.toColumn, .column root' link.fromColumn⟩)
      (behind : SameShape schema naming found.targetEntity child inner plain)
      (rest : ListsShape schema naming entity root root' children queries queries') :
      ListsShape schema naming entity root root' (child :: children)
        ((collectedQuery child.name (ReadPlan.sortItems child.args.sortKeys) false inner.shaped label,
          source) :: queries)
        ((collectedQuery child.name [] false plain.shaped label', source') :: queries')

end

/-- A read and the same read without orders are compiled to nodes of the same shape, with their joins to
the rows above. -/
def Reshapes (schema : Schema) (naming : Naming) (entity : String) (selection : Selection)
    (isList : Bool) (correlation correlation' : Option Correlation) (query query' : Query) : Prop :=
  ∃ node plain label label', query = NodeQuery.query node isList label ∧
    query' = NodeQuery.query plain isList label' ∧ node.correlation = correlation ∧
    plain.correlation = correlation' ∧ node.head.args = selection.args ∧ plain.head.args.order = none ∧
    SameShape schema naming entity selection node plain

theorem SameShape.names {selection : Selection} {node plain : NodeQuery}
    (h : SameShape schema naming entity selection node plain) :
    node.head.name = selection.name ∧ plain.head.name = selection.name := by
  cases h with
  | node name plainName => exact ⟨name, plainName⟩

theorem NodeQuery.query_list (node : NodeQuery) (label : String) :
    node.query true label = collectedQuery node.head.name
      (ReadPlan.sortItems node.head.args.sortKeys) false node.shaped label :=
  rfl

/-! ## Documents -/

namespace ReadPlan

/-- The columns of fields under their names, as far as every field has one. -/
theorem fieldColumns_eq_ok_iff {base : String} {fields : List String}
    {pairs : List (Expr × Option String)} :
    (fields.mapM fun field => do
      return (Expr.column base (← naming.column entity field), some field) : Result _) = .ok pairs ↔
    ∃ columns, List.Forall₂ (fun field column => naming.column entity field = .ok column) fields
        columns ∧
      pairs = (columns.zip fields).map fun pair => (.column base pair.1, some pair.2) := by
  rw [mapM_eq_ok]
  constructor
  · intro h
    induction h with
    | nil => exact ⟨[], .nil, rfl⟩
    | cons hpair _ ih =>
      obtain ⟨column, hcolumn, hpair⟩ := bind_eq_ok.1 hpair
      obtain rfl := pure_eq_ok.1 hpair
      obtain ⟨columns, hstored, rfl⟩ := ih
      exact ⟨column :: columns, .cons hcolumn hstored, rfl⟩
  · rintro ⟨columns, hstored, rfl⟩
    induction hstored with
    | nil => exact .nil
    | cons hcolumn _ ih => exact .cons (bind_eq_ok.2 ⟨_, hcolumn, rfl⟩) ih

/-- A document is made if its fields have columns, whatever the labels are. -/
theorem document_eq_ok_iff {base output : String} {fields relations : List String} {query : Query} :
    document naming entity base output fields relations = .ok query ↔
      ∃ columns, List.Forall₂ (fun field column => naming.column entity field = .ok column) fields
          columns ∧
        query = projection base output (columns.zip fields) relations := by
  constructor
  · intro h
    obtain ⟨pairs, hpairs, h⟩ := bind_eq_ok.1 h
    obtain ⟨columns, hstored, rfl⟩ := fieldColumns_eq_ok_iff.1 hpairs
    exact ⟨columns, hstored, (pure_eq_ok.1 h).symm⟩
  · rintro ⟨columns, hstored, rfl⟩
    exact bind_eq_ok.2 ⟨_, fieldColumns_eq_ok_iff.2 ⟨columns, hstored, rfl⟩, rfl⟩

/-! ## Joins for sorting only -/

/-- A join that only sorting needs reads nothing of its relation. -/
def Unread (join : PlannedJoin) : Prop :=
  join.requested = false ∧ join.child = { name := join.child.name }

theorem shownRelations_append (joins others : List JoinPlan) :
    shownRelations (joins ++ others) = shownRelations joins ++ shownRelations others :=
  List.filterMap_append

theorem shownRelations_unread {planned : List PlannedJoin} (h : ∀ join ∈ planned, Unread join) :
    shownRelations (planned.map (PlannedJoin.plan schema entity)) = [] := by
  unfold shownRelations
  rw [List.filterMap_map, List.filterMap_eq_nil_iff]
  intro join hjoin
  obtain ⟨hrequested, -⟩ := h join hjoin
  rw [Function.comp_apply, PlannedJoin.plan, joinManyToOne, hrequested]
  cases schema.manyToOne entity join.child.name <;> rfl

theorem plannedJoins_of_no_children (carried : List SortKey) :
    ∀ join ∈ plannedJoins [] carried, Unread join := by
  rw [plannedJoins, List.map_nil, List.nil_append, handOut_bare (nodup_addedRelations _ _)
    fun _ _ => List.not_mem_nil, List.forall_mem_map]
  exact fun relation _ => ⟨rfl, rfl⟩

theorem ofKeys_of_plan_eq_node {passing : List SortKey} {selection : Selection} {head : ReadHead}
    {joins lists : List JoinPlan}
    (h : .node head joins lists = ofSelection schema entity passing selection) :
    ∃ steps, SortStep.ofKeys schema entity (selection.head entity passing).carried = .ok steps := by
  cases hsteps : SortStep.ofKeys schema entity (selection.head entity passing).carried with
  | ok steps => exact ⟨steps, rfl⟩
  | error fault => cases h.trans (ofSelection_eq_refused hsteps)

mutual

/-- A relation of which nothing is read is compiled to a document of nothing, and further such joins. -/
theorem sortJoins_compile : (plan : ReadPlan) → ∀ {entity relation : String} {passing : List SortKey},
    plan = ofSelection schema entity passing { name := relation } →
      ∀ {correlation : Option Correlation} {s s' : Aliases} {query : Query},
        Yields (plan.compile schema naming correlation false) s query s' →
          ∃ node further output, query = NodeQuery.shaped node ∧ node.correlation = correlation ∧
            naming.table entity = .ok node.table ∧
            node.document = projection node.base output [] [] ∧
            SortJoins schema naming entity node.root further node.joins
  | .refused fault, _, _, _, _, _, _, _, _, h => by
    rw [compile] at h
    exact absurd h not_yields_throw
  | .node head joins lists, entity, relation, passing, hplan, correlation, s, s', query, h => by
    obtain ⟨steps, hsteps⟩ := ofKeys_of_plan_eq_node hplan
    obtain ⟨rfl, hjoins, hlists⟩ := ReadPlan.node.inj (hplan.trans (ofSelection_eq_node hsteps))
    have hunread := plannedJoins_of_no_children
      (({ name := relation } : Selection).head entity passing).carried
    obtain rfl : lists = [] := hlists
    obtain ⟨node, label, rfl, hhead, rfl, hrun⟩ := yields_node h
    obtain ⟨joined, listed, s₁, s₂, s₃, hall, hjoined, hlisted, -⟩ := hrun.parts
    obtain ⟨output, hdocument⟩ := hrun.document
    have htable := hrun.table
    rw [hhead] at hjoined hdocument htable
    rw [compileJoins] at hlisted
    obtain ⟨rfl, -⟩ := yields_pure.1 hlisted
    rw [List.append_nil] at hall
    rw [hjoins, shownRelations_unread hunread] at hdocument
    obtain ⟨columns, hcolumns, hdocument⟩ := document_eq_ok_iff.1 hdocument
    cases hcolumns
    have hfurther := sortJoins_compileJoins joins hjoins hunread hjoined
    rw [← hall] at hfurther
    exact ⟨node, _, output, rfl, rfl, htable, hdocument, hfurther⟩

theorem sortJoins_compileJoins : (joins : List JoinPlan) → ∀ {entity : String}
    {planned : List PlannedJoin}, joins = planned.map (PlannedJoin.plan schema entity) →
      (∀ join ∈ planned, Unread join) →
        ∀ {root : String} {s s' : Aliases} {queries : List (Query × String)},
          Yields (compileJoins schema naming entity root false joins) s queries s' →
            SortJoins schema naming entity root (planned.map (·.child.name)) queries
  | [], _, planned, hplan, _, _, _, _, _, h => by
    obtain rfl := List.map_eq_nil_iff.1 hplan.symm
    rw [compileJoins] at h
    obtain ⟨rfl, -⟩ := yields_pure.1 h
    exact .nil
  | .unknown fault :: rest, _, _, _, _, _, _, _, _, h => absurd h not_yields_joins_unknown
  | .on relation requested plan :: rest, _, planned, hplan, hunread, _, _, _, _, h => by
    obtain ⟨join, others, rfl, hjoin, hothers⟩ := List.map_eq_cons_iff.1 hplan.symm
    obtain ⟨found, hfound, rfl, hbehind⟩ := PlannedJoin.plan_eq_on hjoin
    obtain ⟨⟨-, hname⟩, hunread⟩ := List.forall_mem_cons.1 hunread
    obtain ⟨link, query, later, s₁, hlink, hquery, hlater, rfl⟩ := yields_joins_cons h
    rw [hname] at hbehind
    obtain ⟨inner, further, output, rfl, hcorrelated, htable, hdocument, hjoins⟩ :=
      sortJoins_compile plan hbehind hquery
    exact .cons hfound hlink htable hcorrelated hdocument hjoins
      (sortJoins_compileJoins rest hothers.symm hunread hlater)

end

/-! ## Joins that are requested -/

theorem shownRelations_requested {planned : List PlannedJoin} (h : ∀ join ∈ planned,
    join.requested = true ∧ ∃ found, schema.manyToOne? entity join.child.name = some found) :
    shownRelations (planned.map (PlannedJoin.plan schema entity)) =
      planned.map (·.child.name) := by
  induction planned with
  | nil => rfl
  | cons join rest ih =>
    obtain ⟨⟨hrequested, found, hfound⟩, hrest⟩ := List.forall_mem_cons.1 h
    have hplan : join.plan schema entity = .on join.child.name true
        (ofSelection schema found.targetEntity join.keys join.child) := by
      rw [PlannedJoin.plan, joinManyToOne, Schema.manyToOne_of_manyToOne? hfound, hrequested]
    rw [List.map_cons, List.map_cons, hplan, ← ih hrest]
    rfl

theorem shownRelations_lists {children : List Selection}
    (h : ∀ child ∈ children, ∃ found, schema.oneToMany? entity child.name = some found) :
    shownRelations (children.map (Selection.listPlan schema entity)) = children.map (·.name) := by
  induction children with
  | nil => rfl
  | cons child rest ih =>
    obtain ⟨⟨found, hfound⟩, hrest⟩ := List.forall_mem_cons.1 h
    have hplan : child.listPlan schema entity = .on child.name true
        (ofSelection schema found.targetEntity [] child) := by
      rw [Selection.listPlan, joinOneToMany, Schema.oneToMany_of_oneToMany? hfound]
    rw [List.map_cons, List.map_cons, hplan, ← ih hrest]
    rfl

end ReadPlan

section

variable {root root' : String} {children : List Selection} {queries queries' : List (Query × String)}

theorem OnesShape.declared (h : OnesShape schema naming entity root root' children queries queries') :
    ∀ child ∈ children, ∃ found, schema.manyToOne? entity child.name = some found := by
  induction children generalizing queries queries' with
  | nil => exact List.forall_mem_nil _
  | cons child rest ih =>
    cases h with
    | cons declared _ _ _ _ hrest => exact List.forall_mem_cons.2 ⟨⟨_, declared⟩, ih hrest⟩

theorem ListsShape.declared
    (h : ListsShape schema naming entity root root' children queries queries') :
    ∀ child ∈ children, ∃ found, schema.oneToMany? entity child.name = some found := by
  induction children generalizing queries queries' with
  | nil => exact List.forall_mem_nil _
  | cons child rest ih =>
    cases h with
    | cons declared _ _ _ _ hrest => exact List.forall_mem_cons.2 ⟨⟨_, declared⟩, ih hrest⟩

theorem SortJoins.declared {relations : List String}
    (h : SortJoins schema naming entity root relations queries) :
    ∀ relation ∈ relations, ∃ found, schema.manyToOne? entity relation = some found := by
  induction relations generalizing queries with
  | nil => exact List.forall_mem_nil _
  | cons relation rest ih =>
    cases h with
    | cons declared _ _ _ _ _ hrest => exact List.forall_mem_cons.2 ⟨⟨_, declared⟩, ih hrest⟩

end

/-- The members of an entity have different names. -/
theorem Schema.WellFormed.oneToMany?_eq_none (h : schema.WellFormed) {name : String}
    {found : ManyToOne} (hfound : schema.manyToOne? entity name = some found) :
    schema.oneToMany? entity name = none := by
  obtain ⟨owner, howner, hrelation⟩ := Option.bind_eq_some_iff.1 hfound
  rw [oneToMany?, howner, Option.bind_some, Option.eq_none_iff_forall_ne_some]
  intro list hlist
  obtain ⟨hmany, hname⟩ := Entity.manyToOne?_eq_some hrelation
  obtain ⟨hlists, hlistName⟩ := Entity.oneToMany?_eq_some hlist
  have hnodup := (h.entity owner (entity?_eq_some howner).1).nodup
  have hdisjoint := (List.nodup_append'.1 hnodup).2.2
  refine hdisjoint ?_ (List.mem_map_of_mem hlists)
  rw [hlistName, ← hname]
  exact List.mem_append_right _ (List.mem_map_of_mem hmany)

/-- A relation that is joined for sorting is not one that a list is read through. -/
theorem SortJoins.not_mem_lists (hschema : schema.WellFormed) {root root' : String}
    {relations : List String} {queries listed listed' : List (Query × String)}
    {children : List Selection} (h : SortJoins schema naming entity root relations queries)
    (hlisted : ListsShape schema naming entity root root' children listed listed') :
    ∀ relation ∈ relations, relation ∉ children.map (·.name) := by
  intro relation hrelation hlist
  obtain ⟨found, hfound⟩ := h.declared relation hrelation
  obtain ⟨child, hchild, rfl⟩ := List.mem_map.1 hlist
  obtain ⟨list, hlist⟩ := hlisted.declared child hchild
  rw [hschema.oneToMany?_eq_none hfound] at hlist
  cases hlist

theorem handOut_nil (earlier : List String) (children : List Selection) :
    handOut [] earlier (children.map (·, true)) =
      children.map fun child => ⟨child, true, []⟩ := by
  induction children generalizing earlier with
  | nil => rfl
  | cons child rest ih =>
    rw [List.map_cons, handOut, ih, List.filterMap_nil, ite_self, List.map_cons]

/-- Without sort keys, what is requested is joined and nothing else. -/
theorem plannedJoins_nil (children : List Selection) :
    plannedJoins children [] = children.map fun child => ⟨child, true, []⟩ := by
  have hadded : addedRelations children [] = [] := rfl
  rw [plannedJoins, hadded, List.map_nil, List.append_nil, handOut_nil]

theorem handOut_requested (carried : List SortKey) (earlier : List String)
    (children : List Selection) :
    (handOut carried earlier (children.map (·, true))).map (·.child) = children ∧
      ∀ join ∈ handOut carried earlier (children.map (·, true)), join.requested = true := by
  induction children generalizing earlier with
  | nil => exact ⟨rfl, List.forall_mem_nil _⟩
  | cons child rest ih =>
    obtain ⟨hchildren, hrequested⟩ := ih (child.name :: earlier)
    rw [List.map_cons, handOut, List.map_cons, hchildren]
    exact ⟨rfl, List.forall_mem_cons.2 ⟨rfl, hrequested⟩⟩

/-- The joins of a node: those that are requested, and then those of other relations, of which nothing is
read. -/
theorem exists_plannedJoins_eq (children : List Selection) (carried : List SortKey) :
    ∃ requested added, plannedJoins children carried = requested ++ added ∧
      requested.map (·.child) = children ∧ (∀ join ∈ requested, join.requested = true) ∧
      ∀ join ∈ added, ReadPlan.Unread join ∧ join.child.name ∉ children.map (·.name) := by
  have hnew : ∀ relation ∈ addedRelations children carried,
      relation ∉ ((children.map (·, true)).map (·.1.name)).reverse ++ [] := by
    intro relation hrelation
    rw [List.append_nil, List.mem_reverse, List.map_map]
    exact (mem_addedRelations.1 hrelation).1
  have hplanned := @handOut_append carried [] (children.map (·, true))
    ((addedRelations children carried).map fun relation => ({ name := relation }, false))
  rw [handOut_bare (nodup_addedRelations _ _) hnew] at hplanned
  obtain ⟨hchildren, hrequested⟩ := handOut_requested carried [] children
  refine ⟨_, _, hplanned, hchildren, hrequested, ?_⟩
  rw [List.forall_mem_map]
  exact fun relation hrelation => ⟨⟨rfl, rfl⟩, (mem_addedRelations.1 hrelation).1⟩

/-! ## Plans -/

/-- The joins of a node and those of the same node without orders: the requested ones in the same shape, and
before them only such of which nothing is shown. -/
def JoinsShape (schema : Schema) (naming : Naming) (entity root root' : String)
    (children : List Selection) (further : List String) (queries queries' : List (Query × String)) :
    Prop :=
  ∃ ones added, queries = ones ++ added ∧
    OnesShape schema naming entity root root' children ones queries' ∧
    SortJoins schema naming entity root further added

namespace ReadPlan

/-- What two nodes show, if their joins are of one shape. -/
theorem shownRelations_eq {selection : Selection} {requested added : List PlannedJoin}
    (hchildren : requested.map (·.child) = selection.manyToOne)
    (hrequested : ∀ join ∈ requested, join.requested = true) (hunread : ∀ join ∈ added, Unread join)
    (hones : ∀ child ∈ selection.manyToOne, ∃ found,
      schema.manyToOne? entity child.name = some found)
    (hlists : ∀ child ∈ selection.oneToMany, ∃ found,
      schema.oneToMany? entity child.name = some found) :
    shownRelations ((requested ++ added).map (PlannedJoin.plan schema entity)) ++
        shownRelations (selection.oneToMany.map (Selection.listPlan schema entity)) =
      selection.manyToOne.map (·.name) ++ selection.oneToMany.map (·.name) := by
  have hdeclared : ∀ join ∈ requested, join.requested = true ∧ ∃ found,
      schema.manyToOne? entity join.child.name = some found := fun join hjoin =>
    ⟨hrequested join hjoin, hones _ (hchildren ▸ List.mem_map_of_mem hjoin)⟩
  rw [List.map_append, shownRelations_append, shownRelations_requested hdeclared,
    shownRelations_unread hunread, List.append_nil, shownRelations_lists hlists, ← hchildren,
    List.map_map]
  rfl

theorem shownRelations_unordered {selection : Selection}
    (hones : ∀ child ∈ selection.manyToOne, ∃ found,
      schema.manyToOne? entity child.name = some found)
    (hlists : ∀ child ∈ selection.oneToMany, ∃ found,
      schema.oneToMany? entity child.name = some found) :
    shownRelations ((selection.manyToOne.map fun child => ⟨child.unordered, true, []⟩).map
        (PlannedJoin.plan schema entity)) ++
      shownRelations ((selection.oneToMany.map Selection.unordered).map
        (Selection.listPlan schema entity)) =
      selection.manyToOne.map (·.name) ++ selection.oneToMany.map (·.name) := by
  rw [shownRelations_requested, shownRelations_lists, List.map_map, List.map_map]
  · simp only [Function.comp_def, Selection.name_unordered]
  · rw [List.forall_mem_map]
    intro child hchild
    rw [Selection.name_unordered]
    exact hlists child hchild
  · rw [List.forall_mem_map]
    intro child hchild
    rw [Selection.name_unordered]
    exact ⟨rfl, hones child hchild⟩

theorem simulates_filterConditions (entity root root' : String) (filter : Option Filter) :
    Simulates (filterConditions schema naming entity root filter)
      (filterConditions schema naming entity root' filter) fun _ _ => True := by
  cases filter with
  | none => exact .pure trivial
  | some filter => exact (filter.simulates_compile entity root root').map fun _ _ _ => trivial

/-- The documents of an entity under two bases have the same columns. -/
theorem simulates_document (base base' output output' : String) (fields relations : List String) :
    Simulates (Compile.ofResult (document naming entity base output fields relations))
      (Compile.ofResult (document naming entity base' output' fields relations))
      fun query query' => ∃ columns,
        List.Forall₂ (fun field column => naming.column entity field = .ok column) fields columns ∧
          query = projection base output (columns.zip fields) relations ∧
          query' = projection base' output' (columns.zip fields) relations := by
  refine .ofResult fun query hquery => ?_
  obtain ⟨columns, hstored, rfl⟩ := document_eq_ok_iff.1 hquery
  exact ⟨_, document_eq_ok_iff.2 ⟨columns, hstored, rfl⟩, columns, hstored, rfl, rfl⟩

/-- A node is compiled to the shape of the same node without orders, if its joins are. -/
theorem simulates_node (hschema : schema.WellFormed) {passing : List SortKey} {selection : Selection}
    {requested added : List PlannedJoin}
    (hchildren : requested.map (·.child) = selection.manyToOne)
    (hrequested : ∀ join ∈ requested, join.requested = true)
    (hadded : ∀ join ∈ added,
      Unread join ∧ join.child.name ∉ selection.manyToOne.map (·.name))
    (hjoins : ∀ root root', Simulates
      (compileJoins schema naming entity root false
        ((requested ++ added).map (PlannedJoin.plan schema entity)))
      (compileJoins schema naming entity root' false ((selection.manyToOne.map
        fun child => ⟨child.unordered, true, []⟩).map (PlannedJoin.plan schema entity)))
      (JoinsShape schema naming entity root root' selection.manyToOne
        (added.map (·.child.name))))
    (hlists : ∀ root root', Simulates
      (compileJoins schema naming entity root true
        (selection.oneToMany.map (Selection.listPlan schema entity)))
      (compileJoins schema naming entity root' true
        ((selection.oneToMany.map Selection.unordered).map (Selection.listPlan schema entity)))
      (ListsShape schema naming entity root root' selection.oneToMany))
    (correlation correlation' : Option Correlation) (isList : Bool) :
    Simulates
      ((ReadPlan.node (selection.head entity passing)
        ((requested ++ added).map (PlannedJoin.plan schema entity))
        (selection.oneToMany.map (Selection.listPlan schema entity))).compile schema naming
          correlation isList)
      ((ReadPlan.node (selection.unordered.head entity [])
        ((selection.manyToOne.map fun child => ⟨child.unordered, true, []⟩).map
          (PlannedJoin.plan schema entity))
        ((selection.oneToMany.map Selection.unordered).map
          (Selection.listPlan schema entity))).compile schema naming correlation' isList)
      (Reshapes schema naming entity selection isList correlation correlation') := by
  rw [compile, compile, Selection.unordered_eq selection]
  refine (Simulates.fresh "root.base").bind fun root root' _ => ?_
  refine (Simulates.ofResult_self (naming.table entity)).bind fun table _ htable => ?_
  obtain ⟨rfl, -⟩ := htable
  refine (hjoins root root').bind fun joined joined' hjoined => ?_
  obtain ⟨ones, sorting, rfl, hones, hsorting⟩ := hjoined
  refine (hlists root root').bind fun listed listed' hlisted => ?_
  refine (simulates_filterConditions entity root root' selection.args.filter).bind
    fun conditions conditions' _ => ?_
  refine (Simulates.fresh "base").bind fun base base' _ => ?_
  refine (Simulates.fresh "o").bind fun output output' _ => ?_
  have hunread : ∀ join ∈ added, Unread join := fun join hjoin => (hadded join hjoin).1
  rw [shownRelations_eq hchildren hrequested hunread hones.declared hlisted.declared,
    shownRelations_unordered hones.declared hlisted.declared]
  refine (simulates_document base base' output output' selection.fields _).bind
    fun document document' hdocuments => ?_
  obtain ⟨columns, hstored, hdocument, hdocument'⟩ := hdocuments
  refine Simulates.bind (R := fun _ sorts' => sorts' = []) (.ofResult fun sorts _ => ⟨[], rfl, rfl⟩)
    fun sorts sorts' hsorts => ?_
  subst hsorts
  have hhidden : ∀ relation ∈ added.map (·.child.name),
      relation ∉ selection.manyToOne.map (·.name) ∧
        relation ∉ selection.oneToMany.map (·.name) := by
    intro relation hrelation
    refine ⟨?_, hsorting.not_mem_lists hschema hlisted relation hrelation⟩
    obtain ⟨join, hjoin, rfl⟩ := List.mem_map.1 hrelation
    exact (hadded join hjoin).2
  let node : NodeQuery := {
    head := selection.head entity passing, table, root, base, correlation
    joins := ones ++ sorting ++ listed, conditions, document, sorts }
  let plain : NodeQuery := {
    head := Selection.head entity [] { selection with
      args := { selection.args with order := none }
      manyToOne := selection.manyToOne.map Selection.unordered
      oneToMany := selection.oneToMany.map Selection.unordered }
    table, root := root', base := base', correlation := correlation', joins := joined' ++ listed'
    conditions := conditions', document := document', sorts := [] }
  have hshape : SameShape schema naming entity selection node plain :=
    .node rfl rfl hstored hdocument hdocument' rfl rfl hones hsorting hhidden hlisted rfl
  cases isList with
  | false => exact .pure ⟨node, plain, "", "", rfl, rfl, rfl, rfl, rfl, rfl, hshape⟩
  | true =>
    refine (Simulates.fresh "agg").map fun label label' _ => ?_
    exact ⟨node, plain, label, label', rfl, rfl, rfl, rfl, rfl, rfl, hshape⟩

/-- A join before others, and the same join before others, under other roots. -/
theorem simulates_joins_cons {relation root root' : String} {isList requested requested' : Bool}
    {plan plan' : ReadPlan} {rest rest' : List JoinPlan}
    {R : Option Correlation → Option Correlation → Query → Query → Prop}
    {S : List (Query × String) → List (Query × String) → Prop}
    (hplan : ∀ correlation correlation', Simulates (plan.compile schema naming correlation isList)
      (plan'.compile schema naming correlation' isList) (R correlation correlation'))
    (hrest : Simulates (compileJoins schema naming entity root isList rest)
      (compileJoins schema naming entity root' isList rest') S) :
    Simulates
      (compileJoins schema naming entity root isList (.on relation requested plan :: rest))
      (compileJoins schema naming entity root' isList (.on relation requested' plan' :: rest'))
      fun queries queries' => ∃ link query query' source source' later later',
        naming.link entity relation = .ok link ∧
        R (some ⟨link.toColumn, .column root link.fromColumn⟩)
          (some ⟨link.toColumn, .column root' link.fromColumn⟩) query query' ∧
        S later later' ∧ queries = (query, source) :: later ∧
        queries' = (query', source') :: later' := by
  rw [compileJoins, compileJoins, compileJoin, compileJoin]
  refine Simulates.bind (R := fun first first' => ∃ link query query' source source',
    naming.link entity relation = .ok link ∧
    R (some ⟨link.toColumn, .column root link.fromColumn⟩)
      (some ⟨link.toColumn, .column root' link.fromColumn⟩) query query' ∧
    first = (query, source) ∧ first' = (query', source')) ?_ ?_
  · refine (Simulates.ofResult_self _).bind fun link _ hlink => ?_
    obtain ⟨rfl, hlink⟩ := hlink
    refine (hplan _ _).bind fun query query' hquery => ?_
    refine (Simulates.fresh "j").map fun source source' _ => ?_
    exact ⟨link, query, query', source, source', hlink, hquery, rfl, rfl⟩
  · rintro _ _ ⟨link, query, query', source, source', hlink, hquery, rfl, rfl⟩
    refine hrest.map fun later later' hlater => ?_
    exact ⟨link, query, query', source, source', later, later', hlink, hquery, hlater, rfl, rfl⟩

mutual

/-- Where a read is compiled, the read without orders is compiled to the same shape. -/
theorem simulates_compile (hschema : schema.WellFormed) : (plan : ReadPlan) →
    ∀ {entity : String} {passing : List SortKey} {selection : Selection},
      plan = ofSelection schema entity passing selection → ∀ correlation correlation' isList,
        Simulates (plan.compile schema naming correlation isList)
          ((ofSelection schema entity [] selection.unordered).compile schema naming correlation'
            isList)
          (Reshapes schema naming entity selection isList correlation correlation')
  | .refused fault, _, _, _, _, _, _, _ => by
    rw [compile]
    exact .throw fault
  | .node head joins lists, entity, passing, selection, hplan, correlation, correlation', isList => by
    obtain ⟨steps, hsteps⟩ := ofKeys_of_plan_eq_node hplan
    obtain ⟨rfl, hjoins, hlists⟩ := ReadPlan.node.inj (hplan.trans (ofSelection_eq_node hsteps))
    obtain ⟨requested, added, hplanned, hchildren, hrequested, hadded⟩ :=
      exists_plannedJoins_eq selection.manyToOne (selection.head entity passing).carried
    rw [hplanned] at hjoins
    have hunordered : ofSelection schema entity [] selection.unordered =
        .node (selection.unordered.head entity [])
          ((selection.manyToOne.map fun child => ⟨child.unordered, true, []⟩).map
            (PlannedJoin.plan schema entity))
          ((selection.oneToMany.map Selection.unordered).map
            (Selection.listPlan schema entity)) := by
      have hnone : SortStep.ofKeys schema entity (selection.unordered.head entity []).carried =
          .ok [] := by
        rw [Selection.unordered_eq selection]
        rfl
      have hcarried : (selection.unordered.head entity []).carried = [] := by
        rw [Selection.unordered_eq selection]
        rfl
      have hones : selection.unordered.manyToOne = selection.manyToOne.map Selection.unordered := by
        rw [Selection.unordered_eq selection]
      have hmany : selection.unordered.oneToMany = selection.oneToMany.map Selection.unordered := by
        rw [Selection.unordered_eq selection]
      have hrequested : (selection.manyToOne.map Selection.unordered).map
          (fun child => (⟨child, true, []⟩ : PlannedJoin)) =
            selection.manyToOne.map fun child => ⟨child.unordered, true, []⟩ := List.map_map
      rw [ofSelection_eq_node hnone, hcarried, hones, hmany, plannedJoins_nil, hrequested]
    have hones := simulates_compileJoins hschema joins hjoins hchildren
      (fun join hjoin => (hadded join hjoin).1)
    have hmany := simulates_compileLists hschema lists hlists
    rw [hjoins] at hones
    rw [hlists] at hmany
    rw [hunordered, hjoins, hlists]
    exact simulates_node hschema hchildren hrequested hadded hones hmany correlation correlation'
      isList

theorem simulates_compileJoins (hschema : schema.WellFormed) : (joins : List JoinPlan) →
    ∀ {entity : String} {requested added : List PlannedJoin} {children : List Selection},
      joins = (requested ++ added).map (PlannedJoin.plan schema entity) →
        requested.map (·.child) = children → (∀ join ∈ added, Unread join) → ∀ root root',
          Simulates (compileJoins schema naming entity root false joins)
            (compileJoins schema naming entity root' false ((children.map
              fun child => ⟨child.unordered, true, []⟩).map (PlannedJoin.plan schema entity)))
            (JoinsShape schema naming entity root root' children (added.map (·.child.name)))
  | [], entity, requested, added, children, hplan, hchildren, _, root, root' => by
    obtain ⟨rfl, rfl⟩ := List.append_eq_nil_iff.1 (List.map_eq_nil_iff.1 hplan.symm)
    obtain rfl : children = [] := hchildren.symm
    rw [compileJoins]
    exact .pure ⟨[], [], rfl, .nil, .nil⟩
  | .unknown fault :: rest, entity, requested, added, children, hplan, hchildren, _, root, root' =>
    fun _ _ _ h => absurd h not_yields_joins_unknown
  | .on relation shown plan :: rest, entity, requested, added, children, hplan, hchildren, hadded,
      root, root' => by
    cases requested with
    | nil =>
      -- nothing more is requested, so that the rest only sorts
      obtain rfl : children = [] := hchildren.symm
      intro s queries s' hqueries t
      rw [List.nil_append] at hplan
      have hsorting := sortJoins_compileJoins _ hplan hadded hqueries
      refine ⟨[], t, ?_, [], queries, rfl, .nil, hsorting⟩
      rw [List.map_nil, List.map_nil, compileJoins]
      exact yields_pure.2 ⟨rfl, rfl⟩
    | cons join others =>
      obtain ⟨hjoin, hrest⟩ := List.cons.inj hplan
      obtain ⟨found, hfound, rfl, hbehind⟩ := PlannedJoin.plan_eq_on hjoin.symm
      obtain rfl : children = join.child :: others.map (·.child) := hchildren.symm
      have hplain : PlannedJoin.plan schema entity ⟨join.child.unordered, true, []⟩ =
          .on join.child.name true
            (ofSelection schema found.targetEntity [] join.child.unordered) := by
        rw [PlannedJoin.plan, joinManyToOne, Selection.name_unordered,
          Schema.manyToOne_of_manyToOne? hfound]
      rw [List.map_cons, List.map_cons, hplain]
      refine (simulates_joins_cons (simulates_compile hschema plan hbehind · · false)
        (simulates_compileJoins hschema rest hrest rfl hadded root root')).mono ?_
      rintro _ _ ⟨link, _, _, source, source', later, later', hlink, hquery, hlater, rfl, rfl⟩
      obtain ⟨inner, plain, _, _, rfl, rfl, hcorrelated, hplainCorrelated, -, -, hshape⟩ := hquery
      obtain ⟨ones, sorting, rfl, hones, hsorting⟩ := hlater
      exact ⟨_, sorting, rfl, .cons hfound hlink hcorrelated hplainCorrelated hshape hones, hsorting⟩

theorem simulates_compileLists (hschema : schema.WellFormed) : (lists : List JoinPlan) →
    ∀ {entity : String} {children : List Selection},
      lists = children.map (Selection.listPlan schema entity) → ∀ root root',
        Simulates (compileJoins schema naming entity root true lists)
          (compileJoins schema naming entity root' true
            ((children.map Selection.unordered).map (Selection.listPlan schema entity)))
          (ListsShape schema naming entity root root' children)
  | [], entity, children, hplan, root, root' => by
    obtain rfl := List.map_eq_nil_iff.1 hplan.symm
    rw [compileJoins]
    exact .pure .nil
  | .unknown fault :: rest, _, _, _, _, _ => fun _ _ _ h => absurd h not_yields_joins_unknown
  | .on relation shown plan :: rest, entity, children, hplan, root, root' => by
    obtain ⟨child, others, rfl, hchild, hothers⟩ := List.map_eq_cons_iff.1 hplan.symm
    obtain ⟨found, hfound, rfl, hbehind⟩ := Selection.listPlan_eq_on hchild
    have hplain : child.unordered.listPlan schema entity = .on child.name true
        (ofSelection schema found.targetEntity [] child.unordered) := by
      rw [Selection.listPlan, joinOneToMany, Selection.name_unordered,
        Schema.oneToMany_of_oneToMany? hfound]
    rw [List.map_cons, List.map_cons, hplain]
    refine (simulates_joins_cons (simulates_compile hschema plan hbehind · · true)
      (simulates_compileLists hschema rest hothers.symm root root')).mono ?_
    rintro _ _ ⟨link, _, _, source, source', later, later', hlink, hquery, hlater, rfl, rfl⟩
    obtain ⟨inner, plain, label, label', rfl, rfl, hcorrelated, hplainCorrelated, hargs, horder,
      hshape⟩ := hquery
    obtain ⟨hname, hplainName⟩ := hshape.names
    have hkeys : plain.head.args.sortKeys = [] := by rw [ReadArgs.sortKeys, horder, Option.getD_none]
    rw [NodeQuery.query_list, hname, hargs, NodeQuery.query_list, hplainName, hkeys]
    exact .cons hfound hlink hcorrelated hplainCorrelated hshape hlater

end

end ReadPlan

/-! ## Reads -/

/-- Wherever a read is compiled, so is the read without orders. At every node that is requested, the
documents of the two statements have the same columns, and differ in the generated aliases only. Joins that
only sorting needs are correlated on the columns of their relations, and nothing of them is shown. -/
theorem Selection.unordered_sameShape {entities : List Entity}
    (hschema : Schema.ofEntities entities = .ok schema) {selection : Selection} {one : Bool}
    {s s' : Aliases} {query : Query}
    (h : Yields (if one then selection.compileOne schema naming entity
      else selection.compile schema naming entity) s query s') (t : Aliases) :
    ∃ query' t' node plain label label',
      Yields (if one then selection.unordered.compileOne schema naming entity
        else selection.unordered.compile schema naming entity) t query' t' ∧
      query = collectedQuery selection.name (ReadPlan.sortItems selection.args.sortKeys) one
        (NodeQuery.shaped node) label ∧
      query' = collectedQuery selection.name [] one (NodeQuery.shaped plain) label' ∧
      node.correlation = none ∧ plain.correlation = none ∧
      SameShape schema naming entity selection node plain := by
  obtain ⟨rfl, hwellFormed⟩ := Schema.ofEntities_eq_ok.1 hschema
  have hsimulates := @ReadPlan.simulates_compile ⟨entities⟩ naming hwellFormed _ entity [] selection
    rfl none none
  have hkeys : selection.unordered.args.sortKeys = [] := by
    rw [unordered_eq]
    rfl
  cases one with
  | false =>
    obtain ⟨query', t', hquery', node, plain, label, label', rfl, rfl, hcorrelation,
      hplainCorrelation, hargs, horder, hshape⟩ := hsimulates true s query s' h t
    obtain ⟨hname, hplainName⟩ := hshape.names
    have hplainKeys : plain.head.args.sortKeys = [] := by
      rw [ReadArgs.sortKeys, horder, Option.getD_none]
    refine ⟨_, t', node, plain, label, label', hquery', ?_, ?_, hcorrelation, hplainCorrelation,
      hshape⟩
    · rw [NodeQuery.query_list, hname, hargs]
    · rw [NodeQuery.query_list, hplainName, hplainKeys]
      rfl
  | true =>
    obtain ⟨rows, s₁, hrows, hquery⟩ := yields_bind.1 h
    obtain ⟨rfl, rfl⟩ := yields_pure.1 hquery
    obtain ⟨rows', t', hrows', node, plain, label, label', rfl, rfl, hcorrelation,
      hplainCorrelation, hargs, horder, hshape⟩ := hsimulates false s rows s' hrows t
    refine ⟨_, t', node, plain, "_final_root", "_final_root",
      yields_bind.2 ⟨_, t', hrows', yields_pure.2 ⟨rfl, rfl⟩⟩, rfl, ?_, hcorrelation,
      hplainCorrelation, hshape⟩
    rw [hkeys, name_unordered]
    rfl

/-- Authors in the order of their names, with their books in that of their writers. -/
theorem Selection.unordered_sameShape_authorsByName :
    ∃ query s' query' t' node plain,
      Yields (Library.authorsByName.compile Library.schema Library.naming "Author") {} query s' ∧
      Yields (Library.authorsByName.unordered.compile Library.schema Library.naming "Author") {}
        query' t' ∧
      SameShape Library.schema Library.naming "Author" Library.authorsByName node plain := by
  obtain ⟨query, s', hquery⟩ : ∃ query s', Yields
      (Library.authorsByName.compile Library.schema Library.naming "Author") {} query s' :=
    ⟨_, _, rfl⟩
  have hlisted : Yields (if false = true then
      Library.authorsByName.compileOne Library.schema Library.naming "Author"
      else Library.authorsByName.compile Library.schema Library.naming "Author") {} query s' :=
    hquery
  obtain ⟨query', t', node, plain, label, label', hquery', -, -, -, -, hshape⟩ :=
    Selection.unordered_sameShape Library.ofEntities_entities hlisted {}
  exact ⟨query, s', query', t', node, plain, hquery, hquery', hshape⟩

end EntitySql
