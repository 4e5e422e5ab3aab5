import EntitySql.Proofs.Filter.Sites
import EntitySql.Proofs.Read.Arguments
import EntitySql.Proofs.Read.Node

/-!
# Names in compiled reads

Every name in the query that a read is compiled to refers to something: to a column of a table, to
the document of a relation, or to a value to sort by that a join carries up.

* `PlanFits` is what a compiled plan has to give, `JoinsFit` what compiled joins have to; the queries
  of the joins form a `QueriesFit`, which grows join by join.
* `planFits_node` goes from the joins of a node to the node, `joinsFit_joinManyToOne` from a plan to
  the join of a relation.
* `joinsFit_sortJoins` and `joinsFit_requestedJoins` find the columns to sort by among the joins.
* `ReadRequest.resolves_compile` puts the checks, the naming and the compilation together.
-/

namespace EntitySql

set_option autoImplicit false

open Compile

variable {V : Type} {db : Instance V} {schema : Schema} {naming : Naming} {layout : Layout}

/-- The row above can be named, under an alias that has been taken, and joined to a table. -/
structure Correlation.Meets (db : Instance V) (around : Context) (s : Aliases) (table : String)
    (joint : Correlation) : Prop where
  column : joint.column ∈ (db table).columns
  parent : ∃ number < s.count "root.base", ∃ above name,
    joint.parent = .column (Aliases.name "root.base" number) name ∧
      Context.range? (Aliases.name "root.base" number) around = some (.table above) ∧
      name ∈ (db above).columns

/-- Compiled, the plan has names that fit, and a column of documents; unless it is a list, there are
columns of the labels beside it. -/
def PlanFits (db : Instance V) (schema : Schema) (naming : Naming) (layout : Layout)
    (table name : String) (labels : List String) (plan : ReadPlan) : Prop :=
  ∀ correlation isList s s' query around,
    (∀ joint ∈ correlation, joint.Meets db around s table) →
      Yields (plan.compile schema naming correlation isList) s query s' →
        s ≤ s' ∧ query.exports db = (if isList then [name] else name :: labels) ∧
          ∀ site ∈ query.sites around, site.Fits db schema layout

/-- Joins beside a row of the entity: their names fit, and there is a column for each of `names`,
whatever stands between the row and them. -/
structure QueriesFit (db : Instance V) (schema : Schema) (layout : Layout) (entity : String)
    (number : Nat) (names : List String) (queries : List (Query × String)) : Prop where
  exports : ∀ name ∈ names, name ∈ Query.joinExports db queries
  labels : ∀ item ∈ Query.joinLevel queries, ∃ label, item.1 = Aliases.name "j" label
  sites : ∀ around before, (∀ item ∈ before, item.1 ≠ Aliases.name "root.base" number) →
    ∀ site ∈ Query.joinSites around ((Aliases.name "root.base" number,
      .table (layout.table entity)) :: before) queries, site.Fits db schema layout

/-- Compiled, the joins have names that fit, and columns for the relations that are shown and for the
labels. -/
def JoinsFit (db : Instance V) (schema : Schema) (naming : Naming) (layout : Layout)
    (isList : Bool) (entity : String) (joins : List JoinPlan) (labels : List String) : Prop :=
  ∀ number s s' queries, number < s.count "root.base" →
    Yields (ReadPlan.compileJoins schema naming entity (Aliases.name "root.base" number) isList joins)
      s queries s' →
      s ≤ s' ∧ QueriesFit db schema layout entity number (ReadPlan.shownRelations joins ++ labels)
        queries

namespace QueriesFit

variable {entity : String} {number : Nat} {names more : List String}
  {queries others : List (Query × String)}

theorem mono (h : QueriesFit db schema layout entity number more queries)
    (hnames : ∀ name ∈ names, name ∈ more) :
    QueriesFit db schema layout entity number names queries where
  exports name hname := h.exports name (hnames name hname)
  labels := h.labels
  sites := h.sites

theorem ne_root (h : QueriesFit db schema layout entity number names queries) :
    ∀ item ∈ Query.joinLevel queries, ∀ root, item.1 ≠ Aliases.name "root.base" root := by
  intro item hitem root
  obtain ⟨label, hlabel⟩ := h.labels item hitem
  rw [hlabel]
  exact joined_ne_root label root

theorem append (h : QueriesFit db schema layout entity number names queries)
    (hothers : QueriesFit db schema layout entity number more others) :
    QueriesFit db schema layout entity number (names ++ more) (queries ++ others) where
  exports := by
    rw [List.forall_mem_append, Query.joinExports_append]
    exact ⟨fun name hname => List.mem_append_left _ (h.exports name hname),
      fun name hname => List.mem_append_right _ (hothers.exports name hname)⟩
  labels := by
    rw [Query.joinLevel, List.map_append, List.forall_mem_append]
    exact ⟨h.labels, hothers.labels⟩
  sites := by
    intro around before hbefore
    rw [Query.joinSites_append, List.forall_mem_append]
    refine ⟨h.sites around before hbefore,
      hothers.sites around (before ++ Query.joinLevel queries) ?_⟩
    rw [List.forall_mem_append]
    exact ⟨hbefore, fun item hitem => h.ne_root item hitem number⟩

end QueriesFit

/-! ## The queries of a node -/

/-- The names in a query that collects the documents of another one fit if those in the other do, and
if it has columns for the documents and for what they are sorted by. -/
theorem fits_collected {rows : Query} {around : Context} {name : String} {keys : List SortKey}
    (hrows : ∀ site ∈ rows.sites around, site.Fits db schema layout)
    (hname : name ∈ rows.exports db) (hkeys : ∀ key ∈ keys, key.label ∈ rows.exports db)
    (first : Bool) (label : String) :
    ∀ site ∈ Query.sites around {
        columns := [(.jsonAgg (.ident name) (ReadPlan.sortItems keys) first, some name)]
        source := some (.subquery rows label) }, site.Fits db schema layout := by
  let above : Context := [(label, .rows rows)] :: around
  have hlisted : ∀ name ∈ rows.exports db, (⟨above, .ident name⟩ : Site).Fits db schema layout :=
    fun name hname => ⟨(label, .rows rows), List.mem_singleton.2 rfl, .inr hname⟩
  have hkeyed : ∀ site ∈ SortItem.sites above (ReadPlan.sortItems keys),
      site.Fits db schema layout := by
    intro site hsite
    obtain ⟨item, hitem, rfl⟩ := List.mem_map.1 hsite
    obtain ⟨key, hkey, rfl⟩ := List.mem_map.1 hitem
    exact hlisted _ (hkeys key hkey)
  simp only [Query.sites, Query.columnSites, Query.sourceLevel, Query.joinLevel, Query.joinSites,
    Source.sitesOf, Source.sites, Condition.sitesOf, Expr.sites, List.forall_mem_append,
    List.forall_mem_singleton, List.map_nil, List.append_nil]
  exact ⟨⟨⟨hlisted name hname, hkeyed⟩, hrows⟩, fun site hsite => by cases hsite⟩

namespace NodeQuery

variable {node : NodeQuery} {around : Context}

theorem exports_rows : node.rows.exports db =
    (db node.table).columns ++ Query.joinExports db node.joins := by
  simp [rows, Query.exports, Query.sourceExports, Source.exports]

/-- The sources of the rows of a node. -/
def level (node : NodeQuery) : Assoc Range :=
  (node.root, .table node.table) :: Query.joinLevel node.joins

theorem fits_jointCondition {s : Aliases}
    (hroot : node.root = Aliases.name "root.base" (s.count "root.base"))
    (hother : ∀ item ∈ Query.joinLevel node.joins, ∀ number, item.1 ≠ Aliases.name "root.base" number)
    (hmeets : ∀ joint ∈ node.correlation, joint.Meets db around s node.table) :
    ∀ site ∈ Condition.sitesAll (node.level :: around)
      (ReadPlan.jointCondition node.root node.correlation), site.Fits db schema layout := by
  cases hgiven : node.correlation with
  | none =>
    intro site hsite
    cases hsite
  | some joint =>
    obtain ⟨column, parent⟩ := joint
    obtain ⟨hcolumn, number, hnumber, above, name, rfl, habove, hname⟩ := hmeets _ hgiven
    -- the row above is not under the alias of this node
    have hne : node.root ≠ Aliases.name "root.base" number := by
      intro heq
      have hsame := Aliases.name_injective (hroot.symm.trans heq)
      omega
    have hown : Context.range? node.root (node.level :: around) = some (.table node.table) :=
      Context.range?_cons_head fun item hitem => hroot ▸ hother item hitem _
    have houtside : Context.range? (Aliases.name "root.base" number) (node.level :: around) =
        some (.table above) := by
      rw [Context.range?_cons_of_ne, habove]
      exact List.forall_mem_cons.2 ⟨hne, fun item hitem => hother item hitem number⟩
    rw [ReadPlan.jointCondition, Condition.sitesAll, Condition.sitesAll, List.append_nil,
      Expr.sites_equal]
    simp only [List.forall_mem_cons, List.not_mem_nil, false_implies, implies_true, and_true]
    exact ⟨Site.fits_column hown hcolumn, Site.fits_column houtside hname⟩

/-- The names in the rows of a node fit if those in its joins and in its filter do. -/
theorem fits_rows (htable : node.table ∈ layout.tables schema)
    (hjoint : ∀ site ∈ Condition.sitesAll (node.level :: around)
      (ReadPlan.jointCondition node.root node.correlation), site.Fits db schema layout)
    (hconditions : ∀ site ∈ Condition.sitesAll (node.level :: around) node.conditions,
      site.Fits db schema layout)
    (hjoins : ∀ site ∈ Query.joinSites around [(node.root, .table node.table)] node.joins,
      site.Fits db schema layout) :
    ∀ site ∈ node.rows.sites around, site.Fits db schema layout := by
  have hsites : node.rows.sites around = ⟨around, .table node.table⟩ ::
      (Query.joinSites around [(node.root, .table node.table)] node.joins ++
        (Condition.sitesAll (node.level :: around)
          (ReadPlan.jointCondition node.root node.correlation) ++
            Condition.sitesAll (node.level :: around) node.conditions)) := by
    simp [rows, level, Query.sites, Query.columnSites, Query.sourceLevel, Source.sitesOf,
      Source.sites, Condition.sitesOf, Condition.sites, Condition.sitesAll,
      Condition.sitesAll_append, SortItem.sites, Expr.sites]
  rw [hsites]
  simp only [List.forall_mem_cons, List.forall_mem_append]
  exact ⟨htable, hjoins, hjoint, hconditions⟩

/-- A column of the base of a node, below that of the rows. -/
theorem fits_base {name : String} (h : name ∈ node.rows.exports db) :
    (⟨[(node.base, .rows node.rows)] :: around, .column node.base name⟩ : Site).Fits db schema
      layout :=
  ⟨.rows node.rows, Context.range?_cons_head fun _ hitem => absurd hitem List.not_mem_nil, h⟩

theorem fits_document {output : String} {columns : List (Expr × Option String)}
    (h : ∀ column ∈ columns, ∃ name ∈ node.rows.exports db, column.1 = .column node.base name) :
    ∀ site ∈ (documentQuery output columns).sites ([(node.base, .rows node.rows)] :: around),
      site.Fits db schema layout := by
  let inside : Context := [(node.base, .rows node.rows)] :: around
  let shown : Query := { columns := columns }
  have hsites : (documentQuery output columns).sites inside =
      ⟨[(output, .rows shown)] :: inside, .ident output⟩ ::
        Query.columnSites ([] :: inside) columns := by
    simp [documentQuery, Query.sites, Query.columnSites, Query.sourceLevel, Query.joinLevel,
      Query.joinSites, Source.sitesOf, Source.sites, Condition.sitesOf, SortItem.sites, Expr.sites,
      shown]
  rw [hsites, List.forall_mem_cons]
  refine ⟨⟨(output, .rows shown), List.mem_singleton.2 rfl, .inl rfl⟩, fun site hsite => ?_⟩
  obtain ⟨column, hcolumn, hsite⟩ := Query.mem_columnSites.1 hsite
  obtain ⟨name, hname, hexpr⟩ := h column hcolumn
  rw [hexpr, Expr.sites, List.mem_singleton] at hsite
  rw [hsite]
  refine ⟨.rows node.rows, ?_, hname⟩
  rw [Context.range?_cons_of_ne fun _ hitem => absurd hitem List.not_mem_nil]
  exact Context.range?_cons_head fun item hitem => absurd hitem List.not_mem_nil

/-- A node has a column of documents, and one for each of its sort keys. -/
theorem exports_shaped {entity : String} (h : ReadPlan.sortColumns schema naming entity node.base
    node.head.carried = .ok node.sorts) :
    node.shaped.exports db = node.head.name :: node.head.carried.map SortKey.label := by
  have hsorts := mapM_eq_ok.1 h
  clear h
  rw [shaped, Query.exports, List.flatMap_cons]
  change node.head.name :: node.sorts.flatMap _ = _
  congr 1
  generalize node.sorts = columns, node.head.carried = keys at hsorts
  induction hsorts with
  | nil => rfl
  | cons hfirst _ ih =>
    rw [List.flatMap_cons, ih, List.map_cons]
    rcases ReadPlan.sortColumn_eq_ok hfirst with ⟨_, _, _, rfl⟩ | ⟨_, rfl⟩
    · rfl
    · rfl

/-- The names in a node fit if those in its rows and its document do, and it has columns for its own
sort keys. -/
theorem fits_query (hrows : ∀ site ∈ node.rows.sites around, site.Fits db schema layout)
    (hdocument : ∀ site ∈ node.document.sites ([(node.base, .rows node.rows)] :: around),
      site.Fits db schema layout)
    (hsorts : ∀ column ∈ node.sorts, ∃ name ∈ node.rows.exports db,
      column.1 = .column node.base name)
    (hown : ∀ key ∈ node.head.args.sortKeys, key.label ∈ node.shaped.exports db) (isList : Bool)
    (label : String) :
    ∀ site ∈ (node.query isList label).sites around, site.Fits db schema layout := by
  let inside : Context := [(node.base, .rows node.rows)] :: around
  have hshaped : ∀ site ∈ node.shaped.sites around, site.Fits db schema layout := by
    have hsites : node.shaped.sites around = node.document.sites inside ++
        (Query.columnSites inside node.sorts ++ node.rows.sites around) := by
      simp [shaped, Query.sites, Query.columnSites, Query.sourceLevel, Query.joinLevel,
        Query.joinSites, Source.sitesOf, Source.sites, Condition.sitesOf, SortItem.sites, Expr.sites,
        inside]
    rw [hsites]
    simp only [List.forall_mem_append]
    refine ⟨hdocument, fun site hsite => ?_, hrows⟩
    obtain ⟨column, hcolumn, hsite⟩ := Query.mem_columnSites.1 hsite
    obtain ⟨name, hname, hexpr⟩ := hsorts column hcolumn
    rw [hexpr, Expr.sites, List.mem_singleton] at hsite
    rw [hsite]
    exact fits_base hname
  cases isList with
  | false => exact hshaped
  | true =>
    refine fits_collected hshaped ?_ hown false label
    rw [shaped, Query.exports]
    exact List.mem_append_left _ (List.mem_singleton.2 rfl)

end NodeQuery

/-! ## Plans and joins -/

section

variable (hstores : db.Stores schema naming layout) {entity : Entity}
  (hentity : entity ∈ schema.entities)

include hstores hentity

theorem fits_filterConditions (filter : Option Filter) :
    FitsUnder db schema layout entity.name Condition.sitesAll fun source =>
      ReadPlan.filterConditions schema naming entity.name source filter := by
  cases filter with
  | none =>
    intro around s s' source conditions _ h
    obtain ⟨rfl, rfl⟩ := yields_pure.1 h
    exact ⟨le_refl s', fun site hsite => by cases hsite⟩
  | some filter => exact (Filter.fits_compile hstores filter hentity).singleton

omit hentity in
/-- The columns to sort by come from the table, or from the joins. -/
theorem mem_exports_of_sortColumns {node : NodeQuery} {keys : List SortKey}
    (hstored : ∀ name ∈ (db (layout.table entity.name)).columns, name ∈ node.rows.exports db)
    (hkeys : ∀ key ∈ keys, (∃ field, key.path = [field]) ∨ key.label ∈ node.rows.exports db)
    (h : ReadPlan.sortColumns schema naming entity.name node.base keys = .ok node.sorts) :
    ∀ column ∈ node.sorts, ∃ name ∈ node.rows.exports db, column.1 = .column node.base name := by
  intro column hcolumn
  obtain ⟨key, hkey, hsort⟩ := exists_of_mem_right (mapM_eq_ok.1 h) hcolumn
  rcases ReadPlan.sortColumn_eq_ok hsort with ⟨field, name, hname, rfl⟩ | ⟨hpath, rfl⟩
  · exact ⟨name, hstored name (hstores.column_eq hname).2, rfl⟩
  · obtain ⟨field, hfield⟩ | hlabel := hkeys key hkey
    · exact absurd hfield (hpath field)
    · exact ⟨key.label, hlabel, rfl⟩

omit hentity in
theorem fits_nodeDocument {node : NodeQuery} {around : Context} {output : String}
    {fields relations : List String}
    (hstored : ∀ name ∈ (db (layout.table entity.name)).columns, name ∈ node.rows.exports db)
    (hrelations : ∀ relation ∈ relations, relation ∈ node.rows.exports db)
    (h : ReadPlan.document naming entity.name node.base output fields relations =
      .ok node.document) :
    ∀ site ∈ node.document.sites ([(node.base, .rows node.rows)] :: around),
      site.Fits db schema layout := by
  obtain ⟨columns, hfields, hquery⟩ := ReadPlan.document_eq_ok h
  rw [hquery]
  apply NodeQuery.fits_document
  rw [List.forall_mem_append]
  refine ⟨fun column hcolumn => ?_, fun column hcolumn => ?_⟩
  · obtain ⟨field, -, name, hname, rfl⟩ := exists_of_mem_right hfields hcolumn
    exact ⟨name, hstored name (hstores.column_eq hname).2, rfl⟩
  · obtain ⟨relation, hrelation, rfl⟩ := List.mem_map.1 hcolumn
    exact ⟨relation, hrelations relation hrelation, rfl⟩

/-- A node fits if its joins do, and if they have a column for each of its sort keys that walks
through a relation. -/
theorem planFits_node {head : ReadHead} (hhead : head.entity = entity.name)
    {joins lists : List JoinPlan} {labels : List String}
    (hjoins : JoinsFit db schema naming layout false entity.name joins labels)
    (hlists : JoinsFit db schema naming layout true entity.name lists [])
    (hcarried : ∀ key ∈ head.carried, (∃ field, key.path = [field]) ∨ key.label ∈ labels)
    (hown : ∀ key ∈ head.args.sortKeys, key ∈ head.carried) :
    PlanFits db schema naming layout (layout.table entity.name) head.name
      (head.carried.map SortKey.label) (.node head joins lists) := by
  intro correlation isList s s' query around hmeets h
  obtain ⟨node, label, rfl, rfl, rfl, hrun⟩ := ReadPlan.yields_node h
  obtain ⟨output, hdocument⟩ := hrun.document
  obtain ⟨joined, listed, s₁, s₂, s₃, hnode, hjoined, hlisted, hconditions, hle₄⟩ := hrun.parts
  have hsorts := hrun.sorts
  have htable : node.table = layout.table entity.name :=
    Except.ok.inj ((hhead ▸ hrun.table).symm.trans (hstores.follows.table entity hentity))
  rw [hhead, hrun.root] at hjoined hlisted
  rw [hhead] at hconditions hdocument hsorts
  have hnumber := Aliases.count_lt_next "root.base" s
  obtain ⟨hle₁, hfits₁⟩ := hjoins _ _ _ _ hnumber hjoined
  obtain ⟨hle₂, hfits₂⟩ :=
    hlists _ _ _ _ (Nat.lt_of_lt_of_le hnumber (hle₁ "root.base")) hlisted
  have hqueries := hnode ▸ hfits₁.append hfits₂
  -- what the base of the node exports: the columns of the table, and those of the joins
  have hstored : ∀ name ∈ (db (layout.table entity.name)).columns, name ∈ node.rows.exports db := by
    intro name hname
    rw [NodeQuery.exports_rows, htable]
    exact List.mem_append_left _ hname
  have hbeside : ∀ name ∈ Query.joinExports db node.joins, name ∈ node.rows.exports db := by
    intro name hname
    rw [NodeQuery.exports_rows]
    exact List.mem_append_right _ hname
  have hsource : SourceUnder layout (node.level :: around) s₂ entity.name node.root := by
    refine ⟨?_, fun number _ => ?_⟩
    · rw [NodeQuery.level, htable, hrun.root]
      exact Context.range?_cons_head fun item hitem => hqueries.ne_root item hitem _
    · rw [hrun.root]
      exact Aliases.name_ne_name (c := 'r') (d := 'w') rfl rfl (by decide) _ number
  obtain ⟨hle₃, hfits₃⟩ :=
    fits_filterConditions hstores hentity _ _ _ _ _ _ hsource hconditions
  have hle : s ≤ s' := le_trans (Aliases.le_next "root.base" s)
    (le_trans hle₁ (le_trans hle₂ (le_trans hle₃ hle₄)))
  have hrows : ∀ site ∈ node.rows.sites around, site.Fits db schema layout := by
    refine NodeQuery.fits_rows (htable ▸ Layout.mem_tables.2 ⟨entity, hentity, rfl⟩)
      (NodeQuery.fits_jointCondition hrun.root hqueries.ne_root (htable ▸ hmeets)) hfits₃ ?_
    rw [hrun.root, htable]
    exact hqueries.sites around [] fun item hitem => absurd hitem List.not_mem_nil
  have hcolumns : ∀ column ∈ node.sorts, ∃ name ∈ node.rows.exports db,
      column.1 = .column node.base name := by
    refine mem_exports_of_sortColumns hstores hstored (fun key hkey => ?_) hsorts
    refine (hcarried key hkey).imp_right fun hlabel => hbeside _ (hqueries.exports _ ?_)
    exact List.mem_append_left _ (List.mem_append_right _ hlabel)
  have hshown : ∀ site ∈ node.document.sites ([(node.base, .rows node.rows)] :: around),
      site.Fits db schema layout := by
    refine fits_nodeDocument hstores hstored (fun relation hrelation => ?_) hdocument
    refine hbeside _ (hqueries.exports _ ?_)
    simp only [List.append_nil, List.mem_append] at hrelation ⊢
    tauto
  have hexports : node.shaped.exports db = node.head.name :: node.head.carried.map SortKey.label :=
    NodeQuery.exports_shaped hrun.sorts
  refine ⟨hle, ?_, NodeQuery.fits_query hrows hshown hcolumns (fun key hkey => ?_) isList label⟩
  · cases isList with
    | false => exact hexports
    | true =>
      rw [NodeQuery.query, if_pos rfl, ReadPlan.collect, Query.exports]
      rfl
  · rw [hexports]
    exact List.mem_cons_of_mem _ (List.mem_map_of_mem (hown key hkey))

end

theorem ReadPlan.mem_shownRelations_cons {relation name : String} {requested : Bool}
    {plan : ReadPlan} {rest : List JoinPlan}
    (h : name ∈ shownRelations (.on relation requested plan :: rest)) :
    name = relation ∨ name ∈ shownRelations rest := by
  cases requested with
  | false => exact .inr h
  | true => exact List.mem_cons.1 h

theorem planFits_refused (fault : Fault) (table name : String) (labels : List String) :
    PlanFits db schema naming layout table name labels (.refused fault) := by
  intro correlation isList s s' query around _ h
  rw [ReadPlan.compile] at h
  exact absurd h not_yields_throw

theorem joinsFit_nil (isList : Bool) (entity : String) :
    JoinsFit db schema naming layout isList entity [] [] := by
  intro number s s' queries _ h
  rw [ReadPlan.compileJoins] at h
  obtain ⟨rfl, rfl⟩ := yields_pure.1 h
  exact ⟨le_refl s', {
    exports := fun name hname => by cases hname
    labels := fun item hitem => by cases hitem
    sites := fun around before _ site hsite => by cases hsite }⟩

theorem joinsFit_unknown (isList : Bool) (entity : String) (fault : Fault) (rest : List JoinPlan)
    (labels : List String) :
    JoinsFit db schema naming layout isList entity (.unknown fault :: rest) labels := by
  intro number s s' queries _ h
  exact absurd h ReadPlan.not_yields_joins_unknown

theorem JoinsFit.mono {isList : Bool} {entity : String} {joins : List JoinPlan}
    {labels others : List String} (h : JoinsFit db schema naming layout isList entity joins others)
    (hlabels : ∀ label ∈ labels, label ∈ others) :
    JoinsFit db schema naming layout isList entity joins labels := by
  intro number s s' queries hnumber hyields
  obtain ⟨hle, hfits⟩ := h number s s' queries hnumber hyields
  refine ⟨hle, hfits.mono ?_⟩
  rw [List.forall_mem_append]
  exact ⟨fun name hname => List.mem_append_left _ hname,
    fun name hname => List.mem_append_right _ (hlabels name hname)⟩

theorem joinsFit_append {isList : Bool} {entity : String} {joins others : List JoinPlan}
    {labels more : List String} (h : JoinsFit db schema naming layout isList entity joins labels)
    (hothers : JoinsFit db schema naming layout isList entity others more) :
    JoinsFit db schema naming layout isList entity (joins ++ others) (labels ++ more) := by
  intro number s s' queries hnumber hyields
  obtain ⟨first, later, s₁, rfl, hfirst, hlater⟩ := ReadPlan.yields_joins_append hyields
  obtain ⟨hle₁, hfits₁⟩ := h _ _ _ _ hnumber hfirst
  obtain ⟨hle₂, hfits₂⟩ :=
    hothers _ _ _ _ (Nat.lt_of_lt_of_le hnumber (hle₁ "root.base")) hlater
  refine ⟨le_trans hle₁ hle₂, (hfits₁.append hfits₂).mono fun name hname => ?_⟩
  rw [ReadPlan.shownRelations, List.filterMap_append] at hname
  simp only [ReadPlan.shownRelations, List.mem_append] at hname ⊢
  tauto

/-- The join of a relation fits if its plan does. Only one that is no list carries values to sort
by. -/
theorem joinsFit_cons {isList : Bool} {entity relation target : String} {link : Link}
    {requested : Bool} {plan : ReadPlan} {labels : List String}
    (hlink : naming.link entity relation = .ok link)
    (hjoined : db.Joined layout entity target link)
    (hplan : PlanFits db schema naming layout (layout.table target) relation labels plan)
    {rest : List JoinPlan} {others : List String}
    (hrest : JoinsFit db schema naming layout isList entity rest others) :
    JoinsFit db schema naming layout isList entity (.on relation requested plan :: rest)
      ((if isList then [] else labels) ++ others) := by
  intro number s s' queries hnumber h
  obtain ⟨_, query, later, s₁, hlink', hquery, hlater, rfl⟩ := ReadPlan.yields_joins_cons h
  obtain rfl := Except.ok.inj (hlink.symm.trans hlink')
  let root := Aliases.name "root.base" number
  -- the sub-query is read beside the row that it is joined to
  have hfits : ∀ (before : Assoc Range) (around : Context), (∀ item ∈ before, item.1 ≠ root) →
      s ≤ s₁ ∧ query.exports db = (if isList then [relation] else relation :: labels) ∧
        ∀ site ∈ query.sites (((root, .table (layout.table entity)) :: before) :: around),
          site.Fits db schema layout := by
    intro before around hbefore
    refine hplan _ isList s s₁ query _ (fun joint hjoint => ?_) hquery
    obtain rfl := Option.some.inj hjoint
    exact ⟨hjoined.toColumn, number, hnumber, _, _, rfl, Context.range?_cons_head hbefore,
      hjoined.fromColumn⟩
  obtain ⟨hle, hexports, -⟩ := hfits [] [] fun item hitem => absurd hitem List.not_mem_nil
  have hnext := le_trans hle (Aliases.le_next "j" s₁)
  obtain ⟨hlast, hlater⟩ := hrest _ _ _ _ (Nat.lt_of_lt_of_le hnumber (hnext "root.base")) hlater
  have hown : ∀ name ∈ relation :: (if isList then [] else labels), name ∈ query.exports db := by
    rw [hexports]
    cases isList with
    | false => exact fun name hname => hname
    | true => exact fun name hname => hname
  refine ⟨le_trans hnext hlast, fun name hname => ?_, ?_, fun around before hbefore => ?_⟩
  · rw [Query.joinExports, List.mem_append]
    simp only [List.mem_append] at hname
    rcases hname with hshown | hlabel | hlabel
    · rcases ReadPlan.mem_shownRelations_cons hshown with rfl | hshown
      · exact .inl (hown _ (List.mem_cons_self ..))
      · exact .inr (hlater.exports name (List.mem_append_left _ hshown))
    · exact .inl (hown name (List.mem_cons_of_mem _ hlabel))
    · exact .inr (hlater.exports name (List.mem_append_right _ hlabel))
  · exact List.forall_mem_cons.2 ⟨⟨_, rfl⟩, hlater.labels⟩
  · rw [Query.joinSites, List.forall_mem_append]
    have hnext : ∀ item ∈ before ++ [(Aliases.name "j" (s₁.count "j"), Range.rows query)],
        item.1 ≠ root := by
      rw [List.forall_mem_append, List.forall_mem_singleton]
      exact ⟨hbefore, joined_ne_root _ _⟩
    exact ⟨(hfits before around hbefore).2.2, hlater.sites around _ hnext⟩

section

variable (hstores : db.Stores schema naming layout) {entity : Entity}
  (hentity : entity ∈ schema.entities)

include hstores hentity

theorem joinsFit_joinManyToOne {relation : String} {requested : Bool} {plan : String → ReadPlan}
    {labels : List String} (hplan : ∀ target ∈ schema.entities,
      PlanFits db schema naming layout (layout.table target.name) relation labels
        (plan target.name))
    {rest : List JoinPlan} {others : List String}
    (hrest : JoinsFit db schema naming layout false entity.name rest others) :
    JoinsFit db schema naming layout false entity.name
      (ReadPlan.joinManyToOne schema entity.name relation requested plan :: rest)
      (labels ++ others) := by
  unfold ReadPlan.joinManyToOne
  cases hfound : schema.manyToOne entity.name relation with
  | error fault => exact joinsFit_unknown _ _ _ _ _
  | ok found =>
    obtain ⟨hmem, rfl⟩ := hstores.wellFormed.mem_of_manyToOne? hentity
      (Schema.manyToOne?_of_manyToOne hfound)
    obtain ⟨target, htarget, hname, -⟩ := hstores.wellFormed.manyToOne_target hentity hmem
    have hjoined := hstores.conforms.joined_manyToOne hstores.wellFormed hentity hmem
    exact joinsFit_cons (hstores.follows.manyToOne entity hentity found hmem) hjoined
      (hname ▸ hplan target htarget) hrest

theorem joinsFit_joinOneToMany {relation : String} {plan : String → ReadPlan}
    {labels : List String} (hplan : ∀ target ∈ schema.entities,
      PlanFits db schema naming layout (layout.table target.name) relation labels
        (plan target.name))
    {rest : List JoinPlan} {others : List String}
    (hrest : JoinsFit db schema naming layout true entity.name rest others) :
    JoinsFit db schema naming layout true entity.name
      (ReadPlan.joinOneToMany schema entity.name relation plan :: rest) others := by
  unfold ReadPlan.joinOneToMany
  cases hfound : schema.oneToMany entity.name relation with
  | error fault => exact joinsFit_unknown _ _ _ _ _
  | ok found =>
    obtain ⟨hmem, rfl⟩ := hstores.wellFormed.mem_of_oneToMany? hentity
      (Schema.oneToMany?_of_oneToMany hfound)
    obtain ⟨target, htarget, hname, -⟩ := hstores.wellFormed.oneToMany_target hentity hmem
    obtain ⟨link, hlink, hjoined⟩ :=
      hstores.conforms.joined_oneToMany hstores.wellFormed hentity hmem
    exact joinsFit_cons (hstores.follows.oneToMany entity hentity found hmem link hlink) hjoined
      (hname ▸ hplan target htarget) hrest

end

/-! ## Values to sort by -/

namespace SortStep

theorem ofKeys_eq_ok {entity : String} {keys : List SortKey} {steps : List SortStep}
    (h : ofKeys schema entity keys = .ok steps) : steps = keys.filterMap ofKey? := by
  induction keys generalizing steps with
  | nil => exact (Except.ok.inj h).symm
  | cons key rest ih =>
    rw [ofKeys] at h
    cases hkey : ofKey? key with
    | none =>
      rw [hkey] at h
      rw [List.filterMap_cons_none hkey]
      exact ih h
    | some step =>
      rw [hkey] at h
      dsimp only at h
      split at h
      · obtain ⟨others, hothers, h⟩ := bind_eq_ok.1 h
        obtain rfl := pure_eq_ok.1 h
        rw [List.filterMap_cons_some hkey, ih hothers]
      · cases h

/-- A path has one name, or it walks through a relation. -/
theorem ofKey?_cases {key : SortKey} (h : key.path ≠ []) : (∃ field, key.path = [field]) ∨
    ∃ step, ofKey? key = some step ∧ step.key.label = key.label ∧
      step.relation :: step.key.path = key.path := by
  unfold ofKey?
  match hpath : key.path with
  | [] => exact absurd hpath h
  | [field] => exact .inl ⟨field, rfl⟩
  | relation :: name :: rest => exact .inr ⟨_, rfl, rfl, rfl⟩

theorem ofKey?_eq_some {key : SortKey} {step : SortStep} (h : ofKey? key = some step) :
    step.key.path ≠ [] ∧ step.key.path.length < key.path.length := by
  unfold ofKey? at h
  split at h
  · next relation name rest hpath =>
    obtain rfl := Option.some.inj h
    rw [hpath]
    exact ⟨List.cons_ne_nil _ _, Nat.lt_succ_self _⟩
  · cases h

/-- A key has a path of one name, or a step carries its label and what is left of its path. -/
theorem step_of_ofKeys {entity : String} {keys : List SortKey} {steps : List SortStep}
    (h : ofKeys schema entity keys = .ok steps) {key : SortKey} (hkey : key ∈ keys)
    (hpath : key.path ≠ []) :
    (∃ field, key.path = [field]) ∨ ∃ step ∈ steps, step.key.label = key.label ∧
      step.relation :: step.key.path = key.path := by
  refine (ofKey?_cases hpath).imp_right ?_
  rintro ⟨step, hstep, hlabel⟩
  refine ⟨step, ?_, hlabel⟩
  rw [ofKeys_eq_ok h]
  exact List.mem_filterMap.2 ⟨key, hkey, hstep⟩

/-- What a step leaves of its key is shorter, but something is left. -/
theorem path_of_ofKeys {entity : String} {keys : List SortKey} {steps : List SortStep}
    (h : ofKeys schema entity keys = .ok steps) {step : SortStep} (hstep : step ∈ steps) :
    step.key.path ≠ [] ∧ ∃ key ∈ keys, step.key.path.length < key.path.length := by
  rw [ofKeys_eq_ok h] at hstep
  obtain ⟨key, hkey, hstep⟩ := List.mem_filterMap.1 hstep
  obtain ⟨hne, hlt⟩ := ofKey?_eq_some hstep
  exact ⟨hne, key, hkey, hlt⟩

theorem mem_relations {known : List String} {steps : List SortStep} {step : SortStep}
    (hstep : step ∈ steps) (hknown : step.relation ∉ known) :
    step.relation ∈ relations known steps := by
  induction steps generalizing known with
  | nil => cases hstep
  | cons first rest ih =>
    rw [relations]
    rcases List.mem_cons.1 hstep with rfl | hrest
    · rw [if_neg hknown]
      exact List.mem_cons_self ..
    · split
      · exact ih hrest hknown
      · by_cases heq : step.relation = first.relation
        · rw [heq]
          exact List.mem_cons_self ..
        · refine List.mem_cons_of_mem _ (ih hrest ?_)
          rw [List.mem_cons, not_or]
          exact ⟨heq, hknown⟩

/-- What is left of a key behind its relation. -/
theorem mem_keysThrough {steps : List SortStep} {relation : String} {key : SortKey} :
    key ∈ keysThrough relation steps ↔ ∃ step ∈ steps, step.relation = relation ∧ step.key = key := by
  simp [keysThrough, and_assoc]

end SortStep

theorem ReadPlan.length_le_depth {keys : List SortKey} {key : SortKey} (h : key ∈ keys) :
    key.path.length ≤ depth keys := by
  induction keys with
  | nil => cases h
  | cons first rest ih =>
    show key.path.length ≤ max first.path.length (depth rest)
    rcases List.mem_cons.1 h with rfl | hrest
    · exact Nat.le_max_left _ _
    · exact Nat.le_trans (ih hrest) (Nat.le_max_right _ _)

/-- The plan of a node that only carries values to sort by. -/
def ReadPlan.carrier (schema : Schema) (depth : Nat) (relation : String) (keys : List SortKey)
    (target : String) : ReadPlan :=
  match SortStep.ofKeys schema target keys with
  | .error fault => .refused fault
  | .ok steps => .node { entity := target, name := relation, carried := keys }
    (sortJoins schema depth target [] steps) []

theorem ReadPlan.sortJoins_succ (depth : Nat) (entity : String) (requested : List String)
    (steps : List SortStep) : sortJoins schema (depth + 1) entity requested steps =
      (SortStep.relations requested steps).map fun relation =>
        joinManyToOne schema entity relation false
          (carrier schema depth relation (SortStep.keysThrough relation steps)) :=
  rfl

section

variable (hstores : db.Stores schema naming layout)

include hstores

theorem planFits_carrier {depth : Nat} {relation : String} {keys : List SortKey}
    (hpaths : ∀ key ∈ keys, key.path ≠ []) {target : Entity} (htarget : target ∈ schema.entities)
    (hjoins : ∀ steps, SortStep.ofKeys schema target.name keys = .ok steps →
      JoinsFit db schema naming layout false target.name
        (ReadPlan.sortJoins schema depth target.name [] steps) (steps.map (·.key.label))) :
    PlanFits db schema naming layout (layout.table target.name) relation (keys.map SortKey.label)
      (ReadPlan.carrier schema depth relation keys target.name) := by
  unfold ReadPlan.carrier
  cases hkeys : SortStep.ofKeys schema target.name keys with
  | error fault => exact planFits_refused _ _ _ _
  | ok steps =>
    refine planFits_node hstores htarget rfl (hjoins steps hkeys)
      (joinsFit_nil true target.name) (fun key hkey => ?_) fun key hkey => by cases hkey
    refine (SortStep.step_of_ofKeys hkeys hkey (hpaths key hkey)).imp_right ?_
    rintro ⟨step, hstep, hlabel, -⟩
    exact List.mem_map.2 ⟨step, hstep, hlabel⟩

theorem joinsFit_carriers {entity : Entity} (hentity : entity ∈ schema.entities)
    {plan : String → String → ReadPlan} {labels : String → List String}
    (hplan : ∀ relation, ∀ target ∈ schema.entities, PlanFits db schema naming layout
      (layout.table target.name) relation (labels relation) (plan relation target.name))
    (relations : List String) :
    JoinsFit db schema naming layout false entity.name
      (relations.map fun relation =>
        ReadPlan.joinManyToOne schema entity.name relation false (plan relation))
      (relations.flatMap labels) := by
  induction relations with
  | nil => exact joinsFit_nil false entity.name
  | cons relation rest ih => exact joinsFit_joinManyToOne hstores hentity (hplan relation) ih

/-- The joins that only sorting needs carry the values of all steps through relations that are not
requested. -/
theorem joinsFit_sortJoins (depth : Nat) {entity : Entity} (hentity : entity ∈ schema.entities)
    (requested : List String) {steps : List SortStep}
    (hsteps : ∀ step ∈ steps, step.key.path ≠ [] ∧ step.key.path.length < depth) :
    JoinsFit db schema naming layout false entity.name
      (ReadPlan.sortJoins schema depth entity.name requested steps)
      ((steps.filter (·.relation ∉ requested)).map (·.key.label)) := by
  induction depth generalizing entity requested steps with
  | zero =>
    obtain rfl : steps = [] := List.eq_nil_iff_forall_not_mem.2 fun step hstep =>
      Nat.not_lt_zero _ (hsteps step hstep).2
    exact joinsFit_nil false entity.name
  | succ depth ih =>
    have hthrough : ∀ relation, ∀ key ∈ SortStep.keysThrough relation steps,
        key.path ≠ [] ∧ key.path.length < depth + 1 := by
      intro relation key hkey
      obtain ⟨step, hstep, -, rfl⟩ := SortStep.mem_keysThrough.1 hkey
      exact hsteps step hstep
    have hplan : ∀ relation, ∀ target ∈ schema.entities, PlanFits db schema naming layout
        (layout.table target.name) relation
        ((SortStep.keysThrough relation steps).map SortKey.label)
        (ReadPlan.carrier schema depth relation (SortStep.keysThrough relation steps)
          target.name) := by
      intro relation target htarget
      refine planFits_carrier hstores (fun key hkey => (hthrough relation key hkey).1) htarget
        fun behind hbehind => ?_
      have hshorter : ∀ step ∈ behind, step.key.path ≠ [] ∧ step.key.path.length < depth := by
        intro step hstep
        obtain ⟨hne, key, hkey, hlt⟩ := SortStep.path_of_ofKeys hbehind hstep
        have hlength := (hthrough relation key hkey).2
        exact ⟨hne, by omega⟩
      simpa using ih htarget [] hshorter
    rw [ReadPlan.sortJoins_succ]
    refine (joinsFit_carriers hstores hentity hplan _).mono fun label hlabel => ?_
    obtain ⟨step, hstep, rfl⟩ := List.mem_map.1 hlabel
    obtain ⟨hmem, hunknown⟩ := List.mem_filter.1 hstep
    refine List.mem_flatMap.2 ⟨step.relation, SortStep.mem_relations hmem (by simpa using hunknown),
      List.mem_map_of_mem ?_⟩
    exact SortStep.mem_keysThrough.2 ⟨step, hmem, rfl, rfl⟩

/-! ## Checked requests -/

mutual

/-- A planned read fits, whatever sort keys pass through it. -/
theorem planFits_ofSelection : (selection : Selection) → selection.Each ReadArgs.Ordered →
    ∀ {entity : Entity}, entity ∈ schema.entities → ∀ {passing : List SortKey},
      (∀ key ∈ passing, key.path ≠ []) →
        PlanFits db schema naming layout (layout.table entity.name) selection.name
          ((passing ++ selection.args.sortKeys).map SortKey.label)
          (ReadPlan.ofSelection schema entity.name passing selection)
  | { name, fields, args, manyToOne, oneToMany }, heach, entity, hentity, passing, hpassing => by
    rw [Selection.Each] at heach
    obtain ⟨hordered, hones, hlists⟩ := heach
    rw [ReadPlan.ofSelection]
    cases hkeys : SortStep.ofKeys schema entity.name (passing ++ args.sortKeys) with
    | error fault => exact planFits_refused _ _ _ _
    | ok steps =>
      have hpaths : ∀ key ∈ passing ++ args.sortKeys, key.path ≠ [] :=
        List.forall_mem_append.2 ⟨hpassing, hordered⟩
      have hsteps : ∀ step ∈ steps, step.key.path ≠ [] ∧
          step.key.path.length < ReadPlan.depth (passing ++ args.sortKeys) := by
        intro step hstep
        obtain ⟨hne, key, hkey, hlt⟩ := SortStep.path_of_ofKeys hkeys hstep
        exact ⟨hne, Nat.lt_of_lt_of_le hlt (ReadPlan.length_le_depth hkey)⟩
      have hjoins := joinsFit_append
        (joinsFit_requestedJoins manyToOne hones hentity (fun step hstep => (hsteps step hstep).1) [])
        (joinsFit_sortJoins hstores _ hentity (manyToOne.map (·.name)) hsteps)
      refine planFits_node hstores hentity rfl hjoins
        (joinsFit_requestedLists oneToMany hlists hentity) (fun key hkey => ?_)
        fun key hkey => List.mem_append_right _ hkey
      refine (SortStep.step_of_ofKeys hkeys hkey (hpaths key hkey)).imp_right ?_
      rintro ⟨step, hstep, hlabel, -⟩
      rw [← hlabel, List.mem_append]
      by_cases hrequested : step.relation ∈ manyToOne.map (·.name)
      · refine .inl (List.mem_map.2 ⟨step, List.mem_filter.2 ⟨hstep, ?_⟩, rfl⟩)
        simpa using hrequested
      · refine .inr (List.mem_map.2 ⟨step, List.mem_filter.2 ⟨hstep, ?_⟩, rfl⟩)
        simpa using hrequested

/-- The requested many-to-ones carry the values of all steps through them. -/
theorem joinsFit_requestedJoins : (children : List Selection) →
    Selection.EachAll ReadArgs.Ordered children → ∀ {entity : Entity}, entity ∈ schema.entities →
      ∀ {steps : List SortStep}, (∀ step ∈ steps, step.key.path ≠ []) → ∀ (earlier : List String),
        JoinsFit db schema naming layout false entity.name
          (ReadPlan.requestedJoins schema entity.name steps earlier children)
          ((steps.filter fun step => step.relation ∈ children.map (·.name) ∧
            step.relation ∉ earlier).map (·.key.label))
  | [], _, entity, _, steps, _, earlier => by
    refine (joinsFit_nil false entity.name).mono fun label hlabel => ?_
    obtain ⟨step, hstep, rfl⟩ := List.mem_map.1 hlabel
    simpa using (List.mem_filter.1 hstep).2
  | child :: rest, heach, entity, hentity, steps, hsteps, earlier => by
    rw [Selection.EachAll] at heach
    rw [ReadPlan.requestedJoins]
    have hpassing : ∀ key ∈ if child.name ∈ earlier then [] else
        SortStep.keysThrough child.name steps, key.path ≠ [] := by
      intro key hkey
      split at hkey
      · cases hkey
      · obtain ⟨step, hstep, -, rfl⟩ := SortStep.mem_keysThrough.1 hkey
        exact hsteps step hstep
    have hrest := joinsFit_requestedJoins rest heach.2 hentity hsteps (child.name :: earlier)
    refine (joinsFit_joinManyToOne hstores hentity (fun target htarget =>
      planFits_ofSelection child heach.1 htarget hpassing) hrest).mono fun label hlabel => ?_
    obtain ⟨step, hstep, rfl⟩ := List.mem_map.1 hlabel
    obtain ⟨hmem, hnamed⟩ := List.mem_filter.1 hstep
    simp only [decide_eq_true_eq, List.map_cons, List.mem_cons] at hnamed
    rw [List.mem_append]
    by_cases hfirst : step.relation = child.name
    · -- the first relation of the name takes the sort keys
      left
      rw [List.map_append, List.mem_append, if_neg (hfirst ▸ hnamed.2)]
      exact .inl (List.mem_map_of_mem (SortStep.mem_keysThrough.2 ⟨step, hmem, hfirst, rfl⟩))
    · right
      refine List.mem_map.2 ⟨step, List.mem_filter.2 ⟨hmem, ?_⟩, rfl⟩
      simp only [decide_eq_true_eq, List.mem_cons, not_or]
      exact ⟨hnamed.1.resolve_left hfirst, hfirst, hnamed.2⟩

theorem joinsFit_requestedLists : (children : List Selection) →
    Selection.EachAll ReadArgs.Ordered children → ∀ {entity : Entity}, entity ∈ schema.entities →
      JoinsFit db schema naming layout true entity.name
        (ReadPlan.requestedLists schema entity.name children) []
  | [], _, entity, _ => joinsFit_nil true entity.name
  | child :: rest, heach, entity, hentity => by
    rw [Selection.EachAll] at heach
    rw [ReadPlan.requestedLists]
    exact joinsFit_joinOneToMany hstores hentity (fun target htarget =>
      planFits_ofSelection child heach.1 htarget fun key hkey => by cases hkey)
      (joinsFit_requestedLists rest heach.2 hentity)

end

end

/-! ## Reads -/

/-- The names in the query of a checked read fit. -/
theorem Selection.fits_compile (hstores : db.Stores schema naming layout) {entity : Entity}
    (hentity : entity ∈ schema.entities) {selection : Selection}
    (heach : selection.Each ReadArgs.Ordered) {one : Bool} {s s' : Aliases} {query : Query}
    (h : Yields (if one then selection.compileOne schema naming entity.name
      else selection.compile schema naming entity.name) s query s') :
    ∀ site ∈ query.sites [], site.Fits db schema layout := by
  have hplan := planFits_ofSelection hstores selection heach hentity
    fun key hkey => absurd hkey List.not_mem_nil
  have hnone : ∀ joint ∈ (none : Option Correlation),
      joint.Meets db [] s (layout.table entity.name) := by
    intro joint hjoint
    cases hjoint
  cases one with
  | false => exact (hplan none true s s' query [] hnone h).2.2
  | true =>
    obtain ⟨rows, s₁, hrows, hpure⟩ := yields_bind.1 h
    obtain ⟨rfl, rfl⟩ := yields_pure.1 hpure
    obtain ⟨-, hexports, hfits⟩ := hplan none false _ _ rows [] hnone hrows
    rw [if_neg Bool.false_ne_true, List.nil_append] at hexports
    refine fits_collected hfits ?_ (fun key hkey => ?_) true "_final_root"
    · rw [hexports]
      exact List.mem_cons_self ..
    · rw [hexports]
      exact List.mem_cons_of_mem _ (List.mem_map_of_mem hkey)

/-- Every name in the query for a read, of all rows or of one, refers to something: over tables with
the declared columns, and with sort keys that have paths, as those of requests that are read have
(`ReadRequest.ordered_ofJson?`). -/
theorem ReadRequest.resolves_compile {entities : List Entity} {overrides : Assoc String}
    (hschema : Schema.ofEntities entities = .ok schema)
    (hnaming : Naming.ofSchema overrides schema = .ok naming) {entity : Entity}
    (hentity : entity ∈ schema.entities) {request : ReadRequest}
    (hordered : request.Each ReadArgs.Ordered) {selection : Selection}
    (hselection : Selection.ofRequest schema entity.name request = .ok selection) {one : Bool}
    {s s' : Aliases} {query : Query}
    (h : Yields (if one then selection.compileOne schema naming entity.name
      else selection.compile schema naming entity.name) s query s') :
    ∀ site ∈ query.sites [], site.Resolves ((Layout.ofOverrides overrides).blank schema) := by
  have hconforms := (Layout.ofOverrides overrides).conforms_blank schema
  have hselected := Selection.each_ofRequest ReadArgs.ordered_default request hordered hselection
  intro site hsite
  exact (Selection.fits_compile (hconforms.stores hschema hnaming) hentity hselected h site
    hsite).resolves hconforms

/-- The first books by the names of their authors, each with its author and the author's books. -/
def Library.booksByAuthor : ReadRequest where
  items := [.bare "title", .node {
    name := "writer"
    items := [.bare "fullName", .node {
      name := "books"
      items := [.bare "title"]
      args := { order := some [⟨["title"], "ob.title", .desc⟩] } }] }]
  args := {
    filter := some { terms := [.nested "writer" { terms := [.nested "books" {}] }] }
    order := some [⟨["writer", "fullName"], "ob.writer.fullName", .asc⟩, ⟨["id"], "ob.id", .asc⟩]
    limit := some 3 }

theorem ReadRequest.resolves_compile_booksByAuthor : ∃ selection query s',
    Selection.ofRequest Library.schema "Book" Library.booksByAuthor = .ok selection ∧
      Yields (selection.compile Library.schema Library.naming "Book") {} query s' ∧
      (query.sites []).any (fun site => site.mention matches .ident "ob.writer.fullName") ∧
      ∀ site ∈ query.sites [], site.Resolves ((Layout.ofOverrides []).blank Library.schema) := by
  obtain ⟨selection, query, s', hselection, hquery, hany⟩ : ∃ selection query s',
      Selection.ofRequest Library.schema "Book" Library.booksByAuthor = .ok selection ∧
        Yields (selection.compile Library.schema Library.naming "Book") {} query s' ∧
        (query.sites []).any (fun site => site.mention matches .ident "ob.writer.fullName") :=
    ⟨_, _, _, rfl, rfl, by decide +kernel⟩
  have hbook : Library.entities[1] ∈ Library.schema.entities :=
    List.mem_cons_of_mem _ (List.mem_cons_self ..)
  have hordered : Library.booksByAuthor.Each ReadArgs.Ordered := by
    simp [Library.booksByAuthor, ReadRequest.Each, ReadItem.EachAll, ReadItem.Each,
      ReadArgs.Ordered, ReadArgs.sortKeys]
  have hlisted : Yields (if false = true then selection.compileOne Library.schema Library.naming "Book"
      else selection.compile Library.schema Library.naming "Book") {} query s' := hquery
  exact ⟨selection, query, s', hselection, hquery, hany, ReadRequest.resolves_compile
    Library.ofEntities_entities Library.ofSchema_schema hbook hordered hselection hlisted⟩

end EntitySql
