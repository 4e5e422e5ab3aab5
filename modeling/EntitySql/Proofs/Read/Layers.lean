import EntitySql.Proofs.Compile.Node
import EntitySql.Proofs.Filter.Conditions
import EntitySql.Proofs.Read.Sites

/-!
# Layers of compiled reads

Which queries a compiled node is made of, where they stand, and which aliases they are known under.

* `ReadPlan.columns_of_document` and `ReadPlan.columns_of_sortColumns`: what a node selects are columns
  of its base, by the names that the naming gives.
* `NodeQuery.layers_shaped` lists the layers of a node around those of its joins and of its filter.
* `ReadPlan.taken_compile` goes through a plan: the labels of all layers are aliases that have been
  taken on the way, each once.
* `Selection.nodup_labels` says so of a whole read.
-/

namespace EntitySql

set_option autoImplicit false

open Compile

variable {schema : Schema} {naming : Naming}

theorem ReadPlan.run_filterConditions {entity root : String} {filter : Option Filter}
    {s s' : Aliases} {conditions : List Condition}
    (h : Yields (filterConditions schema naming entity root filter) s conditions s') :
    FilterRun root s conditions s' := by
  cases filter with
  | none =>
    obtain ⟨rfl, rfl⟩ := yields_pure.1 h
    exact .nil
  | some filter =>
    obtain ⟨condition, s₁, hcondition, hpure⟩ := yields_bind.1 h
    obtain ⟨rfl, rfl⟩ := yields_pure.1 hpure
    exact filter.run_compile hcondition

/-! ## Columns of a node -/

/-- The column that holds the values of a sort key: one of the table, or one that a join carries. -/
def Naming.sortColumn? (naming : Naming) (entity : String) (key : SortKey) : Option String :=
  match key.path with
  | [name] => (naming.column entity name).toOption
  | _ => some key.label

/-- The expressions of columns that are made of names, one by one. -/
theorem map_fst_of_forall₂ {α : Type} {name? : α → Option String} {expr : String → Expr}
    {items : List α} {columns : List (Expr × Option String)}
    (h : List.Forall₂ (fun item column => ∃ name, name? item = some name ∧ column.1 = expr name)
      items columns) : columns.map Prod.fst = (items.filterMap name?).map expr := by
  induction h with
  | nil => rfl
  | cons hfirst _ ih =>
    obtain ⟨name, hname, hexpr⟩ := hfirst
    rw [List.map_cons, ih, hexpr, List.filterMap_cons_some hname, List.map_cons]

namespace ReadPlan

variable {entity base : String}

/-- A document reads the columns of its fields and those of the relations that it shows, all from its
base, and has a column for each of them. -/
theorem columns_of_document {output : String} {fields shown : List String} {query : Query}
    (h : document naming entity base output fields shown = .ok query) :
    ∃ columns, query = documentQuery output columns ∧
      columns.map Prod.fst = (fields.filterMap (fun field => (naming.column entity field).toOption) ++
        shown).map (Expr.column base) ∧
      ∀ {V : Type} (db : Instance V), Query.exports db { columns } = fields ++ shown := by
  obtain ⟨stored, hstored, rfl⟩ := document_eq_ok h
  refine ⟨_, rfl, ?_, fun db => ?_⟩
  · rw [List.map_append, List.map_append, List.map_map]
    refine congrArg₂ (· ++ ·) (map_fst_of_forall₂ (hstored.imp fun field column hcolumn => ?_)) rfl
    obtain ⟨name, hname, rfl⟩ := hcolumn
    exact ⟨name, toOption_eq_some.2 hname, rfl⟩
  · rw [Query.exports, List.flatMap_append]
    refine congrArg₂ (· ++ ·) ?_ ?_
    · clear h
      induction hstored with
      | nil => rfl
      | cons hfirst _ ih =>
        obtain ⟨name, -, rfl⟩ := hfirst
        rw [List.flatMap_cons, ih]
        rfl
    · rw [List.flatMap_map]
      exact (List.map_eq_flatMap (f := id)).symm.trans (List.map_id _)

theorem sortColumn?_of_sortColumn {key : SortKey} {column : Expr × Option String}
    (h : sortColumn schema naming entity base key = .ok column) :
    ∃ name, naming.sortColumn? entity key = some name ∧ column.1 = .column base name := by
  unfold sortColumn at h
  split at h
  · next path hpath =>
    obtain ⟨field, hfield, h⟩ := bind_eq_ok.1 h
    obtain ⟨name, hname, hpure⟩ := bind_eq_ok.1 h
    obtain ⟨_, -, -, -, rfl⟩ := Schema.field?_eq_some (Schema.field_eq_ok.1 hfield)
    obtain rfl := pure_eq_ok.1 hpure
    refine ⟨name, ?_, rfl⟩
    unfold Naming.sortColumn?
    rw [hpath]
    exact toOption_eq_some.2 hname
  · next hpath =>
    obtain rfl := Except.ok.inj h
    refine ⟨key.label, ?_, rfl⟩
    unfold Naming.sortColumn?
    split
    · next path hsingle => exact absurd hsingle (hpath path)
    · rfl

/-- The values to sort by are columns of the base. -/
theorem columns_of_sortColumns {keys : List SortKey} {columns : List (Expr × Option String)}
    (h : sortColumns schema naming entity base keys = .ok columns) :
    columns.map Prod.fst = (keys.filterMap (naming.sortColumn? entity)).map (Expr.column base) :=
  map_fst_of_forall₂ ((mapM_eq_ok.1 h).imp fun _ _ => sortColumn?_of_sortColumn)

end ReadPlan

/-! ## Layers of a node -/

theorem Query.layers_collectedQuery (name : String) (order : List SortItem) (first : Bool)
    (rows : Query) (label : String) (around : Context) :
    (collectedQuery name order first rows label).layers around =
      ⟨around, collectedQuery name order first rows label⟩ :: rows.layers around := by
  simp [collectedQuery, Query.layers, Query.columnLayers, Expr.layers, Query.joinLayers,
    Source.layersOf, Source.layers, Condition.layersOf]

/-- The expression is a column of a source. -/
def Expr.IsColumn (expr : Expr) : Prop :=
  ∃ source name, expr = .column source name

/-- Columns of a source have no layers. -/
theorem Query.columnLayers_of_map_fst {around : Context} {columns : List (Expr × Option String)}
    {source : String} {names : List String}
    (h : columns.map Prod.fst = names.map (Expr.column source)) : columnLayers around columns = [] := by
  refine columnLayers_eq_nil fun column hcolumn => ?_
  have hexpr := List.mem_map_of_mem (f := Prod.fst) hcolumn
  rw [h] at hexpr
  obtain ⟨name, -, heq⟩ := List.mem_map.1 hexpr
  rw [← heq, Expr.layers]

namespace NodeQuery

variable {node : NodeQuery}

theorem layers_documentQuery (output : String) {columns : List (Expr × Option String)}
    {source : String} {names : List String}
    (h : columns.map Prod.fst = names.map (Expr.column source)) (around : Context) :
    (documentQuery output columns).layers around =
      [⟨around, documentQuery output columns⟩, ⟨around, { columns }⟩] := by
  simp [documentQuery, Query.layers, Query.columnLayers, Query.columnLayers_of_map_fst h,
    Expr.layers, Query.joinLayers, Source.layersOf, Source.layers, Condition.layersOf]

theorem layers_jointCondition {root : String} {correlation : Option Correlation}
    (h : ∀ joint ∈ correlation, joint.parent.IsColumn) (around : Context) :
    Condition.layersAll around (ReadPlan.jointCondition root correlation) = [] := by
  cases correlation with
  | none => rfl
  | some joint =>
    obtain ⟨column, parent⟩ := joint
    obtain ⟨source, name, rfl⟩ := h _ rfl
    rfl

/-- The rows of a node are one layer, with those of its joins and of its filter. -/
theorem layers_rows (h : ∀ joint ∈ node.correlation, joint.parent.IsColumn) (around : Context) :
    node.rows.layers around = ⟨around, node.rows⟩ ::
      (Query.joinLayers around [(node.root, .table node.table)] node.joins ++
        Condition.layersAll (node.level :: around) node.conditions) := by
  simp [rows, level, Query.layers, Query.columnLayers, Expr.layers, Query.sourceLevel,
    Source.layersOf, Source.layers, Condition.layersOf, Condition.layers, Condition.layersAll,
    Condition.layersAll_append, layers_jointCondition h]

/-- A node is a layer around its document, which is two, and around its rows. -/
theorem layers_shaped {output : String} {columns : List (Expr × Option String)}
    {names sorts : List String} (hdocument : node.document = documentQuery output columns)
    (hcolumns : columns.map Prod.fst = names.map (Expr.column node.base))
    (hsorts : node.sorts.map Prod.fst = sorts.map (Expr.column node.base)) (around : Context) :
    node.shaped.layers around = ⟨around, node.shaped⟩ ::
      ⟨[(node.base, .rows node.rows)] :: around, documentQuery output columns⟩ ::
        ⟨[(node.base, .rows node.rows)] :: around, { columns }⟩ :: node.rows.layers around := by
  simp [shaped, hdocument, Query.layers.eq_1, Query.columnLayers, Expr.layers, Query.sourceLevel,
    Query.joinLevel, Query.joinLayers, Source.layersOf, Source.layers, Condition.layersOf,
    Query.columnLayers_of_map_fst hsorts, layers_documentQuery output hcolumns]

end NodeQuery

/-! ## Labels -/

/-- The names under which queries know their sources, and those of their layers. -/
def Query.joinLabels (around : Context) (before : Assoc Range) (joins : List (Query × String)) :
    List String :=
  (joinLevel joins).map Prod.fst ++ (joinLayers around before joins).flatMap Layer.labels

theorem Query.joinLabels_cons (around : Context) (before : Assoc Range) (query : Query)
    (label : String) (rest : List (Query × String)) :
    ((query.layers (before :: around)).flatMap Layer.labels ++
      ([label] ++ joinLabels around (before ++ [(label, .rows query)]) rest)).Perm
        (joinLabels around before ((query, label) :: rest)) := by
  refine List.perm_iff_count.2 fun name => ?_
  simp only [joinLabels, joinLevel, joinLayers, List.map_cons, List.flatMap_append,
    List.count_append, List.count_cons, List.count_nil]
  omega

/-- The labels of a node in the order in which they are taken. -/
theorem NodeSteps.labels {joins lists : List JoinPlan} {s s₁ s₂ s₃ : Aliases}
    {joined listed : List (Query × String)} {node : NodeQuery}
    (h : NodeSteps schema naming joins lists s s₁ s₂ s₃ joined listed node)
    (hcorrelation : ∀ joint ∈ node.correlation, joint.parent.IsColumn) (around : Context) :
    ([node.root] ++ (Query.joinLabels around [(node.root, .table node.table)] joined ++
      (Query.joinLabels around ([(node.root, .table node.table)] ++ Query.joinLevel joined) listed ++
        ((Condition.layersAll (node.level :: around) node.conditions).flatMap Layer.labels ++
          ([node.base] ++ [Aliases.name "o" (s₃.count "o")]))))).Perm
      ((node.shaped.layers around).flatMap Layer.labels) := by
  obtain ⟨columns, hdocument, hcolumns, -⟩ := ReadPlan.columns_of_document h.document
  rw [NodeQuery.layers_shaped hdocument hcolumns (ReadPlan.columns_of_sortColumns h.sorts),
    NodeQuery.layers_rows hcorrelation, h.all, Query.joinLayers_append]
  have hshaped : Layer.labels ⟨around, node.shaped⟩ = [node.base] := rfl
  have hdocument : Layer.labels ⟨[(node.base, .rows node.rows)] :: around,
      documentQuery (Aliases.name "o" (s₃.count "o")) columns⟩ =
        [Aliases.name "o" (s₃.count "o")] := rfl
  have hcolumns : Layer.labels ⟨[(node.base, .rows node.rows)] :: around, { columns }⟩ = [] := rfl
  have hrows : Layer.labels ⟨around, node.rows⟩ = node.root ::
      ((Query.joinLevel joined).map Prod.fst ++ (Query.joinLevel listed).map Prod.fst) := by
    rw [← List.map_append, ← Query.joinLevel_append, ← h.all]
    rfl
  refine List.perm_iff_count.2 fun label => ?_
  simp only [List.flatMap_cons, List.flatMap_append, hshaped, hdocument, hcolumns, hrows,
    Query.joinLabels, List.count_append, List.count_cons, List.count_nil]
  omega

namespace ReadPlan

/-- The labels of a node are aliases that it takes, if those of its joins are. -/
theorem taken_node {correlation : Option Correlation} {isList : Bool} {head : ReadHead}
    {joins lists : List JoinPlan} {s s' : Aliases} {query : Query}
    (hjoins : ∀ {entity root s queries s'},
      Yields (compileJoins schema naming entity root false joins) s queries s' →
        ∀ around before, Aliases.Taken s s' (Query.joinLabels around before queries))
    (hlists : ∀ {entity root s queries s'},
      Yields (compileJoins schema naming entity root true lists) s queries s' →
        ∀ around before, Aliases.Taken s s' (Query.joinLabels around before queries))
    (hcorrelation : ∀ joint ∈ correlation, joint.parent.IsColumn)
    (h : Yields ((ReadPlan.node head joins lists).compile schema naming correlation isList) s query
      s') (around : Context) :
    Aliases.Taken s s' ((query.layers around).flatMap Layer.labels) := by
  obtain ⟨node, joined, listed, s₁, s₂, s₃, rfl, rfl, hsteps, hend⟩ := steps_node h
  have hroot := Aliases.Taken.next "root.base" s
  have hconditions := (run_filterConditions hsteps.conditions).taken (node.level :: around)
  have hbase := Aliases.Taken.next "base" s₃
  have houtput := Aliases.Taken.next "o" (Aliases.next "base" s₃).2
  rw [← hsteps.root] at hroot
  rw [← hsteps.base] at hbase
  rw [Aliases.count_next, if_neg (by decide)] at houtput
  have hshaped := (hroot.append <| (hjoins hsteps.joinSteps around _).append <|
    (hlists hsteps.listSteps around _).append <| hconditions.append <|
      hbase.append houtput).perm (hsteps.labels hcorrelation around)
  cases hend with
  | one => exact hshaped
  | list =>
    have hcollected := Aliases.Taken.next "agg" (Aliases.next "o" (Aliases.next "base" s₃).2).2
    rw [Aliases.count_next, if_neg (by decide), Aliases.count_next, if_neg (by decide)] at hcollected
    rw [Query.layers_collectedQuery]
    exact (hshaped.append hcollected).perm List.perm_append_comm

mutual

/-- The labels of a compiled plan, wherever it stands, are aliases that have been taken on the way,
each once. -/
theorem taken_compile : (plan : ReadPlan) → ∀ {correlation : Option Correlation} {isList : Bool}
    {s s' : Aliases} {query : Query}, (∀ joint ∈ correlation, joint.parent.IsColumn) →
      Yields (plan.compile schema naming correlation isList) s query s' → ∀ around : Context,
        Aliases.Taken s s' ((query.layers around).flatMap Layer.labels)
  | .refused _, _, _, _, _, _, _, h, _ => absurd h not_yields_throw
  | .node _ joins lists, _, _, _, _, _, hcorrelation, h, around =>
    taken_node (taken_compileJoins joins) (taken_compileJoins lists) hcorrelation h around

theorem taken_compileJoins : (joins : List JoinPlan) → ∀ {isList : Bool} {entity root : String}
    {s s' : Aliases} {queries : List (Query × String)},
      Yields (compileJoins schema naming entity root isList joins) s queries s' →
        ∀ around before, Aliases.Taken s s' (Query.joinLabels around before queries)
  | [], isList, entity, root, s, s', queries, h, around, before => by
    obtain ⟨rfl, rfl⟩ := yields_pure.1 h
    exact .nil _
  | .unknown fault :: rest, isList, entity, root, s, s', queries, h, around, before =>
    absurd h not_yields_joins_unknown
  | .on relation requested plan :: rest, isList, entity, root, s, s', queries, h, around, before => by
    obtain ⟨link, query, later, s₁, -, hquery, hlater, rfl⟩ := yields_joins_cons h
    have hplan := taken_compile plan
      (fun joint hjoint => by cases hjoint; exact ⟨_, _, rfl⟩) hquery (before :: around)
    have hrest := taken_compileJoins rest hlater around
      (before ++ [(Aliases.name "j" (s₁.count "j"), .rows query)])
    exact (hplan.append ((Aliases.Taken.next "j" s₁).append hrest)).perm
      (Query.joinLabels_cons ..)

end

end ReadPlan

/-- The aliases of a read, of all rows or of the first one, are pairwise different over the whole
statement: those of tables, of sub-queries that are read from, and of lateral joins, at any depth.
Which aliases were taken before, by whatever calls, does not matter. -/
theorem Selection.nodup_labels {entity : String} {selection : Selection} {one : Bool}
    {s s' : Aliases} {query : Query}
    (h : Yields (if one then selection.compileOne schema naming entity
      else selection.compile schema naming entity) s query s') :
    ((query.layers []).flatMap Layer.labels).Nodup := by
  cases one with
  | false => exact (ReadPlan.taken_compile _ (fun joint hjoint => by cases hjoint) h []).nodup
  | true =>
    obtain ⟨rows, s₁, hrows, hpure⟩ := yields_bind.1 h
    obtain ⟨rfl, rfl⟩ := yields_pure.1 hpure
    have htaken := ReadPlan.taken_compile _ (fun joint hjoint => by cases hjoint) hrows []
    change List.Nodup ((Query.layers [] (collectedQuery ..)).flatMap Layer.labels)
    rw [Query.layers_collectedQuery, List.flatMap_cons]
    refine List.nodup_cons.2 ⟨?_, htaken.nodup⟩
    have hfinal : "_final_root".toList.getLast? = some 't' := by decide
    exact htaken.ne_of_last hfinal (by decide)

/-- Aliases from which an earlier call has taken some. -/
def Library.usedAliases : Aliases where
  taken := [("root.base", 2), ("j", 1), ("w", 1)]

theorem Selection.nodup_labels_booksByAuthor : ∃ selection query s',
    Selection.ofRequest Library.schema "Book" Library.booksByAuthor = .ok selection ∧
      Yields (selection.compileOne Library.schema Library.naming "Book") Library.usedAliases query s' ∧
      ((query.layers []).flatMap Layer.labels).length = 15 ∧
      ((query.layers []).flatMap Layer.labels).Nodup := by
  obtain ⟨selection, query, s', hselection, hquery, hlength⟩ : ∃ selection query s',
      Selection.ofRequest Library.schema "Book" Library.booksByAuthor = .ok selection ∧
        Yields (selection.compileOne Library.schema Library.naming "Book") Library.usedAliases query
          s' ∧
        ((query.layers []).flatMap Layer.labels).length = 15 :=
    ⟨_, _, _, rfl, rfl, by decide +kernel⟩
  have hone : Yields (if true then selection.compileOne Library.schema Library.naming "Book"
      else selection.compile Library.schema Library.naming "Book") Library.usedAliases query s' :=
    hquery
  exact ⟨selection, query, s', hselection, hquery, hlength, Selection.nodup_labels hone⟩

end EntitySql
