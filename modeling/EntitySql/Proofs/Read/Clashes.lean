import EntitySql.Proofs.Read.Layers
import EntitySql.Proofs.Sql.Readings

/-!
# Names that clash in compiled reads

A node reads `SELECT *` from its table and its joins, so that stored columns, documents of joined nodes
and values carried for sorting stand side by side, under names that nobody compares. Which plans have
names that PostgreSQL rejects or reads otherwise is said here of the plan alone, without the query.

* `ReadPlan.columns` and `ReadPlan.size` are what a node sees of its joins: the columns that they have,
  and how many aliases for documents they take.
* `ReadPlan.clashes` lists the names of a plan that are not read as they are meant.
* `FilterRun.clear` and `NodeQuery.clear_rows`: filters and correlations read columns of tables, and so
  never clash.
* `ReadPlan.read_compile` goes through a plan: all layers of its query are clear just if no name
  clashes. `JoinsRead` and `PlanRead` are what the induction carries, `ReadPlan.clear_node` is its step.
* `Selection.clear_iff_clashes` says so of a whole read.
-/

namespace EntitySql

set_option autoImplicit false

open Compile

variable {V : Type} {db : Instance V} {schema : Schema} {naming : Naming}

/-! ## Names in plans -/

/-- The columns of the table of an entity. -/
def Naming.stored (naming : Naming) (db : Instance V) (entity : String) : List String :=
  match naming.table entity with
  | .ok table => (db table).columns
  | .error _ => []

/-- The columns that a node reads from its rows: those of its fields, the relations that it shows, and
the values that it carries. -/
def ReadHead.reads (naming : Naming) (shown : List String) (head : ReadHead) : List String :=
  head.fields.filterMap (fun field => (naming.column head.entity field).toOption) ++ shown ++
    head.carried.filterMap (naming.sortColumn? head.entity)

/-- The names by which a list is collected that are not those of one column of its rows. -/
def ReadHead.uncollected (head : ReadHead) : List String :=
  (head.name :: head.args.sortKeys.map SortKey.label).filter fun name =>
    (head.name :: head.carried.map SortKey.label).count name ≠ 1

/-- The columns of a compiled plan: its documents, and unless it is a list the values it carries. -/
def ReadPlan.columns (isList : Bool) : ReadPlan → List String
  | .refused _ => []
  | .node head _ _ => if isList then [head.name] else head.name :: head.carried.map SortKey.label

def JoinPlan.columns (isList : Bool) : JoinPlan → List String
  | .unknown _ => []
  | .on _ _ plan => plan.columns isList

mutual

/-- The number of nodes, each of which takes one alias for its documents. -/
def ReadPlan.size : ReadPlan → Nat
  | .refused _ => 0
  | .node _ joins lists => ReadPlan.sizeAll joins + ReadPlan.sizeAll lists + 1
termination_by structural plan => plan

def ReadPlan.sizeAll : List JoinPlan → Nat
  | [] => 0
  | join :: rest => join.size + ReadPlan.sizeAll rest
termination_by structural joins => joins

def JoinPlan.size : JoinPlan → Nat
  | .unknown _ => 0
  | .on _ _ plan => plan.size
termination_by structural join => join

end

mutual

/-- The names that a compiled plan does not read as they are meant, with the columns outside it and the
number of its first alias for documents. A node reads the columns of its table and those of its joins
side by side. Its alias for documents, which is the last one below it, must be no column in sight. -/
def ReadPlan.clashes (db : Instance V) (naming : Naming) (isList : Bool) (outside : List String)
    (number : Nat) : ReadPlan → List String
  | .refused _ => []
  | .node head joins lists =>
    let stored := naming.stored db head.entity
    let beside := stored ++ joins.flatMap (JoinPlan.columns false)
    let rows := beside ++ lists.flatMap (JoinPlan.columns true)
    let shown := ReadPlan.shownRelations joins ++ ReadPlan.shownRelations lists
    let later := number + ReadPlan.sizeAll joins
    ReadPlan.clashesAll db naming false outside stored number joins ++
      ReadPlan.clashesAll db naming true outside beside later lists ++
      (head.reads naming shown).filter (1 < rows.count ·) ++
      [Aliases.name "o" (later + ReadPlan.sizeAll lists)].filter
        (· ∈ head.fields ++ shown ++ rows ++ outside) ++
      if isList then head.uncollected else []
termination_by structural plan => plan

/-- A join sees the columns of the table and those of the joins before it. -/
def ReadPlan.clashesAll (db : Instance V) (naming : Naming) (isList : Bool)
    (outside beside : List String) (number : Nat) : List JoinPlan → List String
  | [] => []
  | join :: rest =>
    join.clashes db naming isList (beside ++ outside) number ++
      ReadPlan.clashesAll db naming isList outside (beside ++ join.columns isList)
        (number + join.size) rest
termination_by structural joins => joins

def JoinPlan.clashes (db : Instance V) (naming : Naming) (isList : Bool) (outside : List String)
    (number : Nat) : JoinPlan → List String
  | .unknown _ => []
  | .on _ _ plan => plan.clashes db naming isList outside number
termination_by structural join => join

end

/-! ## Filters -/

/-- A compiled filter takes no alias but those of its sub-queries. -/
theorem FilterRun.count_eq {source : String} {s s' : Aliases} {conditions : List Condition}
    (h : FilterRun source s conditions s') {stem : String} (hstem : stem ≠ "w") :
    s'.count stem = s.count stem := by
  induction h with
  | nil => rfl
  | append _ _ hfirst hlater => rw [hlater, hfirst]
  | literal value => rfl
  | compare column op operand => rfl
  | all _ ih => exact ih
  | any _ ih => exact ih
  | «exists» table column outer _ ih => rw [ih, Aliases.count_next, if_neg hstem.symm]

/-- The names in a compiled filter are clear, for a source over a table whose name is none of the
aliases to come: they are columns of tables. -/
theorem FilterRun.clear (db : Instance V) {source : String} {s s' : Aliases}
    {conditions : List Condition} (h : FilterRun source s conditions s') {around : Context} {table : String}
    (hsource : Context.range? source around = some (.table table)) (havoids : s.Avoids "w" source) :
    (∀ reading ∈ Condition.readingsAll conditions, reading.Clear db around) ∧
      ∀ layer ∈ Condition.layersAll around conditions, layer.Clear db := by
  induction h generalizing around table with
  | nil =>
    exact ⟨List.forall_mem_nil _, List.forall_mem_nil _⟩
  | append first later hfirst hlater =>
    obtain ⟨hreadings, hlayers⟩ := hfirst hsource havoids
    obtain ⟨hreadings', hlayers'⟩ := hlater hsource (havoids.mono (first.taken []).le)
    rw [Condition.readingsAll_append, Condition.layersAll_append, List.forall_mem_append,
      List.forall_mem_append]
    exact ⟨⟨hreadings, hreadings'⟩, hlayers, hlayers'⟩
  | literal value =>
    exact ⟨List.forall_mem_nil _, List.forall_mem_nil _⟩
  | compare column op operand =>
    rw [Condition.readingsAll_singleton, Condition.readings, operand.readings, List.append_nil,
      Condition.layersAll_singleton, Condition.layers, Expr.layers, operand.layersOf,
      Expr.readings, List.forall_mem_singleton]
    exact ⟨Reading.clear_of_table hsource column, List.forall_mem_nil _⟩
  | all _ ih =>
    rw [Condition.readingsAll_singleton, Condition.layersAll_singleton]
    exact ih hsource havoids
  | any _ ih =>
    rw [Condition.readingsAll_singleton, Condition.layersAll_singleton]
    exact ih hsource havoids
  | @«exists» source s s' joined column outer condition inner ih =>
    let label := Aliases.name "w" (s.count "w")
    let inside : Context := [(label, .table joined)] :: around
    have hjoined : Context.range? label inside = some (.table joined) :=
      Context.range?_cons_head (List.forall_mem_nil _)
    have hother : Context.range? source inside = some (.table table) := by
      rw [Context.range?_cons_of_ne, hsource]
      exact List.forall_mem_singleton.2 (havoids _ (Nat.le_refl _)).symm
    obtain ⟨hreadings, hlayers⟩ := ih hjoined (Aliases.avoids_next "w" s)
    rw [Condition.readingsAll_singleton, Condition.layersAll_singleton, Condition.layers,
      Query.layers_joinedRows, List.forall_mem_cons]
    refine ⟨List.forall_mem_nil _, ?_, hlayers⟩
    have hown : (joinedRows joined label column (.column source outer) condition).readings =
        .column label column :: .column source outer :: Condition.readingsAll [condition] := by
      simp [joinedRows, Query.readings, Expr.readings, Condition.readings, Condition.readingsAll,
        Condition.equal]
    show ∀ reading ∈ (joinedRows joined label column (.column source outer) condition).readings,
      reading.Clear db inside
    rw [hown, List.forall_mem_cons, List.forall_mem_cons]
    exact ⟨Reading.clear_of_table hjoined column, Reading.clear_of_table hother outer, hreadings⟩

/-! ## The layers of a node -/

/-- The row above is under an alias that has been taken, and ranges over a table. -/
def Correlation.Above (around : Context) (s : Aliases) (joint : Correlation) : Prop :=
  ∃ number < s.count "root.base", ∃ table name,
    joint.parent = .column (Aliases.name "root.base" number) name ∧
      Context.range? (Aliases.name "root.base" number) around = some (.table table)

theorem Correlation.Above.isColumn {around : Context} {s : Aliases} {joint : Correlation}
    (h : joint.Above around s) : joint.parent.IsColumn := by
  obtain ⟨number, -, table, name, hparent, -⟩ := h
  exact ⟨_, name, hparent⟩

/-- The labels of compiled joins are none of the aliases that were taken before. -/
theorem ReadPlan.joined_ne {isList : Bool} {entity root : String} {joins : List JoinPlan}
    {s s' : Aliases} {queries : List (Query × String)}
    (h : Yields (compileJoins schema naming entity root isList joins) s queries s') {stem : String}
    {number : Nat} (hlt : number < s.count stem) :
    ∀ item ∈ Query.joinLevel queries, item.1 ≠ Aliases.name stem number := by
  intro item hitem heq
  refine (taken_compileJoins joins h [] []).not_mem_of_lt hlt (List.mem_append_left _ ?_)
  exact List.mem_map.2 ⟨item, hitem, heq⟩

theorem Context.levelColumns_append (level more : Assoc Range) :
    levelColumns db (level ++ more) = levelColumns db level ++ levelColumns db more :=
  List.flatMap_append

theorem Context.levelColumns_joinLevel (joins : List (Query × String)) :
    levelColumns db (Query.joinLevel joins) = Query.joinExports db joins := by
  induction joins with
  | nil => rfl
  | cons join rest ih =>
    rw [Query.joinExports, ← ih]
    rfl

theorem Query.columnReadings {source : String} {columns : List (Expr × Option String)}
    {names : List String} (h : columns.map Prod.fst = names.map (Expr.column source)) :
    columns.flatMap (fun column => column.1.readings) = names.map (Reading.column source) := by
  calc columns.flatMap (fun column => column.1.readings)
      = (columns.map Prod.fst).flatMap Expr.readings := (List.flatMap_map ..).symm
    _ = names.flatMap fun name => [Reading.column source name] := by
      rw [h, List.flatMap_map]
      rfl
    _ = names.map (Reading.column source) := List.map_eq_flatMap.symm

/-- Documents are collected by names that are those of one column of the rows each. -/
theorem Layer.clear_collectedQuery {name : String} {keys : List SortKey} {first : Bool} {rows : Query}
    {label : String} {around : Context} :
    Layer.Clear db ⟨around, collectedQuery name (ReadPlan.sortItems keys) first rows label⟩ ↔
      ∀ own ∈ name :: keys.map SortKey.label, (rows.exports db).count own = 1 := by
  have hreadings : (collectedQuery name (ReadPlan.sortItems keys) first rows label).readings =
      (name :: keys.map SortKey.label).map Reading.own := by
    simp [collectedQuery, Query.readings, Expr.readings, ReadPlan.sortItems]
  rw [Layer.Clear, hreadings, List.forall_mem_map]
  have hcolumns : Context.levelColumns db (Context.innermost (Layer.inside
      ⟨around, collectedQuery name (ReadPlan.sortItems keys) first rows label⟩)) =
        rows.exports db := List.append_nil _
  simp only [Reading.Clear, hcolumns]

namespace NodeQuery

variable {node : NodeQuery} {around : Context}

/-- A column of the base of a node is clear if the rows have one column of the name at most. -/
theorem clear_base (name : String) : (Reading.column node.base name).Clear db
    ([(node.base, .rows node.rows)] :: around) ↔ (node.rows.exports db).count name ≤ 1 := by
  have hrange : Context.range? node.base ([(node.base, .rows node.rows)] :: around) =
      some (.rows node.rows) :=
    Context.range?_cons_head (List.forall_mem_nil _)
  simp [Reading.Clear, hrange, Range.exports]

theorem clear_shaped {names : List String}
    (hsorts : node.sorts.map Prod.fst = names.map (Expr.column node.base)) :
    Layer.Clear db ⟨around, node.shaped⟩ ↔
      ∀ name ∈ names, (node.rows.exports db).count name ≤ 1 := by
  have hreadings : node.shaped.readings = names.map (Reading.column node.base) := by
    simp [shaped, Query.readings, Expr.readings, Query.columnReadings hsorts]
  rw [Layer.Clear, hreadings, List.forall_mem_map]
  exact forall_congr' fun name => imp_congr_right fun _ => clear_base name

theorem clear_columns {columns : List (Expr × Option String)} {names : List String}
    (hcolumns : columns.map Prod.fst = names.map (Expr.column node.base)) :
    Layer.Clear db ⟨[(node.base, .rows node.rows)] :: around, { columns }⟩ ↔
      ∀ name ∈ names, (node.rows.exports db).count name ≤ 1 := by
  have hreadings : Query.readings { columns } = names.map (Reading.column node.base) := by
    simp [Query.readings, Query.columnReadings hcolumns]
  rw [Layer.Clear, hreadings, List.forall_mem_map]
  -- a query without sources adds an empty level
  exact forall_congr' fun name => imp_congr_right fun _ => clear_base name

/-- The whole-row name of a document is clear if no column in sight has the name. -/
theorem clear_documentQuery (output : String) (columns : List (Expr × Option String)) :
    Layer.Clear db ⟨[(node.base, .rows node.rows)] :: around, documentQuery output columns⟩ ↔
      output ∉ Query.exports db { columns } ++
        (node.rows.exports db ++ Context.columns db around) := by
  have hreadings : (documentQuery output columns).readings = [.row output] := rfl
  have hcolumns : Context.columns db (Layer.inside
      ⟨[(node.base, .rows node.rows)] :: around, documentQuery output columns⟩) =
        Query.exports db { columns } ++ (node.rows.exports db ++ Context.columns db around) := by
    simp [Layer.inside, documentQuery, Query.level, Query.sourceLevel, Query.joinLevel,
      Context.columns, Context.levelColumns, Range.exports]
  rw [Layer.Clear, hreadings, List.forall_mem_singleton, Reading.Clear, hcolumns]
  exact and_iff_right (List.mem_singleton.2 rfl)

/-- The names in the condition that joins a node to the row above are clear. -/
theorem clear_jointCondition (db : Instance V) {s : Aliases}
    (hroot : node.root = Aliases.name "root.base" (s.count "root.base"))
    (hjoined : ∀ number ≤ s.count "root.base",
      ∀ item ∈ Query.joinLevel node.joins, item.1 ≠ Aliases.name "root.base" number)
    (hcorrelation : ∀ joint ∈ node.correlation, joint.Above around s)
    (hown : Context.range? node.root (node.level :: around) = some (.table node.table)) :
    ∀ reading ∈ Condition.readingsAll (ReadPlan.jointCondition node.root node.correlation),
      reading.Clear db (node.level :: around) := by
  cases hgiven : node.correlation with
  | none => exact List.forall_mem_nil _
  | some joint =>
    obtain ⟨column, parent⟩ := joint
    obtain ⟨number, hlt, table, name, rfl, habove⟩ := hcorrelation _ hgiven
    -- the row above is not under the alias of this node
    have hne : node.root ≠ Aliases.name "root.base" number := by
      intro heq
      have hsame := Aliases.name_injective (hroot.symm.trans heq)
      omega
    have houtside : Context.range? (Aliases.name "root.base" number) (node.level :: around) =
        some (.table table) := by
      rw [Context.range?_cons_of_ne, habove]
      exact List.forall_mem_cons.2 ⟨hne, hjoined number (Nat.le_of_lt hlt)⟩
    have hpair : Condition.readingsAll (ReadPlan.jointCondition node.root
        (some ⟨column, .column (Aliases.name "root.base" number) name⟩)) =
          [.column node.root column, .column (Aliases.name "root.base" number) name] := rfl
    rw [hpair, List.forall_mem_cons, List.forall_mem_singleton]
    exact ⟨Reading.clear_of_table hown column, Reading.clear_of_table houtside name⟩

theorem readings_rows : node.rows.readings = Condition.readingsAll
    (ReadPlan.jointCondition node.root node.correlation) ++
      Condition.readingsAll node.conditions := by
  simp [rows, Query.readings, Expr.readings, Condition.readings, Condition.readingsAll,
    Condition.readingsAll_append]

/-- The names in the rows of a node are clear: they are columns of tables. -/
theorem clear_rows (db : Instance V) {s s₂ s₃ : Aliases}
    (hroot : node.root = Aliases.name "root.base" (s.count "root.base"))
    (hjoined : ∀ number ≤ s.count "root.base",
      ∀ item ∈ Query.joinLevel node.joins, item.1 ≠ Aliases.name "root.base" number)
    (hcorrelation : ∀ joint ∈ node.correlation, joint.Above around s)
    (hconditions : FilterRun node.root s₂ node.conditions s₃) :
    Layer.Clear db ⟨around, node.rows⟩ ∧
      ∀ layer ∈ Condition.layersAll (node.level :: around) node.conditions, layer.Clear db := by
  have hown : Context.range? node.root (node.level :: around) = some (.table node.table) :=
    Context.range?_cons_head (hroot ▸ hjoined _ (Nat.le_refl _))
  have havoids : s₂.Avoids "w" node.root := by
    intro number _ heq
    have hstem := (Aliases.name_inj.1 (hroot.symm.trans heq)).1
    exact absurd hstem (by decide)
  obtain ⟨hreadings, hlayers⟩ := hconditions.clear db hown havoids
  refine ⟨?_, hlayers⟩
  show ∀ reading ∈ node.rows.readings, reading.Clear db (node.level :: around)
  rw [readings_rows, List.forall_mem_append]
  exact ⟨clear_jointCondition db hroot hjoined hcorrelation hown, hreadings⟩

end NodeQuery

/-! ## Plans -/

/-- The names in compiled joins are clear just if none clashes. They take one alias for the documents
of each node, and have the planned columns. -/
structure JoinsRead (db : Instance V) (naming : Naming) (isList : Bool) (joins : List JoinPlan)
    (around : Context) (before : Assoc Range) (s s' : Aliases) (queries : List (Query × String)) :
    Prop where
  count : s'.count "o" = s.count "o" + ReadPlan.sizeAll joins
  exports : Query.joinExports db queries = joins.flatMap (JoinPlan.columns isList)
  clear : (∀ layer ∈ Query.joinLayers around before queries, layer.Clear db) ↔
    ReadPlan.clashesAll db naming isList (Context.columns db around)
      (Context.levelColumns db before) (s.count "o") joins = []

/-- The same of a compiled plan. -/
structure PlanRead (db : Instance V) (naming : Naming) (isList : Bool) (plan : ReadPlan)
    (around : Context) (s s' : Aliases) (query : Query) : Prop where
  count : s'.count "o" = s.count "o" + plan.size
  exports : query.exports db = plan.columns isList
  clear : (∀ layer ∈ query.layers around, layer.Clear db) ↔
    plan.clashes db naming isList (Context.columns db around) (s.count "o") = []

theorem ReadHead.uncollected_eq_nil {head : ReadHead} : head.uncollected = [] ↔
    ∀ name ∈ head.name :: head.args.sortKeys.map SortKey.label,
      (head.name :: head.carried.map SortKey.label).count name = 1 := by
  rw [ReadHead.uncollected, List.filter_eq_nil_iff]
  simp

/-- Joins that are clear just if no name clashes, wherever they stand beside a row that can be named. -/
def JoinsReadAll (db : Instance V) (schema : Schema) (naming : Naming) (isList : Bool)
    (joins : List JoinPlan) : Prop :=
  ∀ {entity : String} {number : Nat} {table : String} {s s' : Aliases}
    {queries : List (Query × String)} {around : Context} {before : Assoc Range},
    number < s.count "root.base" →
      Context.range? (Aliases.name "root.base" number) (before :: around) = some (.table table) →
        Yields (ReadPlan.compileJoins schema naming entity (Aliases.name "root.base" number) isList
          joins) s queries s' → JoinsRead db naming isList joins around before s s' queries

namespace NodeSteps

variable {joins lists : List JoinPlan} {s s₁ s₂ s₃ : Aliases} {joined listed : List (Query × String)}
  {node : NodeQuery} (h : NodeSteps schema naming joins lists s s₁ s₂ s₃ joined listed node)

include h

theorem joined_ne {number : Nat} (hnumber : number ≤ s.count "root.base") :
    (∀ item ∈ Query.joinLevel joined, item.1 ≠ Aliases.name "root.base" number) ∧
      ∀ item ∈ Query.joinLevel listed, item.1 ≠ Aliases.name "root.base" number := by
  have hfirst := Aliases.count_lt_next "root.base" s
  have hlater := (ReadPlan.taken_compileJoins joins h.joinSteps [] []).le "root.base"
  exact ⟨ReadPlan.joined_ne h.joinSteps (by omega), ReadPlan.joined_ne h.listSteps (by omega)⟩

/-- What the joins of a node come to. -/
theorem joinsRead (hjoins : JoinsReadAll db schema naming false joins) (around : Context) :
    JoinsRead db naming false joins around [(node.root, .table node.table)]
      (Aliases.next "root.base" s).2 s₁ joined := by
  have hrun := h.joinSteps
  rw [h.root] at hrun ⊢
  exact hjoins (Aliases.count_lt_next "root.base" s)
    (Context.range?_cons_head (List.forall_mem_nil _)) hrun

theorem listsRead (hlists : JoinsReadAll db schema naming true lists) (around : Context) :
    JoinsRead db naming true lists around
      ([(node.root, .table node.table)] ++ Query.joinLevel joined) s₁ s₂ listed := by
  have hfirst := Aliases.count_lt_next "root.base" s
  have hlater := (ReadPlan.taken_compileJoins joins h.joinSteps [] []).le "root.base"
  have hne := (h.joined_ne (Nat.le_refl _)).1
  have hrun := h.listSteps
  rw [h.root] at hrun ⊢
  have hrange : Context.range? (Aliases.name "root.base" (s.count "root.base"))
      (([(Aliases.name "root.base" (s.count "root.base"), .table node.table)] ++
        Query.joinLevel joined) :: around) = some (.table node.table) := Context.range?_cons_head hne
  exact hlists (Nat.lt_of_lt_of_le hfirst hlater) hrange hrun

theorem stored_eq : naming.stored db node.head.entity = (db node.table).columns := by
  rw [Naming.stored, h.table]

theorem levelColumns_root : Context.levelColumns db [(node.root, .table node.table)] =
    naming.stored db node.head.entity := by
  rw [h.stored_eq]
  exact List.append_nil _

/-- What a list of a node sees beside it: the columns of the table, and those of the joins. -/
theorem levelColumns_joined
    (hjoined : Query.joinExports db joined = joins.flatMap (JoinPlan.columns false)) :
    Context.levelColumns db ([(node.root, .table node.table)] ++ Query.joinLevel joined) =
      naming.stored db node.head.entity ++ joins.flatMap (JoinPlan.columns false) := by
  rw [Context.levelColumns_append, h.levelColumns_root, Context.levelColumns_joinLevel, hjoined]

theorem exports_rows
    (hjoined : Query.joinExports db joined = joins.flatMap (JoinPlan.columns false))
    (hlisted : Query.joinExports db listed = lists.flatMap (JoinPlan.columns true)) :
    node.rows.exports db = naming.stored db node.head.entity ++
      joins.flatMap (JoinPlan.columns false) ++ lists.flatMap (JoinPlan.columns true) := by
  rw [NodeQuery.exports_rows, h.stored_eq, h.all, Query.joinExports_append, hjoined, hlisted,
    List.append_assoc]

end NodeSteps

namespace ReadPlan

variable {head : ReadHead} {joins lists : List JoinPlan}

/-- The names in a node, without those by which a list is collected, are clear just if none clashes. -/
theorem clear_node (around : Context) {s s₁ s₂ s₃ : Aliases} {joined listed : List (Query × String)}
    {node : NodeQuery} (hsteps : NodeSteps schema naming joins lists s s₁ s₂ s₃ joined listed node)
    (hjoins : JoinsReadAll db schema naming false joins)
    (hlists : JoinsReadAll db schema naming true lists)
    (hcorrelation : ∀ joint ∈ node.correlation, joint.Above around s) :
    s₃.count "o" = s.count "o" + sizeAll joins + sizeAll lists ∧
      ((∀ layer ∈ node.shaped.layers around, layer.Clear db) ↔
        (ReadPlan.node node.head joins lists).clashes db naming false (Context.columns db around)
          (s.count "o") = []) := by
  have hjoinsRead := hsteps.joinsRead hjoins around
  have hlistsRead := hsteps.listsRead hlists around
  have hconditions := run_filterConditions hsteps.conditions
  -- which document aliases are taken before that of the node
  have hroot : (Aliases.next "root.base" s).2.count "o" = s.count "o" := by
    rw [Aliases.count_next, if_neg (by decide)]
  have hfirst : s₁.count "o" = s.count "o" + sizeAll joins := by
    rw [hjoinsRead.count, hroot]
  have hcount : s₃.count "o" = s.count "o" + sizeAll joins + sizeAll lists := by
    rw [hconditions.count_eq (by decide), hlistsRead.count, hfirst]
  refine ⟨hcount, ?_⟩
  have hne : ∀ number ≤ s.count "root.base", ∀ item ∈ Query.joinLevel node.joins,
      item.1 ≠ Aliases.name "root.base" number := by
    intro number hnumber
    rw [hsteps.all, Query.joinLevel_append, List.forall_mem_append]
    exact hsteps.joined_ne hnumber
  obtain ⟨hrowsClear, hfilterClear⟩ :=
    NodeQuery.clear_rows db hsteps.root hne hcorrelation hconditions
  obtain ⟨columns, hdocument, hcolumns, hexports⟩ := columns_of_document hsteps.document
  have hsorts := columns_of_sortColumns hsteps.sorts
  rw [NodeQuery.layers_shaped hdocument hcolumns hsorts,
    NodeQuery.layers_rows (fun joint hjoint => (hcorrelation joint hjoint).isColumn), hsteps.all,
    Query.joinLayers_append]
  simp only [List.forall_mem_cons, List.forall_mem_append]
  rw [NodeQuery.clear_shaped hsorts, NodeQuery.clear_columns hcolumns,
    NodeQuery.clear_documentQuery, hexports, hsteps.exports_rows hjoinsRead.exports hlistsRead.exports,
    hcount, hjoinsRead.clear, hlistsRead.clear, hsteps.levelColumns_root,
    hsteps.levelColumns_joined hjoinsRead.exports, hroot, hfirst]
  simp only [clashes, ReadHead.reads, List.append_eq_nil_iff, List.filter_eq_nil_iff,
    List.forall_mem_append, List.forall_mem_singleton, decide_eq_true_eq, Nat.not_lt,
    List.append_assoc, Bool.false_eq_true, if_false, and_true]
  constructor
  · rintro ⟨hsorts, hown, ⟨hfields, hshown, hlisted⟩, -, ⟨hones, hmany⟩, -⟩
    exact ⟨hones, hmany, ⟨hfields, hshown, hlisted, hsorts⟩, hown⟩
  · rintro ⟨hones, hmany, ⟨hfields, hshown, hlisted, hsorts⟩, hown⟩
    exact ⟨hsorts, hown, ⟨hfields, hshown, hlisted⟩, hrowsClear, ⟨hones, hmany⟩, hfilterClear⟩

theorem clashes_list (outside : List String) (number : Nat) :
    (ReadPlan.node head joins lists).clashes db naming true outside number =
      (ReadPlan.node head joins lists).clashes db naming false outside number ++
        head.uncollected := by
  simp [clashes]

/-- From the joins of a node to the node. -/
theorem planRead_node {correlation : Option Correlation} {isList : Bool} {s s' : Aliases}
    {query : Query} {around : Context} (hjoins : JoinsReadAll db schema naming false joins)
    (hlists : JoinsReadAll db schema naming true lists)
    (hcorrelation : ∀ joint ∈ correlation, joint.Above around s)
    (h : Yields ((ReadPlan.node head joins lists).compile schema naming correlation isList) s query
      s') :
    PlanRead db naming isList (.node head joins lists) around s s' query := by
  obtain ⟨node, joined, listed, s₁, s₂, s₃, rfl, rfl, hsteps, hend⟩ := steps_node h
  obtain ⟨hcount, hclear⟩ := clear_node around hsteps hjoins hlists hcorrelation
  have hexports : node.shaped.exports db = node.head.name :: node.head.carried.map SortKey.label :=
    NodeQuery.exports_shaped hsteps.sorts
  have hshaped : (Aliases.next "o" (Aliases.next "base" s₃).2).2.count "o" =
      s.count "o" + (ReadPlan.node node.head joins lists).size := by
    rw [Aliases.count_next, if_pos rfl, Aliases.count_next, if_neg (by decide), hcount, size]
    omega
  cases hend with
  | one => exact ⟨hshaped, hexports, hclear⟩
  | list =>
    refine ⟨?_, rfl, ?_⟩
    · rw [Aliases.count_next, if_neg (by decide), hshaped]
    · rw [Query.layers_collectedQuery, List.forall_mem_cons, Layer.clear_collectedQuery, hexports,
        hclear, clashes_list, List.append_eq_nil_iff, ReadHead.uncollected_eq_nil, and_comm]

mutual

/-- The names in a compiled plan are clear just if none clashes. -/
theorem read_compile : (plan : ReadPlan) → ∀ {correlation : Option Correlation} {isList : Bool}
    {s s' : Aliases} {query : Query} {around : Context},
      (∀ joint ∈ correlation, joint.Above around s) →
        Yields (plan.compile schema naming correlation isList) s query s' →
          PlanRead db naming isList plan around s s' query
  | .refused _, _, _, _, _, _, _, _, h => absurd h not_yields_throw
  | .node _ joins lists, _, _, _, _, _, _, hcorrelation, h =>
    planRead_node (read_compileJoins joins false) (read_compileJoins lists true) hcorrelation h

theorem read_compileJoins : (joins : List JoinPlan) → (isList : Bool) →
    JoinsReadAll db schema naming isList joins
  | [], isList, entity, number, table, s, s', queries, around, before, hnumber, hrange, h => by
    obtain ⟨rfl, rfl⟩ := yields_pure.1 h
    exact ⟨rfl, rfl, by simp [Query.joinLayers, clashesAll]⟩
  | .unknown fault :: rest, isList, entity, number, table, s, s', queries, around, before, hnumber,
      hrange, h => absurd h not_yields_joins_unknown
  | .on relation requested plan :: rest, isList, entity, number, table, s, s', queries, around,
      before, hnumber, hrange, h => by
    obtain ⟨link, query, later, s₁, -, hquery, hlater, rfl⟩ := yields_joins_cons h
    have habove : ∀ joint ∈ some (⟨link.toColumn, .column (Aliases.name "root.base" number)
        link.fromColumn⟩ : Correlation), joint.Above (before :: around) s := by
      rintro _ ⟨⟩
      exact ⟨number, hnumber, table, link.fromColumn, rfl, hrange⟩
    have hplan := read_compile plan habove hquery
    -- the row can be named beside the join, too
    have hle := (taken_compile plan (fun joint hjoint => (habove joint hjoint).isColumn) hquery
      []).le "root.base"
    have hnext := Aliases.le_next "j" s₁ "root.base"
    have hlabel : ∀ item ∈ [(Aliases.name "j" (s₁.count "j"), Range.rows query)],
        item.1 ≠ Aliases.name "root.base" number := by
      rw [List.forall_mem_singleton]
      exact fun heq => absurd (Aliases.name_inj.1 heq).1 (by decide)
    have hrest := read_compileJoins rest isList (by omega)
      ((Context.range?_append hlabel).trans hrange) hlater
    have hcount : (Aliases.next "j" s₁).2.count "o" = s.count "o" + plan.size := by
      rw [Aliases.count_next, if_neg (by decide), hplan.count]
    refine ⟨?_, ?_, ?_⟩
    · rw [hrest.count, hcount, sizeAll, JoinPlan.size]
      omega
    · rw [Query.joinExports, hplan.exports, hrest.exports, List.flatMap_cons, JoinPlan.columns]
    · rw [Query.joinLayers, List.forall_mem_append, hplan.clear, hrest.clear, hcount, clashesAll,
        List.append_eq_nil_iff, JoinPlan.clashes, JoinPlan.columns, JoinPlan.size,
        Context.levelColumns_append, ← hplan.exports]
      simp [Context.columns, Context.levelColumns, Range.exports]

end

end ReadPlan

/-! ## Reads -/

theorem ReadPlan.head_of_ofSelection {entity : String} {passing : List SortKey}
    {selection : Selection} {head : ReadHead} {joins lists : List JoinPlan}
    (h : ofSelection schema entity passing selection = .node head joins lists) :
    head.name = selection.name ∧ head.args = selection.args := by
  obtain ⟨name, fields, args, manyToOne, oneToMany⟩ := selection
  rw [ofSelection] at h
  split at h
  · cases h
  · cases h
    exact ⟨rfl, rfl⟩

namespace Selection

/-- The names that the query for a read does not read as they are meant, if `number` document aliases
have been taken before. -/
def clashes (db : Instance V) (schema : Schema) (naming : Naming) (entity : String) (number : Nat)
    (selection : Selection) : List String :=
  (ReadPlan.ofSelection schema entity [] selection).clashes db naming true [] number

/-- Every name in the query for a read, of all rows or of the first one, is read as it is meant, just
if no name clashes: each column of a source is one column at most, each column that is collected is one
of what is collected, and no column in sight takes the name of a row for itself. -/
theorem clear_iff_clashes {entity : String} {selection : Selection} {one : Bool} {s s' : Aliases}
    {query : Query}
    (h : Yields (if one then selection.compileOne schema naming entity
      else selection.compile schema naming entity) s query s') :
    (∀ layer ∈ query.layers [], layer.Clear db) ↔
      selection.clashes db schema naming entity (s.count "o") = [] := by
  have hnone : ∀ joint ∈ (none : Option Correlation), joint.Above [] s := by
    intro joint hjoint
    cases hjoint
  cases one with
  | false => exact (ReadPlan.read_compile _ hnone h).clear
  | true =>
    obtain ⟨rows, s₁, hrows, hpure⟩ := yields_bind.1 h
    obtain ⟨rfl, rfl⟩ := yields_pure.1 hpure
    have hread : PlanRead db naming false _ [] s s' rows := ReadPlan.read_compile _ hnone hrows
    unfold clashes
    cases hplan : ReadPlan.ofSelection schema entity [] selection with
    | refused fault =>
      rw [hplan] at hrows
      exact absurd hrows not_yields_throw
    | node head joins lists =>
      obtain ⟨hname, hargs⟩ := ReadPlan.head_of_ofSelection hplan
      rw [hplan] at hread
      change (∀ layer ∈ (collectedQuery ..).layers [], layer.Clear db) ↔ _
      rw [Query.layers_collectedQuery, List.forall_mem_cons, Layer.clear_collectedQuery,
        hread.exports, hread.clear, ReadPlan.clashes_list, List.append_eq_nil_iff,
        ReadHead.uncollected_eq_nil, hname, hargs, and_comm, ReadPlan.columns,
        if_neg Bool.false_ne_true, hname]
      rfl

theorem clear_iff_clashes_booksByAuthor : ∃ selection query s',
    Selection.ofRequest Library.schema "Book" Library.booksByAuthor = .ok selection ∧
      Yields (selection.compileOne Library.schema Library.naming "Book") Library.usedAliases query s' ∧
      (query.layers []).length = 16 ∧
      ∀ layer ∈ query.layers [], layer.Clear ((Layout.ofOverrides []).blank Library.schema) := by
  obtain ⟨selection, query, s', hselection, hquery, hlength, hclashes⟩ : ∃ selection query s',
      Selection.ofRequest Library.schema "Book" Library.booksByAuthor = .ok selection ∧
        Yields (selection.compileOne Library.schema Library.naming "Book") Library.usedAliases query
          s' ∧
        (query.layers []).length = 16 ∧
        selection.clashes ((Layout.ofOverrides []).blank Library.schema) Library.schema
          Library.naming "Book" (Library.usedAliases.count "o") = [] :=
    ⟨_, _, _, rfl, rfl, by decide +kernel, by decide +kernel⟩
  have hone : Yields (if true then selection.compileOne Library.schema Library.naming "Book"
      else selection.compile Library.schema Library.naming "Book") Library.usedAliases query s' :=
    hquery
  exact ⟨selection, query, s', hselection, hquery, hlength, (clear_iff_clashes hone).2 hclashes⟩

/-- A read of books that asks for the author twice joins the author twice, and reads a column that the
rows have twice. -/
theorem unclear_writerTwice : ∃ selection query s',
    Selection.ofRequest Library.schema "Book"
        { items := [.bare "title", .bare "writer", .bare "writer"] } = .ok selection ∧
      Yields (selection.compile Library.schema Library.naming "Book") {} query s' ∧
      selection.clashes ((Layout.ofOverrides []).blank Library.schema) Library.schema
        Library.naming "Book" 0 = ["writer", "writer"] ∧
      ¬ ∀ layer ∈ query.layers [], layer.Clear ((Layout.ofOverrides []).blank Library.schema) :=
  ⟨_, _, _, rfl, rfl, by decide +kernel, by decide +kernel⟩

end Selection

end EntitySql
