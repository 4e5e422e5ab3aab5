import EntitySql.Proofs.Read.Pages
import EntitySql.Proofs.Read.Sites

/-!
# One node of a paged read

A compiled node gives the documents of a page of its rows, with the values that nodes above sort by,
as soon as its joins offer the members for its relations and the values for its sort paths.

* `Offers` says what joined rows hold, `JoinsOffer` that compiled joins do so beside every row.
* `Delivers` is what a compiled plan has to give.
* `delivers_node` goes from the joins of a node to the node.
-/

namespace EntitySql

set_option autoImplicit false

open Compile

variable {V : Type} {engine : Engine V} {db : Instance V} {schema : Schema} {naming : Naming}
  {layout : Layout}

/-- The values of sort keys in a row of the entity, under their labels. -/
def Selection.sortCells (engine : Engine V) (db : Instance V) (schema : Schema) (layout : Layout)
    (entity : String) (selection : Selection) (keys : List SortKey) (tuple : Tuple V) :
    Assoc V :=
  keys.map fun key =>
    (key.label, Selection.sortValue engine db schema layout key.path entity selection tuple)

/-- The row is what a node makes of a row of the entity: a document of it, beside the values of the
keys. -/
def Selection.Shapes (engine : Engine V) (db : Instance V) (schema : Schema) (layout : Layout)
    (entity : String) (selection : Selection) (keys : List SortKey) (tuple : Tuple V)
    (row : Cells V) : Prop :=
  ∃ json, selection.Shows engine db schema layout entity tuple json ∧
    row = (selection.name, .document json) ::
      (selection.sortCells engine db schema layout entity keys tuple).map
        fun value => (value.1, .value value.2)

/-- The rows are what a node makes of a page. -/
def Selection.Rows (engine : Engine V) (db : Instance V) (schema : Schema) (layout : Layout)
    (entity : String) (selection : Selection) (keys : List SortKey) (tuples : List (Tuple V))
    (rows : List (Cells V)) : Prop :=
  ∃ page, selection.args.Page engine db schema layout entity
      (fun tuple beside => selection.Stands engine db schema layout entity tuple beside) tuples page ∧
    List.Forall₂ (selection.Shapes engine db schema layout entity keys) page rows

/-- The row holds documents under names, and values under labels. -/
structure Cells.Holds (engine : Engine V) (row : Cells V) (members : List (String × Json))
    (values : Assoc V) : Prop where
  members : ∀ member ∈ members, ∃ cell, (member.1, cell) ∈ row ∧ cell.toJson engine = member.2
  values : ∀ value ∈ values, (value.1, .value value.2) ∈ row

/-- The joined rows hold members of a document, and values to sort by. -/
structure Offers (engine : Engine V) (joined : Frame V) (members : List (String × Json))
    (values : Assoc V) : Prop where
  labels : ∀ item ∈ joined, ∃ number, item.1 = Aliases.name "j" number
  holds : Cells.Holds engine (joined.flatMap Prod.snd) members values

/-- Compiled, the plan gives one array with the documents of an arranged page of the rows that are
joined to the row above, or one row for each on a page: its document, beside the values of the
keys. -/
def Delivers (engine : Engine V) (db : Instance V) (schema : Schema) (naming : Naming)
    (layout : Layout) (isList : Bool) (entity : String) (keys : List SortKey) (selection : Selection)
    (plan : ReadPlan) : Prop :=
  ∀ (above : Option (Outside V)) scope s s' query,
    (∀ outside ∈ above, outside.Visible db scope s (layout.table entity)) →
      Yields (plan.compile schema naming (above.map Outside.correlation) isList) s query s' →
        s ≤ s' ∧
          query.exports db = selection.name :: (if isList then [] else keys.map SortKey.label) ∧
          Gives (query.eval engine db scope) fun rows =>
            let tuples := Outside.rows engine db (layout.table entity) above
            if isList then ∃ documents,
              selection.Lists engine db schema layout entity tuples documents ∧
                rows = [[(selection.name, .document (.arr documents))]]
            else selection.Rows engine db schema layout entity keys tuples rows

/-- Compiled, the joins offer members and values beside each row of a table, whatever is joined
before and after. -/
def JoinsOffer (engine : Engine V) (db : Instance V) (schema : Schema) (naming : Naming)
    (isList : Bool) (entity table : String) (joins : List JoinPlan)
    (shows : Tuple V → List (String × Json) → Prop) (values : Tuple V → Assoc V) : Prop :=
  ∀ number s s' queries, number < s.count "root.base" →
    Yields (ReadPlan.compileJoins schema naming entity (Aliases.name "root.base" number) isList joins)
      s queries s' →
      s ≤ s' ∧ ∀ scope tuple prior rest Q,
        (∀ item ∈ prior, item.1 ≠ Aliases.name "root.base" number) →
        (∀ joined members, shows tuple members →
          members.map Prod.fst = ReadPlan.shownRelations joins →
            Offers engine joined members (values tuple) →
              Gives (Query.evalJoins engine db scope ((Aliases.name "root.base" number,
                (db table).cells tuple) :: (prior ++ joined)) rest) Q) →
        Gives (Query.evalJoins engine db scope ((Aliases.name "root.base" number,
          (db table).cells tuple) :: prior) (queries ++ rest)) Q

/-! ## What joined rows hold -/

namespace Offers

variable {joined others : Frame V} {members more : List (String × Json)} {values later : Assoc V}

theorem nil : Offers engine [] [] [] where
  labels := fun _ hitem => absurd hitem List.not_mem_nil
  holds := ⟨fun _ hmember => absurd hmember List.not_mem_nil,
    fun _ hvalue => absurd hvalue List.not_mem_nil⟩

theorem append (h : Offers engine joined members values)
    (hothers : Offers engine others more later) :
    Offers engine (joined ++ others) (members ++ more) (values ++ later) where
  labels := List.forall_mem_append.2 ⟨h.labels, hothers.labels⟩
  holds := by
    rw [List.flatMap_append]
    refine ⟨List.forall_mem_append.2 ⟨fun member hmember => ?_, fun member hmember => ?_⟩,
      List.forall_mem_append.2 ⟨fun value hvalue => ?_, fun value hvalue => ?_⟩⟩
    · obtain ⟨cell, hcell, hjson⟩ := h.holds.members member hmember
      exact ⟨cell, List.mem_append_left _ hcell, hjson⟩
    · obtain ⟨cell, hcell, hjson⟩ := hothers.holds.members member hmember
      exact ⟨cell, List.mem_append_right _ hcell, hjson⟩
    · exact List.mem_append_left _ (h.holds.values value hvalue)
    · exact List.mem_append_right _ (hothers.holds.values value hvalue)

/-- One joined row. -/
theorem singleton {row : Cells V} (number : Nat) (h : row.Holds engine members values) :
    Offers engine [(Aliases.name "j" number, row)] members values where
  labels := by
    rw [List.forall_mem_singleton]
    exact ⟨number, rfl⟩
  holds := by
    rw [List.flatMap_singleton]
    exact h

theorem ne_root (h : Offers engine joined members values) (number : Nat) :
    ∀ item ∈ joined, item.1 ≠ Aliases.name "root.base" number := by
  intro item hitem
  obtain ⟨other, hname⟩ := h.labels item hitem
  rw [hname]
  exact joined_ne_root other number

end Offers

/-! ## Joins -/

section

variable {isList : Bool} {entity table : String} {joins others : List JoinPlan}
  {shows more : Tuple V → List (String × Json) → Prop} {values later : Tuple V → Assoc V}

theorem joinsOffer_nil (isList : Bool) (entity table : String) :
    JoinsOffer engine db schema naming isList entity table [] (fun _ members => members = [])
      fun _ => [] := by
  intro number s s' queries _ h
  obtain ⟨rfl, rfl⟩ := yields_pure.1 h
  refine ⟨le_refl s', fun scope tuple prior rest Q _ hQ => ?_⟩
  have hgives := hQ [] [] rfl rfl Offers.nil
  rw [List.append_nil] at hgives
  exact hgives

theorem JoinsOffer.append
    (h : JoinsOffer engine db schema naming isList entity table joins shows values)
    (hothers : JoinsOffer engine db schema naming isList entity table others more later) :
    JoinsOffer engine db schema naming isList entity table (joins ++ others)
      (fun tuple members => ∃ first second, shows tuple first ∧ more tuple second ∧
        members = first ++ second) fun tuple => values tuple ++ later tuple := by
  intro number s s' queries hnumber hyields
  obtain ⟨before, after, s₁, rfl, hbefore, hafter⟩ := ReadPlan.yields_joins_append hyields
  obtain ⟨hle₁, hfirst⟩ := h _ _ _ _ hnumber hbefore
  obtain ⟨hle₂, hsecond⟩ :=
    hothers _ _ _ _ (Nat.lt_of_lt_of_le hnumber (hle₁ "root.base")) hafter
  refine ⟨le_trans hle₁ hle₂, fun scope tuple prior rest Q hprior hQ => ?_⟩
  rw [List.append_assoc]
  refine hfirst scope tuple prior _ Q hprior fun joined members hshows hnames hoffers => ?_
  refine hsecond scope tuple (prior ++ joined) rest Q
    (List.forall_mem_append.2 ⟨hprior, hoffers.ne_root number⟩)
    fun joined' members' hshows' hnames' hoffers' => ?_
  have hgives := hQ (joined ++ joined') (members ++ members') ⟨_, _, hshows, hshows', rfl⟩
    (by rw [List.map_append, hnames, hnames', ReadPlan.shownRelations,
      ReadPlan.shownRelations, ReadPlan.shownRelations, List.filterMap_append])
    (hoffers.append hoffers')
  rw [List.append_assoc]
  exact hgives

theorem JoinsOffer.mono
    (h : JoinsOffer engine db schema naming isList entity table joins shows values)
    (hshows : ∀ tuple members, shows tuple members → more tuple members)
    (hvalues : ∀ tuple, ∀ value ∈ later tuple, value ∈ values tuple) :
    JoinsOffer engine db schema naming isList entity table joins more later := by
  intro number s s' queries hnumber hyields
  obtain ⟨hle, hoffer⟩ := h number s s' queries hnumber hyields
  refine ⟨hle, fun scope tuple prior rest Q hprior hQ => ?_⟩
  refine hoffer scope tuple prior rest Q hprior fun joined members hmembers hnames hoffers => ?_
  exact hQ joined members (hshows tuple members hmembers) hnames ⟨hoffers.labels,
    hoffers.holds.members,
    fun value hvalue => hoffers.holds.values value (hvalues tuple value hvalue)⟩

end

/-! ## Columns to sort by -/

/-- The column of a key reads the value to which the key leads, from the table or from the joins. -/
theorem sortColumn_reads (hstores : db.Stores schema naming layout) {entity base : String}
    {selection : Selection} {key : SortKey} {column : Expr × Option String}
    (h : ReadPlan.sortColumn schema naming entity base key = .ok column) {tuple : Tuple V}
    {beside : Cells V} (hkey : (∃ field, key.path = [field]) ∨ (key.label, .value
      (Selection.sortValue engine db schema layout key.path entity selection tuple)) ∈ beside) :
    ∃ name, column.1 = .column base name ∧ column.2.getD name = key.label ∧
      (name, .value (Selection.sortValue engine db schema layout key.path entity selection tuple)) ∈
        (db (layout.table entity)).cells tuple ++ beside := by
  unfold ReadPlan.sortColumn at h
  split at h
  · next name hpath =>
    obtain ⟨field, hfield, h⟩ := bind_eq_ok.1 h
    obtain ⟨physical, hphysical, h⟩ := bind_eq_ok.1 h
    obtain rfl := pure_eq_ok.1 h
    obtain ⟨_, _, _, _, rfl⟩ := Schema.field?_eq_some (Schema.field_eq_ok.1 hfield)
    obtain ⟨rfl, hcolumn⟩ := hstores.column_eq hphysical
    refine ⟨_, rfl, rfl, List.mem_append_left _ ?_⟩
    rw [hpath, Selection.sortValue]
    exact List.mem_map_of_mem hcolumn
  · next hpath =>
    obtain rfl := Except.ok.inj h
    obtain ⟨field, hfield⟩ | hbeside := hkey
    · exact absurd hfield (hpath field)
    · exact ⟨key.label, rfl, rfl, List.mem_append_right _ hbeside⟩

theorem sortColumns_not_grouped {entity base : String} {keys : List SortKey}
    {columns : List (Expr × Option String)}
    (h : ReadPlan.sortColumns schema naming entity base keys = .ok columns) :
    columns.any (·.1.isGrouped) = false := by
  rw [List.any_eq_false]
  intro column hcolumn
  obtain ⟨key, -, hkey⟩ := exists_of_mem_right (mapM_eq_ok.1 h) hcolumn
  obtain ⟨field, name, -, rfl⟩ | ⟨-, rfl⟩ := ReadPlan.sortColumn_eq_ok hkey
  · simp [Expr.isGrouped]
  · simp [Expr.isGrouped]

theorem gives_sortColumns (hstores : db.Stores schema naming layout) {entity base : String}
    {selection : Selection} {keys : List SortKey} {columns : List (Expr × Option String)}
    (h : ReadPlan.sortColumns schema naming entity base keys = .ok columns) {tuple : Tuple V}
    {beside : Cells V} (hkeys : ∀ key ∈ keys, (∃ field, key.path = [field]) ∨ (key.label, .value
      (Selection.sortValue engine db schema layout key.path entity selection tuple)) ∈ beside)
    (scope : Scope V) :
    Gives (Query.evalColumns engine db scope
      [(base, (db (layout.table entity)).cells tuple ++ beside)] columns)
        (· = (selection.sortCells engine db schema layout entity keys tuple).map
          fun value => (value.1, .value value.2)) := by
  have hcolumns := mapM_eq_ok.1 h
  clear h
  induction hcolumns with
  | nil => exact Query.gives_no_columns rfl
  | @cons key column keys columns hcolumn _ ih =>
    obtain ⟨name, hexpr, hlabel, hmem⟩ :=
      sortColumn_reads hstores hcolumn (hkeys key (List.mem_cons_self ..))
    obtain ⟨expr, label⟩ := column
    obtain rfl : expr = _ := hexpr
    have hcell : Gives ((Expr.column base name).eval engine db
        ([(base, (db (layout.table entity)).cells tuple ++ beside)] :: scope))
        (· = .value (Selection.sortValue engine db schema layout key.path entity selection
          tuple)) := by
      rw [Expr.eval, Scope.column,
        Scope.cells_cons_head fun item hitem => absurd hitem List.not_mem_nil]
      exact Cells.gives_cell hmem
    refine Query.gives_column (fun heq => by cases heq) hcell ?_
    rintro _ rfl
    refine (ih fun other hother => hkeys other (List.mem_cons_of_mem _ hother)).mono ?_
    rintro _ rfl
    exact congrArg (· :: _) (Prod.ext hlabel rfl)

/-! ## The queries of a node -/

/-- A column for the document of a row, and those for its sort keys, give the row that the node makes
of it. -/
theorem gives_shapedRow (hstores : db.Stores schema naming layout) {entity base output : String}
    {selection : Selection} {keys : List SortKey} {joins lists : List String} {document : Query}
    {sorts : List (Expr × Option String)}
    (hdocument : ReadPlan.document naming entity base output selection.fields (joins ++ lists) =
      .ok document)
    (hsorts : ReadPlan.sortColumns schema naming entity base keys = .ok sorts) {tuple : Tuple V}
    {ones others : List (String × Json)} (hjoins : ones.map Prod.fst = joins)
    (hlists : others.map Prod.fst = lists) {values : Assoc V} {beside : Cells V}
    (hbeside : Cells.Holds engine beside (ones ++ others) values)
    (hkeys : ∀ key ∈ keys, (∃ field, key.path = [field]) ∨ (key.label,
      Selection.sortValue engine db schema layout key.path entity selection tuple) ∈ values)
    (hones : Selection.ShowsOnes engine db schema layout entity tuple selection.manyToOne ones)
    (hothers : Selection.ShowsLists engine db schema layout entity tuple selection.oneToMany others)
    (scope : Scope V) :
    Gives (Query.evalColumns engine db scope
      [(base, (db (layout.table entity)).cells tuple ++ beside)]
        ((.rowToJson document, some selection.name) :: sorts))
          (selection.Shapes engine db schema layout entity keys tuple) := by
  obtain ⟨columns, hcolumns, rfl⟩ := ReadPlan.document_eq_ok hdocument
  have hnames : (ones ++ others).map Prod.fst = joins ++ lists := by
    rw [List.map_append, hjoins, hlists]
  have hprojects : Projects engine base _ _ _ :=
    (projects_fields hstores hcolumns tuple).beside hnames hbeside.members
  refine Query.gives_column (fun heq => by cases heq) (gives_rowToJson hprojects) ?_
  rintro _ rfl
  refine (gives_sortColumns hstores hsorts
    (fun key hkey => (hkeys key hkey).imp_right (hbeside.values _)) scope).mono ?_
  rintro _ rfl
  refine ⟨_, Selection.shows_iff.2 ⟨ones, others, hones, hothers, rfl⟩, ?_⟩
  rw [List.append_assoc]
  rfl

/-- What collects the rows of a page gives their documents as an array, or the first of them, in the
order of the sort keys of the node. -/
theorem gives_lists (hranks : engine.Ranks) {entity : String} {selection : Selection}
    {keys : List SortKey} (hown : ∀ key ∈ selection.args.sortKeys, key ∈ keys)
    {tuples : List (Tuple V)} {rows : Query} {scope : Scope V}
    (h : Gives (rows.eval engine db scope)
      (selection.Rows engine db schema layout entity keys tuples)) (first : Bool) (label : String) :
    Gives ((collectedQuery selection.name (ReadPlan.sortItems selection.args.sortKeys) first rows
      label).eval engine db scope) fun listed => ∃ documents,
        selection.Lists engine db schema layout entity tuples documents ∧
          listed = [[(selection.name,
            .document (if first then documents.head?.getD .null else .arr documents))]] := by
  refine (gives_aggregated (K := selection.args.Page engine db schema layout entity
      (fun tuple beside => selection.Stands engine db schema layout entity tuple beside) tuples)
    (R := selection.Shows engine db schema layout entity)
    (selection.sortValues engine db schema layout entity) (h.mono ?_)).mono ?_
  · rintro listed ⟨page, hpage, hrows⟩
    refine ⟨page, hpage, hrows.imp ?_⟩
    rintro tuple _ ⟨json, hshows, rfl⟩
    refine ⟨⟨json, List.mem_cons_self .., hshows⟩, ?_⟩
    rw [ReadPlan.sortItems, Selection.sortValues, List.forall₂_map_left_iff,
      List.forall₂_map_right_iff, List.forall₂_same]
    intro key hkey
    exact List.mem_cons_of_mem _ (List.mem_map.2
      ⟨_, List.mem_map.2 ⟨key, hown key hkey, rfl⟩, rfl⟩)
  · rintro _ ⟨page, pairs, hpage, hpairs, rfl⟩
    obtain ⟨sorted, hsorted, harranged, hshows⟩ :=
      hranks.sorted (ReadPlan.sortItems selection.args.sortKeys) hpairs
    rw [ReadPlan.sortItems, List.map_map] at harranged
    exact ⟨_, ⟨sorted, hpage.of_perm hsorted, harranged, hshows⟩, rfl⟩

/-! ## A node -/

/-- The rows that are joined to a row hold members for the relations of two lists of joins. -/
def Offered (engine : Engine V) (joins lists : List JoinPlan)
    (shows more : Tuple V → List (String × Json) → Prop) (values : Tuple V → Assoc V)
    (tuple : Tuple V) (beside : Frame V) : Prop :=
  ∃ ones others, shows tuple ones ∧ more tuple others ∧
    ones.map Prod.fst = ReadPlan.shownRelations joins ∧
    others.map Prod.fst = ReadPlan.shownRelations lists ∧
    Offers engine beside (ones ++ others) (values tuple)

theorem gives_offered {entity table : String} {joins lists : List JoinPlan}
    {shows more : Tuple V → List (String × Json) → Prop} {values : Tuple V → Assoc V}
    (hones : JoinsOffer engine db schema naming false entity table joins shows values)
    (hothers : JoinsOffer engine db schema naming true entity table lists more fun _ => [])
    {number : Nat} {s s₁ s₂ : Aliases} {joined listed : List (Query × String)}
    (hnumber : number < s.count "root.base")
    (hjoined : Yields (ReadPlan.compileJoins schema naming entity (Aliases.name "root.base" number)
      false joins) s joined s₁)
    (hlisted : Yields (ReadPlan.compileJoins schema naming entity (Aliases.name "root.base" number)
      true lists) s₁ listed s₂) :
    s ≤ s₂ ∧ ∀ scope tuple, Gives (Query.evalJoins engine db scope
      [(Aliases.name "root.base" number, (db table).cells tuple)] (joined ++ listed)) fun frames =>
        ∃ beside, frames = [(Aliases.name "root.base" number, (db table).cells tuple) :: beside] ∧
          Offered engine joins lists shows more values tuple beside := by
  obtain ⟨hle₁, hfirst⟩ := hones _ _ _ _ hnumber hjoined
  obtain ⟨hle₂, hsecond⟩ :=
    hothers _ _ _ _ (Nat.lt_of_lt_of_le hnumber (hle₁ "root.base")) hlisted
  refine ⟨le_trans hle₁ hle₂, fun scope tuple => ?_⟩
  refine hfirst scope tuple [] listed _ (fun item hitem => absurd hitem List.not_mem_nil)
    fun first ones hshows hnames hoffers => ?_
  rw [List.nil_append, ← List.append_nil listed]
  refine hsecond scope tuple first [] _ (hoffers.ne_root number)
    fun second others hmore hnames' hoffers' => ?_
  have hboth := hoffers.append hoffers'
  rw [List.append_nil] at hboth
  rw [Query.evalJoins]
  exact ⟨first ++ second, rfl, ones, others, hshows, hmore, hnames, hnames', hboth⟩

section

variable (hstores : db.Stores schema naming layout) (hranks : engine.Ranks) {entity : Entity}
  (hentity : entity ∈ schema.entities) {selection : Selection} {keys : List SortKey}
  {joins lists : List JoinPlan} {values : Tuple V → Assoc V}
  (hones : JoinsOffer engine db schema naming false entity.name (layout.table entity.name) joins
    (fun tuple => Selection.ShowsOnes engine db schema layout entity.name tuple selection.manyToOne)
    values)
  (hothers : JoinsOffer engine db schema naming true entity.name (layout.table entity.name) lists
    (fun tuple => Selection.ShowsLists engine db schema layout entity.name tuple selection.oneToMany)
    fun _ => [])
  (hkeys : ∀ key ∈ keys, (∃ field, key.path = [field]) ∨ ∀ tuple, (key.label,
    Selection.sortValue engine db schema layout key.path entity.name selection tuple) ∈ values tuple)

include hstores hentity hones hothers hkeys

/-- The shaped rows of a node are those of a page. -/
theorem gives_pageRows {above : Option (Outside V)} {scope : Scope V} {s s' : Aliases}
    (habove : ∀ outside ∈ above, outside.Visible db scope s (layout.table entity.name))
    {node : NodeQuery} (hname : node.head.name = selection.name)
    (hfields : node.head.fields = selection.fields) (hargs : node.head.args = selection.args)
    (hentityName : node.head.entity = entity.name) (hcarried : node.head.carried = keys)
    (hcorrelation : node.correlation = above.map Outside.correlation)
    (hrun : ReadPlan.NodeRun schema naming joins lists s s' node) :
    s ≤ s' ∧ Gives (node.shaped.eval engine db scope) (selection.Rows engine db schema layout
      entity.name keys (Outside.rows engine db (layout.table entity.name) above)) := by
  obtain ⟨output, hdocument⟩ := hrun.document
  obtain ⟨joined, listed, s₁, s₂, s₃, hjoins, hjoined, hlisted, hconditions, hle₃⟩ := hrun.parts
  have hsorts := hrun.sorts
  have htable : node.table = layout.table entity.name :=
    Except.ok.inj ((hentityName ▸ hrun.table).symm.trans (hstores.follows.table entity hentity))
  rw [hentityName, hrun.root] at hjoined hlisted hconditions
  rw [hentityName, hfields] at hdocument
  rw [hentityName, hcarried] at hsorts
  obtain ⟨hle₂, hoffered⟩ :=
    gives_offered hones hothers (Aliases.count_lt_next "root.base" s) hjoined hlisted
  rw [← hrun.root] at hoffered
  refine ⟨le_trans (Aliases.le_next "root.base" s) (le_trans hle₂
    (le_trans (le_filterConditions engine hstores hentity hconditions) hle₃)), ?_⟩
  let table := db (layout.table entity.name)
  let conditions := Condition.all ([.literal true] ++ ReadPlan.jointCondition node.root
    (above.map Outside.correlation) ++ node.conditions)
  let Meets := Offered engine joins lists
    (fun tuple => Selection.ShowsOnes engine db schema layout entity.name tuple selection.manyToOne)
    (fun tuple => Selection.ShowsLists engine db schema layout entity.name tuple selection.oneToMany)
    values
  -- what joined rows offer does not change which rows are kept
  have htruth : ∀ tuple beside, Meets tuple beside →
      conditions.eval engine db (((node.root, table.cells tuple) :: beside) :: scope) =
        .ok ((Outside.admits engine tuple above).and (Filter.admits engine db schema layout
          entity.name tuple node.head.args.filter)) := by
    rintro tuple beside ⟨ones, others, -, -, -, -, hoffers⟩
    simp only [conditions, hrun.root]
    exact eval_nodeConditions hstores hentity habove hconditions hoffers.labels
  have hquery : node.rows = {
      columns := [(.star, none)]
      source := some (.table (layout.table entity.name) (some node.root))
      joins := joined ++ listed
      filter := some conditions
      limit := ReadPlan.positive node.head.args.limit
      offset := ReadPlan.positive node.head.args.offset } := by
    rw [NodeQuery.rows, htable, hcorrelation, hjoins]
  have hrows := Query.gives_joined_cut (hoffered scope) htruth
    (ReadPlan.positive node.head.args.limit) (ReadPlan.positive node.head.args.offset)
  rw [← hquery,
    ← filter_rows entity.name fun outside houtside => (habove outside houtside).toTable] at hrows
  let Joined (tuple : Tuple V) (row : Cells V) : Prop :=
    ∃ beside, Meets tuple beside ∧ row = table.cells tuple ++ beside.flatMap Prod.snd
  have hpage := hrows.mono (Q := fun listed => ∃ page,
      selection.args.Page engine db schema layout entity.name
        (fun tuple beside => selection.Stands engine db schema layout entity.name tuple beside) _ page ∧
      List.Forall₂ Joined page listed) <| by
    rintro _ ⟨rows, delivered, hkept, hjoins, hdelivered, rfl⟩
    rw [hargs] at hkept ⊢
    rw [ReadArgs.window_eq]
    refine ReadArgs.Page.of_delivers hkept hjoins hdelivered ?_
    rintro tuple _ ⟨beside, ⟨ones, others, hshows, hmore, -, -, hoffers⟩, rfl⟩
    exact ⟨_, Selection.stands_iff.2 ⟨ones, others, hshows, hmore, hoffers.holds.members⟩, rfl⟩
  refine (Query.gives_rows (by simp [Expr.isGrouped, sortColumns_not_grouped hsorts])
    (Query.gives_frames_subquery hpage)
    (R := selection.Shapes engine db schema layout entity.name keys) ?_).mono ?_
  · rintro tuple _ ⟨row, rfl, beside, ⟨ones, others, hshows, hmore, hnames, hnames', hoffers⟩, rfl⟩
    rw [hname]
    exact gives_shapedRow hstores hdocument hsorts hnames hnames' hoffers.holds
      (fun key hkey => (hkeys key hkey).imp_right fun hvalue => hvalue tuple) hshows hmore scope
  · rintro rows ⟨page, delivered, hpage, hperm, hrows⟩
    exact ⟨delivered, hpage.of_perm hperm, hrows⟩

include hranks

/-- A node delivers the documents of a page. -/
theorem delivers_node (hown : ∀ key ∈ selection.args.sortKeys, key ∈ keys) (isList : Bool) :
    Delivers engine db schema naming layout isList entity.name keys selection
      (.node {
        entity := entity.name
        name := selection.name
        fields := selection.fields
        args := selection.args
        carried := keys } joins lists) := by
  intro above scope s s' query habove h
  obtain ⟨node, label, rfl, hhead, hcorrelation, hrun⟩ := ReadPlan.yields_node h
  have hname : node.head.name = selection.name := congrArg ReadHead.name hhead
  have hargs : node.head.args = selection.args := congrArg ReadHead.args hhead
  have hcarried : node.head.carried = keys := congrArg ReadHead.carried hhead
  obtain ⟨hle, hrows⟩ := gives_pageRows hstores hentity hones hothers hkeys habove hname
    (congrArg ReadHead.fields hhead) hargs (congrArg ReadHead.entity hhead) hcarried hcorrelation hrun
  refine ⟨hle, ?_⟩
  cases isList with
  | false =>
    have hexports : node.shaped.exports db = _ := NodeQuery.exports_shaped hrun.sorts
    rw [hname, hcarried] at hexports
    exact ⟨hexports, hrows⟩
  | true =>
    have hquery : node.query true label = collectedQuery selection.name
        (ReadPlan.sortItems selection.args.sortKeys) false node.shaped label := by
      rw [← hname, ← hargs]
      rfl
    rw [hquery]
    refine ⟨?_, gives_lists hranks hown hrows false label⟩
    rw [collectedQuery, Query.exports]
    rfl

end

end EntitySql
