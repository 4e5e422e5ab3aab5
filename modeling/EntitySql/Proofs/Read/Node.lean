import EntitySql.Proofs.Compile.Node
import EntitySql.Proofs.Filter.Soundness
import EntitySql.Proofs.Read.Meaning
import EntitySql.Proofs.Relational.Joins

/-!
# One node of a read

A compiled node gives the documents of its rows as soon as its joins carry the members for its
relations.

* `Outside` is the row above that a node is joined to.
* `Reads` is what a compiled plan has to give, `JoinsCarry` what compiled joins have to.
* `reads_node` goes from the joins of a node to the node.
-/

namespace EntitySql

set_option autoImplicit false

open Compile

variable {V : Type} {engine : Engine V} {db : Instance V}

/-- The row above that a node is joined to, and the source that it is read under. -/
structure Outside (V : Type) where
  link : Link
  source : String
  tuple : Tuple V

namespace Outside

def correlation (outside : Outside V) : Correlation :=
  ⟨outside.link.toColumn, .column outside.source outside.link.fromColumn⟩

/-- The rows of a table that are joined to the row above, or all of them without one. -/
def rows (engine : Engine V) (db : Instance V) (table : String) :
    Option (Outside V) → List (Tuple V)
  | none => (db table).tuples
  | some outside => db.partners engine outside.link outside.tuple

def admits (engine : Engine V) (tuple : Tuple V) : Option (Outside V) → Truth
  | none => .holds
  | some outside => engine.compare .eq (tuple outside.link.toColumn)
      [outside.tuple outside.link.fromColumn]

/-- The row above can be read, under an alias that has been taken, and joined to those of a
table. -/
structure Visible (db : Instance V) (scope : Scope V) (s : Aliases) (table : String)
    (outside : Outside V) : Prop where
  taken : ∃ number < s.count "root.base", outside.source = Aliases.name "root.base" number
  toTable : outside.link.toTable = table
  toColumn : outside.link.toColumn ∈ (db table).columns
  fromColumn : ∃ above, scope.cells outside.source = .ok ((db above).cells outside.tuple) ∧
    outside.link.fromColumn ∈ (db above).columns

end Outside

/-- Compiled, the plan gives the documents of those rows of a table that are joined to the row
above: one array of them, or one row for each. -/
def Reads (engine : Engine V) (db : Instance V) (schema : Schema) (naming : Naming)
    (isList : Bool) (table name : String) (plan : ReadPlan)
    (documents : List (Tuple V) → List Json) : Prop :=
  ∀ (above : Option (Outside V)) scope s s' query,
    (∀ outside ∈ above, outside.Visible db scope s table) →
      Yields (plan.compile schema naming (above.map Outside.correlation) isList) s query s' →
        s ≤ s' ∧ query.exports db = [name] ∧ Gives (query.eval engine db scope) fun rows =>
          ∃ given, Json.Listed given (documents (Outside.rows engine db table above)) ∧
            rows = if isList then [[(name, .document (.arr given))]] else documentRows name given

/-- Compiled, the joins carry the members to each row of a table, whatever is joined before and
after. -/
def JoinsCarry (engine : Engine V) (db : Instance V) (schema : Schema) (naming : Naming)
    (isList : Bool) (entity table : String) (joins : List JoinPlan)
    (members : Tuple V → List (String × Json)) : Prop :=
  ∀ number s s' queries, number < s.count "root.base" →
    Yields (ReadPlan.compileJoins schema naming entity (Aliases.name "root.base" number) isList joins)
      s queries s' →
      s ≤ s' ∧ (∀ tuple, (members tuple).map Prod.fst = ReadPlan.shownRelations joins) ∧
        ∀ scope tuple prior rest Q,
          (∀ item ∈ prior, item.1 ≠ Aliases.name "root.base" number) →
          (∀ joined, Carries engine joined (members tuple) →
            Gives (Query.evalJoins engine db scope ((Aliases.name "root.base" number,
              (db table).cells tuple) :: (prior ++ joined)) rest) Q) →
          Gives (Query.evalJoins engine db scope ((Aliases.name "root.base" number,
            (db table).cells tuple) :: prior) (queries ++ rest)) Q

/-! ## Conditions of a node -/

theorem joined_ne_root (number other : Nat) :
    Aliases.name "j" number ≠ Aliases.name "root.base" other :=
  Aliases.name_ne_name (c := 'j') (d := 'r') rfl rfl (by decide) number other

/-- What a filter that may be left out says about a row. -/
def Filter.admits (engine : Engine V) (db : Instance V) (schema : Schema) (layout : Layout)
    (entity : String) (tuple : Tuple V) : Option Filter → Truth
  | none => .holds
  | some filter => filter.meaning engine db schema layout entity tuple

section

variable {schema : Schema} {naming : Naming} {layout : Layout}

theorem says_filterConditions (hstores : db.Stores schema naming layout) {entity : Entity}
    (hentity : entity ∈ schema.entities) (filter : Option Filter) :
    SaysAll engine db layout entity.name
      (fun source => ReadPlan.filterConditions schema naming entity.name source filter)
      fun tuple => Filter.admits engine db schema layout entity.name tuple filter := by
  cases filter with
  | none =>
    intro scope s s' source conditions tuple _ h
    obtain ⟨rfl, rfl⟩ := yields_pure.1 h
    exact ⟨le_refl s', Condition.mean_nil scope⟩
  | some filter => exact (Filter.says_compile hstores filter hentity).singleton

/-- The condition that joins a row of the table to the row above, if there is one. -/
theorem mean_jointCondition {above : Option (Outside V)} {scope : Scope V} {table root : String}
    {tuple : Tuple V} (hroot : scope.cells root = .ok ((db table).cells tuple))
    (habove : ∀ outside ∈ above, outside.link.toColumn ∈ (db table).columns ∧
      ∃ other, scope.cells outside.source = .ok ((db other).cells outside.tuple) ∧
        outside.link.fromColumn ∈ (db other).columns) :
    Condition.Mean engine db scope
      (ReadPlan.jointCondition root (above.map Outside.correlation))
      (Outside.admits engine tuple above) := by
  cases above with
  | none => exact Condition.mean_nil scope
  | some outside =>
    obtain ⟨hto, other, hsource, hfrom⟩ := habove outside rfl
    apply Condition.mean_singleton
    exact Condition.eval_equal (Expr.eval_column engine db hroot hto)
      (Expr.eval_column engine db hsource hfrom)

/-- Rows that are joined to the row above and kept by the filter. -/
theorem filter_rows {above : Option (Outside V)} {table : String} {args : ReadArgs}
    (entity : String) (htable : ∀ outside ∈ above, outside.link.toTable = table) :
    (Outside.rows engine db table above).filter (args.keeps engine db schema layout entity) =
      (db table).tuples.filter fun tuple => (Outside.admits engine tuple above).and
        (Filter.admits engine db schema layout entity tuple args.filter) = .holds := by
  have hkeeps : ∀ tuple, args.keeps engine db schema layout entity tuple =
      decide (Filter.admits engine db schema layout entity tuple args.filter = .holds) := by
    intro tuple
    unfold ReadArgs.keeps Filter.admits
    cases args.filter <;> rfl
  cases above with
  | none =>
    simp only [Outside.rows, Outside.admits, Truth.holds_and]
    exact List.filter_congr fun tuple _ => hkeeps tuple
  | some outside =>
    rw [Outside.rows, Instance.partners, htable outside rfl, List.filter_filter]
    refine List.filter_congr fun tuple _ => ?_
    rw [hkeeps, Bool.and_comm]
    simp only [Outside.admits, Truth.and_eq_holds, Bool.decide_and]

/-- The columns for fields take the stored values. -/
theorem projects_fields (hstores : db.Stores schema naming layout) {entity base : String}
    {fields : List String} {columns : List (Expr × Option String)}
    (h : List.Forall₂ (fun field column => ∃ name, naming.column entity field = .ok name ∧
      column = (Expr.column base name, some field)) fields columns) (tuple : Tuple V) :
    Projects engine base ((db (layout.table entity)).cells tuple) columns
      (fields.map (fieldMember engine layout entity tuple)) := by
  refine List.forall₂_map_right_iff.2 (h.flip.imp ?_)
  rintro column name ⟨physical, hphysical, rfl⟩
  obtain ⟨rfl, hcolumn⟩ := hstores.column_eq hphysical
  exact ⟨_, .value (tuple (layout.column entity name)), rfl, rfl,
    List.mem_map.2 ⟨_, hcolumn, rfl⟩, rfl⟩

/-! ## A node -/

/-- What the frame of a joined row shows: the row itself, and the row above. -/
theorem cells_joined {scope : Scope V} {s : Aliases} {tuple : Tuple V} {table : String}
    {joined : Frame V} (hjoined : ∀ item ∈ joined, ∃ number, item.1 = Aliases.name "j" number) :
    let root := Aliases.name "root.base" (s.count "root.base")
    let inside : Scope V := ((root, (db table).cells tuple) :: joined) :: scope
    inside.cells root = .ok ((db table).cells tuple) ∧
      ∀ outside : Outside V, outside.Visible db scope s table →
        inside.cells outside.source = scope.cells outside.source := by
  refine ⟨Scope.cells_cons_head fun item hitem => ?_, fun outside hvisible => ?_⟩
  · obtain ⟨number, hname⟩ := hjoined item hitem
    rw [hname]
    exact joined_ne_root _ _
  · obtain ⟨number, hnumber, hsource⟩ := hvisible.taken
    refine Scope.cells_cons_of_ne fun item hitem => ?_
    rw [hsource]
    rcases List.mem_cons.1 hitem with rfl | hitem
    · intro heq
      have hsame := Aliases.name_injective heq
      omega
    · obtain ⟨other, hname⟩ := hjoined item hitem
      rw [hname]
      exact joined_ne_root _ _

theorem rowUnder_joined {scope : Scope V} {s s' : Aliases} {entity : String} {tuple : Tuple V}
    {joined : Frame V} (hjoined : ∀ item ∈ joined, ∃ number, item.1 = Aliases.name "j" number) :
    RowUnder db layout (((Aliases.name "root.base" (s.count "root.base"),
      (db (layout.table entity)).cells tuple) :: joined) :: scope) s' entity
      (Aliases.name "root.base" (s.count "root.base")) tuple := by
  refine ⟨(cells_joined hjoined).1, fun number _ => ?_⟩
  exact Aliases.name_ne_name (c := 'r') (d := 'w') rfl rfl (by decide) _ number

section

variable {entity : Entity} {joins lists : List JoinPlan}
  {ones others : Tuple V → List (String × Json)} {s s' : Aliases} {node : NodeQuery}

theorem eval_nodeConditions (hstores : db.Stores schema naming layout)
    (hentity : entity ∈ schema.entities) {above : Option (Outside V)} {scope : Scope V}
    (habove : ∀ outside ∈ above, outside.Visible db scope s (layout.table entity.name))
    {filter : Option Filter} {conditions : List Condition} {s₁ s₂ : Aliases}
    (h : Yields (ReadPlan.filterConditions schema naming entity.name
      (Aliases.name "root.base" (s.count "root.base")) filter) s₁ conditions s₂)
    {tuple : Tuple V} {joined : Frame V}
    (hjoined : ∀ item ∈ joined, ∃ number, item.1 = Aliases.name "j" number) :
    let root := Aliases.name "root.base" (s.count "root.base")
    (Condition.all ([.literal true] ++
      ReadPlan.jointCondition root (above.map Outside.correlation) ++ conditions)).eval engine db
        (((root, (db (layout.table entity.name)).cells tuple) :: joined) :: scope) =
      .ok ((Outside.admits engine tuple above).and
        (Filter.admits engine db schema layout entity.name tuple filter)) := by
  intro root
  have hrow : RowUnder db layout (((root, (db (layout.table entity.name)).cells tuple) :: joined) ::
      scope) s₁ entity.name root tuple := rowUnder_joined hjoined
  obtain ⟨-, hfilter⟩ : s₁ ≤ s₂ ∧ Condition.Mean engine db _ conditions _ :=
    says_filterConditions hstores hentity filter _ _ _ _ _ tuple hrow h
  have hliteral : Condition.Mean engine db (((root, (db (layout.table entity.name)).cells tuple) ::
      joined) :: scope) [.literal true] .holds := by
    apply Condition.mean_singleton
    rw [Condition.eval]
    rfl
  have hvisible : ∀ outside ∈ above,
      outside.link.toColumn ∈ (db (layout.table entity.name)).columns ∧
        ∃ other, Scope.cells outside.source (((root, (db (layout.table entity.name)).cells tuple) ::
          joined) :: scope) = .ok ((db other).cells outside.tuple) ∧
            outside.link.fromColumn ∈ (db other).columns := by
    intro outside houtside
    obtain ⟨other, hcells, hfrom⟩ := (habove outside houtside).fromColumn
    refine ⟨(habove outside houtside).toColumn, other, ?_, hfrom⟩
    rw [(cells_joined hjoined).2 outside (habove outside houtside), hcells]
  have hjoint := hliteral.append (mean_jointCondition hrow.cells hvisible)
  have hall := (hjoint.append hfilter).eval_all
  rw [Truth.holds_and] at hall
  exact hall

/-- The filter of a node takes its aliases one after the other. -/
theorem le_filterConditions (engine : Engine V) (hstores : db.Stores schema naming layout)
    (hentity : entity ∈ schema.entities) {filter : Option Filter} {number : Nat}
    {conditions : List Condition} {s₁ s₂ : Aliases}
    (h : Yields (ReadPlan.filterConditions schema naming entity.name
      (Aliases.name "root.base" number) filter) s₁ conditions s₂) : s₁ ≤ s₂ := by
  -- the aliases are the same whatever the row is
  let absent : Tuple V := fun _ => engine.null
  have hrow : RowUnder db layout [[(Aliases.name "root.base" number,
      (db (layout.table entity.name)).cells absent)]] s₁ entity.name _ absent :=
    ⟨Scope.cells_cons_head fun item hitem => absurd hitem List.not_mem_nil, fun other _ =>
      Aliases.name_ne_name (c := 'r') (d := 'w') rfl rfl (by decide) number other⟩
  have hmeans : SaysAll engine db layout entity.name _ _ :=
    says_filterConditions hstores hentity filter
  exact (hmeans _ _ _ _ _ _ hrow h).1

/-- A node makes a document of each of its rows, and one array of them if it is a list. -/
theorem NodeQuery.gives_query {α : Type} {kept : List α} {S : α → Cells V → Prop}
    {reference : α → Json} {scope : Scope V} (hargs : node.head.args.Plain) (hsorts : node.sorts = [])
    (hrows : Gives (node.rows.eval engine db scope) fun listed =>
      ∃ others, listed.Perm others ∧ List.Forall₂ S kept others)
    (hdocument : ∀ a row, S a row → Gives ((Expr.rowToJson node.document).eval engine db
      ([(node.base, row)] :: scope)) fun cell =>
        ∃ json, cell = .document json ∧ Json.Reordered json (reference a)) (isList : Bool)
    (label : String) :
    (node.query isList label).exports db = [node.head.name] ∧
      Gives ((node.query isList label).eval engine db scope) fun rows =>
        ∃ given, Json.Listed given (kept.map reference) ∧ rows = if isList then
          [[(node.head.name, .document (.arr given))]] else documentRows node.head.name given := by
  have hshaped : node.shaped = {
      columns := [(.rowToJson node.document, some node.head.name)]
      source := some (.subquery node.rows node.base) } := by
    rw [NodeQuery.shaped, hsorts]
  have hdocuments : Gives (Query.eval engine db scope {
      columns := [(.rowToJson node.document, some node.head.name)]
      source := some (.subquery node.rows node.base) }) _ := gives_shaped hrows hdocument
  rw [← hshaped] at hdocuments
  cases isList with
  | false =>
    refine ⟨?_, hdocuments⟩
    show node.shaped.exports db = [node.head.name]
    rw [hshaped, Query.exports]
    rfl
  | true =>
    have horder : ReadPlan.sortItems node.head.args.sortKeys = [] := by
      rw [ReadArgs.sortKeys, hargs.1]
      rfl
    have hquery : node.query true label = {
        columns := [(.jsonAgg (.ident node.head.name) [] false, some node.head.name)]
        source := some (.subquery node.shaped label) } := by
      rw [NodeQuery.query, if_pos rfl, ReadPlan.collect, horder]
    rw [hquery]
    refine ⟨?_, gives_collected hdocuments⟩
    rw [Query.exports]
    rfl

section

variable {table : String}
  (hones : JoinsCarry engine db schema naming false entity.name table joins ones)
  (hothers : JoinsCarry engine db schema naming true entity.name table lists others)

include hones hothers

theorem gives_carried {number : Nat} {s s₁ s₂ : Aliases} {joined listed : List (Query × String)}
    (hnumber : number < s.count "root.base")
    (hjoined : Yields (ReadPlan.compileJoins schema naming entity.name
      (Aliases.name "root.base" number) false joins) s joined s₁)
    (hlisted : Yields (ReadPlan.compileJoins schema naming entity.name
      (Aliases.name "root.base" number) true lists) s₁ listed s₂) :
    s ≤ s₂ ∧
      (∀ tuple, (ones tuple ++ others tuple).map Prod.fst =
        ReadPlan.shownRelations joins ++ ReadPlan.shownRelations lists) ∧
      ∀ scope tuple, Gives (Query.evalJoins engine db scope
        [(Aliases.name "root.base" number, (db table).cells tuple)] (joined ++ listed))
          fun frames => ∃ carried,
            frames = [(Aliases.name "root.base" number, (db table).cells tuple) :: carried] ∧
              Carries engine carried (ones tuple ++ others tuple) := by
  obtain ⟨hle₁, hnames, hcarry⟩ := hones _ _ _ _ hnumber hjoined
  obtain ⟨hle₂, hnames', hcarry'⟩ :=
    hothers _ _ _ _ (Nat.lt_of_lt_of_le hnumber (hle₁ "root.base")) hlisted
  refine ⟨le_trans hle₁ hle₂, fun tuple => ?_, fun scope tuple => ?_⟩
  · rw [List.map_append, hnames, hnames']
  · refine hcarry scope tuple [] listed _ (fun item hitem => absurd hitem List.not_mem_nil) ?_
    intro first hfirst
    rw [List.nil_append, ← List.append_nil listed]
    refine hcarry' scope tuple first [] _ (fun item hitem => ?_) ?_
    · obtain ⟨other, hname⟩ := hfirst.label hitem
      rw [hname]
      exact joined_ne_root other number
    · intro second hsecond
      rw [Query.evalJoins]
      exact ⟨first ++ second, rfl, hfirst.append hsecond⟩

end

/-- The query for one document gives the stored fields and what is joined. -/
theorem gives_nodeDocument (hstores : db.Stores schema naming layout) {base output : String}
    {fields relations : List String} {query : Query}
    (h : ReadPlan.document naming entity.name base output fields relations = .ok query)
    {members : List (String × Json)} (hmembers : members.map Prod.fst = relations)
    {tuple : Tuple V} {carried : Frame V} (hcarried : Carries engine carried members)
    (scope : Scope V) :
    Gives ((Expr.rowToJson query).eval engine db ([(base,
      (db (layout.table entity.name)).cells tuple ++ carried.flatMap Prod.snd)] :: scope))
      fun cell => ∃ json, cell = .document json ∧ Json.Reordered json
        (.obj (fields.map (fieldMember engine layout entity.name tuple) ++ members)) := by
  obtain ⟨columns, hcolumns, rfl⟩ := ReadPlan.document_eq_ok h
  obtain ⟨given, hprojects, hreordered⟩ :=
    hcarried.projects hmembers (projects_fields hstores hcolumns tuple)
  refine (gives_rowToJson hprojects).mono ?_
  rintro _ rfl
  exact ⟨_, rfl, hreordered⟩

/-- A node gives the documents of its rows. -/
theorem reads_node (hstores : db.Stores schema naming layout) (hentity : entity ∈ schema.entities)
    {head : ReadHead} (hhead : head.entity = entity.name) (hargs : head.args.Plain)
    (hcarried : head.carried = [])
    (hones : JoinsCarry engine db schema naming false entity.name (layout.table entity.name) joins
      ones)
    (hothers : JoinsCarry engine db schema naming true entity.name (layout.table entity.name) lists
      others) (isList : Bool) :
    Reads engine db schema naming isList (layout.table entity.name) head.name
      (.node head joins lists) fun tuples =>
        (tuples.filter (head.args.keeps engine db schema layout entity.name)).map fun tuple =>
          .obj (head.fields.map (fieldMember engine layout entity.name tuple) ++
            (ones tuple ++ others tuple)) := by
  intro above scope s s' query habove h
  obtain ⟨node, label, rfl, rfl, hcorrelation, hrun⟩ := ReadPlan.yields_node h
  obtain ⟨output, hdocument⟩ := hrun.document
  obtain ⟨joined, listed, s₁, s₂, s₃, hjoins, hjoined, hlisted, hconditions, hle₃⟩ := hrun.parts
  have htable : node.table = layout.table entity.name := by
    have hgiven := hrun.table
    rw [hhead, hstores.follows.table entity hentity] at hgiven
    exact (Except.ok.inj hgiven).symm
  have hsorts : node.sorts = [] := by
    have hgiven := hrun.sorts
    rw [hcarried] at hgiven
    exact (Except.ok.inj hgiven).symm
  rw [hhead, hrun.root] at hjoined hlisted hconditions
  rw [hhead] at hdocument
  obtain ⟨hle₂, hnames, hcells⟩ :=
    gives_carried hones hothers (Aliases.count_lt_next "root.base" s) hjoined hlisted
  let table := db (layout.table entity.name)
  have htruth : ∀ tuple carried, Carries engine carried (ones tuple ++ others tuple) →
      (Condition.all ([.literal true] ++ ReadPlan.jointCondition node.root
        (above.map Outside.correlation) ++ node.conditions)).eval engine db
          (((node.root, table.cells tuple) :: carried) :: scope) =
        .ok ((Outside.admits engine tuple above).and
          (Filter.admits engine db schema layout entity.name tuple node.head.args.filter)) := by
    intro tuple carried hcells
    rw [hrun.root]
    exact eval_nodeConditions hstores hentity habove hconditions fun item hitem => hcells.label hitem
  have hquery : node.rows = {
      columns := [(.star, none)]
      source := some (.table (layout.table entity.name) (some node.root))
      joins := joined ++ listed
      filter := some (.all ([.literal true] ++ ReadPlan.jointCondition node.root
        (above.map Outside.correlation) ++ node.conditions)) } := by
    rw [NodeQuery.rows, htable, hcorrelation, hjoins, hargs.2.1, hargs.2.2]
    rfl
  rw [← hrun.root] at hcells
  have hrows := Query.gives_joined (hcells scope) htruth
  rw [← hquery,
    ← filter_rows entity.name fun outside houtside => (habove outside houtside).toTable] at hrows
  obtain ⟨hexports, hgives⟩ := node.gives_query hargs hsorts hrows
    (by
      rintro tuple row ⟨carried, hcarried, hrow⟩
      exact hrow ▸ gives_nodeDocument hstores hdocument (hnames tuple) hcarried scope) isList label
  refine ⟨?_, hexports, hgives⟩
  exact le_trans (Aliases.le_next "root.base" s)
    (le_trans hle₂ (le_trans (le_filterConditions engine hstores hentity hconditions) hle₃))

end

end

end EntitySql
