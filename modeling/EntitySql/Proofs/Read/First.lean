import EntitySql.Proofs.Read.Sites
import EntitySql.Proofs.Relational.Documents

/-!
# All rows of a read, and the first of them

A read is compiled to the array of its rows, or to the first of these. Both collect the rows of one and
the same query, in one order, so that what the second gives is the first element of what the first gives.

* `Selection.compile_eq` and `Selection.compileOne_eq` compile the rows alike, before the queries differ.
* `collectedDocuments` are the documents of rows in their order, where the columns of a row come before
  the row itself. `readsUnder_collectedPairs` says that they are what is collected under any label, unless
  a column is ambiguous for having its name.
* `Selection.compileOne_givesFirst` puts this together.
-/

namespace EntitySql

set_option autoImplicit false

open Compile

/-! ## Compiling -/

section

variable {schema : Schema} {naming : Naming}

theorem ReadPlan.compile_list (head : ReadHead) (joins lists : List JoinPlan)
    (correlation : Option Correlation) :
    (ReadPlan.node head joins lists).compile schema naming correlation true = do
      let rows ← (ReadPlan.node head joins lists).compile schema naming correlation false
      return collectedQuery head.name (sortItems head.args.sortKeys) false rows (← fresh "agg") := by
  rw [ReadPlan.compile, ReadPlan.compile]
  simp only [bind_assoc]
  rfl

namespace Selection

variable (schema naming)

/-- The query for the rows of a read, each with its sort values. -/
def compileRows (entity : String) (selection : Selection) : Compile Query :=
  (ReadPlan.ofSelection schema entity [] selection).compile schema naming none false

variable (entity : String) (selection : Selection)

theorem compile_eq : selection.compile schema naming entity = do
    let rows ← selection.compileRows schema naming entity
    return collectedQuery selection.name (ReadPlan.sortItems selection.args.sortKeys) false rows
      (← fresh "agg") := by
  unfold Selection.compile compileRows
  cases selection
  rw [ReadPlan.ofSelection]
  dsimp only
  split
  · rw [ReadPlan.compile, ReadPlan.compile]
    rfl
  · rw [ReadPlan.compile_list]

theorem compileOne_eq : selection.compileOne schema naming entity = do
    let rows ← selection.compileRows schema naming entity
    return collectedQuery selection.name (ReadPlan.sortItems selection.args.sortKeys) true rows
      "_final_root" :=
  rfl

end Selection

end

/-! ## Collecting rows -/

variable {V : Type} {engine : Engine V} {db : Instance V} {scope : Scope V}

/-- What is collected of rows whose columns are read in some way: their documents, each with its sort
values. -/
def collectedPairs (engine : Engine V) (name : String) (order : List SortItem)
    (read : Cells V → String → Eval (Cell V)) (rows : List (Cells V)) :
    Eval (List (List V × Json)) :=
  gather (fun row => do
    let values ← order.mapM fun item => do (← read row item.column).stored
    return [(values, (← read row name).toJson engine)]) rows

/-- How columns are read of a row that stands under a label. -/
def Scope.identIn (scope : Scope V) (engine : Engine V) (label : String) (row : Cells V) :
    String → Eval (Cell V) :=
  Scope.ident engine ([(label, row)] :: scope)

theorem eval_collectedQuery (name : String) (order : List SortItem) (first : Bool) (rows : Query)
    (label : String) :
    (collectedQuery name order first rows label).eval engine db scope = do
      let listed ← rows.eval engine db scope
      let pairs ← collectedPairs engine name order (scope.identIn engine label) listed
      return [[(name, .document (if first then (engine.sorted order pairs).head?.getD .null
        else .arr (engine.sorted order pairs)))]] := by
  rw [collectedQuery, Query.eval, ← bind_assoc]
  change (Query.frames engine db scope (some (.subquery rows label)) [] none >>= _) = _
  rw [Query.frames_subquery]
  cases rows.eval engine db scope with
  | error fault => rfl
  | ok listed =>
    let pairs := collectedPairs engine name order (scope.identIn engine label) listed
    change ((if _ then _ else _) >>= _) = (pairs >>= _)
    rw [if_pos (by simp [Expr.isGrouped]), Query.evalGroups, Query.evalGroups, Expr.evalGroup,
      gather_map, gather_map]
    simp only [Expr.eval]
    change (_ <$> ((pairs >>= _) >>= _)) >>= _ = _
    cases pairs with
    | error fault => rfl
    | ok pairs => rfl

/-! ## Columns before rows -/

/-- What a name refers to if a column of the row comes before the row itself, whatever the label is
under which this stands. Only a source further out makes the name ambiguous. -/
def Scope.cellOf (scope : Scope V) (row : Cells V) (name : String) : Eval (Cell V) :=
  if scope.hasSource name then .error (.ambiguous name) else row.cell name

/-- The documents of rows in the order of their sort values, where columns come before rows. -/
def collectedDocuments (engine : Engine V) (scope : Scope V) (name : String) (order : List SortItem)
    (rows : List (Cells V)) : Eval (List Json) := do
  return engine.sorted order (← collectedPairs engine name order scope.cellOf rows)

/-- An evaluation that reads columns of rows under a label is what it is when columns come before rows,
unless a column is ambiguous for having the name of the label. -/
def ReadsUnder {α : Type} (columns : List String) (label : String) (x y : Eval α) : Prop :=
  x = y ∨ label ∈ columns ∧ x = .error (.ambiguous label)

namespace ReadsUnder

variable {α β : Type} {columns : List String} {label : String}

theorem refl (x : Eval α) : ReadsUnder columns label x x :=
  .inl rfl

theorem bind {x y : Eval α} {f g : α → Eval β} (h : ReadsUnder columns label x y)
    (hf : ∀ a, ReadsUnder columns label (f a) (g a)) :
    ReadsUnder columns label (x >>= f) (y >>= g) := by
  rcases h with rfl | ⟨hlabel, rfl⟩
  · cases x with
    | error fault => exact refl _
    | ok a => exact hf a
  · exact .inr ⟨hlabel, rfl⟩

theorem mapM {f g : α → Eval β} {as : List α}
    (h : ∀ a ∈ as, ReadsUnder columns label (f a) (g a)) :
    ReadsUnder columns label (as.mapM f) (as.mapM g) := by
  induction as with
  | nil => exact refl _
  | cons a rest ih =>
    obtain ⟨hfirst, hrest⟩ := List.forall_mem_cons.1 h
    rw [List.mapM_cons, List.mapM_cons]
    exact hfirst.bind fun b => (ih hrest).bind fun bs => refl _

theorem gather {f g : α → Eval (List β)} {as : List α}
    (h : ∀ a ∈ as, ReadsUnder columns label (f a) (g a)) :
    ReadsUnder columns label (EntitySql.gather f as) (EntitySql.gather g as) := by
  induction as with
  | nil => exact refl _
  | cons a rest ih =>
    obtain ⟨hfirst, hrest⟩ := List.forall_mem_cons.1 h
    rw [EntitySql.gather, EntitySql.gather]
    exact hfirst.bind fun b => (ih hrest).bind fun bs => refl _

end ReadsUnder

section

variable {row : Cells V} {name label : String}

theorem Scope.readsUnder_identIn {columns : List String} (hname : name ∈ columns)
    (h : name ∈ Assoc.keys row) :
    ReadsUnder columns label (scope.identIn engine label row name) (scope.cellOf row name) := by
  obtain ⟨⟨name, cell⟩, hcell, rfl⟩ := List.mem_map.1 h
  dsimp only at hname ⊢
  rw [identIn, ident, column?_source hcell, cellOf]
  by_cases hlabel : label = name
  · subst hlabel
    exact .inr ⟨hname, by simp [hasSource]⟩
  · have hsource : hasSource ([(label, row)] :: scope) name = scope.hasSource name := by
      simp [hasSource, hlabel]
    rw [hsource]
    refine .inl ?_
    cases scope.hasSource name <;> rfl

/-- Rows that have the columns which are read are collected as if these came first. -/
theorem readsUnder_collectedPairs (engine : Engine V) (scope : Scope V) (label : String)
    {order : List SortItem} {listed : List (Cells V)} (h : ∀ row ∈ listed,
      ∀ column ∈ name :: order.map SortItem.column, column ∈ Assoc.keys row) :
    ReadsUnder (name :: order.map SortItem.column) label
      (collectedPairs engine name order (scope.identIn engine label) listed)
      (collectedPairs engine name order scope.cellOf listed) := by
  refine ReadsUnder.gather fun row hrow => ?_
  obtain ⟨hname, horder⟩ := List.forall_mem_cons.1 (h row hrow)
  refine .bind (ReadsUnder.mapM fun item hitem => ?_) fun values => ?_
  · have hcolumn := List.mem_map_of_mem (f := SortItem.column) hitem
    exact (Scope.readsUnder_identIn (List.mem_cons_of_mem _ hcolumn) (horder _ hcolumn)).bind
      fun cell => .refl _
  · exact (Scope.readsUnder_identIn (List.mem_cons_self ..) hname).bind fun cell => .refl _

end

/-! ## Columns of rows -/

theorem mem_gather {α β : Type} {f : α → Eval (List β)} {as : List α} {bs : List β}
    (h : gather f as = .ok bs) {b : β} (hb : b ∈ bs) : ∃ a ∈ as, ∃ cs, f a = .ok cs ∧ b ∈ cs := by
  induction as generalizing bs with
  | nil =>
    obtain rfl := Except.ok.inj h
    exact absurd hb List.not_mem_nil
  | cons a rest ih =>
    rw [gather] at h
    obtain ⟨first, hfirst, h⟩ := bind_eq_ok.1 h
    obtain ⟨later, hlater, h⟩ := bind_eq_ok.1 h
    obtain rfl := pure_eq_ok.1 h
    rcases List.mem_append.1 hb with hmem | hmem
    · exact ⟨a, List.mem_cons_self .., first, hfirst, hmem⟩
    · obtain ⟨a', ha', cs, hcs, hmem⟩ := ih hlater hmem
      exact ⟨a', List.mem_cons_of_mem a ha', cs, hcs, hmem⟩

/-- Every row of a query that aggregates nothing is read from one frame. -/
theorem Query.exists_evalColumns {columns : List (Expr × Option String)} {source : Option Source}
    {joins : List (Query × String)} {filter : Option Condition} {order : List SortItem}
    {limit offset : Option Nat} {listed : List (Cells V)}
    (hplain : columns.any (·.1.isGrouped) = false)
    (h : Query.eval engine db scope { columns, source, joins, filter, order, limit, offset } =
      .ok listed) {row : Cells V} (hrow : row ∈ listed) :
    ∃ frame, Query.evalColumns engine db scope frame columns = .ok row := by
  rw [Query.eval, ← bind_assoc] at h
  obtain ⟨frames, -, h⟩ := bind_eq_ok.1 h
  dsimp only at h
  rw [hplain, if_neg Bool.false_ne_true] at h
  obtain ⟨rows, hrows, h⟩ := bind_eq_ok.1 h
  obtain rfl := pure_eq_ok.1 h
  generalize hpairs : gather _ frames = result at hrows
  cases result with
  | error fault => cases hrows
  | ok pairs =>
    obtain rfl := Except.ok.inj hrows
    have hmem := (engine.sorted_perm order pairs).mem_iff.1 (Query.mem_of_mem_window hrow)
    obtain ⟨pair, hpair, rfl⟩ := List.mem_map.1 hmem
    obtain ⟨frame, -, cells, hcells, hpair⟩ := mem_gather hpairs hpair
    obtain ⟨values, -, hcells⟩ := bind_eq_ok.1 hcells
    obtain ⟨found, hfound, hcells⟩ := bind_eq_ok.1 hcells
    obtain rfl := pure_eq_ok.1 hcells
    obtain rfl := List.mem_singleton.1 hpair
    exact ⟨frame, hfound⟩

theorem Query.keys_evalColumns {columns : List (Expr × Option String)}
    (hstar : ∀ column ∈ columns, column.1 ≠ .star) {frame : Frame V} {row : Cells V}
    (h : Query.evalColumns engine db scope frame columns = .ok row) :
    Assoc.keys row = columns.map fun column => column.2.getD column.1.columnName := by
  induction columns generalizing row with
  | nil =>
    rw [Query.evalColumns] at h
    obtain rfl := Except.ok.inj h
    rfl
  | cons column rest ih =>
    obtain ⟨hfirst, hrest⟩ := List.forall_mem_cons.1 hstar
    obtain ⟨expr, label⟩ := column
    rw [Query.evalColumns] at h
    · obtain ⟨cell, -, h⟩ := bind_eq_ok.1 h
      obtain ⟨later, hlater, h⟩ := bind_eq_ok.1 h
      obtain rfl := pure_eq_ok.1 h
      exact congrArg _ (ih hrest hlater)
    · exact hfirst

section

variable {schema : Schema} {naming : Naming} {entity : String}

/-- Sort values stand under the labels of their keys. -/
theorem ReadPlan.labels_sortColumns {base : String} {keys : List SortKey}
    {columns : List (Expr × Option String)}
    (h : ReadPlan.sortColumns schema naming entity base keys = .ok columns) :
    (columns.map fun column => column.2.getD column.1.columnName) = keys.map SortKey.label ∧
      ∀ column ∈ columns, ∃ name, column.1 = .column base name := by
  have hcolumns := mapM_eq_ok.1 h
  clear h
  induction hcolumns with
  | nil => exact ⟨rfl, List.forall_mem_nil _⟩
  | cons hfirst _ ih =>
    obtain ⟨hlabels, hrest⟩ := ih
    rw [List.map_cons, List.map_cons, hlabels, List.forall_mem_cons]
    rcases ReadPlan.sortColumn_eq_ok hfirst with ⟨_, name, _, rfl⟩ | ⟨_, rfl⟩
    · exact ⟨rfl, ⟨name, rfl⟩, hrest⟩
    · exact ⟨rfl, ⟨_, rfl⟩, hrest⟩

theorem NodeQuery.keys_shaped {node : NodeQuery} {listed : List (Cells V)}
    (hsorts : ReadPlan.sortColumns schema naming entity node.base node.head.carried =
      .ok node.sorts)
    (h : node.shaped.eval engine db scope = .ok listed) {row : Cells V} (hrow : row ∈ listed) :
    Assoc.keys row = node.head.name :: node.head.carried.map SortKey.label := by
  obtain ⟨hlabels, hcolumns⟩ := ReadPlan.labels_sortColumns hsorts
  have hplain : ((Expr.rowToJson node.document, some node.head.name) :: node.sorts).any
      (·.1.isGrouped) = false := by
    rw [List.any_eq_false, List.forall_mem_cons]
    refine ⟨by simp [Expr.isGrouped], fun column hcolumn => ?_⟩
    obtain ⟨name, hname⟩ := hcolumns column hcolumn
    simp [hname, Expr.isGrouped]
  obtain ⟨frame, hframe⟩ := Query.exists_evalColumns hplain h hrow
  rw [Query.keys_evalColumns _ hframe, List.map_cons, hlabels]
  · rfl
  · rw [List.forall_mem_cons]
    refine ⟨by simp, fun column hcolumn => ?_⟩
    obtain ⟨name, hname⟩ := hcolumns column hcolumn
    simp [hname]

theorem Selection.keys_compileRows {selection : Selection} {s s' : Aliases} {rows : Query}
    (h : Yields (selection.compileRows schema naming entity) s rows s') {listed : List (Cells V)}
    (hlisted : rows.eval engine db scope = .ok listed) {row : Cells V} (hrow : row ∈ listed) :
    Assoc.keys row = selection.name :: selection.args.sortKeys.map SortKey.label := by
  cases selection
  rw [Selection.compileRows, ReadPlan.ofSelection] at h
  split at h
  · exact absurd h not_yields_throw
  · obtain ⟨node, label, rfl, hhead, -, hrun⟩ := ReadPlan.yields_node h
    have hkeys := NodeQuery.keys_shaped hrun.sorts hlisted hrow
    rw [hhead] at hkeys
    exact hkeys

end

/-! ## Both queries -/

/-- The first evaluation gives the array of the documents, the second their first one, or `null` if there
is none. Both fail as the documents do, or because a column is named like the source of the rows. -/
structure GivesFirst (name : String) (columns : List String) (label other : String)
    (documents : Eval (List Json)) (all first : Eval (List (Cells V))) : Prop where
  all : ReadsUnder columns label all do
    return [[(name, .document (.arr (← documents)))]]
  first : ReadsUnder columns other first do
    return [[(name, .document ((← documents).head?.getD .null))]]

/-- Of rows that have the columns which are read, the documents are collected under any label. -/
theorem readsUnder_collectedQuery (engine : Engine V) (db : Instance V) (scope : Scope V)
    {name : String} {order : List SortItem} {rows : Query}
    (hkeys : ∀ listed, rows.eval engine db scope = .ok listed → ∀ row ∈ listed,
      ∀ column ∈ name :: order.map SortItem.column, column ∈ Assoc.keys row)
    (first : Bool) (label : String) : ReadsUnder (name :: order.map SortItem.column) label
      ((collectedQuery name order first rows label).eval engine db scope) do
        let documents ← rows.eval engine db scope >>= collectedDocuments engine scope name order
        return [[(name, .document (if first then documents.head?.getD .null
          else .arr documents))]] := by
  rw [eval_collectedQuery]
  cases hrows : rows.eval engine db scope with
  | error fault => exact .refl _
  | ok listed =>
    change ReadsUnder _ label (collectedPairs engine name order _ listed >>= _)
      (collectedDocuments engine scope name order listed >>= _)
    rw [collectedDocuments, bind_assoc]
    exact (readsUnder_collectedPairs engine scope label (hkeys listed hrows)).bind
      fun pairs => .refl _

open Lexeme in
/-- The text of a query that collects documents, with what is written around the array of them. -/
def collectedLexemes (before after : List Lexeme) (name : String) (order : List SortItem)
    (rows : Query) (label : String) : List Lexeme :=
  [plain "SELECT", plain " "] ++ before ++ [plain "json_agg(", ident name] ++
    SortItem.clause order ++ [plain ")"] ++ after ++ [plain " AS ", ident name, plain " FROM ",
      plain "("] ++ rows.lexemes ++ [plain ") AS ", ident label]

/-- What collects the rows in a label: their array, and the first of its elements. The text says what
both are without any rows. -/
structure CollectsBoth (name : String) (order : List SortItem) (rows : Query) (label : String)
    (many one : Query) : Prop where
  all : many = collectedQuery name order false rows label
  allText : many.lexemes = collectedLexemes [.plain "coalesce("]
    [.plain ", ", .str "[]", .plain ")"] name order rows label
  first : one = collectedQuery name order true rows "_final_root"
  firstText : one.lexemes = collectedLexemes [.plain "coalesce(("]
    [.plain " -> 0), ", .str "null", .plain ")"] name order rows "_final_root"

theorem collectsBoth (name : String) (order : List SortItem) (rows : Query) (label : String) :
    CollectsBoth name order rows label (collectedQuery name order false rows label)
      (collectedQuery name order true rows "_final_root") where
  all := rfl
  allText := by
    simp [collectedQuery, collectedLexemes, Query.lexemes, Query.columnLexemes, Expr.lexemes,
      Query.sourceClause, Source.lexemes, Query.joinClauses, Query.filterClause, SortItem.clause,
      numberClause, Lexeme.separated]
  first := rfl
  firstText := by
    simp [collectedQuery, collectedLexemes, Query.lexemes, Query.columnLexemes, Expr.lexemes,
      Query.sourceClause, Source.lexemes, Query.joinClauses, Query.filterClause, SortItem.clause,
      numberClause, Lexeme.separated]

/-- A read of all rows and one of the first row fail with the same fault, or they collect the documents
of one query under one order: the value of the first is their array, and that of the second is its first
element, or `null` if there is none. -/
theorem Selection.compileOne_givesFirst (schema : Schema) (naming : Naming) (entity : String)
    (selection : Selection) (s : Aliases) :
    (∃ fault, ((selection.compile schema naming entity).run.run s).1 = .error fault ∧
      ((selection.compileOne schema naming entity).run.run s).1 = .error fault) ∨
    ∃ many one s₁ s₂, Yields (selection.compile schema naming entity) s many s₁ ∧
      Yields (selection.compileOne schema naming entity) s one s₂ ∧
      ∃ rows number, CollectsBoth selection.name (ReadPlan.sortItems selection.args.sortKeys) rows
          (Aliases.name "agg" number) many one ∧
        ∀ {V : Type} (engine : Engine V) (db : Instance V) (scope : Scope V),
          GivesFirst selection.name (selection.name :: selection.args.sortKeys.map SortKey.label)
            (Aliases.name "agg" number) "_final_root"
            (rows.eval engine db scope >>= collectedDocuments engine scope selection.name
              (ReadPlan.sortItems selection.args.sortKeys))
            (many.eval engine db scope) (one.eval engine db scope) := by
  rw [compile_eq, compileOne_eq, run_bind, run_bind]
  cases hrun : (selection.compileRows schema naming entity).run.run s with
  | mk result s₁ =>
    cases result with
    | error fault => exact .inl ⟨fault, rfl, rfl⟩
    | ok rows =>
      refine .inr ⟨_, _, (Aliases.next "agg" s₁).2, s₁, ?_, ?_, rows, s₁.count "agg",
        collectsBoth _ _ rows _, fun engine db scope => ?_⟩
      · exact yields_bind.2 ⟨rows, s₁, hrun, rfl⟩
      · exact yields_bind.2 ⟨rows, s₁, hrun, rfl⟩
      · have horder : (ReadPlan.sortItems selection.args.sortKeys).map SortItem.column =
            selection.args.sortKeys.map SortKey.label := by
          rw [ReadPlan.sortItems, List.map_map]
          rfl
        rw [← horder]
        have hreads := readsUnder_collectedQuery engine db scope fun listed hlisted row hrow => by
          rw [horder, keys_compileRows hrun hlisted hrow]
          exact fun column hcolumn => hcolumn
        exact ⟨hreads false _, hreads true _⟩

end EntitySql
