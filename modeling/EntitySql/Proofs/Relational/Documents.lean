import EntitySql.Proofs.Relational.Rows

/-!
# Queries that give documents

The three shapes of query that build JSON: a whole-row reference to a list of columns, one document
for each row, and one array of all documents.

* `Json.Reordered` is equality of documents up to the order of array elements, `Json.Listed` that of
  lists of documents.
* `gives_rowToJson`, `gives_shaped` and `gives_aggregated` evaluate the shapes; `gives_collected` is
  the last one without an order.

Rows are listed in no particular order, so that arrays are known up to their order only.
-/

namespace EntitySql

set_option autoImplicit false

/-- Documents that are equal up to the order of the elements of arrays. -/
inductive Json.Reordered : Json → Json → Prop where
  | refl (json : Json) : Reordered json json
  | arr {items others reference : List Json} (perm : items.Perm others)
    (elements : List.Forall₂ Reordered others reference) : Reordered (.arr items) (.arr reference)
  | obj {members reference : List (String × Json)}
    (keys : members.map Prod.fst = reference.map Prod.fst)
    (values : List.Forall₂ Reordered (members.map Prod.snd) (reference.map Prod.snd)) :
    Reordered (.obj members) (.obj reference)

/-- Lists of documents that are equal up to their order. -/
def Json.Listed (documents reference : List Json) : Prop :=
  ∃ others, documents.Perm others ∧ List.Forall₂ Json.Reordered others reference

namespace Json.Listed

theorem of_perm {documents others reference : List Json} (h : Json.Listed documents reference)
    (hperm : others.Perm documents) : Json.Listed others reference := by
  obtain ⟨listed, hlisted, hreordered⟩ := h
  exact ⟨listed, hperm.trans hlisted, hreordered⟩

theorem arr {documents reference : List Json} (h : Json.Listed documents reference) :
    Json.Reordered (.arr documents) (.arr reference) := by
  obtain ⟨others, hperm, hreordered⟩ := h
  exact .arr hperm hreordered

end Json.Listed

/-! ## Queries without a table -/

variable {V : Type} {engine : Engine V} {db : Instance V} {scope : Scope V}

/-- A frame that is neither joined nor filtered stays. -/
theorem Query.frame_alone (frame : Frame V) : (do
    gather (fun joined => Query.evalFilter engine db scope joined none)
      (← Query.evalJoins engine db scope frame [])) = .ok [frame] := by
  rw [Query.evalJoins]
  refine bind_eq_ok.2 ⟨[frame], rfl, ?_⟩
  rw [gather_singleton, Query.evalFilter]

theorem Query.frames_none : Query.frames engine db scope none [] none = .ok [[]] := by
  rw [Query.frames, Query.evalSource]
  refine bind_eq_ok.2 ⟨[[]], rfl, ?_⟩
  rw [gather_singleton, Query.frame_alone]

theorem Query.frames_subquery (query : Query) (label : String) :
    Query.frames engine db scope (some (.subquery query label)) [] none =
      (fun rows => rows.map fun row => [(label, row)]) <$> query.eval engine db scope := by
  rw [Query.frames, Query.evalSource, Source.eval]
  cases query.eval engine db scope with
  | error fault => rfl
  | ok rows =>
    refine bind_eq_ok.2 ⟨rows.map fun row => [(label, row)], rfl, ?_⟩
    rw [gather_map, gather_ok fun row _ => Query.frame_alone [(label, row)]]
    exact congrArg Except.ok (List.map_eq_flatMap ..).symm

theorem Query.gives_column {frame : Frame V} {expr : Expr} {label : Option String}
    {rest : List (Expr × Option String)} {P : Cell V → Prop} {Q : Cells V → Prop}
    (hstar : expr ≠ .star) (hcell : Gives (expr.eval engine db (frame :: scope)) P)
    (hrest : ∀ cell, P cell → Gives (Query.evalColumns engine db scope frame rest) fun cells =>
      Q ((label.getD expr.columnName, cell) :: cells)) :
    Gives (Query.evalColumns engine db scope frame ((expr, label) :: rest)) Q := by
  rw [Query.evalColumns]
  · exact hcell.bind fun cell hP => (hrest cell hP).bind fun cells hQ => hQ
  · exact hstar

theorem Query.gives_no_columns {frame : Frame V} {Q : Cells V → Prop} (h : Q []) :
    Gives (Query.evalColumns engine db scope frame []) Q := by
  rw [Query.evalColumns]
  exact h

/-! ## One document -/

/-- The columns take cells of the row as the members. -/
def Projects (engine : Engine V) (source : String) (row : Cells V)
    (columns : List (Expr × Option String)) (members : List (String × Json)) : Prop :=
  List.Forall₂ (fun column member => ∃ name cell, column.1 = .column source name ∧
    column.2.getD name = member.1 ∧ (name, cell) ∈ row ∧ cell.toJson engine = member.2)
    columns members

theorem Projects.not_grouped {source : String} {row : Cells V}
    {columns : List (Expr × Option String)} {members : List (String × Json)}
    (h : Projects engine source row columns members) :
    columns.any (·.1.isGrouped) = false := by
  rw [List.any_eq_false]
  intro column hcolumn
  obtain ⟨member, -, name, cell, hexpr, -⟩ := exists_of_mem_right h.flip hcolumn
  simp [hexpr, Expr.isGrouped]

/-- The columns are read from the innermost frame around the query that has no source. -/
theorem Projects.gives_evalColumns {source : String} {row : Cells V}
    {columns : List (Expr × Option String)} {members : List (String × Json)}
    (h : Projects engine source row columns members) :
    Gives (Query.evalColumns engine db ([(source, row)] :: scope) [] columns) fun cells =>
      cells.map (fun (name, cell) => (name, cell.toJson engine)) = members := by
  induction h with
  | nil => exact Query.gives_no_columns rfl
  | @cons column member columns members hcolumn _ ih =>
    obtain ⟨expr, label⟩ := column
    obtain ⟨name, cell, rfl, hlabel, hmem, hjson⟩ := hcolumn
    have hcell : Gives ((Expr.column source name).eval engine db ([] :: [(source, row)] :: scope))
        (· = cell) := by
      rw [Expr.eval, Scope.column, Scope.cells_cons_of_ne fun item hitem => absurd hitem
        List.not_mem_nil, Scope.cells_cons_head fun item hitem => absurd hitem List.not_mem_nil]
      exact Cells.gives_cell hmem
    refine Query.gives_column (fun heq => by cases heq) hcell ?_
    rintro _ rfl
    refine ih.mono fun cells hcells => ?_
    rw [List.map_cons, hcells]
    exact congrArg (· :: members) (Prod.ext hlabel hjson)

/-- A whole-row reference to columns is the document of their cells. -/
theorem gives_rowToJson {base output : String} {row : Cells V}
    {columns : List (Expr × Option String)} {members : List (String × Json)}
    (h : Projects engine base row columns members) :
    Gives ((Expr.rowToJson {
      columns := [(.ident output, none)]
      source := some (.subquery { columns := columns } output) }).eval engine db
        ([(base, row)] :: scope)) (· = .document (.obj members)) := by
  let inside : Scope V := [(base, row)] :: scope
  have hprojection : Gives (Query.eval engine db inside { columns := columns }) fun rows =>
      ∃ cells, rows = [cells] ∧ Cells.whole engine cells = .record members := by
    refine (Query.gives_plain h.not_grouped (gives_of_eq (P := (· = [[]])) Query.frames_none rfl)
      (R := fun frame cells => Cells.whole engine cells = .record members) ?_).mono ?_
    · rintro _ rfl frame hframe
      rw [List.mem_singleton.1 hframe]
      exact h.gives_evalColumns.mono fun cells hcells => congrArg Cell.record hcells
    · rintro rows ⟨_, listed, rfl, hlisted, hperm⟩
      obtain ⟨cells, hcells, rfl⟩ : ∃ cells, Cells.whole engine cells = .record members ∧
          listed = [cells] := by
        cases hlisted with
        | cons hcells hrest =>
          cases hrest
          exact ⟨_, hcells, rfl⟩
      exact ⟨cells, List.perm_singleton.1 hperm, hcells⟩
  have hdocument : Gives (Query.eval engine db inside {
      columns := [(.ident output, none)]
      source := some (.subquery { columns := columns } output) }) fun rows =>
        rows = [[(output, .record members)]] := by
    have hframes : Gives (Query.frames engine db inside
        (some (.subquery { columns := columns } output)) [] none) fun frames =>
          ∃ cells, frames = [[(output, cells)]] ∧ Cells.whole engine cells = .record members := by
      rw [Query.frames_subquery]
      refine hprojection.map ?_
      rintro rows ⟨cells, rfl, hcells⟩
      exact ⟨cells, rfl, hcells⟩
    refine (Query.gives_plain (by simp [Expr.isGrouped]) hframes
      (R := fun frame cells => cells = [(output, .record members)]) ?_).mono ?_
    · rintro _ ⟨cells, rfl, hcells⟩ frame hframe
      rw [List.mem_singleton.1 hframe]
      refine Query.gives_column (fun heq => by cases heq)
        (P := (· = Cell.record members)) ?_ ?_
      · rw [Expr.eval, ← hcells]
        exact Scope.gives_ident_source engine
      · rintro _ rfl
        exact Query.gives_no_columns rfl
    · rintro rows ⟨_, listed, ⟨cells, rfl, -⟩, hlisted, hperm⟩
      cases hlisted with
      | cons hcells hrest =>
        cases hrest
        rw [List.perm_singleton.1 hperm, hcells]
  rw [Expr.eval]
  refine hdocument.bind ?_
  rintro _ rfl
  exact gives_ok rfl

/-! ## Documents of rows -/

variable {α : Type}

/-- Rows that each hold one document under the name, in the order given. -/
def documentRows (name : String) (documents : List Json) : List (Cells V) :=
  documents.map fun document => [(name, .document document)]

theorem documents_of_forall₂ {name : String} {kept : List α} {rows : List (Cells V)}
    {reference : α → Json} (h : List.Forall₂ (fun a cells => ∃ json,
      cells = [(name, .document json)] ∧ Json.Reordered json (reference a)) kept rows) :
    ∃ documents, rows = documentRows name documents ∧
      List.Forall₂ Json.Reordered documents (kept.map reference) := by
  induction h with
  | nil => exact ⟨[], rfl, .nil⟩
  | cons hrow _ ih =>
    obtain ⟨json, rfl, hjson⟩ := hrow
    obtain ⟨documents, rfl, hdocuments⟩ := ih
    exact ⟨json :: documents, rfl, .cons hjson hdocuments⟩

theorem Query.gives_frames_subquery {rows : Query} {base : String} {K : List α → Prop}
    {S : α → Cells V → Prop} (h : Gives (rows.eval engine db scope) fun listed =>
      ∃ kept, K kept ∧ List.Forall₂ S kept listed) :
    Gives (Query.frames engine db scope (some (.subquery rows base)) [] none) fun frames =>
      ∃ kept, K kept ∧
        List.Forall₂ (fun a frame => ∃ row, frame = [(base, row)] ∧ S a row) kept frames := by
  rw [Query.frames_subquery]
  refine h.map ?_
  rintro listed ⟨kept, hK, hkept⟩
  exact ⟨kept, hK, List.forall₂_map_right_iff.2 (hkept.imp fun a row hS => ⟨row, rfl, hS⟩)⟩

/-- A query that makes a document of each row gives the documents in some order. -/
theorem gives_shaped {rows document : Query} {base name : String} {kept : List α}
    {S : α → Cells V → Prop} {reference : α → Json}
    (hrows : Gives (rows.eval engine db scope) fun listed =>
      ∃ others, listed.Perm others ∧ List.Forall₂ S kept others)
    (hdocument : ∀ a row, S a row → Gives ((Expr.rowToJson document).eval engine db
      ([(base, row)] :: scope)) fun cell =>
        ∃ json, cell = .document json ∧ Json.Reordered json (reference a)) :
    Gives (Query.eval engine db scope {
      columns := [(.rowToJson document, some name)]
      source := some (.subquery rows base) }) fun listed =>
        ∃ documents, Json.Listed documents (kept.map reference) ∧
          listed = documentRows name documents := by
  have hlisted : Gives (rows.eval engine db scope) fun listed =>
      ∃ others, others.Perm kept ∧ List.Forall₂ S others listed := by
    refine hrows.mono ?_
    rintro listed ⟨others, hperm, hothers⟩
    exact exists_perm_of_forall₂ hothers hperm
  refine (Query.gives_rows (by simp [Expr.isGrouped]) (Query.gives_frames_subquery hlisted)
    (R := fun a cells => ∃ json, cells = [(name, .document json)] ∧
      Json.Reordered json (reference a)) ?_).mono ?_
  · rintro a _ ⟨row, rfl, hS⟩
    refine Query.gives_column (fun heq => by cases heq) (hdocument a row hS) ?_
    rintro _ ⟨json, rfl, hjson⟩
    exact Query.gives_no_columns ⟨json, rfl, hjson⟩
  · rintro rows ⟨others, delivered, hothers, hdelivered, hrows⟩
    obtain ⟨documents, rfl, hdocuments⟩ := documents_of_forall₂ hrows
    obtain ⟨listed, hlisted, hreordered⟩ :=
      exists_perm_of_forall₂ hdocuments ((hdelivered.trans hothers).symm.map reference)
    exact ⟨documents, ⟨listed, hlisted.symm, hreordered⟩, rfl⟩

/-! ## Arrays -/

/-- The values to sort by are read from the row, unless one of their names is ambiguous. -/
theorem gives_sortValues {source : String} {row : Cells V} {order : List SortItem} {values : List V}
    (h : List.Forall₂ (fun item v => (item.column, Cell.value v) ∈ row) order values) :
    Gives (sortValues engine ([(source, row)] :: scope) order) (· = values) := by
  induction h with
  | nil => exact gives_ok rfl
  | @cons item v order values hitem _ ih =>
    rw [sortValues, List.mapM_cons]
    refine ((Scope.gives_ident_column engine hitem).bind (Q := (· = v)) ?_).bind ?_
    · rintro _ rfl
      exact gives_ok rfl
    · rintro _ rfl
      refine ih.bind ?_
      rintro _ rfl
      exact gives_ok rfl

/-- A query that collects documents gives one array of them, or the first of them, in the order of
their sort values. -/
theorem gives_aggregated {rows : Query} {label name : String} {order : List SortItem} {first : Bool}
    {K : List α → Prop} {R : α → Json → Prop} (values : α → List V)
    (h : Gives (rows.eval engine db scope) fun listed => ∃ kept, K kept ∧
      List.Forall₂ (fun a row => (∃ json, (name, .document json) ∈ row ∧ R a json) ∧
        List.Forall₂ (fun item v => (item.column, Cell.value v) ∈ row) order (values a))
          kept listed) :
    Gives (Query.eval engine db scope {
      columns := [(.jsonAgg (.ident name) order first, some name)]
      source := some (.subquery rows label) }) fun listed => ∃ kept pairs, K kept ∧
        List.Forall₂ (fun a pair => pair.1 = values a ∧ R a pair.2) kept pairs ∧
          listed = [[(name, .document (if first then (engine.sorted order pairs).head?.getD .null
            else .arr (engine.sorted order pairs)))]] := by
  rw [Query.eval, ← bind_assoc]
  change Gives (Query.frames engine db scope (some (.subquery rows label)) [] none >>= _) _
  refine (Query.gives_frames_subquery h).bind ?_
  rintro frames ⟨kept, hK, hkept⟩
  have hpairs : Gives (gather (fun scope : Scope V => do
      return [(← sortValues engine scope order,
        (← (Expr.ident name).eval engine db scope).toJson engine)]) (frames.map (· :: scope)))
        fun pairs => List.Forall₂ (fun a pair => pair.1 = values a ∧ R a pair.2) kept pairs := by
    rw [gather_map]
    refine gives_gather_forall₂ hkept ?_
    rintro a _ ⟨row, rfl, ⟨json, hcell, hR⟩, hvalues⟩
    refine (gives_sortValues hvalues).bind ?_
    rintro _ rfl
    have hdocument : Gives ((Expr.ident name).eval engine db ([(label, row)] :: scope))
        (· = .document json) := by
      rw [Expr.eval]
      exact Scope.gives_ident_column engine hcell
    refine hdocument.bind ?_
    rintro _ rfl
    exact gives_ok ⟨_, rfl, rfl, hR⟩
  have hcell : Gives ((Expr.jsonAgg (.ident name) order first).evalGroup engine db
      (frames.map (· :: scope))) fun cell => ∃ pairs,
        List.Forall₂ (fun a pair => pair.1 = values a ∧ R a pair.2) kept pairs ∧
          cell = .document (if first then (engine.sorted order pairs).head?.getD .null
            else .arr (engine.sorted order pairs)) := by
    rw [Expr.evalGroup]
    exact hpairs.bind fun pairs hpairs => ⟨pairs, hpairs, rfl⟩
  dsimp only
  rw [if_pos (by simp [Expr.isGrouped]), Query.evalGroups, Query.evalGroups]
  change Gives ((· :: []) <$> (Expr.evalGroup engine db _ _ >>= _) >>= _) _
  refine ((hcell.bind fun cell hcell => ?_).map (P := fun cells => ∃ pairs,
    List.Forall₂ (fun a pair => pair.1 = values a ∧ R a pair.2) kept pairs ∧
      cells = [(name, Cell.document (if first then (engine.sorted order pairs).head?.getD .null
        else .arr (engine.sorted order pairs)))]) fun cells hcells => ?_).bind fun rows hrows => hrows
  · obtain ⟨pairs, hpairs, rfl⟩ := hcell
    exact ⟨pairs, hpairs, rfl⟩
  · obtain ⟨pairs, hpairs, rfl⟩ := hcells
    exact ⟨kept, pairs, hK, hpairs, rfl⟩

/-- A query that collects documents in no order gives one array of them. -/
theorem gives_collected {shaped : Query} {label name : String} {reference : List Json}
    (h : Gives (shaped.eval engine db scope) fun listed =>
      ∃ documents, Json.Listed documents reference ∧ listed = documentRows name documents) :
    Gives (Query.eval engine db scope {
      columns := [(.jsonAgg (.ident name) [] false, some name)]
      source := some (.subquery shaped label) }) fun listed =>
        ∃ documents, Json.Listed documents reference ∧
          listed = [[(name, .document (.arr documents))]] := by
  refine (gives_aggregated (K := fun documents => Json.Listed documents reference)
    (R := fun document json => json = document) (fun _ => []) (h.mono ?_)).mono ?_
  · rintro _ ⟨documents, hdocuments, rfl⟩
    refine ⟨documents, hdocuments, List.forall₂_map_right_iff.2 (List.forall₂_same.2 ?_)⟩
    exact fun document _ => ⟨⟨document, List.mem_singleton_self _, rfl⟩, .nil⟩
  · rintro _ ⟨documents, pairs, hdocuments, hpairs, rfl⟩
    have hsame : pairs.map Prod.snd = documents := by
      rw [← List.forall₂_eq_eq_eq, List.forall₂_map_left_iff]
      exact hpairs.flip.imp fun pair document h => h.2
    exact ⟨_, hdocuments.of_perm (hsame ▸ engine.sorted_perm [] pairs), rfl⟩

end EntitySql
