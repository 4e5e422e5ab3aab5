import EntitySql.Compile.Read
import EntitySql.Proofs.Read.Meaning
import EntitySql.Proofs.Relational.Order

/-!
# What pages mean

The documents of a read whose nodes ask for an order and for a part of their rows, said on the data
alone.

* `ReadArgs.window` is the part of some rows that a node asks for, `ReadArgs.Page` such a part of
  those that its filter keeps, in the order in which the engine delivers them. That order may depend
  on what stands beside them; if it does not, `ReadArgs.Page.of_oblivious` says which part it is.
* `Selection.sortValue` is the value to which a sort path leads from a row.
* `Selection.Shows` says that a document is one of a row, `Selection.Stands` that cells beside a row
  hold the documents of its relations, `Selection.Lists` that documents are those of a page in the
  order of the sort keys of its node.
* `Selection.Slices` says that documents are those of a part of the rows in that order.

A node cuts its rows before they are arranged: its sort keys say how a page is listed, and nothing
about which rows are on it. The two readings agree where a node asks for all its rows
(`Selection.Lists.slices`).
-/

namespace EntitySql

set_option autoImplicit false

variable {V : Type}

/-- The part of some rows that a node asks for. A limit of zero is none. -/
def ReadArgs.window {α : Type} (args : ReadArgs) (rows : List α) : List α :=
  let rest := rows.drop (args.offset.getD 0)
  match args.limit with
  | none | some 0 => rest
  | some n => rest.take n

/-- The child that a sort path walks to: the first that is requested, or one that reads nothing. -/
def Selection.through (children : List Selection) (relation : String) : Selection :=
  (children.find? (·.name = relation)).getD { name := relation }

section

variable (engine : Engine V) (db : Instance V) (schema : Schema) (layout : Layout)

/-- The rows on the page of a node. The engine reads those that the filter keeps, each with what
stands beside it, and the page is cut from them in the order in which it delivers them. -/
def ReadArgs.Page (args : ReadArgs) (entity : String) (stands : Tuple V → Cells V → Prop)
    (tuples page : List (Tuple V)) : Prop :=
  ∃ rows delivered : List (Tuple V × Cells V),
    rows.map Prod.fst = tuples.filter (args.keeps engine db schema layout entity) ∧
    (∀ row ∈ rows, ∃ beside, stands row.1 beside ∧
      row.2 = (db (layout.table entity)).cells row.1 ++ beside) ∧
    engine.Delivers rows delivered ∧ page.Perm ((args.window delivered).map Prod.fst)

/-- The row that a many-to-one reads for a row of the entity, if it keeps one. -/
def ReadArgs.partner? (args : ReadArgs) (entity : String) (relation : ManyToOne)
    (tuple : Tuple V) : Option (Tuple V) :=
  (args.window ((db.partners engine (layout.link entity relation) tuple).filter
    (args.keeps engine db schema layout relation.targetEntity))).head?

/-- A value of the row that a many-to-one reads for a row of the entity, absent if there is none. -/
def Selection.behind (entity relation : String) (child : Selection) (tuple : Tuple V)
    (value : String → Tuple V → V) : V :=
  match schema.manyToOne? entity relation with
  | none => engine.null
  | some found => (child.args.partner? engine db schema layout entity found tuple).elim engine.null
    (value found.targetEntity)

/-- The value to which a path leads from a row: that of a field, behind the many-to-ones in front of
it. -/
def Selection.sortValue : List String → String → Selection → Tuple V → V
  | [], _, _, _ => engine.null
  | [name], entity, _, tuple => tuple (layout.column entity name)
  | relation :: name :: rest, entity, selection, tuple =>
    let child := through selection.manyToOne relation
    child.behind engine db schema layout entity relation tuple fun target partner =>
      sortValue (name :: rest) target child partner

/-- The values of the sort keys of a node in a row. -/
def Selection.sortValues (entity : String) (selection : Selection) (tuple : Tuple V) : List V :=
  selection.args.sortKeys.map fun key =>
    Selection.sortValue engine db schema layout key.path entity selection tuple

/-- No row stands behind one that it precedes by the sort keys of the node. -/
def Selection.Arranged (entity : String) (selection : Selection) (page : List (Tuple V)) : Prop :=
  page.Pairwise fun tuple other => ¬ engine.Precedes
    (selection.args.sortKeys.map SortKey.direction)
    (selection.sortValues engine db schema layout entity other)
    (selection.sortValues engine db schema layout entity tuple)

mutual

/-- The document is one of the row. -/
def Selection.Shows (entity : String) (tuple : Tuple V) : Selection → Json → Prop
  | { fields, manyToOne, oneToMany, .. }, json => ∃ ones lists,
    Selection.ShowsOnes entity tuple manyToOne ones ∧
      Selection.ShowsLists entity tuple oneToMany lists ∧
        json = .obj (fields.map (fieldMember engine layout entity tuple) ++ ones ++ lists)
termination_by structural selection => selection

/-- The cells hold the documents of the relations of the row. -/
def Selection.Stands (entity : String) (tuple : Tuple V) : Selection → Cells V → Prop
  | { manyToOne, oneToMany, .. }, beside => ∃ ones lists,
    Selection.ShowsOnes entity tuple manyToOne ones ∧
      Selection.ShowsLists entity tuple oneToMany lists ∧
        ∀ member ∈ ones ++ lists, ∃ cell, (member.1, cell) ∈ beside ∧
          cell.toJson engine = member.2
termination_by structural selection => selection

/-- The members are those of many-to-ones: the document of the row that each reads, or `null`. -/
def Selection.ShowsOnes (entity : String) (tuple : Tuple V) :
    List Selection → List (String × Json) → Prop
  | [], members => members = []
  | child :: rest, members => ∃ relation json later,
    schema.manyToOne? entity child.name = some relation ∧
      (child.args.partner? engine db schema layout entity relation tuple).elim (json = .null)
        (fun partner => child.Shows relation.targetEntity partner json) ∧
      Selection.ShowsOnes entity tuple rest later ∧ members = (child.name, json) :: later
termination_by structural children => children

/-- The members are those of one-to-manys: the documents of an arranged page of each. -/
def Selection.ShowsLists (entity : String) (tuple : Tuple V) :
    List Selection → List (String × Json) → Prop
  | [], members => members = []
  | child :: rest, members => ∃ relation link page documents later,
    schema.oneToMany? entity child.name = some relation ∧
      layout.inverseLink? schema relation = some link ∧
      child.args.Page engine db schema layout relation.targetEntity
        (fun partner beside => child.Stands relation.targetEntity partner beside)
        (db.partners engine link tuple) page ∧
      child.Arranged engine db schema layout relation.targetEntity page ∧
      List.Forall₂ (fun partner json => child.Shows relation.targetEntity partner json) page
        documents ∧
      Selection.ShowsLists entity tuple rest later ∧
      members = (child.name, .arr documents) :: later
termination_by structural children => children

end

/-- The documents are those of an arranged page of some rows. -/
def Selection.Lists (entity : String) (selection : Selection) (tuples : List (Tuple V))
    (documents : List Json) : Prop :=
  ∃ page, selection.args.Page engine db schema layout entity
      (fun tuple beside => selection.Stands engine db schema layout entity tuple beside) tuples page ∧
    selection.Arranged engine db schema layout entity page ∧
      List.Forall₂ (fun tuple json => selection.Shows engine db schema layout entity tuple json)
        page documents

/-- The documents are those of a part of all rows that the filter keeps, arranged before they are cut.
A limit of zero keeps none. -/
def Selection.Slices (entity : String) (selection : Selection) (tuples : List (Tuple V))
    (documents : List Json) : Prop :=
  ∃ arranged, arranged.Perm
      (tuples.filter (selection.args.keeps engine db schema layout entity)) ∧
    selection.Arranged engine db schema layout entity arranged ∧
      List.Forall₂ (fun tuple json => selection.Shows engine db schema layout entity tuple json)
        (Query.window selection.args.limit selection.args.offset arranged) documents

end

/-! ## Parts of rows -/

theorem ReadArgs.window_eq {α : Type} (args : ReadArgs) (rows : List α) :
    Query.window (ReadPlan.positive args.limit) (ReadPlan.positive args.offset) rows =
      args.window rows := by
  have hoffset : (ReadPlan.positive args.offset).getD 0 = args.offset.getD 0 := by
    cases args.offset with
    | none => rfl
    | some n => cases n <;> rfl
  unfold ReadArgs.window Query.window
  rw [hoffset]
  cases args.limit with
  | none => rfl
  | some n => cases n <;> rfl

theorem ReadArgs.window_map {α β : Type} (args : ReadArgs) (f : α → β) (rows : List α) :
    args.window (rows.map f) = (args.window rows).map f := by
  rw [← window_eq, ← window_eq, Query.window_map]

theorem ReadArgs.mem_of_mem_window {α : Type} {args : ReadArgs} {rows : List α} {row : α}
    (h : row ∈ args.window rows) : row ∈ rows := by
  rw [← window_eq] at h
  exact Query.mem_of_mem_window h

theorem ReadArgs.window_sublist {α : Type} (args : ReadArgs) (rows : List α) :
    (args.window rows).Sublist rows := by
  unfold ReadArgs.window
  have hrest := List.drop_sublist (args.offset.getD 0) rows
  dsimp only
  split
  · exact hrest
  · exact hrest
  · exact (List.take_sublist _ _).trans hrest

theorem perm_of_length_le_one {α : Type} {l others : List α} (h : l.Perm others)
    (hlength : others.length ≤ 1) : l = others := by
  match others, hlength with
  | [], _ => exact h.eq_nil
  | [_], _ => exact List.perm_singleton.1 h

section

variable {engine : Engine V} {db : Instance V} {schema : Schema} {layout : Layout}

theorem ReadArgs.Page.of_perm {args : ReadArgs} {entity : String}
    {stands : Tuple V → Cells V → Prop} {tuples page others : List (Tuple V)}
    (h : args.Page engine db schema layout entity stands tuples page) (hperm : others.Perm page) :
    args.Page engine db schema layout entity stands tuples others := by
  obtain ⟨rows, delivered, hkept, hrows, hdelivered, hpage⟩ := h
  exact ⟨rows, delivered, hkept, hrows, hdelivered, hperm.trans hpage⟩

/-- A part of the rows that the engine delivers, and what is known of them. -/
theorem ReadArgs.Page.of_delivers {args : ReadArgs} {entity : String}
    {stands : Tuple V → Cells V → Prop} {R : Tuple V → Cells V → Prop} {tuples : List (Tuple V)}
    {rows delivered : List (Tuple V × Cells V)}
    (hkept : rows.map Prod.fst = tuples.filter (args.keeps engine db schema layout entity))
    (hrows : ∀ row ∈ rows, R row.1 row.2) (hdelivered : engine.Delivers rows delivered)
    (hstands : ∀ tuple cells, R tuple cells → ∃ beside, stands tuple beside ∧
      cells = (db (layout.table entity)).cells tuple ++ beside) :
    ∃ page, args.Page engine db schema layout entity stands tuples page ∧
      List.Forall₂ R page ((args.window delivered).map Prod.snd) := by
  refine ⟨_, ⟨rows, delivered, hkept, fun row hrow => hstands _ _ (hrows row hrow), hdelivered,
    .refl _⟩, ?_⟩
  rw [List.forall₂_map_left_iff, List.forall₂_map_right_iff, List.forall₂_same]
  exact fun row hrow => hrows row (hdelivered.1.subset (mem_of_mem_window hrow))

/-- In some order, a page is a part of the rows that the filter keeps. -/
theorem ReadArgs.Page.exists_perm {args : ReadArgs} {entity : String}
    {stands : Tuple V → Cells V → Prop} {tuples page : List (Tuple V)}
    (h : args.Page engine db schema layout entity stands tuples page) : ∃ delivered,
      delivered.Perm (tuples.filter (args.keeps engine db schema layout entity)) ∧
        page.Perm (args.window delivered) := by
  obtain ⟨rows, delivered, hkept, -, ⟨hperm, -⟩, hpage⟩ := h
  refine ⟨delivered.map Prod.fst, hkept ▸ hperm.map _, ?_⟩
  rw [window_map]
  exact hpage

/-- If the engine does not look at the rows that it delivers, a page is cut from the rows that the filter
keeps in the order in which it delivers these, as far as one can tell by their columns. -/
theorem ReadArgs.Page.of_oblivious {args : ReadArgs} {entity : String}
    {stands : Tuple V → Cells V → Prop} {tuples page : List (Tuple V)}
    (h : args.Page engine db schema layout entity stands tuples page) (hengine : engine.Oblivious) :
    ∃ listed, page.Perm listed ∧ listed.map (db (layout.table entity)).cells =
      (args.window (engine.delivery (tuples.filter
        (args.keeps engine db schema layout entity)))).map (db (layout.table entity)).cells := by
  obtain ⟨rows, delivered, hkept, hrows, ⟨hperm, hdelivered⟩, hpage⟩ := h
  refine ⟨_, hpage, ?_⟩
  let table := db (layout.table entity)
  -- the cells of a row of the table are the first of those that it is read with
  have hcells : ∀ row ∈ rows, table.cells row.1 = row.2.take table.columns.length := by
    intro row hrow
    obtain ⟨beside, -, hrow⟩ := hrows row hrow
    rw [hrow, List.take_left' (by rw [Table.cells, List.length_map])]
  have hread : ∀ others : List (Tuple V × Cells V), others ⊆ rows →
      (others.map Prod.fst).map table.cells =
        (others.map Prod.snd).map (List.take table.columns.length) := by
    intro others hothers
    rw [List.map_map, List.map_map]
    exact List.map_congr_left fun row hrow => hcells row (hothers hrow)
  have hsame : (delivered.map Prod.fst).map table.cells =
      ((engine.delivery rows).map Prod.fst).map table.cells := by
    rw [hread _ hperm.subset, hread _ (engine.delivery_perm rows).subset, hdelivered, hengine]
  rw [← hkept, hengine, ← window_map, ← window_map, ← window_map]
  exact congrArg args.window hsame

/-- A page of at most one partner is the row that the many-to-one reads. -/
theorem ReadArgs.Page.eq_partner {args : ReadArgs} {entity : String} {relation : ManyToOne}
    {stands : Tuple V → Cells V → Prop} {tuple : Tuple V} {page : List (Tuple V)}
    (h : args.Page engine db schema layout relation.targetEntity stands
      (db.partners engine (layout.link entity relation) tuple) page)
    (hlength : (db.partners engine (layout.link entity relation) tuple).length ≤ 1) :
    page = (args.partner? engine db schema layout entity relation tuple).toList := by
  obtain ⟨delivered, hdelivered, hpage⟩ := h.exists_perm
  have hkept := Nat.le_trans (List.length_filter_le
    (args.keeps engine db schema layout relation.targetEntity) _) hlength
  have hcut := Nat.le_trans (args.window_sublist _).length_le hkept
  rw [perm_of_length_le_one hdelivered hkept] at hpage
  rw [perm_of_length_le_one hpage hcut, ReadArgs.partner?]
  match args.window _, hcut with
  | [], _ => rfl
  | [_], _ => rfl

/-- A path through a relation leads to what the rest of it leads to behind the relation. -/
theorem Selection.sortValue_cons {relation : String} {path : List String} (hpath : path ≠ [])
    (entity : String) (selection : Selection) (tuple : Tuple V) :
    Selection.sortValue engine db schema layout (relation :: path) entity selection tuple =
      (through selection.manyToOne relation).behind engine db schema layout entity relation tuple
        fun target partner => Selection.sortValue engine db schema layout path target
          (through selection.manyToOne relation) partner := by
  cases path with
  | nil => exact absurd rfl hpath
  | cons name rest => rw [sortValue]

theorem Selection.shows_iff {entity : String} {tuple : Tuple V} {selection : Selection}
    {json : Json} : selection.Shows engine db schema layout entity tuple json ↔ ∃ ones lists,
      Selection.ShowsOnes engine db schema layout entity tuple selection.manyToOne ones ∧
        Selection.ShowsLists engine db schema layout entity tuple selection.oneToMany lists ∧
          json = .obj (selection.fields.map (fieldMember engine layout entity tuple) ++ ones ++
            lists) := by
  cases selection
  rw [Shows]

theorem Selection.stands_iff {entity : String} {tuple : Tuple V} {selection : Selection}
    {beside : Cells V} : selection.Stands engine db schema layout entity tuple beside ↔ ∃ ones lists,
      Selection.ShowsOnes engine db schema layout entity tuple selection.manyToOne ones ∧
        Selection.ShowsLists engine db schema layout entity tuple selection.oneToMany lists ∧
          ∀ member ∈ ones ++ lists, ∃ cell, (member.1, cell) ∈ beside ∧
            cell.toJson engine = member.2 := by
  cases selection
  rw [Stands]

/-- A node that asks for all its rows lists them in the order of its sort keys. -/
theorem Selection.Lists.slices {entity : String} {selection : Selection}
    {tuples : List (Tuple V)} {documents : List Json}
    (h : selection.Lists engine db schema layout entity tuples documents)
    (hlimit : selection.args.limit = none) (hoffset : selection.args.offset.getD 0 = 0) :
    selection.Slices engine db schema layout entity tuples documents := by
  obtain ⟨page, hpage, harranged, hshows⟩ := h
  obtain ⟨delivered, hdelivered, hpage⟩ := hpage.exists_perm
  have hall : ∀ rows : List (Tuple V), selection.args.window rows = rows ∧
      Query.window selection.args.limit selection.args.offset rows = rows := by
    intro rows
    unfold ReadArgs.window Query.window
    rw [hlimit, hoffset]
    exact ⟨rfl, rfl⟩
  rw [(hall delivered).1] at hpage
  refine ⟨page, hpage.trans hdelivered, harranged, ?_⟩
  rw [(hall page).2]
  exact hshows

end

end EntitySql
