import EntitySql.Proofs.Migration.Sent

/-!
# Rows of a catalog in another order

The rows that describe a catalog may come in any order, and the columns of one table may be spread over
several rows. The tables and columns that are known do not depend on it, and neither does the plan.

* `Row.Regrouped` says that rows list the same as others, in another order and spread in another way.
* `Row.Regrouped.exists_iff`: what is true of a row if it is of one of its parts is true of one of the rows
  if it is of one of the others.
* `Catalog.ofRows_knows`: rows make a catalog just if each of them can be read, and it knows what they list.
* `migrationPlan_congr`: a plan depends on the tables and columns that are known, and on nothing else.
* `Catalog.ofRows_regrouped` puts it together.
-/

namespace EntitySql

set_option autoImplicit false

namespace Row

variable {row : Row} {rows others parts : List Row}

/-! ## What a row lists -/

/-- The row names the table. -/
def IsOf (row : Row) (table : String) : Prop :=
  row.value? "table" = some (.str table)

/-- The items under which a row lists columns. There are none if they are left out. -/
inductive Holds (row : Row) : List Json → Prop
  | absent (h : row.value? "columns" = none) : Holds row []
  | null (h : row.value? "columns" = some .null) : Holds row []
  | items {items : List Json} (h : row.value? "columns" = some (.arr items)) : Holds row items

/-- One of the items is the column. -/
def HasColumn (row : Row) (column : String) : Prop :=
  ∃ items, row.Holds items ∧ ∃ item ∈ items, ∃ found,
    CatalogColumn.ofJson? item = some found ∧ found.name = column

/-- The row names a table, and every item of it is a column. -/
def Readable (row : Row) : Prop :=
  (∃ table, row.IsOf table) ∧
    ∃ items, row.Holds items ∧ ∀ item ∈ items, ∃ found, CatalogColumn.ofJson? item = some found

theorem Holds.unique {items found : List Json} (h : row.Holds items) (hfound : row.Holds found) :
    items = found := by
  cases h <;> cases hfound <;> simp_all

theorem columns_iff_holds {columns : List CatalogColumn} :
    Listing.Columns (row.value? "columns") columns ↔ ∃ items, row.Holds items ∧
      List.Forall₂ (fun item column => CatalogColumn.ofJson? item = some column) items columns := by
  constructor
  · generalize hvalue : row.value? "columns" = value
    rintro (_ | _ | h)
    · exact ⟨[], .absent hvalue, .nil⟩
    · exact ⟨[], .null hvalue, .nil⟩
    · exact ⟨_, .items hvalue, h⟩
  · rintro ⟨items, habsent | hnull | hitems, hcolumns⟩
    · cases hcolumns
      rw [habsent]
      exact .absent
    · cases hcolumns
      rw [hnull]
      exact .null
    · rw [hitems]
      exact .items hcolumns

theorem readable_iff : row.Readable ↔ ∃ listing, row.Lists listing := by
  constructor
  · rintro ⟨⟨table, htable⟩, items, hitems, hread⟩
    have hdecoded : ∀ item ∈ items, ∃ column,
        Result.decoded (CatalogColumn.ofJson? item) = .ok column := fun item hitem =>
      (hread item hitem).imp fun _ => decoded_eq_ok.2
    obtain ⟨columns, hcolumns⟩ := exists_mapM_eq_ok_iff.2 hdecoded
    refine ⟨⟨table, columns⟩, htable, columns_iff_holds.2 ⟨items, hitems, ?_⟩⟩
    exact (mapM_eq_ok.1 hcolumns).imp fun _ _ => decoded_eq_ok.1
  · rintro ⟨listing, htable, hcolumns⟩
    obtain ⟨items, hitems, hread⟩ := columns_iff_holds.1 hcolumns
    refine ⟨⟨listing.table, htable⟩, items, hitems, fun item hitem => ?_⟩
    obtain ⟨column, -, hcolumn⟩ := exists_of_mem_left hread hitem
    exact ⟨column, hcolumn⟩

theorem Lists.mem_columns_iff {listing : Listing} (h : row.Lists listing) (column : String) :
    column ∈ listing.columns.map CatalogColumn.name ↔ row.HasColumn column := by
  obtain ⟨items, hitems, hread⟩ := columns_iff_holds.1 h.columns
  rw [List.mem_map]
  constructor
  · rintro ⟨found, hfound, rfl⟩
    obtain ⟨item, hitem, hdecoded⟩ := exists_of_mem_right hread hfound
    exact ⟨items, hitems, item, hitem, found, hdecoded, rfl⟩
  · rintro ⟨items', hitems', item, hitem, found, hdecoded, rfl⟩
    obtain rfl := hitems.unique hitems'
    obtain ⟨column, hcolumn, hsame⟩ := exists_of_mem_left hread hitem
    obtain rfl := Option.some.inj (hdecoded.symm.trans hsame)
    exact ⟨found, hcolumn, rfl⟩

theorem Lists.isOf_iff {listing : Listing} (h : row.Lists listing) (table : String) :
    listing.table = table ↔ row.IsOf table := by
  rw [IsOf, h.table, Option.some.injEq, Json.str.injEq]

/-! ## Rows that list the same -/

/-- The row is taken apart to rows of its table, each with some of its items. -/
structure SplitsInto (row : Row) (parts : List Row) : Prop where
  nonempty : parts ≠ []
  table : ∀ part ∈ parts, part.value? "table" = row.value? "table"
  columns : ∃ items pieces, row.Holds items ∧ List.Forall₂ Holds parts pieces ∧
    pieces.flatten.Perm items

/-- The rows are the others in another order, some of them taken apart or put together. -/
inductive Regrouped : List Row → List Row → Prop
  | perm {rows others : List Row} (h : rows.Perm others) : Regrouped rows others
  | split {row : Row} {parts : List Row} (before after : List Row) (h : row.SplitsInto parts) :
      Regrouped (before ++ row :: after) (before ++ parts ++ after)
  | symm {rows others : List Row} (h : Regrouped rows others) : Regrouped others rows
  | trans {rows between others : List Row} (h : Regrouped rows between)
      (h' : Regrouped between others) : Regrouped rows others

theorem SplitsInto.isOf_iff (h : row.SplitsInto parts) {part : Row} (hpart : part ∈ parts)
    (table : String) : part.IsOf table ↔ row.IsOf table := by
  rw [IsOf, h.table part hpart, IsOf]

theorem SplitsInto.exists_isOf_iff (h : row.SplitsInto parts) (table : String) :
    row.IsOf table ↔ ∃ part ∈ parts, part.IsOf table := by
  constructor
  · intro htable
    obtain ⟨part, hpart⟩ := List.exists_mem_of_ne_nil parts h.nonempty
    exact ⟨part, hpart, (h.isOf_iff hpart table).2 htable⟩
  · rintro ⟨part, hpart, htable⟩
    exact (h.isOf_iff hpart table).1 htable

theorem SplitsInto.hasColumn_iff (h : row.SplitsInto parts) (column : String) :
    row.HasColumn column ↔ ∃ part ∈ parts, part.HasColumn column := by
  obtain ⟨items, pieces, hitems, hpieces, hperm⟩ := h.columns
  constructor
  · rintro ⟨items', hitems', item, hitem, hcolumn⟩
    obtain rfl := hitems.unique hitems'
    obtain ⟨piece, hpiece, hmem⟩ := List.mem_flatten.1 (hperm.mem_iff.2 hitem)
    obtain ⟨part, hpart, hholds⟩ := exists_of_mem_right hpieces hpiece
    exact ⟨part, hpart, piece, hholds, item, hmem, hcolumn⟩
  · rintro ⟨part, hpart, items', hitems', item, hitem, hcolumn⟩
    obtain ⟨piece, hpiece, hholds⟩ := exists_of_mem_left hpieces hpart
    obtain rfl := hholds.unique hitems'
    have hmem := List.mem_flatten.2 ⟨piece, hpiece, hitem⟩
    exact ⟨items, hitems, item, hperm.mem_iff.1 hmem, hcolumn⟩

theorem SplitsInto.readable_iff (h : row.SplitsInto parts) :
    row.Readable ↔ ∀ part ∈ parts, part.Readable := by
  obtain ⟨items, pieces, hitems, hpieces, hperm⟩ := h.columns
  constructor
  · rintro ⟨⟨table, htable⟩, items', hitems', hread⟩ part hpart
    obtain rfl := hitems.unique hitems'
    obtain ⟨piece, hpiece, hholds⟩ := exists_of_mem_left hpieces hpart
    refine ⟨⟨table, (h.isOf_iff hpart table).2 htable⟩, piece, hholds, fun item hitem => ?_⟩
    exact hread item (hperm.mem_iff.1 (List.mem_flatten.2 ⟨piece, hpiece, hitem⟩))
  · intro hparts
    obtain ⟨first, hfirst⟩ := List.exists_mem_of_ne_nil parts h.nonempty
    obtain ⟨⟨table, htable⟩, -⟩ := hparts first hfirst
    refine ⟨⟨table, (h.isOf_iff hfirst table).1 htable⟩, items, hitems, fun item hitem => ?_⟩
    obtain ⟨piece, hpiece, hmem⟩ := List.mem_flatten.1 (hperm.mem_iff.2 hitem)
    obtain ⟨part, hpart, hholds⟩ := exists_of_mem_right hpieces hpiece
    obtain ⟨-, items', hitems', hread⟩ := hparts part hpart
    obtain rfl := hholds.unique hitems'
    exact hread item hmem

/-- What is true of a row if and only if it is of one of its parts is true of one of the rows if it is of
one of the others. -/
theorem Regrouped.exists_iff {p : Row → Prop}
    (hsplit : ∀ {row parts}, row.SplitsInto parts → (p row ↔ ∃ part ∈ parts, p part))
    (h : Regrouped rows others) : (∃ row ∈ rows, p row) ↔ ∃ row ∈ others, p row := by
  induction h with
  | perm h => exact exists_congr fun row => and_congr_left fun _ => h.mem_iff
  | split before after h =>
    simp only [List.mem_append, List.mem_cons, or_and_right, exists_or, exists_eq_left, hsplit h,
      or_assoc]
  | symm _ ih => exact ih.symm
  | trans _ _ ih ih' => exact ih.trans ih'

theorem Regrouped.readable_iff (h : Regrouped rows others) :
    (∀ row ∈ rows, row.Readable) ↔ ∀ row ∈ others, row.Readable := by
  have hunreadable : (∃ row ∈ rows, ¬ row.Readable) ↔ ∃ row ∈ others, ¬ row.Readable := by
    refine h.exists_iff fun {row parts} hsplit => ?_
    rw [hsplit.readable_iff]
    simp only [not_forall, exists_prop]
  simpa only [not_exists, not_and, not_not] using not_congr hunreadable

end Row

/-! ## Catalogs -/

namespace Catalog

theorem not_unreadable_of_lists {row : Row} {listing : Listing} (h : row.Lists listing)
    (fault : Fault) : ¬ row.Unreadable fault := by
  rintro (hunnamed | ⟨-, hcolumns⟩)
  · exact hunnamed _ h.table
  · exact hcolumns _ h.columns

/-- Rows make a catalog if and only if all of them can be read, and then it knows what they list. -/
theorem ofRows_knows (rows : List Row) :
    ((∃ catalog, ofRows rows = .ok catalog) ↔ ∀ row ∈ rows, row.Readable) ∧
    ∀ catalog, ofRows rows = .ok catalog →
      (∀ table, catalog.hasTable table = true ↔ ∃ row ∈ rows, row.IsOf table) ∧
      ∀ table column, catalog.hasColumn table column = true ↔
        ∃ row ∈ rows, row.IsOf table ∧ row.HasColumn column := by
  rcases ofRows_shows rows with ⟨listings, shown, hshown, hlists, hshows⟩ |
    ⟨done, row, rest, listings, fault, hfault, rfl, -, hrow⟩
  · refine ⟨iff_of_true ⟨shown, hshown⟩ fun row hrow => ?_, fun catalog hcatalog => ?_⟩
    · obtain ⟨listing, -, hlisted⟩ := exists_of_mem_left hlists hrow
      exact Row.readable_iff.2 ⟨listing, hlisted⟩
    obtain rfl := Except.ok.inj (hshown.symm.trans hcatalog)
    refine ⟨fun table => ?_, fun table column => ?_⟩
    · rw [hshows.tables]
      constructor
      · rintro ⟨listing, hlisting, htable⟩
        obtain ⟨row, hrow, hlisted⟩ := exists_of_mem_right hlists hlisting
        exact ⟨row, hrow, (hlisted.isOf_iff table).1 htable⟩
      · rintro ⟨row, hrow, htable⟩
        obtain ⟨listing, hlisting, hlisted⟩ := exists_of_mem_left hlists hrow
        exact ⟨listing, hlisting, (hlisted.isOf_iff table).2 htable⟩
    · rw [hshows.columns]
      constructor
      · rintro ⟨listing, hlisting, htable, hcolumn⟩
        obtain ⟨row, hrow, hlisted⟩ := exists_of_mem_right hlists hlisting
        exact ⟨row, hrow, (hlisted.isOf_iff table).1 htable, (hlisted.mem_columns_iff column).1 hcolumn⟩
      · rintro ⟨row, hrow, htable, hcolumn⟩
        obtain ⟨listing, hlisting, hlisted⟩ := exists_of_mem_left hlists hrow
        exact ⟨listing, hlisting, (hlisted.isOf_iff table).2 htable,
          (hlisted.mem_columns_iff column).2 hcolumn⟩
  · rw [hfault]
    refine ⟨iff_of_false nofun fun hall => ?_, nofun⟩
    have hmem : row ∈ done ++ row :: rest := List.mem_append_right _ (List.mem_cons_self ..)
    obtain ⟨listing, hlisted⟩ := Row.readable_iff.1 (hall row hmem)
    exact not_unreadable_of_lists hlisted fault hrow

end Catalog

/-! ## Plans -/

section

variable {catalog other : Catalog}

theorem missingFieldColumns_congr (h : ∀ table column, catalog.hasColumn table column =
    other.hasColumn table column) (naming : Naming) (entity table : String) (fields : List Field) :
    missingFieldColumns naming catalog entity table fields =
      missingFieldColumns naming other entity table fields := by
  induction fields with
  | nil => rfl
  | cons field rest ih =>
    rw [missingFieldColumns, missingFieldColumns, ih]
    simp only [h]

theorem missingLinkColumns_congr (h : ∀ table column, catalog.hasColumn table column =
    other.hasColumn table column) (schema : Schema) (naming : Naming) (entity : String)
    (relations : List ManyToOne) :
    missingLinkColumns schema naming catalog entity relations =
      missingLinkColumns schema naming other entity relations := by
  induction relations with
  | nil => rfl
  | cons relation rest ih =>
    rw [missingLinkColumns, missingLinkColumns, ih]
    simp only [h]

/-- A plan depends on the tables and the columns that a catalog knows, and on nothing else. -/
theorem migrationPlan_congr (htables : ∀ table, catalog.hasTable table = other.hasTable table)
    (hcolumns : ∀ table column, catalog.hasColumn table column = other.hasColumn table column)
    (schema : Schema) (naming : Naming) :
    migrationPlan schema naming catalog = migrationPlan schema naming other := by
  have hparts : missingDefinitions schema naming catalog = missingDefinitions schema naming other := by
    funext entity
    unfold missingDefinitions
    simp only [missingFieldColumns_congr hcolumns, missingLinkColumns_congr hcolumns, htables]
  rw [migrationPlan, migrationPlan, hparts]

end

/-- Rows in another order, with the columns of a table spread over its rows in another way, make a catalog
just if these do. It knows the tables that some row names and the columns that some row of the table lists,
as the other one does, and leads to the same plans. -/
theorem Catalog.ofRows_regrouped {rows others : List Row} (h : Row.Regrouped rows others) :
    ((∃ catalog, ofRows rows = .ok catalog) ↔ ∃ other, ofRows others = .ok other) ∧
    ∀ catalog other, ofRows rows = .ok catalog → ofRows others = .ok other →
      (∀ table, catalog.hasTable table = other.hasTable table ∧
        (catalog.hasTable table = true ↔ ∃ row ∈ rows, row.IsOf table)) ∧
      (∀ table column, catalog.hasColumn table column = other.hasColumn table column ∧
        (catalog.hasColumn table column = true ↔
          ∃ row ∈ rows, row.IsOf table ∧ row.HasColumn column)) ∧
      ∀ schema naming, migrationPlan schema naming catalog = migrationPlan schema naming other := by
  obtain ⟨hsucceeds, hknows⟩ := ofRows_knows rows
  obtain ⟨hothers, hknown⟩ := ofRows_knows others
  refine ⟨by rw [hsucceeds, hothers, h.readable_iff], fun catalog other hcatalog hother => ?_⟩
  obtain ⟨htables, hcolumns⟩ := hknows catalog hcatalog
  obtain ⟨htables', hcolumns'⟩ := hknown other hother
  have hsameTables : ∀ table, catalog.hasTable table = other.hasTable table := by
    intro table
    rw [Bool.eq_iff_iff, htables, htables']
    exact h.exists_iff fun hsplit => hsplit.exists_isOf_iff table
  have hsameColumns : ∀ table column,
      catalog.hasColumn table column = other.hasColumn table column := by
    intro table column
    rw [Bool.eq_iff_iff, hcolumns, hcolumns']
    refine h.exists_iff fun {row parts} hsplit => ?_
    rw [hsplit.hasColumn_iff]
    constructor
    · rintro ⟨htable, part, hpart, hcolumn⟩
      exact ⟨part, hpart, (hsplit.isOf_iff hpart table).2 htable, hcolumn⟩
    · rintro ⟨part, hpart, htable, hcolumn⟩
      exact ⟨(hsplit.isOf_iff hpart table).1 htable, part, hpart, hcolumn⟩
  exact ⟨fun table => ⟨hsameTables table, htables table⟩,
    fun table column => ⟨hsameColumns table column, hcolumns table column⟩,
    migrationPlan_congr hsameTables hsameColumns⟩

/-! ## The library -/

namespace Library

/-- A column that is listed as an array. -/
def idColumn : Json :=
  .arr [.str "id", .str "integer"]

/-- A column that is listed as an object. -/
def titleColumn : Json :=
  .obj [("name", .str "title"), ("type", .str "text")]

/-- A row of the table of books. -/
def bookRow (columns : List Json) : Row where
  columns := [("table", .str "book"), ("columns", .arr columns)]

def authorRow : Row where
  columns := [("table", .str "author"), ("columns", .null)]

/-- One row for each table. -/
def tableRows : List Row :=
  [bookRow [idColumn, titleColumn], authorRow]

/-- The columns of books in two rows, and a third row that lists nothing. -/
def spreadRows : List Row :=
  [authorRow, bookRow [titleColumn], bookRow [], bookRow [idColumn]]

theorem regrouped_tableRows : Row.Regrouped tableRows spreadRows := by
  have hsplit : (bookRow [idColumn, titleColumn]).SplitsInto
      [bookRow [titleColumn], bookRow [], bookRow [idColumn]] := by
    refine ⟨nofun, by simp [bookRow, Row.value?, Assoc.get?], _, _, .items rfl,
      .cons (.items rfl) (.cons (.items rfl) (.cons (.items rfl) .nil)), ?_⟩
    exact List.Perm.swap ..
  refine (Row.Regrouped.split [] [authorRow] hsplit).trans (.perm ?_)
  exact List.perm_append_comm

end Library

theorem Catalog.ofRows_regrouped_tableRows : Row.Regrouped Library.tableRows Library.spreadRows ∧
    ∃ catalog other, ofRows Library.tableRows = .ok catalog ∧ ofRows Library.spreadRows = .ok other ∧
      catalog ≠ other ∧ catalog.hasColumn "book" "id" = true ∧
      migrationPlan Library.schema Library.naming catalog =
        migrationPlan Library.schema Library.naming other := by
  obtain ⟨catalog, hcatalog⟩ : ∃ catalog, ofRows Library.tableRows = .ok catalog := ⟨_, rfl⟩
  obtain ⟨other, hother⟩ : ∃ other, ofRows Library.spreadRows = .ok other := ⟨_, rfl⟩
  obtain ⟨-, hknows⟩ := ofRows_regrouped Library.regrouped_tableRows
  obtain ⟨-, -, hplans⟩ := hknows catalog other hcatalog hother
  refine ⟨Library.regrouped_tableRows, catalog, other, hcatalog, hother, ?_, ?_, hplans _ _⟩
  · obtain rfl := Except.ok.inj hcatalog
    obtain rfl := Except.ok.inj hother
    decide
  · obtain rfl := Except.ok.inj hcatalog
    rfl

end EntitySql
