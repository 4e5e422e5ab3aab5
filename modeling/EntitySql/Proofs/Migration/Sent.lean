import EntitySql.Migration.Run
import EntitySql.Proofs.Database.Recorded
import EntitySql.Proofs.Migration.Reconcile

/-!
# What a migration sends

Bringing a database up to date: what is asked of it, what is read from its answer and what is sent.

* `Row.Lists` says which table and columns a row of the answer lists, `Row.Unreadable` why it lists none,
  and `Catalog.Shows` that a catalog has just the tables and columns that are listed.
* `Catalog.ofRows_shows`: rows that all list something make a catalog that shows it; any others make none.
* `Migrates` says what a migration answers, which state it leaves and which calls it makes, and
  `migrates_migrate` that every migration is of this form, if planning never fails.
-/

namespace EntitySql

set_option autoImplicit false

variable {σ : Type}

/-! ## Catalogs of rows -/

/-- A table and columns of it. -/
structure Listing where
  table : String
  columns : List CatalogColumn

/-- The columns that a value lists. There are none if it is left out. -/
inductive Listing.Columns : Option Json → List CatalogColumn → Prop
  | absent : Columns none []
  | null : Columns (some .null) []
  | items {items : List Json} {columns : List CatalogColumn}
      (h : List.Forall₂ (fun item column => CatalogColumn.ofJson? item = some column) items columns) :
      Columns (some (.arr items)) columns

/-- The row names the table and lists the columns. -/
structure Row.Lists (row : Row) (listing : Listing) : Prop where
  table : row.value? "table" = some (.str listing.table)
  columns : Listing.Columns (row.value? "columns") listing.columns

/-- Why a row lists nothing: it names no table, or its columns do not decode. -/
inductive Row.Unreadable (row : Row) : Fault → Prop
  | unnamed (h : ∀ table, row.value? "table" ≠ some (.str table)) :
      Unreadable row (.database .catalogRow)
  | undecodable {table : String} (htable : row.value? "table" = some (.str table))
      (hcolumns : ∀ columns, ¬ Listing.Columns (row.value? "columns") columns) :
      Unreadable row .undecodable

namespace Catalog

/-- The catalog has just the tables and the columns that are listed. -/
structure Shows (catalog : Catalog) (listings : List Listing) : Prop where
  tables : ∀ table, catalog.hasTable table = true ↔ ∃ listing ∈ listings, listing.table = table
  columns : ∀ table column, catalog.hasColumn table column = true ↔ ∃ listing ∈ listings,
    listing.table = table ∧ column ∈ listing.columns.map CatalogColumn.name

def addListing (catalog : Catalog) (listing : Listing) : Catalog :=
  catalog.addTable listing.table listing.columns

theorem rowColumns_eq_ok {row : Row} {columns : List CatalogColumn} :
    rowColumns row = .ok columns ↔ Listing.Columns (row.value? "columns") columns := by
  unfold rowColumns
  cases hvalue : row.value? "columns" with
  | none =>
    constructor
    · rintro ⟨⟩
      exact .absent
    · rintro ⟨⟩
      rfl
  | some value =>
    cases value with
    | null =>
      constructor
      · rintro ⟨⟩
        exact .null
      · rintro ⟨⟩
        rfl
    | arr items =>
      change Result.decoded (items.mapM CatalogColumn.ofJson?) = .ok columns ↔ _
      rw [decoded_eq_ok, mapM_eq_some]
      constructor
      · exact .items
      · rintro ⟨⟩
        assumption
    | _ =>
      constructor
      · rintro ⟨⟩
      · rintro ⟨⟩

theorem eq_undecodable_of_rowColumns {row : Row} {fault : Fault}
    (h : rowColumns row = .error fault) : fault = .undecodable := by
  unfold rowColumns at h
  split at h
  · cases h
  · cases h
  · exact eq_undecodable_of_decoded h

theorem asString?_eq_some {value : Json} {text : String} :
    value.asString? = some text ↔ value = .str text := by
  cases value <;> simp [Json.asString?]

theorem addRow_eq_ok (catalog : Catalog) (row : Row) (next : Catalog) :
    catalog.addRow row = .ok next ↔
      ∃ listing, row.Lists listing ∧ next = catalog.addListing listing := by
  unfold addRow
  cases htable : (row.value? "table").bind Json.asString? with
  | none =>
    constructor
    · rintro ⟨⟩
    · rintro ⟨listing, hlists, -⟩
      rw [hlists.table] at htable
      cases htable
  | some table =>
    obtain ⟨_, hvalue, hstring⟩ := Option.bind_eq_some_iff.1 htable
    obtain rfl := asString?_eq_some.1 hstring
    simp only [bind_eq_ok, rowColumns_eq_ok, pure_eq_ok]
    constructor
    · rintro ⟨columns, hcolumns, rfl⟩
      exact ⟨⟨table, columns⟩, ⟨hvalue, hcolumns⟩, rfl⟩
    · rintro ⟨⟨other, columns⟩, ⟨hother, hcolumns⟩, rfl⟩
      rw [hvalue] at hother
      cases hother
      exact ⟨columns, hcolumns, rfl⟩

theorem unreadable_of_addRow {catalog : Catalog} {row : Row} {fault : Fault}
    (h : catalog.addRow row = .error fault) : row.Unreadable fault := by
  unfold addRow at h
  cases htable : (row.value? "table").bind Json.asString? with
  | none =>
    rw [htable] at h
    cases h
    refine .unnamed fun table hvalue => ?_
    rw [hvalue] at htable
    cases htable
  | some table =>
    obtain ⟨_, hvalue, hstring⟩ := Option.bind_eq_some_iff.1 htable
    obtain rfl := asString?_eq_some.1 hstring
    rw [htable] at h
    cases hcolumns : rowColumns row with
    | ok columns =>
      rw [hcolumns] at h
      cases h
    | error other =>
      rw [hcolumns] at h
      obtain rfl := Except.error.inj h
      obtain rfl := eq_undecodable_of_rowColumns hcolumns
      refine .undecodable hvalue fun columns hlisted => ?_
      cases hcolumns.symm.trans (rowColumns_eq_ok.2 hlisted)

theorem shows_addListing {catalog : Catalog} {listings : List Listing} (h : catalog.Shows listings)
    (listing : Listing) : (catalog.addListing listing).Shows (listings ++ [listing]) where
  tables table := by
    rw [addListing, hasTable_addTable]
    simp [h.tables, or_comm]
  columns table column := by
    rw [addListing, hasColumn_addTable, h.columns]
    simp only [List.mem_append, List.mem_singleton, or_and_right, exists_or, exists_eq_left]
    exact or_comm

theorem Shows.foldl {catalog : Catalog} {before : List Listing} (h : catalog.Shows before)
    (listings : List Listing) : (listings.foldl addListing catalog).Shows (before ++ listings) := by
  induction listings generalizing catalog before with
  | nil => simpa using h
  | cons listing rest ih =>
    rw [List.append_cons]
    exact ih (shows_addListing h listing)

theorem shows_nil : Shows {} [] where
  tables table := by simp [hasTable, Assoc.has, Assoc.get?]
  columns table column := by simp [hasColumn, column?, Assoc.get?]

/-- Rows that all list something make a catalog that shows it. If one does not, the first of them is
reported. -/
theorem ofRows_shows (rows : List Row) :
    (∃ listings catalog, ofRows rows = .ok catalog ∧ List.Forall₂ Row.Lists rows listings ∧
      catalog.Shows listings) ∨
    ∃ done row rest listings fault, ofRows rows = .error fault ∧ rows = done ++ row :: rest ∧
      List.Forall₂ Row.Lists done listings ∧ row.Unreadable fault := by
  have hread : ∀ {rows catalog}, ofRows rows = .ok catalog ↔ ∃ listings,
      List.Forall₂ Row.Lists rows listings ∧ catalog = listings.foldl addListing {} :=
    foldlM_eq_ok addRow_eq_ok
  cases hrows : ofRows rows with
  | ok catalog =>
    obtain ⟨listings, hlistings, rfl⟩ := hread.1 hrows
    exact .inl ⟨listings, _, rfl, hlistings, shows_nil.foldl listings⟩
  | error fault =>
    obtain ⟨done, row, rest, catalog, rfl, hdone, hfault⟩ := exists_of_foldlM_eq_error hrows
    obtain ⟨listings, hlistings, -⟩ := hread.1 hdone
    exact .inr ⟨done, row, rest, listings, fault, rfl, rfl, hlistings, unreadable_of_addRow hfault⟩

end Catalog

/-! ## Migrations -/

/-- What a migration answers, which state it leaves and which calls it makes. It asks for the tables and
columns that there are, and sends what is missing if it can read the answer. -/
inductive Migrates (database : Database σ) (schema : Schema) (naming : Naming) (s : σ) :
    Except Interruption Nat → σ → List LogEntry → Prop
  | unanswered {s' : σ} {interruption : Interruption}
      (hquery : (database.query introspection []).run.run s = (.error interruption, s')) :
      Migrates database schema naming s (.error interruption) s' [.query introspection []]
  /-- The first row that lists nothing is reported, and nothing is sent. -/
  | unread {s' : σ} {result : ResultSet} {done rest : List Row} {row : Row} {listings : List Listing}
      {fault : Fault} (hquery : (database.query introspection []).run.run s = (.ok result, s'))
      (hrows : result.rows = done ++ row :: rest) (hdone : List.Forall₂ Row.Lists done listings)
      (hrow : row.Unreadable fault) :
      Migrates database schema naming s (.error (.fault fault)) s' [.query introspection []]
  | upToDate {s' : σ} {result : ResultSet} {listings : List Listing} {catalog : Catalog}
      (hquery : (database.query introspection []).run.run s = (.ok result, s'))
      (hrows : List.Forall₂ Row.Lists result.rows listings) (hcatalog : catalog.Shows listings)
      (hplan : migrationPlan schema naming catalog = .ok []) :
      Migrates database schema naming s (.ok 0) s' [.query introspection []]
  /-- The missing definitions are sent together, and counted if they are accepted. -/
  | sent {s₁ s' : σ} {result : ResultSet} {listings : List Listing} {catalog : Catalog}
      {definitions : List Definition} {answer : Except Interruption Unit} {text : String}
      (hquery : (database.query introspection []).run.run s = (.ok result, s₁))
      (hrows : List.Forall₂ Row.Lists result.rows listings) (hcatalog : catalog.Shows listings)
      (hplan : migrationPlan schema naming catalog = .ok definitions) (hmissing : definitions ≠ [])
      (htext : text = "\n".intercalate (definitions.map fun definition => definition.text ++ ";"))
      (hbatch : (database.batch text).run.run s₁ = (answer, s')) :
      Migrates database schema naming s (answer.map fun _ => definitions.length) s'
        [.query introspection [], .batch text]

/-- Every migration is of this form, if there is a plan for every catalog. Logging its calls changes
neither its answer nor its effect. -/
theorem migrates_migrate (database : Database σ) {schema : Schema} {naming : Naming}
    (hplans : ∀ catalog, ∃ definitions, migrationPlan schema naming catalog = .ok definitions)
    (s : σ) : ∃ answer s' calls,
      Makes (migrate database schema naming) (migrate database.recorded schema naming) s answer s'
        calls ∧ Migrates database schema naming s answer s' calls := by
  obtain ⟨answered, s₁, hquery⟩ :
      ∃ answered s₁, (database.query introspection []).run.run s = (answered, s₁) := ⟨_, _, rfl⟩
  have hasks := makes_recorded hquery (.query introspection [])
  unfold migrate
  cases answered with
  | error interruption => exact ⟨_, _, _, hasks.bind_error, .unanswered hquery⟩
  | ok result =>
    rcases Catalog.ofRows_shows result.rows with ⟨listings, catalog, hread, hrows, hcatalog⟩ |
      ⟨done, row, rest, listings, fault, hread, hrows, hdone, hrow⟩
    · obtain ⟨definitions, hplan⟩ := hplans catalog
      have hreads := makes_ofResult hread s₁
      have hplanned := makes_ofResult hplan s₁
      by_cases hmissing : definitions = []
      · subst hmissing
        exact ⟨_, _, _, hasks.bind (hreads.bind (hplanned.bind (makes_pure 0 s₁))),
          .upToDate hquery hrows hcatalog hplan⟩
      · obtain ⟨answer, s₂, hbatch⟩ : ∃ answer s₂,
            (database.batch (batchText definitions)).run.run s₁ = (answer, s₂) := ⟨_, _, rfl⟩
        have hsends := (makes_recorded hbatch (.batch (batchText definitions))).map
          fun _ => definitions.length
        refine ⟨_, _, _, hasks.bind (hreads.bind (hplanned.bind ?_)),
          .sent hquery hrows hcatalog hplan hmissing rfl hbatch⟩
        simp only [List.isEmpty_iff, hmissing, if_false]
        exact hsends
    · have hrefused := makes_ofResult_error (α := Catalog) hread s₁
      exact ⟨_, _, _, hasks.bind hrefused.bind_error, .unread hquery hrows hdone hrow⟩

end EntitySql
