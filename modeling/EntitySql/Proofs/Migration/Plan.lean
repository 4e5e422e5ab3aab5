import EntitySql.Migration.Plan
import EntitySql.Proofs.Naming.Layout

/-!
# What a migration plan defines

A migration plan put together from what the catalog lacks, entity by entity.

* `Definition.created?`, `Definition.clauses` and `Definition.foreignKeys` are the table, the columns
  and the foreign keys that a definition adds.
* `Layout.missingFields` and `Layout.missingKeys` are the fields and the many-to-ones whose columns a
  catalog lacks.
* `EntityPart` is what a plan has for one entity; `migrationPlan_eq_parts` says that planning never
  fails and that a plan consists of such parts.
-/

namespace EntitySql

set_option autoImplicit false

/-! ## What a definition adds -/

namespace Definition

def created? : Definition → Option String
  | createTable table _ => some table
  | addColumns .. | addForeignKeys .. => none

/-- The columns that a definition adds, with their tables. -/
def clauses : Definition → List (String × ColumnClause)
  | createTable table columns | addColumns table columns => columns.map fun clause => (table, clause)
  | addForeignKeys .. => []

def columns (definition : Definition) : List (String × String) :=
  definition.clauses.map fun (table, clause) => (table, clause.column)

/-- The foreign keys that a definition adds, with the tables that they are added to. -/
def foreignKeys : Definition → List (String × Link)
  | createTable .. | addColumns .. => []
  | addForeignKeys table links => links.map fun link => (table, link)

/-- Whether the definition adds tables or columns only. -/
def isTabular : Definition → Bool
  | createTable .. | addColumns .. => true
  | addForeignKeys .. => false

theorem foreignKeys_of_isTabular {definition : Definition} (h : definition.isTabular = true) :
    definition.foreignKeys = [] := by
  cases definition with
  | createTable table columns => rfl
  | addColumns table columns => rfl
  | addForeignKeys table links => cases h

theorem isTabular_of_created? {definition : Definition} {table : String}
    (h : definition.created? = some table) : definition.isTabular = true := by
  cases definition with
  | createTable table columns => rfl
  | addColumns table columns => rfl
  | addForeignKeys table links => cases h

theorem isTabular_of_mem_clauses {definition : Definition} {clause : String × ColumnClause}
    (h : clause ∈ definition.clauses) : definition.isTabular = true := by
  cases definition with
  | createTable table columns => rfl
  | addColumns table columns => rfl
  | addForeignKeys table links => cases h

/-- The definitions that bring columns into a table that is there, or not yet. -/
def ofColumns (hasTable : Bool) (table : String) (columns : List ColumnClause) : List Definition :=
  if !hasTable then [.createTable table columns]
  else if columns.isEmpty then [] else [.addColumns table columns]

def ofLinks (table : String) (links : List Link) : List Definition :=
  if links.isEmpty then [] else [.addForeignKeys table links]

section

variable {hasTable : Bool} {table : String} {columns : List ColumnClause} {links : List Link}

theorem mem_ofColumns {definition : Definition} (h : definition ∈ ofColumns hasTable table columns) :
    hasTable = false ∧ definition = .createTable table columns ∨
      hasTable = true ∧ definition = .addColumns table columns := by
  unfold ofColumns at h
  cases hasTable with
  | false => exact .inl ⟨rfl, List.mem_singleton.1 h⟩
  | true =>
    by_cases hnone : columns.isEmpty = true
    · simp [hnone] at h
    · simp only [hnone] at h
      exact .inr ⟨rfl, List.mem_singleton.1 h⟩

theorem clauses_ofColumns : (ofColumns hasTable table columns).flatMap clauses =
    columns.map fun clause => (table, clause) := by
  cases hasTable with
  | false => simp [ofColumns, clauses]
  | true =>
    by_cases hnone : columns = []
    · simp [ofColumns, hnone]
    · simp [ofColumns, hnone, clauses]

theorem created_ofColumns : (ofColumns hasTable table columns).filterMap created? =
    if hasTable then [] else [table] := by
  cases hasTable with
  | false => simp [ofColumns, created?]
  | true =>
    by_cases hnone : columns = []
    · simp [ofColumns, hnone]
    · simp [ofColumns, hnone, created?]

theorem isTabular_ofColumns :
    ∀ definition ∈ ofColumns hasTable table columns, definition.isTabular = true := by
  intro definition hmem
  rcases mem_ofColumns hmem with ⟨-, rfl⟩ | ⟨-, rfl⟩
  · rfl
  · rfl

theorem not_isTabular_ofLinks :
    ∀ definition ∈ ofLinks table links, definition.isTabular = false := by
  intro definition hmem
  unfold ofLinks at hmem
  split at hmem
  · cases hmem
  · rw [List.mem_singleton.1 hmem]
    rfl

theorem foreignKeys_ofLinks : (ofLinks table links).flatMap foreignKeys =
    links.map fun link => (table, link) := by
  by_cases hnone : links = []
  · simp [ofLinks, hnone]
  · simp [ofLinks, hnone, foreignKeys]

end

end Definition

/-! ## What a catalog lacks -/

namespace Layout

variable (layout : Layout) (catalog : Catalog) (entity : Entity)

def missingFields : List Field :=
  entity.fields.filter fun field =>
    !catalog.hasColumn (layout.table entity.name) (layout.column entity.name field.name)

def missingKeys : List ManyToOne :=
  entity.manyToOne.filter fun relation =>
    !catalog.hasColumn (layout.table entity.name) (layout.foreignKey entity.name relation)

variable {layout catalog entity} in
theorem mem_missingFields {field : Field} :
    field ∈ layout.missingFields catalog entity ↔ field ∈ entity.fields ∧
      catalog.hasColumn (layout.table entity.name) (layout.column entity.name field.name) = false := by
  simp [missingFields]

variable {layout catalog entity} in
theorem mem_missingKeys {relation : ManyToOne} :
    relation ∈ layout.missingKeys catalog entity ↔ relation ∈ entity.manyToOne ∧
      catalog.hasColumn (layout.table entity.name) (layout.foreignKey entity.name relation) =
        false := by
  simp [missingKeys]

def fieldClause (field : Field) : ColumnClause where
  column := layout.column entity.name field.name
  type := field.sqlType
  constraints := field.constraints

/-- What is added for a many-to-one: a column of the type of the field that it refers to, without
constraints, and the join. -/
structure AddsKey (schema : Schema) (relation : ManyToOne) (pair : ColumnClause × Link) : Prop where
  link : pair.2 = layout.link entity.name relation
  clause : ∃ target, schema.field? relation.targetEntity relation.targetField = some target ∧
    pair.1 = { column := layout.foreignKey entity.name relation, type := target.sqlType }

end Layout

section

variable {schema : Schema} {naming : Naming} {layout : Layout} {entity : Entity}

theorem missingFieldColumns_eq_ok (catalog : Catalog) (h : naming.Follows schema layout)
    (hentity : entity ∈ schema.entities) {fields : List Field}
    (hfields : ∀ field ∈ fields, field ∈ entity.fields) :
    missingFieldColumns naming catalog entity.name (layout.table entity.name) fields = .ok
      ((fields.filter fun field => !catalog.hasColumn (layout.table entity.name)
        (layout.column entity.name field.name)).map (layout.fieldClause entity)) := by
  induction fields with
  | nil => rfl
  | cons field rest ih =>
    have hcolumn := h.column entity hentity field (hfields field (List.mem_cons_self ..))
    have hrest := ih fun other hother => hfields other (List.mem_cons_of_mem _ hother)
    simp only [missingFieldColumns, hcolumn, hrest]
    cases hhas : catalog.hasColumn (layout.table entity.name)
        (layout.column entity.name field.name) with
    | true => simp [bind, Except.bind, pure, Except.pure, hhas]
    | false => simp [bind, Except.bind, pure, Except.pure, hhas, Layout.fieldClause]

theorem missingLinkColumns_eq_ok (catalog : Catalog) (hschema : schema.WellFormed)
    (h : naming.Follows schema layout) (hentity : entity ∈ schema.entities) {relations : List ManyToOne}
    (hrelations : ∀ relation ∈ relations, relation ∈ entity.manyToOne) :
    ∃ pairs, missingLinkColumns schema naming catalog entity.name relations = .ok pairs ∧
      List.Forall₂ (layout.AddsKey entity schema) (relations.filter fun relation =>
        !catalog.hasColumn (layout.table entity.name) (layout.foreignKey entity.name relation))
          pairs := by
  induction relations with
  | nil => exact ⟨[], rfl, .nil⟩
  | cons relation rest ih =>
    have hrelation := hrelations relation (List.mem_cons_self ..)
    obtain ⟨pairs, hpairs, hadds⟩ := ih fun other hother =>
      hrelations other (List.mem_cons_of_mem _ hother)
    have hlink := h.manyToOne entity hentity relation hrelation
    simp only [missingLinkColumns, hlink, hpairs]
    cases hhas : catalog.hasColumn (layout.table entity.name)
        (layout.foreignKey entity.name relation) with
    | true =>
      refine ⟨pairs, ?_, ?_⟩
      · simp [bind, Except.bind, Layout.link, hhas]
      · simpa [hhas] using hadds
    | false =>
      -- the type of the column is looked up in the schema, where the target is declared
      obtain ⟨target, htarget, -⟩ := (hschema.entity entity hentity).target relation hrelation
      have hfield := Schema.field_eq_ok.2 htarget
      refine ⟨({ column := layout.foreignKey entity.name relation, type := target.sqlType },
        layout.link entity.name relation) :: pairs, ?_, ?_⟩
      · simp [bind, Except.bind, pure, Except.pure, Layout.link, hhas, hfield]
      · rw [List.filter_cons_of_pos (by simp [hhas])]
        exact .cons ⟨rfl, target, htarget, rfl⟩ hadds

end

/-! ## The part of one entity -/

/-- What a plan has for one entity: the definitions of its table and columns, and those of its
foreign keys. -/
structure EntityPart (layout : Layout) (schema : Schema) (catalog : Catalog) (entity : Entity)
    (part : List Definition × List Definition) : Prop where
  tabular : ∀ definition ∈ part.1, definition.isTabular = true
  keyed : ∀ definition ∈ part.2, definition.isTabular = false
  created : part.1.filterMap Definition.created? =
    if catalog.hasTable (layout.table entity.name) then [] else [layout.table entity.name]
  /-- Columns are added to a table that is there. -/
  extended : ∀ table columns, .addColumns table columns ∈ part.1 → catalog.hasTable table = true
  /-- Nothing is said about a table that lacks nothing. -/
  needed : catalog.hasTable (layout.table entity.name) = true →
    layout.missingFields catalog entity = [] → layout.missingKeys catalog entity = [] →
      part = ([], [])
  added : ∃ pairs,
    List.Forall₂ (layout.AddsKey entity schema) (layout.missingKeys catalog entity) pairs ∧
    part.1.flatMap Definition.clauses = ((layout.missingFields catalog entity).map
      (layout.fieldClause entity) ++ pairs.map Prod.fst).map fun clause =>
        (layout.table entity.name, clause)
  keys : part.2.flatMap Definition.foreignKeys = (layout.missingKeys catalog entity).map
    fun relation => (layout.table entity.name, layout.link entity.name relation)

section

variable {schema : Schema} {naming : Naming} {layout : Layout} {entity : Entity}

theorem missingDefinitions_eq_ok (catalog : Catalog) (hschema : schema.WellFormed)
    (h : naming.Follows schema layout) (hentity : entity ∈ schema.entities) :
    ∃ part, missingDefinitions schema naming catalog entity = .ok part ∧
      EntityPart layout schema catalog entity part := by
  have htable := h.table entity hentity
  have hfields := missingFieldColumns_eq_ok catalog h hentity fun _ hfield => hfield
  obtain ⟨pairs, hpairs, hadds⟩ := missingLinkColumns_eq_ok catalog hschema h hentity
    fun _ hrelation => hrelation
  change List.Forall₂ _ (layout.missingKeys catalog entity) pairs at hadds
  let table := layout.table entity.name
  let columns := (layout.missingFields catalog entity).map (layout.fieldClause entity) ++
    pairs.map Prod.fst
  let part := (Definition.ofColumns (catalog.hasTable table) table columns,
    Definition.ofLinks table (pairs.map Prod.snd))
  have hpart : missingDefinitions schema naming catalog entity = .ok part := by
    simp only [missingDefinitions, htable, bind, Except.bind, hfields, hpairs]
    simp only [part, Definition.ofLinks, List.isEmpty_map]
    rfl
  have hlinks : pairs.map Prod.snd =
      (layout.missingKeys catalog entity).map (layout.link entity.name) := by
    have hsame : List.Forall₂ (fun (pair : ColumnClause × Link) relation =>
        pair.2 = layout.link entity.name relation) pairs (layout.missingKeys catalog entity) :=
      hadds.flip.imp fun pair relation hadd => hadd.link
    rw [← List.forall₂_eq_eq_eq, List.forall₂_map_left_iff, List.forall₂_map_right_iff]
    exact hsame
  exact ⟨part, hpart, {
    tabular := Definition.isTabular_ofColumns
    keyed := Definition.not_isTabular_ofLinks
    created := Definition.created_ofColumns
    extended := by
      intro name added hmem
      rcases Definition.mem_ofColumns hmem with ⟨-, hother⟩ | ⟨hhas, hsame⟩
      · cases hother
      · obtain ⟨rfl, -⟩ := Definition.addColumns.inj hsame
        exact hhas
    needed := by
      intro hhas hfieldless hkeyless
      rw [hkeyless, List.forall₂_nil_left_iff] at hadds
      simp [part, columns, table, Definition.ofColumns, Definition.ofLinks, hhas, hfieldless, hadds]
    added := ⟨pairs, hadds, Definition.clauses_ofColumns⟩
    keys := by
      rw [Definition.foreignKeys_ofLinks, hlinks, List.map_map]
      rfl }⟩

/-- Planning never fails, and a plan consists of a part for each entity: first all tables and
columns, then all foreign keys. -/
theorem migrationPlan_eq_parts (hschema : schema.WellFormed) (h : naming.Follows schema layout)
    (catalog : Catalog) :
    ∃ parts, List.Forall₂ (EntityPart layout schema catalog) schema.entities parts ∧
      migrationPlan schema naming catalog =
        .ok (parts.flatMap Prod.fst ++ parts.flatMap Prod.snd) := by
  have hparts : ∀ entities : List Entity, (∀ entity ∈ entities, entity ∈ schema.entities) →
      ∃ parts, List.Forall₂ (EntityPart layout schema catalog) entities parts ∧
        entities.mapM (missingDefinitions schema naming catalog) = .ok parts := by
    intro entities hentities
    induction entities with
    | nil => exact ⟨[], .nil, rfl⟩
    | cons entity rest ih =>
      obtain ⟨part, hpart, hentity⟩ := missingDefinitions_eq_ok catalog hschema h
        (hentities entity (List.mem_cons_self ..))
      obtain ⟨parts, hrest, hplanned⟩ := ih fun other hother =>
        hentities other (List.mem_cons_of_mem _ hother)
      refine ⟨part :: parts, .cons hentity hrest, ?_⟩
      rw [List.mapM_cons]
      exact bind_eq_ok.2 ⟨part, hpart, bind_eq_ok.2 ⟨parts, hplanned, rfl⟩⟩
  obtain ⟨parts, hparts, hplanned⟩ := hparts schema.entities fun _ hentity => hentity
  exact ⟨parts, hparts, bind_eq_ok.2 ⟨parts, hplanned, rfl⟩⟩

end

section

variable {schema : Schema} {layout : Layout} {catalog : Catalog} {entities : List Entity}
  {parts : List (List Definition × List Definition)}
  (h : List.Forall₂ (EntityPart layout schema catalog) entities parts)

include h

theorem exists_part_of_mem_tables {definition : Definition}
    (hmem : definition ∈ parts.flatMap Prod.fst) :
    ∃ entity ∈ entities, ∃ part, EntityPart layout schema catalog entity part ∧
      definition ∈ part.1 := by
  obtain ⟨part, hpart, hdefinition⟩ := List.mem_flatMap.1 hmem
  obtain ⟨entity, hentity, hdefines⟩ := exists_of_mem_right h hpart
  exact ⟨entity, hentity, part, hdefines, hdefinition⟩

theorem isTabular_of_parts : ∀ definition ∈ parts.flatMap Prod.fst, definition.isTabular = true := by
  intro definition hmem
  obtain ⟨entity, -, part, hdefines, hdefinition⟩ := exists_part_of_mem_tables h hmem
  exact hdefines.tabular definition hdefinition

theorem not_isTabular_of_parts :
    ∀ definition ∈ parts.flatMap Prod.snd, definition.isTabular = false := by
  intro definition hmem
  obtain ⟨part, hpart, hdefinition⟩ := List.mem_flatMap.1 hmem
  obtain ⟨entity, -, hdefines⟩ := exists_of_mem_right h hpart
  exact hdefines.keyed definition hdefinition

/-- A definition of tables or columns stands in the first half of a plan. -/
theorem mem_tables_of_isTabular {definition : Definition}
    (hmem : definition ∈ parts.flatMap Prod.fst ++ parts.flatMap Prod.snd)
    (htabular : definition.isTabular = true) : definition ∈ parts.flatMap Prod.fst := by
  refine (List.mem_append.1 hmem).resolve_right fun hkey => ?_
  rw [not_isTabular_of_parts h definition hkey] at htabular
  cases htabular

end

end EntitySql
