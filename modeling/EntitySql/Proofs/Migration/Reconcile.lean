import EntitySql.Proofs.Migration.Plan
import EntitySql.Proofs.Relational.Stored

/-!
# Reconciliation

A migration plan adds what a catalog lacks of a schema, and nothing else.

* `Catalog.after` is the catalog that a plan leaves.
* `Reconciles` says which tables and columns a plan adds, and to which tables.
* `migrationPlan_reconciles` puts it together: a plan reconciles, and after it there is nothing left
  to do.
-/

namespace EntitySql

set_option autoImplicit false

/-! ## Catalogs after definitions -/

namespace Catalog

/-- The catalog after a definition. What is known of a column besides its name is up to
`describe`. -/
def define (describe : ColumnClause → CatalogColumn) (catalog : Catalog) : Definition → Catalog
  | .createTable table columns | .addColumns table columns =>
    catalog.addTable table (columns.map describe)
  | .addForeignKeys .. => catalog

def after (describe : ColumnClause → CatalogColumn) (catalog : Catalog)
    (plan : List Definition) : Catalog :=
  plan.foldl (define describe) catalog

theorem get?_foldl_column (columns : List CatalogColumn) (known : Assoc CatalogColumn)
    (column : String) :
    (Assoc.get? column (columns.foldl (fun known column => Assoc.insert column.name column known)
      known)).isSome = true ↔
        column ∈ columns.map CatalogColumn.name ∨ (Assoc.get? column known).isSome = true := by
  induction columns generalizing known with
  | nil => simp
  | cons first rest ih =>
    rw [List.foldl_cons, ih, Assoc.get?_insert, List.map_cons, List.mem_cons]
    by_cases heq : first.name = column
    · simp [heq]
    · simp [heq, Ne.symm heq]

theorem hasTable_addTable (catalog : Catalog) (table other : String) (columns : List CatalogColumn) :
    (catalog.addTable table columns).hasTable other = (table == other || catalog.hasTable other) :=
  Assoc.has_insert ..

theorem hasColumn_addTable (catalog : Catalog) (table other column : String)
    (columns : List CatalogColumn) :
    (catalog.addTable table columns).hasColumn other column = true ↔
      (table = other ∧ column ∈ columns.map CatalogColumn.name) ∨
        catalog.hasColumn other column = true := by
  simp only [hasColumn, column?, addTable, Assoc.get?_insert]
  by_cases htable : table = other
  · subst htable
    rw [if_pos rfl, Option.bind_some, get?_foldl_column]
    cases Assoc.get? table catalog.tables with
    | none => simp [Assoc.get?]
    | some known => simp
  · simp [htable]

variable {describe : ColumnClause → CatalogColumn}

theorem hasTable_define {catalog : Catalog} {table : String} (definition : Definition)
    (h : catalog.hasTable table = true ∨ definition.created? = some table) :
    (catalog.define describe definition).hasTable table = true := by
  cases definition with
  | createTable name columns =>
    rw [define, hasTable_addTable]
    rcases h with h | h
    · simp [h]
    · simp [Option.some.inj h]
  | addColumns name columns =>
    rw [define, hasTable_addTable]
    rcases h with h | h
    · simp [h]
    · cases h
  | addForeignKeys name links =>
    rcases h with h | h
    · exact h
    · cases h

theorem hasColumn_define (hdescribe : ∀ clause, (describe clause).name = clause.column)
    (catalog : Catalog) (definition : Definition) (table column : String) :
    (catalog.define describe definition).hasColumn table column = true ↔
      (table, column) ∈ definition.columns ∨ catalog.hasColumn table column = true := by
  have hnames : ∀ columns : List ColumnClause, (columns.map describe).map CatalogColumn.name =
      columns.map ColumnClause.column := by
    intro columns
    rw [List.map_map]
    exact List.map_congr_left fun clause _ => hdescribe clause
  have hadded : ∀ (name : String) (columns : List ColumnClause),
      (table, column) ∈ (columns.map fun clause => (name, clause)).map
        (fun pair => (pair.1, pair.2.column)) ↔
          name = table ∧ column ∈ columns.map ColumnClause.column := by
    intro name columns
    rw [List.map_map, List.mem_map, List.mem_map]
    constructor
    · rintro ⟨clause, hclause, hpair⟩
      obtain ⟨rfl, rfl⟩ := Prod.mk.inj hpair
      exact ⟨rfl, clause, hclause, rfl⟩
    · rintro ⟨rfl, clause, hclause, rfl⟩
      exact ⟨clause, hclause, rfl⟩
  cases definition with
  | createTable name columns =>
    rw [define, hasColumn_addTable, hnames, ← hadded]
    rfl
  | addColumns name columns =>
    rw [define, hasColumn_addTable, hnames, ← hadded]
    rfl
  | addForeignKeys name links => simp [define, Definition.columns, Definition.clauses]

theorem hasTable_after {catalog : Catalog} {plan : List Definition} {table : String}
    (h : catalog.hasTable table = true ∨ table ∈ plan.filterMap Definition.created?) :
    (catalog.after describe plan).hasTable table = true := by
  induction plan generalizing catalog with
  | nil => simpa [after] using h
  | cons definition rest ih =>
    show ((catalog.define describe definition).after describe rest).hasTable table = true
    apply ih
    rcases h with h | h
    · exact .inl (hasTable_define definition (.inl h))
    · obtain ⟨created, hcreated, hname⟩ := List.mem_filterMap.1 h
      rcases List.mem_cons.1 hcreated with rfl | hrest
      · exact .inl (hasTable_define _ (.inr hname))
      · exact .inr (List.mem_filterMap.2 ⟨created, hrest, hname⟩)

theorem hasColumn_after (hdescribe : ∀ clause, (describe clause).name = clause.column)
    (catalog : Catalog) (plan : List Definition) (table column : String) :
    (catalog.after describe plan).hasColumn table column = true ↔
      (table, column) ∈ plan.flatMap Definition.columns ∨
        catalog.hasColumn table column = true := by
  induction plan generalizing catalog with
  | nil => simp [after]
  | cons definition rest ih =>
    have hrest := ih (catalog.define describe definition)
    rw [hasColumn_define hdescribe] at hrest
    rw [List.flatMap_cons, List.mem_append]
    refine hrest.trans ?_
    tauto

end Catalog

/-! ## What a plan adds -/

section

variable {schema : Schema} {naming : Naming} {layout : Layout} {catalog : Catalog} {entity : Entity}
  {part : List Definition × List Definition} {parts : List (List Definition × List Definition)}
  {table column : String}

/-- One entity gets the columns that it declares and that its table lacks. -/
theorem EntityPart.mem_clauses (h : EntityPart layout schema catalog entity part)
    {clause : ColumnClause} :
    (table, clause) ∈ part.1.flatMap Definition.clauses ↔ table = layout.table entity.name ∧
      ((∃ field ∈ layout.missingFields catalog entity, layout.fieldClause entity field = clause) ∨
        ∃ relation ∈ layout.missingKeys catalog entity, ∃ target,
          schema.field? relation.targetEntity relation.targetField = some target ∧
            clause = { column := layout.foreignKey entity.name relation, type := target.sqlType }) := by
  obtain ⟨pairs, hpairs, hclauses⟩ := h.added
  have hkeys : clause ∈ pairs.map Prod.fst ↔
      ∃ relation ∈ layout.missingKeys catalog entity, ∃ target,
        schema.field? relation.targetEntity relation.targetField = some target ∧
          clause = { column := layout.foreignKey entity.name relation, type := target.sqlType } := by
    rw [List.mem_map]
    constructor
    · rintro ⟨pair, hpair, rfl⟩
      obtain ⟨relation, hrelation, hadds⟩ := exists_of_mem_right hpairs hpair
      exact ⟨relation, hrelation, hadds.clause⟩
    · rintro ⟨relation, hrelation, target, htarget, rfl⟩
      obtain ⟨pair, hpair, hadds⟩ := exists_of_mem_left hpairs hrelation
      obtain ⟨other, hother, hclause⟩ := hadds.clause
      obtain rfl := Option.some.inj (hother.symm.trans htarget)
      exact ⟨pair, hpair, hclause⟩
  rw [hclauses, List.mem_map, ← hkeys]
  constructor
  · rintro ⟨other, hother, hpair⟩
    obtain ⟨rfl, rfl⟩ := Prod.mk.inj hpair
    exact ⟨rfl, (List.mem_append.1 hother).imp_left List.mem_map.1⟩
  · rintro ⟨rfl, hclause⟩
    exact ⟨clause, List.mem_append.2 (hclause.imp_left List.mem_map.2), rfl⟩

theorem mem_clauses_of_parts
    (hparts : List.Forall₂ (EntityPart layout schema catalog) schema.entities parts)
    {clause : ColumnClause} :
    (table, clause) ∈ (parts.flatMap Prod.fst ++ parts.flatMap Prod.snd).flatMap
      Definition.clauses ↔ ∃ part ∈ parts, (table, clause) ∈ part.1.flatMap Definition.clauses := by
  have hkeys : (table, clause) ∉ (parts.flatMap Prod.snd).flatMap Definition.clauses := by
    intro hmem
    obtain ⟨definition, hdefinition, hclause⟩ := List.mem_flatMap.1 hmem
    have htabular := Definition.isTabular_of_mem_clauses hclause
    rw [not_isTabular_of_parts hparts definition hdefinition] at htabular
    cases htabular
  rw [List.flatMap_append, List.mem_append, List.flatMap_assoc, List.mem_flatMap]
  simp only [hkeys, or_false]

/-- The columns that a plan adds, with their types, are those that the layout declares and the
catalog lacks. -/
theorem declares_iff_of_parts
    (hparts : List.Forall₂ (EntityPart layout schema catalog) schema.entities parts)
    {type : SqlType} :
    (∃ clause, (table, clause) ∈ (parts.flatMap Prod.fst ++ parts.flatMap Prod.snd).flatMap
      Definition.clauses ∧ clause.column = column ∧ clause.type = type) ↔
        layout.Declares schema table column type ∧ catalog.hasColumn table column = false := by
  simp only [mem_clauses_of_parts hparts]
  constructor
  · rintro ⟨clause, ⟨part, hpart, hclause⟩, rfl, rfl⟩
    obtain ⟨entity, hentity, hdefines⟩ := exists_of_mem_right hparts hpart
    obtain ⟨rfl, hfield | hkey⟩ := hdefines.mem_clauses.1 hclause
    · obtain ⟨field, hfield, rfl⟩ := hfield
      obtain ⟨hmem, hlacks⟩ := Layout.mem_missingFields.1 hfield
      exact ⟨.field hentity hmem, hlacks⟩
    · obtain ⟨relation, hrelation, target, htarget, rfl⟩ := hkey
      obtain ⟨hmem, hlacks⟩ := Layout.mem_missingKeys.1 hrelation
      exact ⟨.foreignKey hentity hmem htarget, hlacks⟩
  · rintro ⟨hdeclares, hlacks⟩
    cases hdeclares with
    | field hentity hfield =>
      obtain ⟨part, hpart, hdefines⟩ := exists_of_mem_left hparts hentity
      have hmissing := Layout.mem_missingFields.2 ⟨hfield, hlacks⟩
      exact ⟨_, ⟨part, hpart, hdefines.mem_clauses.2 ⟨rfl, .inl ⟨_, hmissing, rfl⟩⟩⟩, rfl, rfl⟩
    | foreignKey hentity hrelation htarget =>
      obtain ⟨part, hpart, hdefines⟩ := exists_of_mem_left hparts hentity
      have hmissing := Layout.mem_missingKeys.2 ⟨hrelation, hlacks⟩
      exact ⟨_, ⟨part, hpart, hdefines.mem_clauses.2
        ⟨rfl, .inr ⟨_, hmissing, _, htarget, rfl⟩⟩⟩, rfl, rfl⟩

theorem EntityPart.mem_created (h : EntityPart layout schema catalog entity part) :
    table ∈ part.1.filterMap Definition.created? ↔
      layout.table entity.name = table ∧ catalog.hasTable table = false := by
  rw [h.created]
  by_cases hhas : catalog.hasTable (layout.table entity.name) = true
  · rw [if_pos hhas]
    refine ⟨fun hmem => absurd hmem List.not_mem_nil, ?_⟩
    rintro ⟨rfl, hlacks⟩
    exact absurd hhas (by simp [hlacks])
  · rw [if_neg hhas, List.mem_singleton]
    refine ⟨?_, fun hsame => hsame.1.symm⟩
    rintro rfl
    exact ⟨rfl, by simpa using hhas⟩

theorem created_iff_of_parts
    (hparts : List.Forall₂ (EntityPart layout schema catalog) schema.entities parts) :
    table ∈ (parts.flatMap Prod.fst ++ parts.flatMap Prod.snd).filterMap Definition.created? ↔
      table ∈ layout.tables schema ∧ catalog.hasTable table = false := by
  rw [List.mem_filterMap, Layout.mem_tables]
  constructor
  · rintro ⟨definition, hdefinition, hcreated⟩
    have htables := mem_tables_of_isTabular hparts hdefinition
      (Definition.isTabular_of_created? hcreated)
    obtain ⟨entity, hentity, part, hdefines, hmem⟩ := exists_part_of_mem_tables hparts htables
    obtain ⟨htable, hlacks⟩ := hdefines.mem_created.1 (List.mem_filterMap.2 ⟨_, hmem, hcreated⟩)
    exact ⟨⟨entity, hentity, htable⟩, hlacks⟩
  · rintro ⟨⟨entity, hentity, htable⟩, hlacks⟩
    obtain ⟨part, hpart, hdefines⟩ := exists_of_mem_left hparts hentity
    obtain ⟨definition, hmem, hcreated⟩ :=
      List.mem_filterMap.1 (hdefines.mem_created.2 ⟨htable, hlacks⟩)
    exact ⟨definition, List.mem_append_left _ (List.mem_flatMap.2 ⟨part, hpart, hmem⟩), hcreated⟩

end

/-- A plan that adds to a catalog what it lacks of a schema. -/
structure Reconciles (layout : Layout) (schema : Schema) (catalog : Catalog)
    (plan : List Definition) : Prop where
  columns : ∀ table column, (table, column) ∈ plan.flatMap Definition.columns ↔
    column ∈ layout.columns schema table ∧ catalog.hasColumn table column = false
  created : ∀ table, table ∈ plan.filterMap Definition.created? ↔
    table ∈ layout.tables schema ∧ catalog.hasTable table = false
  extended : ∀ table columns, .addColumns table columns ∈ plan → catalog.hasTable table = true

/-- A catalog that has every table and column of a schema, and perhaps more. -/
structure Catalog.Complete (catalog : Catalog) (layout : Layout) (schema : Schema) : Prop where
  tables : ∀ table ∈ layout.tables schema, catalog.hasTable table = true
  columns : ∀ table, ∀ column ∈ layout.columns schema table, catalog.hasColumn table column = true

section

variable {schema : Schema} {naming : Naming} {layout : Layout} {catalog : Catalog}

theorem reconciles_of_parts (hschema : schema.WellFormed)
    {parts : List (List Definition × List Definition)}
    (hparts : List.Forall₂ (EntityPart layout schema catalog) schema.entities parts) :
    Reconciles layout schema catalog (parts.flatMap Prod.fst ++ parts.flatMap Prod.snd) := by
  refine ⟨fun table column => ?_, fun table => created_iff_of_parts hparts, ?_⟩
  · rw [Layout.mem_columns_iff_declares hschema]
    constructor
    · intro hmem
      obtain ⟨definition, hdefinition, hcolumn⟩ := List.mem_flatMap.1 hmem
      obtain ⟨⟨_, clause⟩, hclause, hpair⟩ := List.mem_map.1 hcolumn
      obtain ⟨rfl, rfl⟩ := Prod.mk.inj hpair
      obtain ⟨hdeclares, hlacks⟩ := (declares_iff_of_parts hparts).1
        ⟨clause, List.mem_flatMap.2 ⟨definition, hdefinition, hclause⟩, rfl, rfl⟩
      exact ⟨⟨_, hdeclares⟩, hlacks⟩
    · rintro ⟨⟨type, hdeclares⟩, hlacks⟩
      obtain ⟨clause, hclause, rfl, -⟩ := (declares_iff_of_parts hparts).2 ⟨hdeclares, hlacks⟩
      obtain ⟨definition, hdefinition, hmem⟩ := List.mem_flatMap.1 hclause
      exact List.mem_flatMap.2 ⟨definition, hdefinition, List.mem_map.2 ⟨_, hmem, rfl⟩⟩
  · intro table columns hmem
    have htables := mem_tables_of_isTabular hparts hmem rfl
    obtain ⟨entity, -, part, hdefines, hdefinition⟩ := exists_part_of_mem_tables hparts htables
    exact hdefines.extended table columns hdefinition

theorem EntityPart.eq_nil {entity : Entity} {part : List Definition × List Definition}
    (h : EntityPart layout schema catalog entity part) (hentity : entity ∈ schema.entities)
    (hcomplete : catalog.Complete layout schema) : part = ([], []) := by
  have htable := hcomplete.tables _ (Layout.mem_tables.2 ⟨entity, hentity, rfl⟩)
  refine h.needed htable (List.eq_nil_iff_forall_not_mem.2 fun field hfield => ?_)
    (List.eq_nil_iff_forall_not_mem.2 fun relation hrelation => ?_)
  · obtain ⟨hmem, hlacks⟩ := Layout.mem_missingFields.1 hfield
    have hhas := hcomplete.columns _ _
      (Layout.mem_columns.2 ⟨entity, hentity, rfl, .inl ⟨field, hmem, rfl⟩⟩)
    simp [hhas] at hlacks
  · obtain ⟨hmem, hlacks⟩ := Layout.mem_missingKeys.1 hrelation
    have hhas := hcomplete.columns _ _
      (Layout.mem_columns.2 ⟨entity, hentity, rfl, .inr ⟨relation, hmem, rfl⟩⟩)
    simp [hhas] at hlacks

/-- Nothing is planned for a database that has everything, whatever else it has. -/
theorem migrationPlan_of_complete (hschema : schema.WellFormed) (h : naming.Follows schema layout)
    (hcomplete : catalog.Complete layout schema) :
    migrationPlan schema naming catalog = .ok [] := by
  obtain ⟨parts, hparts, hplan⟩ := migrationPlan_eq_parts hschema h catalog
  have hnone : ∀ part ∈ parts, part = ([], []) := by
    intro part hpart
    obtain ⟨entity, hentity, hdefines⟩ := exists_of_mem_right hparts hpart
    exact hdefines.eq_nil hentity hcomplete
  have hempty : parts.flatMap Prod.fst ++ parts.flatMap Prod.snd = [] := by
    rw [List.append_eq_nil_iff, List.flatMap_eq_nil_iff, List.flatMap_eq_nil_iff]
    exact ⟨fun part hpart => hnone part hpart ▸ rfl, fun part hpart => hnone part hpart ▸ rfl⟩
  rw [hplan, hempty]

theorem Reconciles.complete_after {describe : ColumnClause → CatalogColumn}
    (hdescribe : ∀ clause, (describe clause).name = clause.column) {plan : List Definition}
    (h : Reconciles layout schema catalog plan) :
    (catalog.after describe plan).Complete layout schema := by
  refine ⟨fun table htable => Catalog.hasTable_after ?_, fun table column hcolumn =>
    (Catalog.hasColumn_after hdescribe catalog plan table column).2 ?_⟩
  · cases hhas : catalog.hasTable table with
    | true => exact .inl rfl
    | false => exact .inr ((h.created table).2 ⟨htable, hhas⟩)
  · cases hhas : catalog.hasColumn table column with
    | true => exact .inr rfl
    | false => exact .inl ((h.columns table column).2 ⟨hcolumn, hhas⟩)

end

/-- Planning against any catalog succeeds and adds what the catalog lacks: columns, tables for those
that are not there, and columns to those that are. Against the catalog that the plan leaves, and
against every complete one, nothing is planned. -/
theorem migrationPlan_reconciles {entities : List Entity} {overrides : Assoc String}
    {schema : Schema} {naming : Naming} (hschema : Schema.ofEntities entities = .ok schema)
    (hnaming : Naming.ofSchema overrides schema = .ok naming) (catalog : Catalog) :
    ∃ plan, migrationPlan schema naming catalog = .ok plan ∧
      Reconciles (.ofOverrides overrides) schema catalog plan ∧
      (∀ describe : ColumnClause → CatalogColumn,
        (∀ clause, (describe clause).name = clause.column) →
          migrationPlan schema naming (catalog.after describe plan) = .ok []) ∧
      ∀ complete : Catalog, complete.Complete (.ofOverrides overrides) schema →
        migrationPlan schema naming complete = .ok [] := by
  obtain ⟨rfl, hwell⟩ := Schema.ofEntities_eq_ok.1 hschema
  have hfollows := Naming.follows_of_ofSchema hwell hnaming
  obtain ⟨parts, hparts, hplan⟩ := migrationPlan_eq_parts hwell hfollows catalog
  have hreconciles := reconciles_of_parts hwell hparts
  refine ⟨_, hplan, hreconciles, fun describe hdescribe => ?_, fun complete hcomplete =>
    migrationPlan_of_complete hwell hfollows hcomplete⟩
  exact migrationPlan_of_complete hwell hfollows (hreconciles.complete_after hdescribe)

/-- A library whose authors have keys only, beside a table of something else. -/
def Library.begun : Catalog :=
  ⟨[("author", [("id", { name := "id", dataType := "integer" })]), ("reader", [])]⟩

theorem migrationPlan_reconciles_begun :
    ∃ plan, migrationPlan Library.schema Library.naming Library.begun = .ok plan ∧
      ("author", "full_name") ∈ plan.flatMap Definition.columns ∧
      ("author", "id") ∉ plan.flatMap Definition.columns ∧
      plan.filterMap Definition.created? = ["book"] ∧
      migrationPlan Library.schema Library.naming (Library.begun.after
        (fun clause => { name := clause.column, dataType := clause.type.text }) plan) = .ok [] := by
  obtain ⟨plan, hplan, hreconciles, hagain, -⟩ := migrationPlan_reconciles
    Library.ofEntities_entities Library.ofSchema_schema Library.begun
  have hcreated : plan.filterMap Definition.created? = ["book"] := by
    obtain rfl := Except.ok.inj ((show migrationPlan Library.schema Library.naming Library.begun =
      .ok _ from rfl).symm.trans hplan)
    rfl
  refine ⟨plan, hplan, (hreconciles.columns _ _).2 ⟨by decide +kernel, by decide +kernel⟩, ?_,
    hcreated, hagain _ fun _ => rfl⟩
  intro hmem
  exact absurd ((hreconciles.columns _ _).1 hmem).2 (by decide +kernel)

end EntitySql
