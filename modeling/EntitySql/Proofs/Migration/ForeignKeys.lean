import EntitySql.Proofs.Migration.Reconcile

/-!
# Foreign keys of a plan

A plan adds a foreign key when both ends of it are there.

* `KeysFollow` says which foreign keys a plan adds, and what stands before and after them.
* `missing_of_parts` says which joins become foreign keys; `hasOrGainsTable_of_parts` and
  `hasOrGainsColumn_of_parts` say that what they refer to is there before any of them.
* `migrationPlan_keysFollow` holds for any order of entities, and for entities that refer to each
  other or to themselves.
-/

namespace EntitySql

set_option autoImplicit false

/-- The table is in the catalog, or the definitions create it. -/
def Catalog.HasOrGainsTable (catalog : Catalog) (definitions : List Definition) (table : String) :
    Prop :=
  catalog.hasTable table = true ∨ table ∈ definitions.filterMap Definition.created?

/-- The column is in the catalog, or the definitions add it. -/
def Catalog.HasOrGainsColumn (catalog : Catalog) (definitions : List Definition)
    (table column : String) : Prop :=
  catalog.hasColumn table column = true ∨ (table, column) ∈ definitions.flatMap Definition.columns

/-- A plan that adds a foreign key for each many-to-one whose column the catalog lacks, after all
tables and columns. When a foreign key is added, its own column has been added before it, and what it
refers to is in the catalog or has been added before it. -/
structure KeysFollow (layout : Layout) (schema : Schema) (catalog : Catalog)
    (plan : List Definition) : Prop where
  keys : plan.flatMap Definition.foreignKeys = schema.entities.flatMap fun entity =>
    (layout.missingKeys catalog entity).map fun relation =>
      (layout.table entity.name, layout.link entity.name relation)
  last : ∀ before after table links, plan = before ++ .addForeignKeys table links :: after →
    ∀ definition ∈ after, definition.isTabular = false
  referencing : ∀ before after table links, plan = before ++ .addForeignKeys table links :: after →
    ∀ link ∈ links, link.fromTable = table ∧ catalog.HasOrGainsTable before table ∧
      (table, link.fromColumn) ∈ before.flatMap Definition.columns
  referenced : ∀ before after table links, plan = before ++ .addForeignKeys table links :: after →
    ∀ link ∈ links, catalog.HasOrGainsTable before link.toTable ∧
      catalog.HasOrGainsColumn before link.toTable link.toColumn

/-- A foreign key of a table, between declared columns, whose own column the catalog lacks. -/
structure Link.Missing (layout : Layout) (schema : Schema) (catalog : Catalog) (table : String)
    (link : Link) : Prop where
  fromTable : link.fromTable = table
  tables : table ∈ layout.tables schema
  fromColumn : link.fromColumn ∈ layout.columns schema table
  lacks : catalog.hasColumn table link.fromColumn = false
  toTable : link.toTable ∈ layout.tables schema
  toColumn : link.toColumn ∈ layout.columns schema link.toTable

/-- Where a list of foreign keys follows tables and columns, a foreign key follows them all. -/
theorem tabular_before_key {tables keys before after : List Definition} {definition : Definition}
    (htables : ∀ other ∈ tables, other.isTabular = true) (hkey : definition.isTabular = false)
    (h : tables ++ keys = before ++ definition :: after) :
    ∃ rest, before = tables ++ rest ∧ keys = rest ++ definition :: after := by
  rcases List.append_eq_append_iff.1 h with ⟨rest, hbefore, hkeys⟩ | ⟨rest, hsplit, hrest⟩
  · exact ⟨rest, hbefore, hkeys⟩
  · cases rest with
    | nil =>
      rw [List.append_nil] at hsplit
      exact ⟨[], by rw [hsplit, List.append_nil], hrest.symm⟩
    | cons first rest =>
      obtain ⟨rfl, -⟩ := List.cons.inj hrest
      have htabular := htables definition (hsplit ▸ List.mem_append_right _ (List.mem_cons_self ..))
      rw [hkey] at htabular
      cases htabular

section

variable {schema : Schema} {layout : Layout} {catalog : Catalog} {entity : Entity}
  {parts : List (List Definition × List Definition)}

theorem foreignKeys_of_parts {entities : List Entity}
    (hparts : List.Forall₂ (EntityPart layout schema catalog) entities parts) :
    (parts.flatMap Prod.fst ++ parts.flatMap Prod.snd).flatMap Definition.foreignKeys =
      entities.flatMap fun entity => (layout.missingKeys catalog entity).map fun relation =>
        (layout.table entity.name, layout.link entity.name relation) := by
  have htables : (parts.flatMap Prod.fst).flatMap Definition.foreignKeys = [] :=
    List.flatMap_eq_nil_iff.2 fun definition hmem =>
      Definition.foreignKeys_of_isTabular (isTabular_of_parts hparts definition hmem)
  have hkeys : (parts.flatMap Prod.snd).flatMap Definition.foreignKeys =
      entities.flatMap fun entity => (layout.missingKeys catalog entity).map fun relation =>
        (layout.table entity.name, layout.link entity.name relation) := by
    clear htables
    induction hparts with
    | nil => rfl
    | cons hentity _ ih => rw [List.flatMap_cons, List.flatMap_append, hentity.keys, ih,
        List.flatMap_cons]
  rw [List.flatMap_append, htables, hkeys, List.nil_append]

/-! ## What stands before the foreign keys -/

/-- The tables of the schema are there before any foreign key is added. -/
theorem hasOrGainsTable_of_parts (hschema : schema.WellFormed)
    (hparts : List.Forall₂ (EntityPart layout schema catalog) schema.entities parts)
    {table : String} (htable : table ∈ layout.tables schema) (rest : List Definition) :
    catalog.HasOrGainsTable (parts.flatMap Prod.fst ++ rest) table := by
  cases hhas : catalog.hasTable table with
  | true => exact .inl hhas
  | false =>
    have hcreated := ((reconciles_of_parts hschema hparts).created table).2 ⟨htable, hhas⟩
    obtain ⟨definition, hmem, hname⟩ := List.mem_filterMap.1 hcreated
    have htables := mem_tables_of_isTabular hparts hmem (Definition.isTabular_of_created? hname)
    exact .inr (List.mem_filterMap.2 ⟨definition, List.mem_append_left _ htables, hname⟩)

/-- The columns that the catalog lacks are there before any foreign key is added. -/
theorem mem_columns_of_parts (hschema : schema.WellFormed)
    (hparts : List.Forall₂ (EntityPart layout schema catalog) schema.entities parts)
    {table column : String} (hcolumn : column ∈ layout.columns schema table)
    (hlacks : catalog.hasColumn table column = false) (rest : List Definition) :
    (table, column) ∈ (parts.flatMap Prod.fst ++ rest).flatMap Definition.columns := by
  have hadded := ((reconciles_of_parts hschema hparts).columns table column).2 ⟨hcolumn, hlacks⟩
  obtain ⟨definition, hmem, hadds⟩ := List.mem_flatMap.1 hadded
  obtain ⟨clause, hclause, -⟩ := List.mem_map.1 hadds
  have htables := mem_tables_of_isTabular hparts hmem (Definition.isTabular_of_mem_clauses hclause)
  exact List.mem_flatMap.2 ⟨definition, List.mem_append_left _ htables, hadds⟩

theorem hasOrGainsColumn_of_parts (hschema : schema.WellFormed)
    (hparts : List.Forall₂ (EntityPart layout schema catalog) schema.entities parts)
    {table column : String} (hcolumn : column ∈ layout.columns schema table)
    (rest : List Definition) :
    catalog.HasOrGainsColumn (parts.flatMap Prod.fst ++ rest) table column := by
  cases hhas : catalog.hasColumn table column with
  | true => exact .inl hhas
  | false => exact .inr (mem_columns_of_parts hschema hparts hcolumn hhas rest)

/-- A foreign key of a plan is that of a many-to-one whose column is missing. -/
theorem missing_of_parts (hschema : schema.WellFormed)
    (hparts : List.Forall₂ (EntityPart layout schema catalog) schema.entities parts)
    {table : String} {links : List Link}
    (hmem : .addForeignKeys table links ∈ parts.flatMap Prod.fst ++ parts.flatMap Prod.snd)
    {link : Link} (hlink : link ∈ links) : link.Missing layout schema catalog table := by
  have hpair : (table, link) ∈
      (parts.flatMap Prod.fst ++ parts.flatMap Prod.snd).flatMap Definition.foreignKeys :=
    List.mem_flatMap.2 ⟨_, hmem, List.mem_map.2 ⟨link, hlink, rfl⟩⟩
  rw [foreignKeys_of_parts hparts] at hpair
  obtain ⟨entity, hentity, hpair⟩ := List.mem_flatMap.1 hpair
  obtain ⟨relation, hrelation, heq⟩ := List.mem_map.1 hpair
  obtain ⟨rfl, rfl⟩ := Prod.mk.inj heq
  obtain ⟨hdeclared, hlacks⟩ := Layout.mem_missingKeys.1 hrelation
  obtain ⟨target, htarget, hname, field, hfield, hfieldName, -⟩ :=
    hschema.manyToOne_target hentity hdeclared
  have hcolumn : layout.column target.name field.name ∈
      layout.columns schema (layout.table target.name) :=
    Layout.mem_columns.2 ⟨target, htarget, rfl, .inl ⟨field, hfield, rfl⟩⟩
  rw [hname, hfieldName] at hcolumn
  exact {
    fromTable := rfl
    tables := Layout.mem_tables.2 ⟨entity, hentity, rfl⟩
    fromColumn := Layout.mem_columns.2 ⟨entity, hentity, rfl, .inr ⟨relation, hdeclared, rfl⟩⟩
    lacks := hlacks
    toTable := Layout.mem_tables.2 ⟨target, htarget, by rw [hname]; rfl⟩
    toColumn := hcolumn }

theorem keysFollow_of_parts (hschema : schema.WellFormed)
    (hparts : List.Forall₂ (EntityPart layout schema catalog) schema.entities parts) :
    KeysFollow layout schema catalog (parts.flatMap Prod.fst ++ parts.flatMap Prod.snd) := by
  have hsplit : ∀ before after table links,
      parts.flatMap Prod.fst ++ parts.flatMap Prod.snd =
        before ++ .addForeignKeys table links :: after →
          ∃ rest, before = parts.flatMap Prod.fst ++ rest ∧
            parts.flatMap Prod.snd = rest ++ .addForeignKeys table links :: after :=
    fun before after table links h => tabular_before_key (isTabular_of_parts hparts) rfl h
  refine ⟨foreignKeys_of_parts hparts, ?_, ?_, ?_⟩
  · intro before after table links h definition hmem
    obtain ⟨rest, -, hkeys⟩ := hsplit before after table links h
    refine not_isTabular_of_parts hparts definition ?_
    rw [hkeys]
    exact List.mem_append_right _ (List.mem_cons_of_mem _ hmem)
  · intro before after table links h link hlink
    have hmissing := missing_of_parts hschema hparts
      (h ▸ List.mem_append_right before (List.mem_cons_self ..)) hlink
    obtain ⟨rest, rfl, -⟩ := hsplit before after table links h
    exact ⟨hmissing.fromTable, hasOrGainsTable_of_parts hschema hparts hmissing.tables rest,
      mem_columns_of_parts hschema hparts hmissing.fromColumn hmissing.lacks rest⟩
  · intro before after table links h link hlink
    have hmissing := missing_of_parts hschema hparts
      (h ▸ List.mem_append_right before (List.mem_cons_self ..)) hlink
    obtain ⟨rest, rfl, -⟩ := hsplit before after table links h
    exact ⟨hasOrGainsTable_of_parts hschema hparts hmissing.toTable rest,
      hasOrGainsColumn_of_parts hschema hparts hmissing.toColumn rest⟩

end

theorem migrationPlan_keysFollow {entities : List Entity} {overrides : Assoc String}
    {schema : Schema} {naming : Naming} (hschema : Schema.ofEntities entities = .ok schema)
    (hnaming : Naming.ofSchema overrides schema = .ok naming) (catalog : Catalog) :
    ∃ plan, migrationPlan schema naming catalog = .ok plan ∧
      KeysFollow (.ofOverrides overrides) schema catalog plan := by
  obtain ⟨rfl, hwell⟩ := Schema.ofEntities_eq_ok.1 hschema
  have hfollows := Naming.follows_of_ofSchema hwell hnaming
  obtain ⟨parts, hparts, hplan⟩ := migrationPlan_eq_parts hwell hfollows catalog
  exact ⟨_, hplan, keysFollow_of_parts hwell hparts⟩

namespace Town

/-- People who refer to each other and to cities, which refer back to people. -/
def entities : List Entity := [
  { name := "Person"
    fields := [⟨"id", .integer, {}, { primary := true }⟩]
    manyToOne := [⟨"partner", "Person", "id", {}⟩, ⟨"home", "City", "code", {}⟩] },
  { name := "City"
    fields := [⟨"code", .string, {}, { primary := true }⟩]
    manyToOne := [⟨"mayor", "Person", "id", {}⟩] }]

def naming : Naming := ⟨[
  ("Person", {
    table := "person"
    columns := [("id", "id")]
    links := [("partner", ⟨"person", "partner_id", "person", "id"⟩),
      ("home", ⟨"person", "home_code", "city", "code"⟩)] }),
  ("City", {
    table := "city"
    columns := [("code", "code")]
    links := [("mayor", ⟨"city", "mayor_id", "person", "id"⟩)] })]⟩

end Town

theorem migrationPlan_keysFollow_town :
    ∃ plan, migrationPlan ⟨Town.entities⟩ Town.naming
        ⟨[("person", [("id", { name := "id", dataType := "integer" })])]⟩ = .ok plan ∧
      plan.flatMap Definition.foreignKeys =
        [("person", ⟨"person", "partner_id", "person", "id"⟩),
          ("person", ⟨"person", "home_code", "city", "code"⟩),
          ("city", ⟨"city", "mayor_id", "person", "id"⟩)] ∧
      ∀ before after table links, plan = before ++ .addForeignKeys table links :: after →
        ∀ link ∈ links, (table, link.fromColumn) ∈ before.flatMap Definition.columns := by
  have hschema : Schema.ofEntities Town.entities = .ok ⟨Town.entities⟩ := by decide +kernel
  have hnaming : Naming.ofSchema [] ⟨Town.entities⟩ = .ok Town.naming := by decide +kernel
  obtain ⟨plan, hplan, hkeys⟩ := migrationPlan_keysFollow hschema hnaming
    ⟨[("person", [("id", { name := "id", dataType := "integer" })])]⟩
  refine ⟨plan, hplan, hkeys.keys.trans (by decide +kernel), ?_⟩
  intro before after table links h link hlink
  exact (hkeys.referencing before after table links h link hlink).2.2

end EntitySql
