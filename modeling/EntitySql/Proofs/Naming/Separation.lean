import EntitySql.Proofs.Migration.Plan
import EntitySql.Proofs.Naming.Spelling
import EntitySql.Proofs.Operation.Plan
import EntitySql.Proofs.Relational.Stored

/-!
# Names that keep declarations apart

When what is declared under different names is stored under different names. Declared names are compared
as they are written, physical names are made of their words in lower case, so that distinct names may
meet in one table or one column.

* `Naming.Separates` says that tables and columns have names of their own, that no table is created with
  a column twice, and that no insert lists a column twice.
* `SpelledApart` is the condition on the declared names: their words differ, those of a foreign key being
  the words of the relation followed by those of the field that it refers to.
* `Naming.separates_iff_spelledApart` says that the one holds just if the other does, and
  `Naming.not_separates_writerId` is an entity where both fail.
-/

namespace EntitySql

set_option autoImplicit false

open SnakeCase

/-! ## Physical columns -/

/-- The columns of an entity's table: those of its fields, then those of its many-to-ones. -/
def Naming.physicalColumns (naming : Naming) (entity : Entity) : Result (List String) := do
  let columns ← entity.fields.mapM fun field => naming.column entity.name field.name
  let links ← entity.manyToOne.mapM fun relation => naming.link entity.name relation.name
  return columns ++ links.map Link.fromColumn

def Layout.physicalColumns (layout : Layout) (entity : Entity) : List String :=
  entity.fields.map (fun field => layout.column entity.name field.name) ++
    entity.manyToOne.map (layout.foreignKey entity.name)

section

variable {schema : Schema} {naming : Naming} {layout : Layout} {entity : Entity}

theorem physicalColumns_eq_ok (h : naming.Follows schema layout) (hentity : entity ∈ schema.entities) :
    naming.physicalColumns entity = .ok (layout.physicalColumns entity) := by
  have hcolumns := mapM_eq_map (h.column entity hentity)
  have hlinks := mapM_eq_map (h.manyToOne entity hentity)
  refine bind_eq_ok.2 ⟨_, hcolumns, bind_eq_ok.2 ⟨_, hlinks, ?_⟩⟩
  rw [List.map_map]
  rfl

/-! ## Created tables -/

/-- A table is created with columns of one entity, each at most once. -/
theorem sublist_of_createTable {catalog : Catalog} {part : List Definition × List Definition}
    (h : EntityPart layout schema catalog entity part) {table : String} {clauses : List ColumnClause}
    (hmem : .createTable table clauses ∈ part.1) :
    (clauses.map ColumnClause.column).Sublist (layout.physicalColumns entity) := by
  obtain ⟨pairs, hadds, hclauses⟩ := h.added
  have hkeys : pairs.map (fun pair => pair.1.column) =
      (layout.missingKeys catalog entity).map (layout.foreignKey entity.name) := by
    have hsame : List.Forall₂ (fun (pair : ColumnClause × Link) relation =>
        pair.1.column = layout.foreignKey entity.name relation) pairs
          (layout.missingKeys catalog entity) := by
      refine hadds.flip.imp fun pair relation hadd => ?_
      obtain ⟨target, -, hclause⟩ := hadd.clause
      rw [hclause]
    rw [← List.forall₂_eq_eq_eq, List.forall₂_map_left_iff, List.forall₂_map_right_iff]
    exact hsame
  have hpart : (clauses.map ColumnClause.column).Sublist
      ((part.1.flatMap Definition.clauses).map fun clause => clause.2.column) := by
    have hdefinition : (Definition.createTable table clauses).clauses.Sublist
        (part.1.flatMap Definition.clauses) := by
      rw [List.flatMap]
      exact List.sublist_flatten_of_mem (List.mem_map_of_mem hmem)
    have hcolumns := hdefinition.map fun clause => clause.2.column
    rw [Definition.clauses, List.map_map] at hcolumns
    exact hcolumns
  refine hpart.trans ?_
  rw [hclauses, List.map_map, List.map_append, List.map_map, List.map_map]
  refine List.Sublist.append ?_ ?_
  · exact List.Sublist.map _ List.filter_sublist
  · change (pairs.map fun pair => pair.1.column).Sublist _
    rw [hkeys]
    exact List.Sublist.map _ List.filter_sublist

theorem nodup_of_createTable (hschema : schema.WellFormed) (h : naming.Follows schema layout)
    (hnodup : ∀ entity ∈ schema.entities, (layout.physicalColumns entity).Nodup) {catalog : Catalog}
    {definitions : List Definition} (hplan : migrationPlan schema naming catalog = .ok definitions)
    {table : String} {clauses : List ColumnClause}
    (hmem : .createTable table clauses ∈ definitions) :
    (clauses.map ColumnClause.column).Nodup := by
  obtain ⟨parts, hparts, hplanned⟩ := migrationPlan_eq_parts hschema h catalog
  obtain rfl := Except.ok.inj (hplanned.symm.trans hplan)
  have htables := mem_tables_of_isTabular hparts hmem rfl
  obtain ⟨entity, hentity, part, hpart, hdefinition⟩ := exists_part_of_mem_tables hparts htables
  exact (hnodup entity hentity).sublist (sublist_of_createTable hpart hdefinition)

/-! ## Inserted rows -/

/-- In columns without repetition, a column is written under one name. -/
theorem Layout.Assigns.name_eq (hnodup : (layout.physicalColumns entity).Nodup)
    {name other column : String} {value second : Expr}
    (h : layout.Assigns schema entity name (column, value))
    (h' : layout.Assigns schema entity other (column, second)) : name = other := by
  obtain ⟨hfields, hkeys, hdisjoint⟩ := List.nodup_append.1 hnodup
  have hcases : ∀ {key : String} {value : Expr}, layout.Assigns schema entity key (column, value) →
      (∃ field ∈ entity.fields, field.name = key ∧ layout.column entity.name field.name = column) ∨
        ∃ relation ∈ entity.manyToOne, relation.name = key ∧
          layout.foreignKey entity.name relation = column := by
    intro key value hassigns
    cases hassigns with
    | field hfield hname => exact .inl ⟨_, hfield, hname, rfl⟩
    | manyToOne hrelation hname htarget => exact .inr ⟨_, hrelation, hname, rfl⟩
  rcases hcases h with ⟨field, hfield, rfl, hcolumn⟩ | ⟨relation, hrelation, rfl, hcolumn⟩
  · rcases hcases h' with ⟨second, hsecond, rfl, hsame⟩ | ⟨second, hsecond, rfl, hsame⟩
    · rw [List.inj_on_of_nodup_map hfields hfield hsecond (hcolumn.trans hsame.symm)]
    · exact absurd (hcolumn.trans hsame.symm)
        (hdisjoint _ (List.mem_map_of_mem hfield) _ (List.mem_map_of_mem hsecond))
  · rcases hcases h' with ⟨second, hsecond, rfl, hsame⟩ | ⟨second, hsecond, rfl, hsame⟩
    · exact absurd (hsame.trans hcolumn.symm)
        (hdisjoint _ (List.mem_map_of_mem hsecond) _ (List.mem_map_of_mem hrelation))
    · rw [List.inj_on_of_nodup_map hkeys hrelation hsecond (hcolumn.trans hsame.symm)]

/-- Every record after the first is written to the columns given before. -/
theorem columns_of_insertRows {owner : String} {expected : List String} {records : List BoundRecord}
    {out : List String × List (List Expr)}
    (h : insertRows schema naming owner (some expected) records = .ok out) : out.1 = expected := by
  induction records generalizing expected out with
  | nil =>
    obtain rfl := Except.ok.inj h
    rfl
  | cons record rest ih =>
    obtain ⟨pairs, all, rows, -, hsame, hrest, rfl⟩ := Record.insertRows_cons_eq_ok.1 h
    have hall : (all, rows).1 = pairs.map Prod.fst := ih hrest
    rw [hsame expected rfl]
    exact hall

/-- What is written for distinct keys is written to distinct columns. -/
theorem nodup_of_assignments (hschema : schema.WellFormed) (h : naming.Follows schema layout)
    (hnodup : ∀ entity ∈ schema.entities, (layout.physicalColumns entity).Nodup) {owner : String}
    {record : BoundRecord} {pairs : List Assignment} (hkeys : (record.map Prod.fst).Nodup)
    (hpairs : assignments schema naming owner record = .ok pairs) :
    (pairs.map Prod.fst).Nodup := by
  have hwritten := mapM_eq_ok.1 hpairs
  cases hwritten with
  | nil => exact List.nodup_nil
  | @cons entry pair record pairs hpair hrest =>
    obtain ⟨found, hresolve, -⟩ := bind_eq_ok.1 hpair
    obtain ⟨entity, howner, -⟩ := bind_eq_ok.1 hresolve
    obtain ⟨hentity, rfl⟩ := Schema.entity?_eq_some (Schema.entity_eq_ok.1 howner)
    have hassigns : List.Forall₂ (fun key column =>
        ∃ value, layout.Assigns schema entity key (column, value))
          ((entry :: record).map Prod.fst) ((pair :: pairs).map Prod.fst) := by
      rw [List.forall₂_map_left_iff, List.forall₂_map_right_iff]
      exact (mapM_eq_ok.1 hpairs).imp fun entry pair hpair =>
        ⟨pair.2, assigns_of_assignment hschema h hentity hpair⟩
    refine nodup_of_forall₂ hassigns ?_ hkeys
    rintro name other column ⟨value, hname⟩ ⟨second, hother⟩
    exact hname.name_eq (hnodup entity hentity) hother

theorem Record.keys_numbered (start : Nat) (names : List String) :
    (Record.numbered start names).map Prod.fst = names := by
  induction names generalizing start with
  | nil => rfl
  | cons name rest ih => rw [numbered, List.map_cons, ih]

/-- An insert lists the columns of its first record. -/
theorem nodup_of_planInsert (hschema : schema.WellFormed) (h : naming.Follows schema layout)
    (hnodup : ∀ entity ∈ schema.entities, (layout.physicalColumns entity).Nodup) {owner : String}
    {data : List Record} (hkeys : ∀ record ∈ data, (record.map Prod.fst).Nodup) {insert : Insert}
    {params : List Json}
    (hplan : Operation.planInsert schema naming owner data = .ok (.count ⟨.insert insert, params⟩)) :
    insert.columns.Nodup := by
  rcases Operation.planInsert_eq_ok.1 hplan with ⟨-, hskip⟩ |
    ⟨hne, records, written, s', hrecords, hwritten, hsame⟩
  · cases hskip
  cases hsame
  obtain ⟨columns, rows, table, hrows, -, hchecked⟩ := compileInsert_eq_ok.1 hwritten
  obtain rfl := Insert.checked_eq_ok hchecked
  obtain ⟨-, hnumbered⟩ := Record.insertRows_bindAll hrecords hrows
  obtain ⟨first, rest, rfl⟩ := List.exists_cons_of_ne_nil hne
  rw [List.map_cons, Record.numberedAll] at hnumbered
  obtain ⟨pairs, all, others, hpairs, -, hrest, hout⟩ := Record.insertRows_cons_eq_ok.1 hnumbered
  obtain rfl : columns = pairs.map Prod.fst :=
    (Prod.mk.inj hout).1.trans (columns_of_insertRows hrest)
  refine nodup_of_assignments hschema h hnodup ?_ hpairs
  rw [Record.keys_numbered]
  exact hkeys first (List.mem_cons_self ..)

end

/-! ## Names that keep declarations apart -/

/-- A naming that stores apart what is declared apart: every entity has a table of its own, and every
field and many-to-one of an entity a column of its own. -/
structure Naming.Separates (naming : Naming) (schema : Schema) : Prop where
  tables : ∃ tables, schema.entities.mapM (fun entity => naming.table entity.name) = .ok tables ∧
    tables.Nodup ∧ "" ∉ tables
  columns : ∀ entity ∈ schema.entities, ∃ columns, naming.physicalColumns entity = .ok columns ∧
    columns.Nodup ∧ "" ∉ columns
  /-- No table is created with a column twice, whatever the database has already. -/
  created : ∀ catalog definitions, migrationPlan schema naming catalog = .ok definitions →
    ∀ table clauses, .createTable table clauses ∈ definitions →
      (clauses.map ColumnClause.column).Nodup
  /-- No insert lists a column twice for records that have every key once. -/
  inserted : ∀ entity data, (∀ record ∈ data, (record.map Prod.fst).Nodup) → ∀ insert params,
    Operation.planInsert schema naming entity data = .ok (.count ⟨.insert insert, params⟩) →
      insert.columns.Nodup

/-- The words of the columns of an entity's table. -/
def Entity.columnSegments (entity : Entity) : List (List (List Char)) :=
  entity.fields.map (fun field => segments field.name) ++
    entity.manyToOne.map fun relation => segments relation.name ++ segments relation.targetField

/-- Declared names whose words tell them apart. -/
structure SpelledApart (entities : List Entity) : Prop where
  spelled : ∀ entity ∈ entities, Spells entity.name ∧ ∀ field ∈ entity.fields, Spells field.name
  tables : (entities.map fun entity => segments entity.name).Nodup
  columns : ∀ entity ∈ entities, entity.columnSegments.Nodup

theorem segmented_columnSegments (entity : Entity) :
    ∀ segments ∈ entity.columnSegments, Segmented segments := by
  unfold Entity.columnSegments
  refine List.forall_mem_append.2 ⟨fun segments hmem => ?_, fun segments hmem => ?_⟩
  · obtain ⟨field, -, rfl⟩ := List.mem_map.1 hmem
    exact segmented_segments field.name
  · obtain ⟨relation, -, rfl⟩ := List.mem_map.1 hmem
    exact (segmented_segments _).append (segmented_segments _)

/-- Without overrides, a column is named by the words that are declared for it. -/
theorem physicalColumns_ofOverrides_nil (entity : Entity) :
    (Layout.ofOverrides []).physicalColumns entity = entity.columnSegments.map ofSegments := by
  have hfield : ∀ field : Field, (Layout.ofOverrides []).column entity.name field.name =
      ofSegments (segments field.name) := fun field => snakeCase_eq_ofSegments field.name
  have hkey : ∀ relation : ManyToOne, (Layout.ofOverrides []).foreignKey entity.name relation =
      ofSegments (segments relation.name ++ segments relation.targetField) := by
    intro relation
    rw [ofSegments_append (segmented_segments _) (segmented_segments _), ← snakeCase_eq_ofSegments,
      ← snakeCase_eq_ofSegments]
    rfl
  rw [Layout.physicalColumns, Entity.columnSegments, List.map_append, List.map_map, List.map_map]
  exact congrArg₂ (· ++ ·) (List.map_congr_left fun field _ => hfield field)
    (List.map_congr_left fun relation _ => hkey relation)

theorem empty_notMem_physicalColumns {entity : Entity} :
    "" ∉ (Layout.ofOverrides []).physicalColumns entity ↔
      ∀ field ∈ entity.fields, Spells field.name := by
  have hkey : ∀ relation : ManyToOne,
      ¬ (Layout.ofOverrides []).foreignKey entity.name relation = "" := by
    intro relation hempty
    have hlength := congrArg String.length hempty
    simp [Layout.ofOverrides, Assoc.get?] at hlength
  have hfield : ∀ field : Field, (Layout.ofOverrides []).column entity.name field.name = "" ↔
      ¬ Spells field.name := fun field => snakeCase_eq_empty
  simp [Layout.physicalColumns, hkey, hfield]

theorem nodup_physicalColumns {entity : Entity} :
    ((Layout.ofOverrides []).physicalColumns entity).Nodup ↔ entity.columnSegments.Nodup := by
  rw [physicalColumns_ofOverrides_nil]
  exact nodup_map_ofSegments (segmented_columnSegments entity)

theorem nodup_tables {entities : List Entity} :
    (entities.map fun entity => snakeCase entity.name).Nodup ↔
      (entities.map fun entity => segments entity.name).Nodup := by
  have hsegmented : ∀ names ∈ entities.map (fun entity => segments entity.name), Segmented names := by
    intro names hmem
    obtain ⟨entity, -, rfl⟩ := List.mem_map.1 hmem
    exact segmented_segments entity.name
  have htables : (entities.map fun entity => snakeCase entity.name) =
      (entities.map fun entity => segments entity.name).map ofSegments := by
    rw [List.map_map]
    exact List.map_congr_left fun entity _ => snakeCase_eq_ofSegments entity.name
  rw [htables, nodup_map_ofSegments hsegmented]

theorem empty_notMem_tables {entities : List Entity} :
    "" ∉ entities.map (fun entity => snakeCase entity.name) ↔
      ∀ entity ∈ entities, Spells entity.name := by
  simp [snakeCase_eq_empty]

/-- The derived names of a checked schema keep its declarations apart just if the words of the declared
names do. -/
theorem Naming.separates_iff_spelledApart {entities : List Entity} {schema : Schema}
    {naming : Naming} (hentities : Schema.ofEntities entities = .ok schema)
    (hnaming : Naming.ofSchema [] schema = .ok naming) :
    naming.Separates schema ↔ SpelledApart entities := by
  obtain ⟨rfl, hschema⟩ := Schema.ofEntities_eq_ok.1 hentities
  have hfollows := Naming.follows_of_ofSchema hschema hnaming
  have htables : entities.mapM (fun entity => naming.table entity.name) =
      .ok (entities.map fun entity => snakeCase entity.name) := mapM_eq_map hfollows.table
  constructor
  · rintro ⟨⟨tables, hnamed, hnodup, hnonempty⟩, hcolumns, -, -⟩
    obtain rfl := Except.ok.inj (htables.symm.trans hnamed)
    have hlayout : ∀ entity ∈ entities, ((Layout.ofOverrides []).physicalColumns entity).Nodup ∧
        "" ∉ (Layout.ofOverrides []).physicalColumns entity := by
      intro entity hentity
      obtain ⟨columns, hnamed, hapart⟩ := hcolumns entity hentity
      obtain rfl := Except.ok.inj ((physicalColumns_eq_ok hfollows hentity).symm.trans hnamed)
      exact hapart
    have hspelled := empty_notMem_tables.1 hnonempty
    exact ⟨fun entity hentity => ⟨hspelled entity hentity,
        empty_notMem_physicalColumns.1 (hlayout entity hentity).2⟩,
      nodup_tables.1 hnodup,
      fun entity hentity => nodup_physicalColumns.1 (hlayout entity hentity).1⟩
  · intro h
    have hnodup : ∀ entity ∈ entities, ((Layout.ofOverrides []).physicalColumns entity).Nodup :=
      fun entity hentity => nodup_physicalColumns.2 (h.columns entity hentity)
    have hspelled := empty_notMem_tables.2 fun entity hentity => (h.spelled entity hentity).1
    exact {
      tables := ⟨_, htables, nodup_tables.2 h.tables, hspelled⟩
      columns := fun entity hentity => ⟨_, physicalColumns_eq_ok hfollows hentity,
        hnodup entity hentity, empty_notMem_physicalColumns.2 (h.spelled entity hentity).2⟩
      created := fun catalog definitions hplan table clauses hmem =>
        nodup_of_createTable hschema hfollows hnodup hplan hmem
      inserted := fun entity data hkeys insert params hplan =>
        nodup_of_planInsert hschema hfollows hnodup hkeys hplan }

/-- Authors and their books are kept apart. -/
theorem Naming.separates_iff_spelledApart_library :
    Schema.ofEntities Library.entities = .ok Library.schema ∧
      Naming.ofSchema [] Library.schema = .ok Library.naming ∧
        Library.naming.Separates Library.schema := by
  refine ⟨Library.ofEntities_entities, Library.ofSchema_schema, ?_⟩
  refine (Naming.separates_iff_spelledApart Library.ofEntities_entities
    Library.ofSchema_schema).2 ⟨?_, ?_, ?_⟩
  · decide +kernel
  · decide +kernel
  · decide +kernel

/-- Books with a field that is called like the column of their author. -/
def Library.withWriterId : List Entity := [
  { name := "Author", fields := [⟨"id", .integer, {}, { primary := true }⟩] },
  { name := "Book"
    fields := [⟨"id", .integer, {}, { primary := true }⟩, ⟨"writerId", .integer, {}, {}⟩]
    manyToOne := [⟨"writer", "Author", "id", {}⟩] }]

def Library.writerIdNaming : Naming := ⟨[
  ("Author", { table := "author", columns := [("id", "id")] }),
  ("Book", {
    table := "book"
    columns := [("id", "id"), ("writerId", "writer_id")]
    links := [("writer", writerLink)] })]⟩

/-- The clauses with which the table of these books is created. -/
def Library.writerIdClauses : List ColumnClause := [
  ⟨"id", ⟨"integer", [], false⟩, { primary := true }⟩, ⟨"writer_id", ⟨"integer", [], false⟩, {}⟩,
  ⟨"writer_id", ⟨"integer", [], false⟩, {}⟩]

/-- The field and the relation are stored in one column, with which the table is created twice. -/
theorem Naming.not_separates_writerId : ∃ schema naming definitions clauses,
    Schema.ofEntities Library.withWriterId = .ok schema ∧ Naming.ofSchema [] schema = .ok naming ∧
      migrationPlan schema naming {} = .ok definitions ∧
        .createTable "book" clauses ∈ definitions ∧
          clauses.map ColumnClause.column = ["id", "writer_id", "writer_id"] ∧
            ¬ naming.Separates schema := by
  have hplan : migrationPlan ⟨Library.withWriterId⟩ Library.writerIdNaming {} = .ok [
      .createTable "author" [⟨"id", ⟨"integer", [], false⟩, { primary := true }⟩],
      .createTable "book" Library.writerIdClauses,
      .addForeignKeys "book" [Library.writerLink]] := by decide +kernel
  have hcreated : Definition.createTable "book" Library.writerIdClauses ∈ [
      Definition.createTable "author" [⟨"id", ⟨"integer", [], false⟩, { primary := true }⟩],
      .createTable "book" Library.writerIdClauses,
      .addForeignKeys "book" [Library.writerLink]] := by simp
  refine ⟨⟨Library.withWriterId⟩, Library.writerIdNaming, _, Library.writerIdClauses,
    by decide +kernel, by decide +kernel, hplan, hcreated, rfl, fun h => ?_⟩
  have hnodup := h.created {} _ hplan "book" Library.writerIdClauses hcreated
  revert hnodup
  decide

end EntitySql
