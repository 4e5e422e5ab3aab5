import EntitySql.Proofs.Naming.Layout
import EntitySql.Proofs.Relational.Scope
import Mathlib.Data.List.Dedup

/-!
# The data of a schema

Tables that hold the records of entities, joined by the columns of relations.

* `Instance.Conforms` says that the tables have the columns of the layout.
* `Layout.blank` has the columns of the layout and nothing else.
* `Instance.partners` are the tuples joined to a row; `Instance.related` says that one of them
  satisfies a condition.
* `Instance.Joined` says that a join goes from the table of an entity to that of another; the joins
  of all relations do.
* `Instance.Keyed` says that no two rows agree in a key, so that a many-to-one has at most one
  partner.
* `Instance.Stores` puts a checked schema, its naming and its data together.
* `Library` is a small schema with its data.
-/

namespace EntitySql

set_option autoImplicit false

variable {V : Type}

/-- Data whose tables have the columns of the fields and many-to-ones. -/
structure Instance.Conforms (db : Instance V) (schema : Schema) (layout : Layout) : Prop where
  field : ∀ entity ∈ schema.entities, ∀ field ∈ entity.fields,
    layout.column entity.name field.name ∈ (db (layout.table entity.name)).columns
  manyToOne : ∀ entity ∈ schema.entities, ∀ relation ∈ entity.manyToOne,
    layout.foreignKey entity.name relation ∈ (db (layout.table entity.name)).columns

/-- Tables with just the columns that are declared, and without rows. -/
def Layout.blank (layout : Layout) (schema : Schema) : Instance Unit := fun table =>
  ⟨(layout.columns schema table).dedup, [], List.nodup_dedup _⟩

theorem Layout.mem_blank {layout : Layout} {schema : Schema} {table column : String} :
    column ∈ (layout.blank schema table).columns ↔ column ∈ layout.columns schema table :=
  List.mem_dedup

theorem Layout.conforms_blank (layout : Layout) (schema : Schema) :
    (layout.blank schema).Conforms schema layout := by
  refine ⟨fun entity hentity field hfield => ?_, fun entity hentity relation hrelation => ?_⟩
  · exact mem_blank.2 (mem_columns.2 ⟨entity, hentity, rfl, .inl ⟨field, hfield, rfl⟩⟩)
  · exact mem_blank.2 (mem_columns.2 ⟨entity, hentity, rfl, .inr ⟨relation, hrelation, rfl⟩⟩)

/-- The tuples that are joined to the row outside. -/
def Instance.partners (engine : Engine V) (db : Instance V) (link : Link) (outside : Tuple V) :
    List (Tuple V) :=
  (db link.toTable).tuples.filter fun tuple =>
    engine.compare .eq (tuple link.toColumn) [outside link.fromColumn] = .holds

/-- Some tuple is joined to the row outside and satisfies the condition. -/
def Instance.related (engine : Engine V) (db : Instance V) (link : Link) (outside : Tuple V)
    (condition : Tuple V → Truth) : Truth :=
  .ofBool ((db.partners engine link outside).any fun tuple => condition tuple = .holds)

/-- A join from the table of an entity to that of another, both of which have its columns. -/
structure Instance.Joined (db : Instance V) (layout : Layout) (entity target : String)
    (link : Link) : Prop where
  toTable : link.toTable = layout.table target
  fromColumn : link.fromColumn ∈ (db (layout.table entity)).columns
  toColumn : link.toColumn ∈ (db (layout.table target)).columns

namespace Instance.Conforms

variable {db : Instance V} {schema : Schema} {layout : Layout} (h : db.Conforms schema layout)
  (hschema : schema.WellFormed)

include h hschema

theorem joined_manyToOne {entity : Entity} (hentity : entity ∈ schema.entities)
    {relation : ManyToOne} (hrelation : relation ∈ entity.manyToOne) :
    db.Joined layout entity.name relation.targetEntity (layout.link entity.name relation) := by
  obtain ⟨target, htarget, hname, field, hfield, hfieldName, -⟩ :=
    hschema.manyToOne_target hentity hrelation
  refine ⟨rfl, h.manyToOne entity hentity relation hrelation, ?_⟩
  have hcolumn := h.field target htarget field hfield
  rw [hname, hfieldName] at hcolumn
  exact hcolumn

theorem joined_oneToMany {entity : Entity} (hentity : entity ∈ schema.entities)
    {relation : OneToMany} (hrelation : relation ∈ entity.oneToMany) :
    ∃ link, layout.inverseLink? schema relation = some link ∧
      db.Joined layout entity.name relation.targetEntity link := by
  obtain ⟨target, htarget, hname, inverse, hinverse, hback, hsome⟩ :=
    hschema.oneToMany_target hentity hrelation
  have hjoined := h.joined_manyToOne hschema htarget hinverse
  rw [hback, hname] at hjoined
  refine ⟨(layout.link relation.targetEntity inverse).reversed, ?_, ?_, hjoined.toColumn,
    hjoined.fromColumn⟩
  · rw [Layout.inverseLink?, hsome, Option.map_some]
  · rfl

end Instance.Conforms

/-- A well-formed schema, its naming, and data stored under the names. -/
structure Instance.Stores (db : Instance V) (schema : Schema) (naming : Naming)
    (layout : Layout) : Prop where
  wellFormed : schema.WellFormed
  follows : naming.Follows schema layout
  conforms : db.Conforms schema layout

theorem Instance.Conforms.stores {db : Instance V} {entities : List Entity}
    {overrides : Assoc String} {schema : Schema} {naming : Naming}
    (h : db.Conforms schema (.ofOverrides overrides))
    (hschema : Schema.ofEntities entities = .ok schema)
    (hnaming : Naming.ofSchema overrides schema = .ok naming) :
    db.Stores schema naming (.ofOverrides overrides) := by
  obtain ⟨-, hwellFormed⟩ := Schema.ofEntities_eq_ok.1 hschema
  exact ⟨hwellFormed, Naming.follows_of_ofSchema hwellFormed hnaming, h⟩

/-- A column that the naming knows is that of the layout, and the table of the entity has it. -/
theorem Instance.Stores.column_eq {db : Instance V} {schema : Schema} {naming : Naming}
    {layout : Layout} (h : db.Stores schema naming layout) {entity name column : String}
    (hcolumn : naming.column entity name = .ok column) :
    column = layout.column entity name ∧ column ∈ (db (layout.table entity)).columns := by
  obtain ⟨field, hfield⟩ :=
    Option.isSome_iff_exists.1 (h.follows.declared entity name column hcolumn)
  obtain ⟨owner, howner, rfl, hmem, rfl⟩ := Schema.field?_eq_some hfield
  rw [h.follows.column owner howner field hmem] at hcolumn
  obtain rfl := Except.ok.inj hcolumn
  exact ⟨rfl, h.conforms.field owner howner field hmem⟩

/-! ## Keys -/

/-- Equality as the engine compares: nothing absent is equal to anything. -/
structure Engine.Equates (engine : Engine V) : Prop where
  null : ∀ v, engine.compare .eq engine.null [v] ≠ .holds
  symm : ∀ v w, engine.compare .eq v [w] = .holds → engine.compare .eq w [v] = .holds
  trans : ∀ u v w, engine.compare .eq u [v] = .holds → engine.compare .eq v [w] = .holds →
    engine.compare .eq u [w] = .holds

/-- No two rows have equal values in the column, absent ones apart. -/
def Table.Unique (engine : Engine V) (table : Table V) (column : String) : Prop :=
  table.tuples.Pairwise fun tuple other => tuple column ≠ engine.null →
    engine.compare .eq (tuple column) [other column] ≠ .holds

/-- Data in which the primary and the unique fields are keys. -/
def Instance.Keyed (engine : Engine V) (db : Instance V) (schema : Schema) (layout : Layout) :
    Prop :=
  ∀ entity ∈ schema.entities, ∀ field ∈ entity.fields, field.isKey = true →
    (db (layout.table entity.name)).Unique engine (layout.column entity.name field.name)

theorem Table.Unique.length_le_one {engine : Engine V} {table : Table V} {column : String}
    (h : table.Unique engine column) (hequates : engine.Equates) (v : V) :
    (table.tuples.filter fun tuple =>
      engine.compare .eq (tuple column) [v] = .holds).length ≤ 1 := by
  have hpairs := List.Pairwise.filter
    (fun tuple => decide (engine.compare .eq (tuple column) [v] = .holds)) h
  have hequal : ∀ tuple ∈ table.tuples.filter fun tuple =>
      engine.compare .eq (tuple column) [v] = .holds,
        engine.compare .eq (tuple column) [v] = .holds := by
    intro tuple htuple
    simpa using (List.mem_filter.1 htuple).2
  cases hkept : table.tuples.filter fun tuple =>
      engine.compare .eq (tuple column) [v] = .holds with
  | nil => simp
  | cons first rest =>
    rw [hkept] at hpairs hequal
    cases rest with
    | nil => simp
    | cons second rest =>
      have hfirst := hequal first (List.mem_cons_self ..)
      have hsecond := hequal second (List.mem_cons_of_mem _ (List.mem_cons_self ..))
      have hpresent : first column ≠ engine.null := by
        intro hnull
        rw [hnull] at hfirst
        exact hequates.null v hfirst
      have hdistinct := List.rel_of_pairwise_cons hpairs (List.mem_cons_self ..) hpresent
      exact absurd (hequates.trans _ _ _ hfirst (hequates.symm _ _ hsecond)) hdistinct

/-- A row refers to one row at most. -/
theorem Instance.Keyed.partners_le_one {engine : Engine V} {db : Instance V} {schema : Schema}
    {layout : Layout} (h : db.Keyed engine schema layout) (hequates : engine.Equates)
    (hschema : schema.WellFormed) {entity : Entity} (hentity : entity ∈ schema.entities)
    {relation : ManyToOne} (hrelation : relation ∈ entity.manyToOne) (tuple : Tuple V) :
    (db.partners engine (layout.link entity.name relation) tuple).length ≤ 1 := by
  obtain ⟨target, htarget, hname, field, hfield, hfieldName, hkey⟩ :=
    hschema.manyToOne_target hentity hrelation
  have hunique := h target htarget field hfield hkey
  rw [hname, hfieldName] at hunique
  exact hunique.length_le_one hequates _

/-! ## A small library -/

namespace Library

/-- Authors and their books. -/
def entities : List Entity := [
  { name := "Author"
    fields := [⟨"id", .integer, {}, { primary := true }⟩, ⟨"fullName", .string, {}, {}⟩]
    oneToMany := [⟨"books", "Book", "writer"⟩] },
  { name := "Book"
    fields := [⟨"id", .integer, {}, { primary := true }⟩, ⟨"title", .string, {}, {}⟩]
    manyToOne := [⟨"writer", "Author", "id", {}⟩] }]

def schema : Schema := ⟨entities⟩

/-- The join of a book with its author. -/
def writerLink : Link := ⟨"book", "writer_id", "author", "id"⟩

def naming : Naming := ⟨[
  ("Author", {
    table := "author"
    columns := [("id", "id"), ("fullName", "full_name")]
    links := [("books", writerLink.reversed)] }),
  ("Book", {
    table := "book"
    columns := [("id", "id"), ("title", "title")]
    links := [("writer", writerLink)] })]⟩

/-- The row with the values, and nothing else. -/
def tuple (values : Assoc Json) : Tuple Json :=
  fun column => (Assoc.get? column values).getD .null

def austen : Tuple Json := tuple [("id", .int 1), ("full_name", .str "Austen")]

def joyce : Tuple Json := tuple [("id", .int 2), ("full_name", .str "Joyce")]

def emma : Tuple Json := tuple [("id", .int 7), ("title", .str "Emma"), ("writer_id", .int 1)]

/-- A book whose author is not known. -/
def beowulf : Tuple Json := tuple [("id", .int 8), ("title", .str "Beowulf")]

def database : Instance Json := fun name =>
  if name = "author" then ⟨["id", "full_name"], [austen, joyce], by decide⟩
  else if name = "book" then ⟨["id", "title", "writer_id"], [emma, beowulf], by decide⟩
  else ⟨[], [], by decide⟩

/-- Equality of values that may be absent. -/
def equal (v w : Json) : Truth :=
  if v = .null ∨ w = .null then .unknown else .ofBool (v = w)

def compare (op : Comparison) (v : Json) (items : List Json) : Truth :=
  match op with
  | .isNull => .ofBool (v = .null)
  | .isNotNull => .ofBool (v ≠ .null)
  | .eq | .isIn => .any (items.map (equal v))
  | _ => .unknown

/-- An engine whose values are documents and which lists rows as they are stored. -/
def engine : Engine Json where
  null := .null
  literal := id
  param _ := .null
  cast v _ := v
  compare := compare
  aggregate _ _ := .null
  toJson := id
  arrange _ rows := rows
  toJson_null := rfl
  arrange_perm _ _ := List.Perm.refl _

theorem ofEntities_entities : Schema.ofEntities entities = .ok schema := by
  decide +kernel

theorem ofSchema_schema : Naming.ofSchema [] schema = .ok naming := by
  decide +kernel

theorem conforms_database : database.Conforms schema (.ofOverrides []) :=
  ⟨by decide +kernel, by decide +kernel⟩

end Library

end EntitySql
