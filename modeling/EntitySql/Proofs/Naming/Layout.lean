import EntitySql.Naming
import EntitySql.Proofs.Schema.WellFormed

/-!
# Layouts

Where the data of a schema is stored, said name by name and without the order in which names are
given.

* `Layout.ofOverrides` is the table of an entity, the column of a field and the column of a
  many-to-one under overrides.
* `Layout.tables` and `Layout.columns` are the tables of a schema and the columns of a table;
  `Layout.Declares` gives the types of columns.
* `Naming.Follows` says that a naming gives these names, and each relation the columns that join it.
* `Naming.ofSchema_follows` says that every well-formed schema can be named and that its naming
  follows the layout.
-/

namespace EntitySql

set_option autoImplicit false

/-- Where the data of a schema is stored. -/
structure Layout where
  table : (entity : String) → String
  column : (entity field : String) → String
  /-- The column that holds the key of the target of a many-to-one. -/
  foreignKey : (entity : String) → ManyToOne → String

namespace Layout

/-- The layout under overrides. -/
def ofOverrides (overrides : Assoc String) : Layout where
  table entity := Naming.nameFor overrides entity entity
  column entity field := Naming.nameFor overrides (memberKey entity field) field
  foreignKey entity relation :=
    (Assoc.get? (memberKey entity relation.name) overrides).getD (snakeCase relation.name ++ "_" ++
      Naming.nameFor overrides (memberKey relation.targetEntity relation.targetField)
        relation.targetField)

/-- The join of a many-to-one: its own column and the field it refers to. -/
def link (layout : Layout) (entity : String) (relation : ManyToOne) : Link where
  fromTable := layout.table entity
  fromColumn := layout.foreignKey entity relation
  toTable := layout.table relation.targetEntity
  toColumn := layout.column relation.targetEntity relation.targetField

/-- The join of a one-to-many, which is that of its inverse seen from the other side. -/
def inverseLink? (layout : Layout) (schema : Schema) (relation : OneToMany) : Option Link :=
  (schema.manyToOne? relation.targetEntity relation.targetManyToOne).map fun inverse =>
    (layout.link relation.targetEntity inverse).reversed

end Layout

def Layout.tables (layout : Layout) (schema : Schema) : List String :=
  schema.entities.map fun entity => layout.table entity.name

/-- The columns that the entities in a table declare: those of fields and of many-to-ones. -/
def Layout.columns (layout : Layout) (schema : Schema) (table : String) : List String :=
  schema.entities.flatMap fun entity =>
    if layout.table entity.name = table then
      entity.fields.map (fun field => layout.column entity.name field.name) ++
        entity.manyToOne.map (layout.foreignKey entity.name)
    else []

/-- A column that some entity declares, with the type of its values. A many-to-one has the type of
the field that it refers to. -/
inductive Layout.Declares (layout : Layout) (schema : Schema) : (table column : String) → SqlType → Prop
  | field {entity : Entity} {field : Field} (hentity : entity ∈ schema.entities)
      (hfield : field ∈ entity.fields) :
      Declares layout schema (layout.table entity.name) (layout.column entity.name field.name)
        field.sqlType
  | foreignKey {entity : Entity} {relation : ManyToOne} {target : Field}
      (hentity : entity ∈ schema.entities) (hrelation : relation ∈ entity.manyToOne)
      (htarget : schema.field? relation.targetEntity relation.targetField = some target) :
      Declares layout schema (layout.table entity.name) (layout.foreignKey entity.name relation)
        target.sqlType

/-- A naming that gives the names of a layout to everything in a schema. -/
structure Naming.Follows (naming : Naming) (schema : Schema) (layout : Layout) : Prop where
  table : ∀ entity ∈ schema.entities, naming.table entity.name = .ok (layout.table entity.name)
  column : ∀ entity ∈ schema.entities, ∀ field ∈ entity.fields,
    naming.column entity.name field.name = .ok (layout.column entity.name field.name)
  /-- Nothing but declared fields has a column. -/
  declared : ∀ entity field column, naming.column entity field = .ok column →
    (schema.field? entity field).isSome
  manyToOne : ∀ entity ∈ schema.entities, ∀ relation ∈ entity.manyToOne,
    naming.link entity.name relation.name = .ok (layout.link entity.name relation)
  oneToMany : ∀ entity ∈ schema.entities, ∀ relation ∈ entity.oneToMany, ∀ link,
    layout.inverseLink? schema relation = some link →
      naming.link entity.name relation.name = .ok link

theorem Layout.mem_tables {layout : Layout} {schema : Schema} {table : String} :
    table ∈ layout.tables schema ↔ ∃ entity ∈ schema.entities, layout.table entity.name = table :=
  List.mem_map

theorem Layout.mem_columns {layout : Layout} {schema : Schema} {table column : String} :
    column ∈ layout.columns schema table ↔ ∃ entity ∈ schema.entities,
      layout.table entity.name = table ∧
        ((∃ field ∈ entity.fields, layout.column entity.name field.name = column) ∨
          ∃ relation ∈ entity.manyToOne, layout.foreignKey entity.name relation = column) := by
  rw [Layout.columns, List.mem_flatMap]
  refine exists_congr fun entity => and_congr_right fun _ => ?_
  by_cases htable : layout.table entity.name = table
  · simp [htable]
  · simp [htable]

theorem Layout.mem_columns_iff_declares {layout : Layout} {schema : Schema}
    (hschema : schema.WellFormed) {table column : String} :
    column ∈ layout.columns schema table ↔ ∃ type, layout.Declares schema table column type := by
  rw [mem_columns]
  constructor
  · rintro ⟨entity, hentity, rfl, ⟨field, hfield, rfl⟩ | ⟨relation, hrelation, rfl⟩⟩
    · exact ⟨_, .field hentity hfield⟩
    · obtain ⟨target, htarget, -⟩ := (hschema.entity entity hentity).target relation hrelation
      exact ⟨_, .foreignKey hentity hrelation htarget⟩
  · rintro ⟨type, hdeclares⟩
    cases hdeclares with
    | field hentity hfield => exact ⟨_, hentity, rfl, .inl ⟨_, hfield, rfl⟩⟩
    | foreignKey hentity hrelation htarget => exact ⟨_, hentity, rfl, .inr ⟨_, hrelation, rfl⟩⟩

/-! ## Keyed lists -/

theorem Assoc.get?_foldl_insert {α β : Type} (key : β → String) (value : String → α)
    (items : List β) (entries : Assoc α) (name : String) :
    get? name (items.foldl (fun entries item => insert (key item) (value (key item)) entries)
      entries) = if name ∈ items.map key then some (value name) else get? name entries := by
  induction items generalizing entries with
  | nil => simp
  | cons item rest ih =>
    rw [List.foldl_cons, ih, get?_insert]
    by_cases hrest : name ∈ rest.map key
    · simp [hrest]
    · by_cases hitem : key item = name
      · simp [hrest, hitem]
      · have hne : ¬ name = key item := fun heq => hitem heq.symm
        simp [hrest, hitem, hne]

namespace Naming

/-! ## Looking names up -/

theorem names_eq_ok {naming : Naming} {entity : String} {names : EntityNames} :
    naming.names entity = .ok names ↔ Assoc.get? entity naming.entities = some names := by
  unfold Naming.names
  split
  · next found hfound => rw [hfound, Except.ok.injEq, Option.some.injEq]
  · next hnone => simp [hnone]

theorem table_eq_ok {naming : Naming} {entity table : String} :
    naming.table entity = .ok table ↔
      ∃ names, Assoc.get? entity naming.entities = some names ∧ names.table = table := by
  simp only [Naming.table, bind_eq_ok, names_eq_ok, pure_eq_ok]

theorem column_eq_ok {naming : Naming} {entity field column : String} :
    naming.column entity field = .ok column ↔
      ∃ names, Assoc.get? entity naming.entities = some names ∧
        Assoc.get? field names.columns = some column := by
  simp only [Naming.column, bind_eq_ok, names_eq_ok]
  refine exists_congr fun names => and_congr_right fun _ => ?_
  split
  · next found hfound => rw [hfound, pure_eq_ok, Option.some.injEq]
  · next hnone => simp [hnone]

theorem link_congr {naming other : Naming} {entity relation : String} {names names' : EntityNames}
    (h : naming.names entity = .ok names) (h' : other.names entity = .ok names')
    (hget : Assoc.get? relation names.links = Assoc.get? relation names'.links) :
    naming.link entity relation = other.link entity relation := by
  simp only [Naming.link, h, h', bind, Except.bind, hget]

theorem link_eq_ok {naming : Naming} {entity relation : String} {link : Link} :
    naming.link entity relation = .ok link ↔
      ∃ names, Assoc.get? entity naming.entities = some names ∧
        Assoc.get? relation names.links = some link := by
  simp only [Naming.link, bind_eq_ok, names_eq_ok]
  refine exists_congr fun names => and_congr_right fun _ => ?_
  split
  · next found hfound => rw [hfound, pure_eq_ok, Option.some.injEq]
  · next hnone => simp [hnone]

/-! ## Tables and columns -/

theorem get?_columnsOf (overrides : Assoc String) {entity : Entity} {field : Field}
    (h : field ∈ entity.fields) : Assoc.get? field.name (columnsOf overrides entity) =
      some ((Layout.ofOverrides overrides).column entity.name field.name) := by
  have hfold := Assoc.get?_foldl_insert Field.name
    ((Layout.ofOverrides overrides).column entity.name) entity.fields [] field.name
  rw [if_pos (List.mem_map_of_mem h)] at hfold
  rw [columnsOf, Assoc.ofPairs, List.foldl_map]
  exact hfold

theorem mem_of_get?_columnsOf {overrides : Assoc String} {entity : Entity} {name column : String}
    (h : Assoc.get? name (columnsOf overrides entity) = some column) :
    name ∈ entity.fields.map Field.name := by
  by_contra hmem
  have hfold := Assoc.get?_foldl_insert Field.name
    ((Layout.ofOverrides overrides).column entity.name) entity.fields [] name
  rw [if_neg hmem] at hfold
  rw [columnsOf, Assoc.ofPairs, List.foldl_map] at h
  cases h.symm.trans hfold

/-- Naming a list of entities keeps the names behind all others. -/
theorem get?_addEntities_of_notMem (overrides : Assoc String) {entities : List Entity}
    {naming : Naming} {name : String} (h : name ∉ entities.map Entity.name) :
    Assoc.get? name (entities.foldl (addEntity overrides) naming).entities =
      Assoc.get? name naming.entities := by
  induction entities generalizing naming with
  | nil => rfl
  | cons entity rest ih =>
    rw [List.map_cons, List.mem_cons, not_or] at h
    have hne : ¬ entity.name = name := fun heq => h.1 heq.symm
    rw [List.foldl_cons, ih h.2, addEntity, withNames, Assoc.get?_insert, if_neg hne]

/-- The names behind each of a list of entities with distinct names. -/
theorem get?_addEntities (overrides : Assoc String) {entities : List Entity} {naming : Naming}
    {entity : Entity} (hnodup : (entities.map Entity.name).Nodup) (h : entity ∈ entities) :
    Assoc.get? entity.name (entities.foldl (addEntity overrides) naming).entities =
      some { table := nameFor overrides entity.name entity.name
             columns := columnsOf overrides entity } := by
  induction entities generalizing naming with
  | nil => exact absurd h List.not_mem_nil
  | cons first rest ih =>
    obtain ⟨hfirst, hrest⟩ := List.nodup_cons.1 hnodup
    rw [List.foldl_cons]
    rcases List.mem_cons.1 h with rfl | hmem
    · rw [get?_addEntities_of_notMem overrides hfirst, addEntity, withNames,
        Assoc.get?_insert_self]
    · exact ih hrest hmem

theorem not_link_addEntities (overrides : Assoc String) {entities : List Entity}
    {naming : Naming} (h : ∀ entity relation link, ¬ naming.link entity relation = .ok link)
    (entity relation : String) (link : Link) :
    ¬ (entities.foldl (addEntity overrides) naming).link entity relation = .ok link := by
  induction entities generalizing naming with
  | nil => exact h entity relation link
  | cons first rest ih =>
    refine ih fun other name found hfound => ?_
    obtain ⟨names, hnames, hget⟩ := link_eq_ok.1 hfound
    rw [addEntity, withNames, Assoc.get?_insert] at hnames
    split at hnames
    · obtain rfl := Option.some.inj hnames
      cases hget
    · exact h other name found (link_eq_ok.2 ⟨names, hnames, hget⟩)

/-! ## Joins -/

theorem names_withNames (naming : Naming) (entity other : String) (names : EntityNames) :
    (naming.withNames entity names).names other =
      if entity = other then .ok names else naming.names other := by
  rw [Naming.names, withNames, Assoc.get?_insert]
  by_cases heq : entity = other
  · rw [if_pos heq, if_pos heq]
  · rw [if_neg heq, if_neg heq, Naming.names]

/-- Naming a join of a named entity changes that join only. -/
theorem addLink_total {naming : Naming} {entity table : String} (relation : String)
    (link : Link) (h : naming.table entity = .ok table) :
    ∃ after, naming.addLink entity relation link = .ok after ∧
      (∀ other, after.table other = naming.table other) ∧
      (∀ other field, after.column other field = naming.column other field) ∧
      ∀ other name, after.link other name =
        if entity = other ∧ relation = name then .ok link else naming.link other name := by
  obtain ⟨names, hget, -⟩ := table_eq_ok.1 h
  have hnames := names_eq_ok.2 hget
  refine ⟨_, bind_eq_ok.2 ⟨names, hnames, rfl⟩, fun other => ?_, fun other field => ?_,
    fun other name => ?_⟩
  · by_cases heq : entity = other
    · subst heq
      rw [Naming.table, Naming.table, names_withNames, if_pos rfl, hnames]
      rfl
    · rw [Naming.table, Naming.table, names_withNames, if_neg heq]
  · by_cases heq : entity = other
    · subst heq
      rw [Naming.column, Naming.column, names_withNames, if_pos rfl, hnames]
      rfl
    · rw [Naming.column, Naming.column, names_withNames, if_neg heq]
  · by_cases heq : entity = other
    · subst heq
      have hafter := names_withNames naming entity entity
        { names with links := Assoc.insert relation link names.links }
      rw [if_pos rfl] at hafter
      have hget := Assoc.get?_insert names.links relation name link
      by_cases hname : relation = name
      · rw [if_pos hname] at hget
        rw [if_pos ⟨rfl, hname⟩]
        exact link_eq_ok.2 ⟨_, names_eq_ok.1 hafter, hget⟩
      · rw [if_neg hname] at hget
        rw [if_neg fun h => hname h.2]
        exact link_congr hafter hnames hget
    · rw [Naming.link, Naming.link, names_withNames, if_neg heq, if_neg fun h => heq h.1]

end Naming

/-- The join of a relation. -/
def Layout.join? (layout : Layout) (schema : Schema) (entity relation : String) : Option Link :=
  match schema.member? entity relation with
  | some (.manyToOne relation) => some (layout.link entity relation)
  | some (.oneToMany relation) => layout.inverseLink? schema relation
  | _ => none

theorem Layout.join?_manyToOne (layout : Layout) {schema : Schema} (h : schema.WellFormed)
    {entity : Entity} (hentity : entity ∈ schema.entities) {relation : ManyToOne}
    (hrelation : relation ∈ entity.manyToOne) :
    layout.join? schema entity.name relation.name = some (layout.link entity.name relation) := by
  rw [join?, h.member?_name hentity, (h.entity entity hentity).member?_manyToOne hrelation]

theorem Layout.join?_oneToMany (layout : Layout) {schema : Schema} (h : schema.WellFormed)
    {entity : Entity} (hentity : entity ∈ schema.entities) {relation : OneToMany}
    (hrelation : relation ∈ entity.oneToMany) :
    layout.join? schema entity.name relation.name = layout.inverseLink? schema relation := by
  rw [join?, h.member?_name hentity, (h.entity entity hentity).member?_oneToMany hrelation]

namespace Naming

/-- A naming that gives the tables and columns of a layout, and perhaps some joins. -/
structure Agrees (naming : Naming) (schema : Schema) (layout : Layout) : Prop where
  table : ∀ entity ∈ schema.entities, naming.table entity.name = .ok (layout.table entity.name)
  column : ∀ entity ∈ schema.entities, ∀ field ∈ entity.fields,
    naming.column entity.name field.name = .ok (layout.column entity.name field.name)
  declared : ∀ entity field column, naming.column entity field = .ok column →
    (schema.field? entity field).isSome
  join : ∀ entity relation link, naming.link entity relation = .ok link →
    layout.join? schema entity relation = some link

def Joins (naming : Naming) (entity relation : String) : Prop :=
  ∃ link, naming.link entity relation = .ok link

section

variable {overrides : Assoc String} {schema : Schema} {layout : Layout} {naming : Naming}
  {entity : Entity}

/-- Naming the join of a relation of the layout keeps the agreement and all joins. -/
theorem Agrees.addLink (h : naming.Agrees schema layout) (hentity : entity ∈ schema.entities)
    {relation : String} {link : Link} (hjoin : layout.join? schema entity.name relation = some link) :
    ∃ after, naming.addLink entity.name relation link = .ok after ∧ after.Agrees schema layout ∧
      after.Joins entity.name relation ∧
        ∀ other name, naming.Joins other name → after.Joins other name := by
  obtain ⟨after, hafter, htable, hcolumn, hlink⟩ :=
    addLink_total relation link (h.table entity hentity)
  refine ⟨after, hafter, ⟨?_, ?_, ?_, ?_⟩, ?_, ?_⟩
  · intro other hother
    rw [htable, h.table other hother]
  · intro other hother field hfield
    rw [hcolumn, h.column other hother field hfield]
  · intro other field column hfound
    rw [hcolumn] at hfound
    exact h.declared other field column hfound
  · intro other name found hfound
    rw [hlink] at hfound
    split at hfound
    · next heq =>
      obtain ⟨rfl, rfl⟩ := heq
      obtain rfl := Except.ok.inj hfound
      exact hjoin
    · exact h.join other name found hfound
  · exact ⟨link, by rw [hlink, if_pos ⟨rfl, rfl⟩]⟩
  · rintro other name ⟨found, hfound⟩
    by_cases heq : entity.name = other ∧ relation = name
    · exact ⟨link, by rw [hlink, if_pos heq]⟩
    · exact ⟨found, by rw [hlink, if_neg heq, hfound]⟩

/-- A many-to-one refers to a field that has its column already. -/
theorem Agrees.addManyToOne (h : naming.Agrees schema (.ofOverrides overrides))
    (hschema : schema.WellFormed) (hentity : entity ∈ schema.entities) {relation : ManyToOne}
    (hrelation : relation ∈ entity.manyToOne) :
    ∃ after, addManyToOne overrides entity.name naming relation = .ok after ∧
      after.Agrees schema (.ofOverrides overrides) ∧ after.Joins entity.name relation.name ∧
        ∀ other name, naming.Joins other name → after.Joins other name := by
  obtain ⟨target, htarget, hname, field, hfield, hfieldName, -⟩ :=
    hschema.manyToOne_target hentity hrelation
  have htable := h.table target htarget
  have hcolumn := h.column target htarget field hfield
  rw [hname] at htable hcolumn
  rw [hfieldName] at hcolumn
  obtain ⟨after, hafter, hkept⟩ := h.addLink hentity
    ((Layout.ofOverrides overrides).join?_manyToOne hschema hentity hrelation)
  refine ⟨after, ?_, hkept⟩
  exact bind_eq_ok.2 ⟨_, hcolumn, bind_eq_ok.2 ⟨_, h.table entity hentity,
    bind_eq_ok.2 ⟨_, htable, hafter⟩⟩⟩

/-- The inverse of a one-to-many has its join already. -/
theorem Agrees.addOneToMany (h : naming.Agrees schema layout) (hschema : schema.WellFormed)
    (howned : ∀ owner ∈ schema.entities, ∀ relation ∈ owner.manyToOne,
      naming.Joins owner.name relation.name)
    (hentity : entity ∈ schema.entities) {relation : OneToMany}
    (hrelation : relation ∈ entity.oneToMany) :
    ∃ after, addOneToMany entity.name naming relation = .ok after ∧
      after.Agrees schema layout ∧ after.Joins entity.name relation.name ∧
        ∀ other name, naming.Joins other name → after.Joins other name := by
  obtain ⟨target, htarget, hname, inverse, hinverse, -, hsome⟩ :=
    hschema.oneToMany_target hentity hrelation
  obtain ⟨-, -, -, -, hinverseName⟩ := Schema.manyToOne?_eq_some hsome
  obtain ⟨link, hlink⟩ := howned target htarget inverse hinverse
  have hjoin := layout.join?_manyToOne hschema htarget hinverse
  obtain rfl : link = layout.link target.name inverse :=
    Option.some.inj ((h.join _ _ _ hlink).symm.trans hjoin)
  rw [hname, hinverseName] at hlink
  have hreversed : layout.join? schema entity.name relation.name =
      some (layout.link relation.targetEntity inverse).reversed := by
    rw [layout.join?_oneToMany hschema hentity hrelation, Layout.inverseLink?, hsome,
      Option.map_some]
  obtain ⟨after, hafter, hkept⟩ := h.addLink hentity hreversed
  exact ⟨after, bind_eq_ok.2 ⟨_, hlink, hafter⟩, hkept⟩

/-- Tables and columns are named first. -/
theorem agrees_addEntities (hschema : schema.WellFormed) :
    (schema.entities.foldl (addEntity overrides) {}).Agrees schema (.ofOverrides overrides) := by
  refine ⟨fun entity hentity => ?_, fun entity hentity field hfield => ?_,
    fun entity field column hcolumn => ?_, fun entity relation link hlink => ?_⟩
  · exact table_eq_ok.2 ⟨_, get?_addEntities overrides hschema.nodup hentity, rfl⟩
  · exact column_eq_ok.2 ⟨_, get?_addEntities overrides hschema.nodup hentity,
      get?_columnsOf overrides hfield⟩
  · obtain ⟨names, hnames, hget⟩ := column_eq_ok.1 hcolumn
    by_cases hmem : entity ∈ schema.entities.map Entity.name
    · obtain ⟨owner, howner, rfl⟩ := List.mem_map.1 hmem
      rw [get?_addEntities overrides hschema.nodup howner] at hnames
      obtain rfl := Option.some.inj hnames
      obtain ⟨found, hfound, rfl⟩ := List.mem_map.1 (mem_of_get?_columnsOf hget)
      rw [Schema.field?, hschema.entity?_name howner, Option.bind_some,
        (hschema.entity owner howner).field?_name hfound]
      rfl
    · rw [get?_addEntities_of_notMem overrides hmem] at hnames
      cases hnames
  · refine absurd hlink (not_link_addEntities overrides ?_ entity relation link)
    intro other name found hfound
    obtain ⟨names, hnames, -⟩ := link_eq_ok.1 hfound
    cases hnames

end

/-- Steps that each name one join and keep all others name the joins of a list of entities. -/
theorem foldlM_joins {β : Type} (members : Entity → List β) (name : β → String)
    (step : Entity → Naming → β → Result Naming) (P : Naming → Prop) {entities : List Entity}
    (hstep : ∀ entity ∈ entities, ∀ relation ∈ members entity, ∀ naming : Naming, P naming →
      ∃ after, step entity naming relation = .ok after ∧ P after ∧
        after.Joins entity.name (name relation) ∧
          ∀ other key, naming.Joins other key → after.Joins other key)
    {naming : Naming} (h : P naming) :
    ∃ after, entities.foldlM (fun naming entity => (members entity).foldlM (step entity) naming)
        naming = .ok after ∧ P after ∧
      ∀ entity ∈ entities, ∀ relation ∈ members entity,
        after.Joins entity.name (name relation) := by
  -- the joins of one entity, with all joins from before
  have hentity : ∀ start, ∀ entity ∈ entities, P start →
      ∃ after, (members entity).foldlM (step entity) start = .ok after ∧ P after ∧
        (∀ relation ∈ members entity, after.Joins entity.name (name relation)) ∧
          ∀ other : Entity,
            (∀ relation ∈ members other, start.Joins other.name (name relation)) →
              ∀ relation ∈ members other, after.Joins other.name (name relation) := by
    intro start entity hentity hstart
    have hrelation : ∀ naming : Naming, ∀ relation ∈ members entity,
        (P naming ∧ ∀ other key, start.Joins other key → naming.Joins other key) →
          ∃ after, step entity naming relation = .ok after ∧
            (P after ∧ ∀ other key, start.Joins other key → after.Joins other key) ∧
              after.Joins entity.name (name relation) ∧
                ∀ other, naming.Joins entity.name (name other) →
                  after.Joins entity.name (name other) := by
      rintro naming relation hrelation ⟨hnaming, hkept⟩
      obtain ⟨after, hafter, hP, hjoin, hkept'⟩ :=
        hstep entity hentity relation hrelation naming hnaming
      exact ⟨after, hafter, ⟨hP, fun other key h => hkept' _ _ (hkept _ _ h)⟩, hjoin,
        fun other h => hkept' _ _ h⟩
    obtain ⟨after, hafter, ⟨hP, hkept⟩, hjoins, -⟩ :=
      foldlM_reaches (Q := fun relation naming => Joins naming entity.name (name relation))
        ⟨hstart, fun other key h => h⟩ hrelation
    exact ⟨after, hafter, hP, hjoins, fun other hother relation hrelation =>
      hkept _ _ (hother relation hrelation)⟩
  obtain ⟨after, hafter, hP, hjoins, -⟩ := foldlM_reaches
    (Q := fun entity naming => ∀ relation ∈ members entity,
      Joins naming entity.name (name relation)) h hentity
  exact ⟨after, hafter, hP, hjoins⟩

/-- Every well-formed schema can be named: its tables and columns are those of the layout, and every
relation has its join, and only relations have one. -/
theorem ofSchema_agrees (overrides : Assoc String) {schema : Schema} (h : schema.WellFormed) :
    ∃ naming, ofSchema overrides schema = .ok naming ∧
      naming.Agrees schema (.ofOverrides overrides) ∧ ∀ entity ∈ schema.entities,
        (∀ relation ∈ entity.manyToOne, naming.Joins entity.name relation.name) ∧
          ∀ relation ∈ entity.oneToMany, naming.Joins entity.name relation.name := by
  let Named (naming : Naming) := naming.Agrees schema (.ofOverrides overrides)
  obtain ⟨owned, howned, hagrees, hjoins⟩ := foldlM_joins Entity.manyToOne ManyToOne.name
    (fun entity => addManyToOne overrides entity.name) Named
    (fun entity hentity relation hrelation naming hnaming =>
      hnaming.addManyToOne h hentity hrelation) (agrees_addEntities h)
  let Owned (naming : Naming) := ∀ owner ∈ schema.entities, ∀ relation ∈ owner.manyToOne,
    naming.Joins owner.name relation.name
  have hstep : ∀ entity ∈ schema.entities, ∀ relation ∈ entity.oneToMany, ∀ naming : Naming,
      Named naming ∧ Owned naming →
        ∃ after, addOneToMany entity.name naming relation = .ok after ∧
          (Named after ∧ Owned after) ∧ after.Joins entity.name relation.name ∧
            ∀ other key, naming.Joins other key → after.Joins other key := by
    rintro entity hentity relation hrelation start ⟨hstart, howned⟩
    obtain ⟨after, hafter, hagrees, hjoin, hkept⟩ :=
      hstart.addOneToMany h howned hentity hrelation
    exact ⟨after, hafter, ⟨hagrees, fun owner howner other hother =>
      hkept _ _ (howned owner howner other hother)⟩, hjoin, hkept⟩
  obtain ⟨naming, hnaming, ⟨hagrees, hjoins⟩, hlisted⟩ := foldlM_joins Entity.oneToMany
    OneToMany.name (fun entity => addOneToMany entity.name) (fun naming => Named naming ∧ Owned naming)
    hstep ⟨hagrees, hjoins⟩
  exact ⟨naming, bind_eq_ok.2 ⟨owned, howned, hnaming⟩, hagrees, fun entity hentity =>
    ⟨hjoins entity hentity, hlisted entity hentity⟩⟩

/-- Every well-formed schema can be named, and its names are those of the layout. -/
theorem ofSchema_follows (overrides : Assoc String) {schema : Schema} (h : schema.WellFormed) :
    ∃ naming, ofSchema overrides schema = .ok naming ∧
      naming.Follows schema (.ofOverrides overrides) := by
  obtain ⟨naming, hnaming, hagrees, hjoins⟩ := ofSchema_agrees overrides h
  refine ⟨naming, hnaming, hagrees.table, hagrees.column, hagrees.declared,
    fun entity hentity relation hrelation => ?_,
    fun entity hentity relation hrelation inverse hinverse => ?_⟩
  · obtain ⟨link, hlink⟩ := (hjoins entity hentity).1 relation hrelation
    have hjoin := hagrees.join _ _ _ hlink
    rw [Layout.join?_manyToOne _ h hentity hrelation] at hjoin
    rw [hlink, Option.some.inj hjoin]
  · obtain ⟨link, hlink⟩ := (hjoins entity hentity).2 relation hrelation
    have hjoin := hagrees.join _ _ _ hlink
    rw [Layout.join?_oneToMany _ h hentity hrelation, hinverse] at hjoin
    rw [hlink, Option.some.inj hjoin]

/-- The naming of a well-formed schema follows the layout. -/
theorem follows_of_ofSchema {overrides : Assoc String} {schema : Schema} {naming : Naming}
    (h : schema.WellFormed) (hnaming : ofSchema overrides schema = .ok naming) :
    naming.Follows schema (.ofOverrides overrides) := by
  obtain ⟨other, hother, hfollows⟩ := ofSchema_follows overrides h
  obtain rfl := Except.ok.inj (hother.symm.trans hnaming)
  exact hfollows

end Naming

end EntitySql
