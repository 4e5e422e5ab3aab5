import EntitySql.Proofs.Relational.Stored

/-!
# Declared schemas

Which lists of entities are schemas, said of the declarations alone, how the checks refuse all others,
and what looking a name up gives.

* `Declared` is what a list of entities has to satisfy; it does not mention the checks or the look-ups.
* `Refuses` says of a check that it fails with faults of schemas only; each check does.
* `Schema.Indexes` is what the look-ups of a schema give. Fields and relations share one namespace, so
  that a name is found by one of them at most.
* `Schema.ofEntities_spec` puts these together.
-/

namespace EntitySql

set_option autoImplicit false

/-! ## Declarations -/

/-- The relation refers to a field that identifies the records of a declared entity. -/
def ManyToOne.Refers (entities : List Entity) (relation : ManyToOne) : Prop :=
  ∃ target ∈ entities, target.name = relation.targetEntity ∧
    ∃ field ∈ target.fields, field.name = relation.targetField ∧
      (field.constraints.primary = true ∨ field.constraints.unique = true)

/-- The relation is the inverse of a many-to-one that refers back to its owner. -/
def OneToMany.Inverts (entities : List Entity) (owner : String) (relation : OneToMany) : Prop :=
  ∃ target ∈ entities, target.name = relation.targetEntity ∧
    ∃ inverse ∈ target.manyToOne, inverse.name = relation.targetManyToOne ∧
      inverse.targetEntity = owner

structure Entity.Declared (entities : List Entity) (entity : Entity) : Prop where
  name : entity.name ≠ ""
  named : ∀ name ∈ entity.memberNames, name ≠ ""
  nodup : entity.memberNames.Nodup
  primary : entity.fields = [] ∨
    ∃ field, entity.fields.filter (·.constraints.primary) = [field]
  refers : ∀ relation ∈ entity.manyToOne, relation.Refers entities
  inverts : ∀ relation ∈ entity.oneToMany, relation.Inverts entities entity.name

/-- Declarations that make a schema. -/
structure Declared (entities : List Entity) : Prop where
  nodup : (entities.map Entity.name).Nodup
  entity : ∀ entity ∈ entities, entity.Declared entities

namespace Declared

variable {entities : List Entity}

theorem entity?_name (h : Declared entities) {entity : Entity} (hentity : entity ∈ entities) :
    Schema.entity? ⟨entities⟩ entity.name = some entity :=
  find?_name h.nodup hentity

/-- Declarations make a schema just if every name in them has one meaning. -/
theorem iff_wellFormed : Declared entities ↔ Schema.WellFormed ⟨entities⟩ := by
  constructor
  · intro h
    refine ⟨fun entity hentity => (h.entity entity hentity).name, h.nodup, fun entity hentity => ?_⟩
    obtain ⟨-, hnamed, hnodup, hprimary, hrefers, hinverts⟩ := h.entity entity hentity
    refine ⟨hnamed, hnodup, hprimary.imp_right ?_, fun relation hrelation => ?_,
      fun relation hrelation => ?_⟩
    · rintro ⟨field, hfield⟩
      rw [List.countP_eq_length_filter, hfield, List.length_singleton]
    · obtain ⟨target, htarget, hname, field, hfield, hfieldName, hkey⟩ := hrefers relation hrelation
      have hfound : target.field? field.name = some field :=
        find?_name (h.entity target htarget).nodup.of_append_left.of_append_left hfield
      refine ⟨field, ?_, by simpa [Field.isKey] using hkey⟩
      rw [Schema.field?, ← hname, h.entity?_name htarget, ← hfieldName]
      exact hfound
    · obtain ⟨target, htarget, hname, inverse, hinverse, hinverseName, hback⟩ :=
        hinverts relation hrelation
      have hfound : target.manyToOne? inverse.name = some inverse :=
        find?_name (h.entity target htarget).nodup.of_append_left.of_append_right hinverse
      refine ⟨inverse, ?_, hback⟩
      rw [Schema.manyToOne?, ← hname, h.entity?_name htarget, ← hinverseName]
      exact hfound
  · intro h
    refine ⟨h.nodup, fun entity hentity => ?_⟩
    obtain ⟨hnamed, hnodup, hprimary, -, -⟩ := h.entity entity hentity
    refine ⟨h.named entity hentity, hnamed, hnodup, hprimary.imp_right fun hcount => ?_,
      fun relation hrelation => ?_, fun relation hrelation => ?_⟩
    · rw [List.countP_eq_length_filter] at hcount
      exact List.length_eq_one_iff.1 hcount
    · obtain ⟨target, htarget, hname, field, hfield, hfieldName, hkey⟩ :=
        h.manyToOne_target hentity hrelation
      exact ⟨target, htarget, hname, field, hfield, hfieldName, by simpa [Field.isKey] using hkey⟩
    · obtain ⟨inverse, hfound, hback⟩ := (h.entity entity hentity).inverse relation hrelation
      obtain ⟨target, htarget, hname, hinverse, hinverseName⟩ := Schema.manyToOne?_eq_some hfound
      exact ⟨target, htarget, hname, inverse, hinverse, hinverseName, hback⟩

end Declared

/-! ## Refusals -/

/-- The check fails with a fault of schemas, if it fails. -/
structure Refuses {α : Type} (result : Result α) : Prop where
  kind : ∀ fault, result = .error fault → fault.kind = .schemaDefinition

namespace Refuses

variable {α β : Type}

theorem ok (a : α) : Refuses (.ok a : Result α) :=
  ⟨fun fault h => by cases h⟩

theorem refuse (cause : SchemaFault) : Refuses (Schema.refuse cause : Result α) :=
  ⟨fun fault h => by cases h; rfl⟩

theorem bind {result : Result α} {next : α → Result β} (h : Refuses result)
    (hnext : ∀ a, Refuses (next a)) : Refuses (result >>= next) := by
  cases result with
  | ok a => exact hnext a
  | error fault =>
    refine ⟨fun other hother => ?_⟩
    cases hother
    exact h.kind fault rfl

end Refuses

namespace Schema

theorem refuses_checkEntityNames (seen : List String) (entities : List Entity) :
    Refuses (checkEntityNames seen entities) := by
  induction entities generalizing seen with
  | nil => exact .ok ()
  | cons entity rest ih =>
    rw [checkEntityNames]
    split
    · exact .refuse _
    · split
      · exact .refuse _
      · exact ih _

theorem refuses_claim (entity name : String) (taken : List String) :
    Refuses (claim entity name taken) := by
  unfold claim
  split
  · exact .refuse _
  · exact .ok _

theorem refuses_checkFields (entity : String) (taken : List String) (fields : List Field) :
    Refuses (checkFields entity taken fields) := by
  induction fields generalizing taken with
  | nil => exact .ok taken
  | cons field rest ih =>
    rw [checkFields]
    split
    · exact .refuse _
    · exact (refuses_claim ..).bind ih

theorem refuses_checkPrimary (entity : Entity) : Refuses (checkPrimary entity) := by
  unfold checkPrimary
  split
  · exact .ok ()
  · split
    · exact .refuse _
    · exact .ok ()
    · exact .refuse _

theorem refuses_checkManyToOne (schema : Schema) (entity : String) (relation : ManyToOne) :
    Refuses (schema.checkManyToOne entity relation) := by
  dsimp only [checkManyToOne]
  split
  · exact .refuse _
  split
  · exact .refuse _
  split
  · exact .refuse _
  split
  · exact .refuse _
  split
  · exact .ok ()
  · exact .refuse _

theorem refuses_checkOneToMany (schema : Schema) (entity : String) (relation : OneToMany) :
    Refuses (schema.checkOneToMany entity relation) := by
  dsimp only [checkOneToMany]
  split
  · exact .refuse _
  split
  · exact .refuse _
  split
  · exact .refuse _
  split
  · exact .refuse _
  split
  · exact .ok ()
  · exact .refuse _

theorem refuses_checkManyToOnes (schema : Schema) (entity : String) (taken : List String)
    (relations : List ManyToOne) : Refuses (schema.checkManyToOnes entity taken relations) := by
  induction relations generalizing taken with
  | nil => exact .ok taken
  | cons relation rest ih =>
    rw [checkManyToOnes]
    split
    · exact .refuse _
    · exact (refuses_claim ..).bind fun taken =>
        (refuses_checkManyToOne ..).bind fun _ => ih taken

theorem refuses_checkOneToManys (schema : Schema) (entity : String) (taken : List String)
    (relations : List OneToMany) : Refuses (schema.checkOneToManys entity taken relations) := by
  induction relations generalizing taken with
  | nil => exact .ok taken
  | cons relation rest ih =>
    rw [checkOneToManys]
    split
    · exact .refuse _
    · exact (refuses_claim ..).bind fun taken =>
        (refuses_checkOneToMany ..).bind fun _ => ih taken

theorem refuses_checkEntity (schema : Schema) (entity : Entity) :
    Refuses (schema.checkEntity entity) :=
  (refuses_checkFields ..).bind fun _ => (refuses_checkPrimary entity).bind fun _ =>
    (refuses_checkManyToOnes ..).bind fun _ => (refuses_checkOneToManys ..).bind fun _ => .ok ()

theorem refuses_checkEntities (schema : Schema) (entities : List Entity) :
    Refuses (schema.checkEntities entities) := by
  induction entities with
  | nil => exact .ok ()
  | cons entity rest ih => exact (refuses_checkEntity schema entity).bind fun _ => ih

theorem refuses_ofEntities (entities : List Entity) : Refuses (ofEntities entities) :=
  (refuses_checkEntityNames ..).bind fun _ => (refuses_checkEntities ..).bind fun _ => .ok _

end Schema

/-! ## Look-ups -/

namespace Entity.WellFormed

variable {schema : Schema} {entity : Entity} (h : entity.WellFormed schema) {name : String}

include h

theorem member?_of_field? {field : Field} (hfield : entity.field? name = some field) :
    entity.member? name = some (.field field) := by
  obtain ⟨hmem, rfl⟩ := field?_eq_some hfield
  exact h.member?_field hmem

theorem member?_of_manyToOne? {relation : ManyToOne}
    (hrelation : entity.manyToOne? name = some relation) :
    entity.member? name = some (.manyToOne relation) := by
  obtain ⟨hmem, rfl⟩ := manyToOne?_eq_some hrelation
  exact h.member?_manyToOne hmem

theorem member?_of_oneToMany? {relation : OneToMany}
    (hrelation : entity.oneToMany? name = some relation) :
    entity.member? name = some (.oneToMany relation) := by
  obtain ⟨hmem, rfl⟩ := oneToMany?_eq_some hrelation
  exact h.member?_oneToMany hmem

omit h in
/-- A look-up whose members are of another kind finds nothing. -/
theorem eq_none_of_member? {α : Type} {found : Option α} {kind : α → Member} {member : Member}
    (hfound : ∀ {a}, found = some a → entity.member? name = some (kind a))
    (hmember : entity.member? name = some member) (hkind : ∀ a, kind a ≠ member) : found = none :=
  Option.eq_none_iff_forall_ne_some.2 fun a ha =>
    hkind a (Option.some.inj ((hfound ha).symm.trans hmember))

theorem member?_eq_field {field : Field} :
    entity.member? name = some (.field field) ↔ entity.field? name = some field ∧
      entity.manyToOne? name = none ∧ entity.oneToMany? name = none := by
  constructor
  · intro hmember
    rcases member?_eq_some hmember with ⟨_, heq, hmem, rfl⟩ | ⟨_, heq, -⟩ | ⟨_, heq, -⟩
    · obtain rfl := Member.field.inj heq
      exact ⟨h.field?_name hmem,
        eq_none_of_member? h.member?_of_manyToOne? hmember (fun _ heq => by cases heq),
        eq_none_of_member? h.member?_of_oneToMany? hmember (fun _ heq => by cases heq)⟩
    · cases heq
    · cases heq
  · rintro ⟨hfield, -⟩
    exact h.member?_of_field? hfield

theorem member?_eq_manyToOne {relation : ManyToOne} :
    entity.member? name = some (.manyToOne relation) ↔ entity.manyToOne? name = some relation ∧
      entity.field? name = none ∧ entity.oneToMany? name = none := by
  constructor
  · intro hmember
    rcases member?_eq_some hmember with ⟨_, heq, -⟩ | ⟨_, heq, hmem, rfl⟩ | ⟨_, heq, -⟩
    · cases heq
    · obtain rfl := Member.manyToOne.inj heq
      exact ⟨h.manyToOne?_name hmem,
        eq_none_of_member? h.member?_of_field? hmember (fun _ heq => by cases heq),
        eq_none_of_member? h.member?_of_oneToMany? hmember (fun _ heq => by cases heq)⟩
    · cases heq
  · rintro ⟨hrelation, -⟩
    exact h.member?_of_manyToOne? hrelation

theorem member?_eq_oneToMany {relation : OneToMany} :
    entity.member? name = some (.oneToMany relation) ↔ entity.oneToMany? name = some relation ∧
      entity.field? name = none ∧ entity.manyToOne? name = none := by
  constructor
  · intro hmember
    rcases member?_eq_some hmember with ⟨_, heq, -⟩ | ⟨_, heq, -⟩ | ⟨_, heq, hmem, rfl⟩
    · cases heq
    · cases heq
    · obtain rfl := Member.oneToMany.inj heq
      exact ⟨h.oneToMany?_name hmem,
        eq_none_of_member? h.member?_of_field? hmember (fun _ heq => by cases heq),
        eq_none_of_member? h.member?_of_manyToOne? hmember (fun _ heq => by cases heq)⟩
  · rintro ⟨hrelation, -⟩
    exact h.member?_of_oneToMany? hrelation

end Entity.WellFormed

theorem Entity.member?_eq_none {entity : Entity} {name : String} :
    entity.member? name = none ↔ entity.field? name = none ∧ entity.manyToOne? name = none ∧
      entity.oneToMany? name = none := by
  unfold member?
  cases entity.field? name with
  | some field => simp
  | none => cases entity.manyToOne? name <;> simp

namespace Schema

section

variable {schema : Schema} {owner name : String}

theorem resolve_declared {entity : Entity} (h : schema.entity? owner = some entity) :
    schema.resolve owner name = .ok (entity.member? name) := by
  rw [resolve, entity_eq_ok.2 h]
  rfl

theorem resolve_undeclared (h : schema.entity? owner = none) :
    schema.resolve owner name = .error (.name (.entity owner)) := by
  rw [resolve, Schema.entity, h]
  rfl

end

/-- What the look-ups of a schema give for declared entities: each finds what is declared under a name
and nothing else, and `resolve` says which one does. -/
structure Indexes (schema : Schema) (entities : List Entity) : Prop where
  entity : ∀ name found, schema.entity? name = some found ↔ found ∈ entities ∧ found.name = name
  field : ∀ owner name found, schema.field? owner name = some found ↔
    ∃ entity ∈ entities, entity.name = owner ∧ found ∈ entity.fields ∧ found.name = name
  manyToOne : ∀ owner name found, schema.manyToOne? owner name = some found ↔
    ∃ entity ∈ entities, entity.name = owner ∧ found ∈ entity.manyToOne ∧ found.name = name
  oneToMany : ∀ owner name found, schema.oneToMany? owner name = some found ↔
    ∃ entity ∈ entities, entity.name = owner ∧ found ∈ entity.oneToMany ∧ found.name = name
  resolveField : ∀ owner name found, schema.resolve owner name = .ok (some (.field found)) ↔
    schema.field? owner name = some found ∧ schema.manyToOne? owner name = none ∧
      schema.oneToMany? owner name = none
  resolveManyToOne : ∀ owner name found, schema.resolve owner name = .ok (some (.manyToOne found)) ↔
    schema.manyToOne? owner name = some found ∧ schema.field? owner name = none ∧
      schema.oneToMany? owner name = none
  resolveOneToMany : ∀ owner name found, schema.resolve owner name = .ok (some (.oneToMany found)) ↔
    schema.oneToMany? owner name = some found ∧ schema.field? owner name = none ∧
      schema.manyToOne? owner name = none
  resolveNothing : ∀ owner name, schema.resolve owner name = .ok none ↔
    (schema.entity? owner).isSome ∧ schema.field? owner name = none ∧
      schema.manyToOne? owner name = none ∧ schema.oneToMany? owner name = none
  resolveFault : ∀ owner name fault, schema.resolve owner name = .error fault ↔
    schema.entity? owner = none ∧ fault = .name (.entity owner)

/-- What a name resolves to is said by what it refers to on the entity that declares it. -/
theorem resolve_iff {schema : Schema} (h : schema.WellFormed) {owner name : String}
    {member : Member} {found : Entity → Prop}
    (hmember : ∀ entity, entity.WellFormed schema →
      (entity.member? name = some member ↔ found entity)) :
    schema.resolve owner name = .ok (some member) ↔
      ∃ entity, schema.entity? owner = some entity ∧ found entity := by
  cases howner : schema.entity? owner with
  | none => simp [resolve_undeclared howner]
  | some entity =>
    have hentity := h.entity entity (entity?_eq_some howner).1
    rw [resolve_declared howner, Except.ok.injEq, hmember entity hentity]
    exact ⟨fun hfound => ⟨entity, rfl, hfound⟩, fun ⟨_, heq, hfound⟩ =>
      Option.some.inj heq ▸ hfound⟩

theorem indexes_of_wellFormed {entities : List Entity} (h : Schema.WellFormed ⟨entities⟩) :
    Indexes ⟨entities⟩ entities where
  entity name found := ⟨entity?_eq_some, fun ⟨hmem, hname⟩ => hname ▸ h.entity?_name hmem⟩
  field owner name found := by
    refine ⟨field?_eq_some, ?_⟩
    rintro ⟨entity, hentity, rfl, hfound, rfl⟩
    rw [field?, h.entity?_name hentity]
    exact (h.entity entity hentity).field?_name hfound
  manyToOne owner name found := by
    refine ⟨manyToOne?_eq_some, ?_⟩
    rintro ⟨entity, hentity, rfl, hfound, rfl⟩
    exact h.manyToOne?_name hentity hfound
  oneToMany owner name found := by
    constructor
    · intro hfound
      obtain ⟨entity, hentity, hrelation⟩ := Option.bind_eq_some_iff.1 hfound
      obtain ⟨hmem, hname⟩ := entity?_eq_some hentity
      exact ⟨entity, hmem, hname, Entity.oneToMany?_eq_some hrelation⟩
    · rintro ⟨entity, hentity, rfl, hfound, rfl⟩
      exact h.oneToMany?_name hentity hfound
  resolveField owner name found := by
    rw [resolve_iff h fun entity hentity => hentity.member?_eq_field]
    simp only [field?, manyToOne?, oneToMany?]
    cases Schema.entity? ⟨entities⟩ owner <;> simp
  resolveManyToOne owner name found := by
    rw [resolve_iff h fun entity hentity => hentity.member?_eq_manyToOne]
    simp only [field?, manyToOne?, oneToMany?]
    cases Schema.entity? ⟨entities⟩ owner <;> simp
  resolveOneToMany owner name found := by
    rw [resolve_iff h fun entity hentity => hentity.member?_eq_oneToMany]
    simp only [field?, manyToOne?, oneToMany?]
    cases Schema.entity? ⟨entities⟩ owner <;> simp
  resolveNothing owner name := by
    simp only [field?, manyToOne?, oneToMany?]
    cases howner : Schema.entity? ⟨entities⟩ owner with
    | none => simp [resolve_undeclared howner]
    | some entity => simp [resolve_declared howner, Entity.member?_eq_none]
  resolveFault owner name fault := by
    cases howner : Schema.entity? ⟨entities⟩ owner with
    | none => simp [resolve_undeclared howner, eq_comm]
    | some entity => simp [resolve_declared howner]

/-- The checks accept just the well-formed declarations, and refuse all others with a fault of schemas.
A schema that they accept finds what is declared, each name as one member. -/
theorem ofEntities_spec (entities : List Entity) :
    ((∃ schema, ofEntities entities = .ok schema) ↔ Declared entities) ∧
      (∀ fault, ofEntities entities = .error fault → fault.kind = .schemaDefinition) ∧
        ∀ schema, ofEntities entities = .ok schema → schema.Indexes entities := by
  refine ⟨?_, (refuses_ofEntities entities).kind, fun schema hschema => ?_⟩
  · rw [Declared.iff_wellFormed]
    constructor
    · rintro ⟨schema, hschema⟩
      obtain ⟨rfl, hwellFormed⟩ := ofEntities_eq_ok.1 hschema
      exact hwellFormed
    · intro hwellFormed
      exact ⟨⟨entities⟩, ofEntities_eq_ok.2 ⟨rfl, hwellFormed⟩⟩
  · obtain ⟨rfl, hwellFormed⟩ := ofEntities_eq_ok.1 hschema
    exact indexes_of_wellFormed hwellFormed

/-- Authors and their books are accepted, and without the authors the books are refused. -/
theorem ofEntities_spec_library :
    Declared Library.entities ∧ Library.schema.Indexes Library.entities ∧
      ∃ fault, ofEntities Library.entities.tail = .error fault ∧ fault.kind = .schemaDefinition := by
  obtain ⟨hdeclared, -, hindexes⟩ := ofEntities_spec Library.entities
  obtain ⟨-, hrefused, -⟩ := ofEntities_spec Library.entities.tail
  refine ⟨hdeclared.1 ⟨Library.schema, Library.ofEntities_entities⟩,
    hindexes _ Library.ofEntities_entities,
    .schema (.targetUnknown "Book" "writer" "Author"), by decide +kernel, hrefused _ ?_⟩
  decide +kernel

end Schema

end EntitySql
