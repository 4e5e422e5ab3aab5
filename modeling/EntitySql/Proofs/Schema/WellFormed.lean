import EntitySql.Proofs.Result
import EntitySql.Schema.Basic
import Mathlib.Data.List.Nodup

/-!
# Well-formed schemas

What a list of entities has to satisfy to be a schema, said without the checks.

* `Schema.WellFormed` says that names are given and unambiguous, and that relations refer to
  something that exists.
* `Schema.ofEntities_eq_ok` says that the checks accept just the well-formed ones.
* In a well-formed schema a name means the one member that is declared under it: see
  `Entity.WellFormed.member?_field` and its like.
-/

namespace EntitySql

set_option autoImplicit false

/-- The names of fields, many-to-ones and one-to-manys. -/
def Entity.memberNames (entity : Entity) : List String :=
  entity.fields.map Field.name ++ entity.manyToOne.map ManyToOne.name ++
    entity.oneToMany.map OneToMany.name

/-- A declared record type as a schema may have it. -/
structure Entity.WellFormed (schema : Schema) (entity : Entity) : Prop where
  named : ∀ name ∈ entity.memberNames, name ≠ ""
  nodup : entity.memberNames.Nodup
  primary : entity.fields = [] ∨ entity.fields.countP (·.constraints.primary) = 1
  /-- A many-to-one refers to a key field. -/
  target : ∀ relation ∈ entity.manyToOne, ∃ field,
    schema.field? relation.targetEntity relation.targetField = some field ∧ field.isKey = true
  /-- A one-to-many has an inverse that refers to its entity. -/
  inverse : ∀ relation ∈ entity.oneToMany, ∃ inverse,
    schema.manyToOne? relation.targetEntity relation.targetManyToOne = some inverse ∧
      inverse.targetEntity = entity.name

/-- Declarations in which every name has one meaning. -/
structure Schema.WellFormed (schema : Schema) : Prop where
  named : ∀ entity ∈ schema.entities, entity.name ≠ ""
  nodup : (schema.entities.map Entity.name).Nodup
  entity : ∀ entity ∈ schema.entities, entity.WellFormed schema

/-! ## Looking names up -/

/-- Of things with distinct names, one is found by its name. -/
theorem find?_name {α : Type} {name : α → String} {items : List α} {item : α}
    (hnodup : (items.map name).Nodup) (h : item ∈ items) :
    items.find? (name · = name item) = some item := by
  induction items with
  | nil => exact absurd h (List.not_mem_nil)
  | cons first rest ih =>
    obtain ⟨hfirst, hrest⟩ := List.nodup_cons.1 hnodup
    rcases List.mem_cons.1 h with rfl | hmem
    · rw [List.find?_cons_of_pos (by simp)]
    · have hne : name first ≠ name item := by
        intro heq
        exact hfirst (heq ▸ List.mem_map_of_mem hmem)
      rw [List.find?_cons_of_neg (by simpa using hne), ih hrest hmem]

theorem find?_name_eq_none {α : Type} {name : α → String} {items : List α} {key : String}
    (h : key ∉ items.map name) : items.find? (name · = key) = none := by
  rw [List.find?_eq_none]
  intro item hitem heq
  exact h (List.mem_map.2 ⟨item, hitem, by simpa using heq⟩)

theorem find?_name_eq_some {α : Type} {name : α → String} {items : List α} {key : String}
    {item : α} (h : items.find? (name · = key) = some item) : item ∈ items ∧ name item = key :=
  ⟨List.mem_of_find?_eq_some h, by simpa using List.find?_some h⟩

namespace Entity

theorem field?_eq_some {entity : Entity} {name : String} {field : Field}
    (h : entity.field? name = some field) : field ∈ entity.fields ∧ field.name = name :=
  find?_name_eq_some h

theorem manyToOne?_eq_some {entity : Entity} {name : String} {relation : ManyToOne}
    (h : entity.manyToOne? name = some relation) :
    relation ∈ entity.manyToOne ∧ relation.name = name :=
  find?_name_eq_some h

theorem oneToMany?_eq_some {entity : Entity} {name : String} {relation : OneToMany}
    (h : entity.oneToMany? name = some relation) :
    relation ∈ entity.oneToMany ∧ relation.name = name :=
  find?_name_eq_some h

/-- A member that a name refers to is declared under that name. -/
theorem member?_eq_some {entity : Entity} {name : String} {member : Member}
    (h : entity.member? name = some member) :
    (∃ field, member = .field field ∧ field ∈ entity.fields ∧ field.name = name) ∨
      (∃ relation, member = .manyToOne relation ∧ relation ∈ entity.manyToOne ∧
        relation.name = name) ∨
      ∃ relation, member = .oneToMany relation ∧ relation ∈ entity.oneToMany ∧
        relation.name = name := by
  unfold member? at h
  split at h
  · next field hfield =>
    obtain rfl := Option.some.inj h
    exact .inl ⟨field, rfl, field?_eq_some hfield⟩
  · split at h
    · next relation hrelation =>
      obtain rfl := Option.some.inj h
      exact .inr (.inl ⟨relation, rfl, manyToOne?_eq_some hrelation⟩)
    · obtain ⟨relation, hrelation, rfl⟩ := Option.map_eq_some_iff.1 h
      exact .inr (.inr ⟨relation, rfl, oneToMany?_eq_some hrelation⟩)

namespace WellFormed

variable {schema : Schema} {entity : Entity} (h : entity.WellFormed schema)

include h

theorem field?_name {field : Field} (hfield : field ∈ entity.fields) :
    entity.field? field.name = some field :=
  find?_name h.nodup.of_append_left.of_append_left hfield

theorem manyToOne?_name {relation : ManyToOne} (hrelation : relation ∈ entity.manyToOne) :
    entity.manyToOne? relation.name = some relation :=
  find?_name h.nodup.of_append_left.of_append_right hrelation

theorem oneToMany?_name {relation : OneToMany} (hrelation : relation ∈ entity.oneToMany) :
    entity.oneToMany? relation.name = some relation :=
  find?_name h.nodup.of_append_right hrelation

theorem member?_field {field : Field} (hfield : field ∈ entity.fields) :
    entity.member? field.name = some (.field field) := by
  rw [member?, h.field?_name hfield]

theorem member?_manyToOne {relation : ManyToOne} (hrelation : relation ∈ entity.manyToOne) :
    entity.member? relation.name = some (.manyToOne relation) := by
  have hdisjoint := List.disjoint_of_nodup_append h.nodup.of_append_left
  have hnone : entity.field? relation.name = none :=
    find?_name_eq_none fun hmem => hdisjoint hmem (List.mem_map_of_mem hrelation)
  rw [member?, hnone, h.manyToOne?_name hrelation]

theorem member?_oneToMany {relation : OneToMany} (hrelation : relation ∈ entity.oneToMany) :
    entity.member? relation.name = some (.oneToMany relation) := by
  have hname := List.mem_map_of_mem (f := OneToMany.name) hrelation
  have hdisjoint := List.disjoint_of_nodup_append h.nodup
  have hfield : entity.field? relation.name = none :=
    find?_name_eq_none fun hmem => hdisjoint (List.mem_append_left _ hmem) hname
  have howned : entity.manyToOne? relation.name = none :=
    find?_name_eq_none fun hmem => hdisjoint (List.mem_append_right _ hmem) hname
  rw [member?, hfield, howned, h.oneToMany?_name hrelation]
  rfl

end WellFormed

end Entity

namespace Schema

theorem entity_eq_ok {schema : Schema} {name : String} {entity : Entity} :
    schema.entity name = .ok entity ↔ schema.entity? name = some entity := by
  unfold Schema.entity
  split
  · next found hfound => rw [hfound, Except.ok.injEq, Option.some.injEq]
  · next hnone => simp [hnone]

theorem entity?_eq_some {schema : Schema} {name : String} {entity : Entity}
    (h : schema.entity? name = some entity) : entity ∈ schema.entities ∧ entity.name = name :=
  find?_name_eq_some h

theorem field?_eq_some {schema : Schema} {entity name : String} {field : Field}
    (h : schema.field? entity name = some field) :
    ∃ owner ∈ schema.entities, owner.name = entity ∧ field ∈ owner.fields ∧
      field.name = name := by
  obtain ⟨owner, howner, hfield⟩ := Option.bind_eq_some_iff.1 h
  obtain ⟨hmem, hname⟩ := entity?_eq_some howner
  exact ⟨owner, hmem, hname, Entity.field?_eq_some hfield⟩

theorem manyToOne?_eq_some {schema : Schema} {entity name : String} {relation : ManyToOne}
    (h : schema.manyToOne? entity name = some relation) :
    ∃ owner ∈ schema.entities, owner.name = entity ∧ relation ∈ owner.manyToOne ∧
      relation.name = name := by
  obtain ⟨owner, howner, hrelation⟩ := Option.bind_eq_some_iff.1 h
  obtain ⟨hmem, hname⟩ := entity?_eq_some howner
  exact ⟨owner, hmem, hname, Entity.manyToOne?_eq_some hrelation⟩

theorem field_eq_ok {schema : Schema} {entity name : String} {field : Field} :
    schema.field entity name = .ok field ↔ schema.field? entity name = some field := by
  rw [Schema.field, bind_eq_ok, field?, Option.bind_eq_some_iff]
  refine exists_congr fun owner => and_congr entity_eq_ok ?_
  cases owner.field? name with
  | some found => exact pure_eq_ok.trans (Option.some.injEq found field ▸ Iff.rfl)
  | none => exact ⟨fun h => absurd h throw_ne_ok, fun h => nomatch h⟩

theorem manyToOne?_of_manyToOne {schema : Schema} {entity name : String} {relation : ManyToOne}
    (h : schema.manyToOne entity name = .ok relation) :
    schema.manyToOne? entity name = some relation := by
  unfold manyToOne at h
  obtain ⟨owner, howner, h⟩ := bind_eq_ok.1 h
  rw [manyToOne?, entity_eq_ok.1 howner, Option.bind_some]
  split at h
  · next found hfound => rw [hfound, pure_eq_ok.1 h]
  · exact absurd h throw_ne_ok

theorem oneToMany?_of_oneToMany {schema : Schema} {entity name : String} {relation : OneToMany}
    (h : schema.oneToMany entity name = .ok relation) :
    schema.oneToMany? entity name = some relation := by
  unfold oneToMany at h
  obtain ⟨owner, howner, h⟩ := bind_eq_ok.1 h
  rw [oneToMany?, entity_eq_ok.1 howner, Option.bind_some]
  split at h
  · next found hfound => rw [hfound, pure_eq_ok.1 h]
  · exact absurd h throw_ne_ok

theorem manyToOne_of_manyToOne? {schema : Schema} {entity name : String} {relation : ManyToOne}
    (h : schema.manyToOne? entity name = some relation) :
    schema.manyToOne entity name = .ok relation := by
  obtain ⟨owner, howner, hrelation⟩ := Option.bind_eq_some_iff.1 h
  refine bind_eq_ok.2 ⟨owner, entity_eq_ok.2 howner, ?_⟩
  rw [hrelation]
  rfl

theorem oneToMany_of_oneToMany? {schema : Schema} {entity name : String} {relation : OneToMany}
    (h : schema.oneToMany? entity name = some relation) :
    schema.oneToMany entity name = .ok relation := by
  obtain ⟨owner, howner, hrelation⟩ := Option.bind_eq_some_iff.1 h
  refine bind_eq_ok.2 ⟨owner, entity_eq_ok.2 howner, ?_⟩
  rw [hrelation]
  rfl

/-- The member that a name refers to on an entity. -/
def member? (schema : Schema) (entity name : String) : Option Member :=
  (schema.entity? entity).bind (·.member? name)

theorem member?_of_resolve {schema : Schema} {entity name : String} {member : Option Member}
    (h : schema.resolve entity name = .ok member) : schema.member? entity name = member := by
  unfold resolve at h
  obtain ⟨owner, howner, h⟩ := bind_eq_ok.1 h
  rw [member?, entity_eq_ok.1 howner, Option.bind_some]
  exact pure_eq_ok.1 h

namespace WellFormed

variable {schema : Schema} (h : schema.WellFormed)

include h

theorem entity?_name {entity : Entity} (hentity : entity ∈ schema.entities) :
    schema.entity? entity.name = some entity :=
  find?_name h.nodup hentity

theorem member?_name {entity : Entity} (hentity : entity ∈ schema.entities) (name : String) :
    schema.member? entity.name name = entity.member? name := by
  rw [member?, h.entity?_name hentity, Option.bind_some]

theorem entityMember?_of_resolve {entity : Entity} (hentity : entity ∈ schema.entities)
    {name : String} {found : Option Member} (hresolve : schema.resolve entity.name name = .ok found) :
    entity.member? name = found := by
  rw [← h.member?_name hentity]
  exact member?_of_resolve hresolve

/-- The entity that a many-to-one refers to. -/
theorem manyToOne_target {entity : Entity} (hentity : entity ∈ schema.entities)
    {relation : ManyToOne} (hrelation : relation ∈ entity.manyToOne) :
    ∃ target ∈ schema.entities, target.name = relation.targetEntity ∧
      ∃ field ∈ target.fields, field.name = relation.targetField ∧ field.isKey = true := by
  obtain ⟨field, hfield, hkey⟩ := (h.entity entity hentity).target relation hrelation
  obtain ⟨target, htarget, hname, hmem, hfieldName⟩ := field?_eq_some hfield
  exact ⟨target, htarget, hname, field, hmem, hfieldName, hkey⟩

/-- The entity that a one-to-many refers to, and its inverse there. -/
theorem oneToMany_target {entity : Entity} (hentity : entity ∈ schema.entities)
    {relation : OneToMany} (hrelation : relation ∈ entity.oneToMany) :
    ∃ target ∈ schema.entities, target.name = relation.targetEntity ∧
      ∃ inverse ∈ target.manyToOne, inverse.targetEntity = entity.name ∧
        schema.manyToOne? relation.targetEntity relation.targetManyToOne = some inverse := by
  obtain ⟨inverse, hinverse, hback⟩ := (h.entity entity hentity).inverse relation hrelation
  obtain ⟨target, htarget, hname, hmem, -⟩ := manyToOne?_eq_some hinverse
  exact ⟨target, htarget, hname, inverse, hmem, hback, hinverse⟩

theorem mem_of_manyToOne? {entity : Entity} (hentity : entity ∈ schema.entities) {name : String}
    {relation : ManyToOne} (hrelation : schema.manyToOne? entity.name name = some relation) :
    relation ∈ entity.manyToOne ∧ relation.name = name := by
  rw [manyToOne?, h.entity?_name hentity, Option.bind_some] at hrelation
  exact Entity.manyToOne?_eq_some hrelation

theorem mem_of_oneToMany? {entity : Entity} (hentity : entity ∈ schema.entities) {name : String}
    {relation : OneToMany} (hrelation : schema.oneToMany? entity.name name = some relation) :
    relation ∈ entity.oneToMany ∧ relation.name = name := by
  rw [oneToMany?, h.entity?_name hentity, Option.bind_some] at hrelation
  exact Entity.oneToMany?_eq_some hrelation

theorem manyToOne?_name {entity : Entity} (hentity : entity ∈ schema.entities)
    {relation : ManyToOne} (hrelation : relation ∈ entity.manyToOne) :
    schema.manyToOne? entity.name relation.name = some relation := by
  rw [manyToOne?, h.entity?_name hentity, Option.bind_some]
  exact (h.entity entity hentity).manyToOne?_name hrelation

theorem oneToMany?_name {entity : Entity} (hentity : entity ∈ schema.entities)
    {relation : OneToMany} (hrelation : relation ∈ entity.oneToMany) :
    schema.oneToMany? entity.name relation.name = some relation := by
  rw [oneToMany?, h.entity?_name hentity, Option.bind_some]
  exact (h.entity entity hentity).oneToMany?_name hrelation

end WellFormed

/-! ## What the checks accept -/

theorem not_refuse {α : Type} {cause : SchemaFault} {a : α} : ¬ refuse cause = .ok a := by
  intro h
  cases h

theorem checkEntityNames_eq_ok {seen : List String} {entities : List Entity} :
    checkEntityNames seen entities = .ok () ↔
      (∀ entity ∈ entities, entity.name ≠ "" ∧ entity.name ∉ seen) ∧
        (entities.map Entity.name).Nodup := by
  induction entities generalizing seen with
  | nil => simp [checkEntityNames]
  | cons entity rest ih =>
    rw [checkEntityNames, List.map_cons, List.nodup_cons, List.forall_mem_cons]
    by_cases hempty : entity.name = ""
    · simp [hempty, not_refuse]
    by_cases hseen : entity.name ∈ seen
    · simp [hempty, hseen, not_refuse]
    rw [if_neg hempty, if_neg hseen, ih]
    constructor
    · rintro ⟨hrest, hnodup⟩
      refine ⟨⟨⟨hempty, hseen⟩, fun other hother => ⟨(hrest other hother).1, fun hmem => ?_⟩⟩, ?_,
        hnodup⟩
      · exact (hrest other hother).2 (List.mem_cons_of_mem _ hmem)
      · intro hmem
        obtain ⟨other, hother, heq⟩ := List.mem_map.1 hmem
        exact (hrest other hother).2 (heq ▸ List.mem_cons_self ..)
    · rintro ⟨⟨-, hrest⟩, hfresh, hnodup⟩
      refine ⟨fun other hother => ⟨(hrest other hother).1, fun hmem => ?_⟩, hnodup⟩
      rcases List.mem_cons.1 hmem with heq | hmem
      · exact hfresh (heq ▸ List.mem_map_of_mem hother)
      · exact (hrest other hother).2 hmem

theorem claim_eq_ok {entity name : String} {taken after : List String} :
    claim entity name taken = .ok after ↔ name ∉ taken ∧ after = name :: taken := by
  unfold claim
  split
  · next hmem => simp [hmem, not_refuse]
  · next hmem => simp [hmem, eq_comm]

/-- Names are taken one by one just if they are given, are new and differ from each other. -/
theorem taken_cons {names taken after : List String} {name : String} :
    (name ≠ "" ∧ name ∉ taken ∧ (∀ n ∈ names, n ≠ "") ∧ (names.reverse ++ name :: taken).Nodup ∧
        after = names.reverse ++ name :: taken) ↔
      (∀ n ∈ name :: names, n ≠ "") ∧ ((name :: names).reverse ++ taken).Nodup ∧
        after = (name :: names).reverse ++ taken := by
  rw [List.forall_mem_cons, List.reverse_cons, List.append_assoc, List.singleton_append]
  constructor
  · rintro ⟨hname, -, hnames, hnodup, hafter⟩
    exact ⟨⟨hname, hnames⟩, hnodup, hafter⟩
  · rintro ⟨⟨hname, hnames⟩, hnodup, hafter⟩
    exact ⟨hname, (List.nodup_cons.1 hnodup.of_append_right).1, hnames, hnodup, hafter⟩

theorem checkFields_eq_ok {entity : String} {taken after : List String} {fields : List Field}
    (h : taken.Nodup) :
    checkFields entity taken fields = .ok after ↔
      (∀ name ∈ fields.map Field.name, name ≠ "") ∧
        ((fields.map Field.name).reverse ++ taken).Nodup ∧
          after = (fields.map Field.name).reverse ++ taken := by
  induction fields generalizing taken with
  | nil => simp [checkFields, h, eq_comm]
  | cons field rest ih =>
    rw [checkFields, List.map_cons, ← taken_cons]
    by_cases hempty : field.name = ""
    · simp [hempty, not_refuse]
    rw [if_neg hempty, bind_eq_ok]
    simp only [claim_eq_ok]
    constructor
    · rintro ⟨_, ⟨hfresh, rfl⟩, hrest⟩
      exact ⟨hempty, hfresh, (ih (List.nodup_cons.2 ⟨hfresh, h⟩)).1 hrest⟩
    · rintro ⟨-, hfresh, hrest⟩
      exact ⟨_, ⟨hfresh, rfl⟩, (ih (List.nodup_cons.2 ⟨hfresh, h⟩)).2 hrest⟩

theorem checkPrimary_eq_ok {entity : Entity} :
    checkPrimary entity = .ok () ↔
      entity.fields = [] ∨ entity.fields.countP (·.constraints.primary) = 1 := by
  unfold checkPrimary
  by_cases hempty : entity.fields = []
  · simp [hempty]
  · rw [if_neg (by simpa using hempty), or_iff_right hempty]
    split
    · next hcount => simp [hcount, not_refuse]
    · next hcount => simp [hcount]
    · next hne => simpa [not_refuse] using hne

theorem checkManyToOne_eq_ok {schema : Schema} {entity : String} {relation : ManyToOne} :
    schema.checkManyToOne entity relation = .ok () ↔
      relation.targetEntity ≠ "" ∧ relation.targetField ≠ "" ∧ ∃ field,
        schema.field? relation.targetEntity relation.targetField = some field ∧
          field.isKey = true := by
  obtain ⟨name, targetEntity, targetField, constraints⟩ := relation
  simp only [checkManyToOne, field?]
  by_cases hentity : targetEntity = ""
  · simp [hentity, not_refuse]
  by_cases hfield : targetField = ""
  · simp [hentity, hfield, not_refuse]
  rw [if_neg hentity, if_neg hfield]
  split
  · next hnone => simp [hnone, not_refuse]
  · next target htarget =>
    rw [htarget, Option.bind_some]
    split
    · next hnone => simp [hnone, not_refuse]
    · next field hsome =>
      by_cases hkey : field.isKey <;> simp [hsome, hkey, hentity, hfield, not_refuse]

theorem checkOneToMany_eq_ok {schema : Schema} {entity : String} {relation : OneToMany} :
    schema.checkOneToMany entity relation = .ok () ↔
      relation.targetEntity ≠ "" ∧ relation.targetManyToOne ≠ "" ∧ ∃ inverse,
        schema.manyToOne? relation.targetEntity relation.targetManyToOne = some inverse ∧
          inverse.targetEntity = entity := by
  obtain ⟨name, targetEntity, targetManyToOne⟩ := relation
  simp only [checkOneToMany, manyToOne?]
  by_cases hentity : targetEntity = ""
  · simp [hentity, not_refuse]
  by_cases hrelation : targetManyToOne = ""
  · simp [hentity, hrelation, not_refuse]
  rw [if_neg hentity, if_neg hrelation]
  split
  · next hnone => simp [hnone, not_refuse]
  · next target htarget =>
    rw [htarget, Option.bind_some]
    split
    · next hnone => simp [hnone, not_refuse]
    · next inverse hsome =>
      by_cases hback : inverse.targetEntity = entity <;>
        simp [hsome, hback, hentity, hrelation, not_refuse]

theorem checkManyToOnes_eq_ok {schema : Schema} {entity : String} {taken after : List String}
    {relations : List ManyToOne} (h : taken.Nodup) :
    schema.checkManyToOnes entity taken relations = .ok after ↔
      (∀ relation ∈ relations, schema.checkManyToOne entity relation = .ok ()) ∧
        (∀ name ∈ relations.map ManyToOne.name, name ≠ "") ∧
          ((relations.map ManyToOne.name).reverse ++ taken).Nodup ∧
            after = (relations.map ManyToOne.name).reverse ++ taken := by
  induction relations generalizing taken with
  | nil => simp [checkManyToOnes, h, eq_comm]
  | cons relation rest ih =>
    rw [checkManyToOnes, List.map_cons, ← taken_cons, List.forall_mem_cons]
    by_cases hempty : relation.name = ""
    · simp [hempty, not_refuse]
    rw [if_neg hempty, bind_eq_ok]
    simp only [claim_eq_ok, bind_eq_ok]
    constructor
    · rintro ⟨_, ⟨hfresh, rfl⟩, ⟨⟩, hcheck, hrest⟩
      obtain ⟨hall, hnames⟩ := (ih (List.nodup_cons.2 ⟨hfresh, h⟩)).1 hrest
      exact ⟨⟨hcheck, hall⟩, hempty, hfresh, hnames⟩
    · rintro ⟨⟨hcheck, hall⟩, -, hfresh, hnames⟩
      exact ⟨_, ⟨hfresh, rfl⟩, (), hcheck,
        (ih (List.nodup_cons.2 ⟨hfresh, h⟩)).2 ⟨hall, hnames⟩⟩

theorem checkOneToManys_eq_ok {schema : Schema} {entity : String} {taken after : List String}
    {relations : List OneToMany} (h : taken.Nodup) :
    schema.checkOneToManys entity taken relations = .ok after ↔
      (∀ relation ∈ relations, schema.checkOneToMany entity relation = .ok ()) ∧
        (∀ name ∈ relations.map OneToMany.name, name ≠ "") ∧
          ((relations.map OneToMany.name).reverse ++ taken).Nodup ∧
            after = (relations.map OneToMany.name).reverse ++ taken := by
  induction relations generalizing taken with
  | nil => simp [checkOneToManys, h, eq_comm]
  | cons relation rest ih =>
    rw [checkOneToManys, List.map_cons, ← taken_cons, List.forall_mem_cons]
    by_cases hempty : relation.name = ""
    · simp [hempty, not_refuse]
    rw [if_neg hempty, bind_eq_ok]
    simp only [claim_eq_ok, bind_eq_ok]
    constructor
    · rintro ⟨_, ⟨hfresh, rfl⟩, ⟨⟩, hcheck, hrest⟩
      obtain ⟨hall, hnames⟩ := (ih (List.nodup_cons.2 ⟨hfresh, h⟩)).1 hrest
      exact ⟨⟨hcheck, hall⟩, hempty, hfresh, hnames⟩
    · rintro ⟨⟨hcheck, hall⟩, -, hfresh, hnames⟩
      exact ⟨_, ⟨hfresh, rfl⟩, (), hcheck,
        (ih (List.nodup_cons.2 ⟨hfresh, h⟩)).2 ⟨hall, hnames⟩⟩

/-- What the checks of one entity ask for. -/
theorem checkEntity_eq_ok {schema : Schema} {entity : Entity} :
    schema.checkEntity entity = .ok () ↔
      (∀ name ∈ entity.memberNames, name ≠ "") ∧ entity.memberNames.Nodup ∧
        (entity.fields = [] ∨ entity.fields.countP (·.constraints.primary) = 1) ∧
          (∀ relation ∈ entity.manyToOne, schema.checkManyToOne entity.name relation = .ok ()) ∧
            ∀ relation ∈ entity.oneToMany,
              schema.checkOneToMany entity.name relation = .ok () := by
  have hreverse : entity.memberNames.reverse = (entity.oneToMany.map OneToMany.name).reverse ++
      ((entity.manyToOne.map ManyToOne.name).reverse ++ (entity.fields.map Field.name).reverse) := by
    simp only [Entity.memberNames, List.reverse_append]
  rw [← List.nodup_reverse (l := entity.memberNames), hreverse]
  simp only [checkEntity, bind_eq_ok, Entity.memberNames, List.forall_mem_append]
  constructor
  · rintro ⟨_, hfields, ⟨⟩, hprimary, _, howned, _, hlisted, -⟩
    obtain ⟨hnamed, hnodup, rfl⟩ := (checkFields_eq_ok List.nodup_nil).1 hfields
    obtain ⟨htargets, hnamed', hnodup', rfl⟩ := (checkManyToOnes_eq_ok hnodup).1 howned
    obtain ⟨hinverses, hnamed'', hnodup'', -⟩ := (checkOneToManys_eq_ok hnodup').1 hlisted
    rw [List.append_nil] at hnodup''
    exact ⟨⟨⟨hnamed, hnamed'⟩, hnamed''⟩, hnodup'', checkPrimary_eq_ok.1 hprimary, htargets,
      hinverses⟩
  · rintro ⟨⟨⟨hnamed, hnamed'⟩, hnamed''⟩, hnodup, hprimary, htargets, hinverses⟩
    rw [← List.append_nil (List.reverse (List.map Field.name _))] at hnodup
    exact ⟨_, (checkFields_eq_ok List.nodup_nil).2 ⟨hnamed, hnodup.of_append_right.of_append_right,
      rfl⟩, (), checkPrimary_eq_ok.2 hprimary, _,
      (checkManyToOnes_eq_ok hnodup.of_append_right.of_append_right).2
        ⟨htargets, hnamed', hnodup.of_append_right, rfl⟩, _,
      (checkOneToManys_eq_ok hnodup.of_append_right).2 ⟨hinverses, hnamed'', hnodup, rfl⟩, rfl⟩

theorem checkEntities_eq_ok {schema : Schema} {entities : List Entity} :
    schema.checkEntities entities = .ok () ↔
      ∀ entity ∈ entities, schema.checkEntity entity = .ok () := by
  induction entities with
  | nil => simp [checkEntities]
  | cons entity rest ih =>
    rw [checkEntities, bind_eq_ok, List.forall_mem_cons, ← ih]
    constructor
    · rintro ⟨⟨⟩, hfirst, hrest⟩
      exact ⟨hfirst, hrest⟩
    · rintro ⟨hfirst, hrest⟩
      exact ⟨(), hfirst, hrest⟩

/-- The checks accept just the well-formed schemas. -/
theorem ofEntities_eq_ok {entities : List Entity} {schema : Schema} :
    ofEntities entities = .ok schema ↔ schema = ⟨entities⟩ ∧ schema.WellFormed := by
  simp only [ofEntities, bind_eq_ok, pure_eq_ok]
  constructor
  · rintro ⟨⟨⟩, hnames, ⟨⟩, hentities, rfl⟩
    obtain ⟨hnamed, hnodup⟩ := checkEntityNames_eq_ok.1 hnames
    refine ⟨rfl, fun entity hentity => (hnamed entity hentity).1, hnodup, fun entity hentity => ?_⟩
    obtain ⟨hmembers, hmembers', hprimary, htargets, hinverses⟩ :=
      checkEntity_eq_ok.1 (checkEntities_eq_ok.1 hentities entity hentity)
    refine ⟨hmembers, hmembers', hprimary, fun relation hrelation => ?_,
      fun relation hrelation => ?_⟩
    · exact (checkManyToOne_eq_ok.1 (htargets relation hrelation)).2.2
    · exact (checkOneToMany_eq_ok.1 (hinverses relation hrelation)).2.2
  · rintro ⟨rfl, hnamed, hnodup, hentities⟩
    have hnames := checkEntityNames_eq_ok.2
      ⟨fun entity hentity => ⟨hnamed entity hentity, List.not_mem_nil⟩, hnodup⟩
    refine ⟨(), hnames, (), checkEntities_eq_ok.2 fun entity hentity => checkEntity_eq_ok.2 ?_, rfl⟩
    obtain ⟨hmembers, hmembers', hprimary, htargets, hinverses⟩ := hentities entity hentity
    refine ⟨hmembers, hmembers', hprimary, fun relation hrelation => ?_,
      fun relation hrelation => ?_⟩
    · obtain ⟨field, hfield, hkey⟩ := htargets relation hrelation
      obtain ⟨owner, howner, hname, hmem, hfieldName⟩ := field?_eq_some hfield
      refine checkManyToOne_eq_ok.2 ⟨hname ▸ hnamed owner howner, hfieldName ▸ ?_, field, hfield, hkey⟩
      exact (hentities owner howner).named _
        (List.mem_append_left _ (List.mem_append_left _ (List.mem_map_of_mem hmem)))
    · obtain ⟨inverse, hinverse, hback⟩ := hinverses relation hrelation
      obtain ⟨owner, howner, hname, hmem, hinverseName⟩ := manyToOne?_eq_some hinverse
      refine checkOneToMany_eq_ok.2
        ⟨hname ▸ hnamed owner howner, hinverseName ▸ ?_, inverse, hinverse, hback⟩
      exact (hentities owner howner).named _
        (List.mem_append_left _ (List.mem_append_right _ (List.mem_map_of_mem hmem)))

end Schema

end EntitySql
