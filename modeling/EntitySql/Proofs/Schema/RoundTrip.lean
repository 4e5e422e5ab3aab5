import EntitySql.Proofs.Result
import EntitySql.Schema.Wire

/-!
# Declarations and their JSON

Declarations are read back from what they are written as. The one thing that is lost is a default of
`null`, which is written like no default.

* `Constraints.withoutNull` and its like drop such defaults, `Entity.NoNullDefault` says that there are
  none.
* `Constraints.ofJson?_toJson` and its like read one record back, `Entity.noNullDefault_of_ofJson?` is about
  what is read.
* `Entity.roundTrips_listToJson` is about lists of entities.
-/

namespace EntitySql

set_option autoImplicit false

open Json

/-! ## Members -/

namespace Json

variable {α β : Type}

theorem asUInt32?_ofUInt32 (n : UInt32) : asUInt32? (ofUInt32 n) = some n := by
  have hlt := n.toNat_lt
  have hbits : ((1 <<< 32 : Nat) : Int) = 2 ^ 32 := by decide
  simp only [asUInt32?, asUnsigned?, asIntIn?, ofUInt32, ofNat, asInt?, hbits, Option.filter]
  rw [if_pos]
  · simp
  · simp; omega

theorem asUInt32?_null : asUInt32? .null = none :=
  rfl

theorem nullable_ofOption {decode : Json → Option α} {encode : α → Json}
    (h : ∀ a, decode (encode a) = some a) (hnull : decode .null = none) (value : Option α) :
    nullable decode (ofOption (value.map encode)) = some value := by
  cases value with
  | none => rfl
  | some a =>
    have hencoded : encode a ≠ .null := by
      intro heq
      have ha := h a
      rw [heq, hnull] at ha
      cases ha
    change nullable decode (encode a) = some (some a)
    unfold nullable
    split
    · exact absurd ‹_› hencoded
    · rw [h a, Option.map_some]

theorem listOf_arr_eq_some {decode : Json → Option α} {items : List Json} {as : List α} :
    listOf decode (.arr items) = some as ↔
      List.Forall₂ (fun item a => decode item = some a) items as :=
  mapM_eq_some

theorem listOf_map {decode : Json → Option β} {encode : α → Json} {g : α → β}
    (h : ∀ a, decode (encode a) = some (g a)) (as : List α) :
    listOf decode (.arr (as.map encode)) = some (as.map g) := by
  rw [listOf_arr_eq_some, List.forall₂_map_left_iff, List.forall₂_map_right_iff, List.forall₂_same]
  exact fun a _ => h a

/-- What every value that is read satisfies, every value of a list that is read does. -/
theorem forall_of_listOf {decode : Json → Option α} {p : α → Prop}
    (hdecode : ∀ item a, decode item = some a → p a) {value : Json} {as : List α}
    (h : listOf decode value = some as) : ∀ a ∈ as, p a := by
  obtain ⟨items, -, hitems⟩ := Option.bind_eq_some_iff.1 h
  intro a ha
  obtain ⟨item, -, hitem⟩ := exists_of_mem_right (mapM_eq_some.1 hitems) ha
  exact hdecode item a hitem

/-- What the default satisfies and every value that is read, a member does that may be left out. -/
theorem of_defaulted {key : String} {default a : α} {decode : Json → Option α} {members : Assoc Json}
    {p : α → Prop} (hdefault : p default) (hdecode : ∀ item a, decode item = some a → p a)
    (h : defaulted key default decode members = some a) : p a := by
  unfold defaulted at h
  split at h
  · exact Option.some.inj h ▸ hdefault
  · exact hdecode _ _ h

theorem nullable_some (value : Option Json) :
    nullable some (ofOption value) = some (value.filter (· ≠ .null)) := by
  cases value with
  | none => rfl
  | some value => cases value <;> rfl

/-- A value that may be `null` is none if it is. -/
theorem ne_null_of_nullable {value : Json} {read : Option Json} (h : nullable some value = some read) :
    read ≠ some .null := by
  rintro rfl
  unfold nullable at h
  split at h
  · cases h
  · next hvalue =>
    obtain rfl := Option.some.inj (Option.some.inj h)
    exact hvalue rfl

end Json

/-! ## Defaults -/

/-- The same constraints without a default of `null`. -/
def Constraints.withoutNull (constraints : Constraints) : Constraints where
  primary := constraints.primary
  unique := constraints.unique
  notNull := constraints.notNull
  defaultValue := constraints.defaultValue.filter (· ≠ .null)

def Field.withoutNull (field : Field) : Field :=
  { field with constraints := field.constraints.withoutNull }

def ManyToOne.withoutNull (relation : ManyToOne) : ManyToOne :=
  { relation with constraints := relation.constraints.withoutNull }

def Entity.withoutNull (entity : Entity) : Entity :=
  { entity with
    fields := entity.fields.map Field.withoutNull
    manyToOne := entity.manyToOne.map ManyToOne.withoutNull }

/-- No default is `null`. -/
structure Entity.NoNullDefault (entity : Entity) : Prop where
  fields : ∀ field ∈ entity.fields, field.constraints.defaultValue ≠ some .null
  manyToOne : ∀ relation ∈ entity.manyToOne, relation.constraints.defaultValue ≠ some .null

theorem Constraints.withoutNull_eq_self {constraints : Constraints}
    (h : constraints.defaultValue ≠ some .null) : constraints.withoutNull = constraints := by
  obtain ⟨primary, unique, notNull, value⟩ := constraints
  cases value with
  | none => rfl
  | some value =>
    have hvalue : value ≠ .null := fun heq => h (congrArg some heq)
    rw [withoutNull, Option.filter_some, if_pos (decide_eq_true hvalue)]

theorem Field.withoutNull_eq_self {field : Field} (h : field.constraints.defaultValue ≠ some .null) :
    field.withoutNull = field := by
  rw [withoutNull, Constraints.withoutNull_eq_self h]

theorem ManyToOne.withoutNull_eq_self {relation : ManyToOne}
    (h : relation.constraints.defaultValue ≠ some .null) : relation.withoutNull = relation := by
  rw [withoutNull, Constraints.withoutNull_eq_self h]

theorem Entity.withoutNull_eq_self {entity : Entity} (h : entity.NoNullDefault) :
    entity.withoutNull = entity := by
  have hfields : entity.fields.map Field.withoutNull = entity.fields := by
    rw [List.map_congr_left fun field hfield => Field.withoutNull_eq_self (h.fields field hfield),
      List.map_id']
  have hmanyToOne : entity.manyToOne.map ManyToOne.withoutNull = entity.manyToOne := by
    rw [List.map_congr_left fun relation hrelation =>
      ManyToOne.withoutNull_eq_self (h.manyToOne relation hrelation), List.map_id']
  rw [withoutNull, hfields, hmanyToOne]

/-! ## Reading back what is written -/

theorem FieldType.ofJson?_toJson (type : FieldType) : ofJson? type.toJson = some type :=
  ofName?_name type

theorem TypeOptions.ofJson?_toJson (options : TypeOptions) :
    ofJson? options.toJson = some options := by
  have hread := nullable_ofOption asUInt32?_ofUInt32 asUInt32?_null
  simp [ofJson?, toJson, Json.optional, defaulted, Assoc.get?, hread]

theorem Constraints.ofJson?_toJson (constraints : Constraints) :
    ofJson? constraints.toJson = some constraints.withoutNull := by
  simp [ofJson?, toJson, Json.optional, defaulted, Assoc.get?, asBool?, nullable_some,
    withoutNull]

theorem Field.ofJson?_toJson (field : Field) : ofJson? field.toJson = some field.withoutNull := by
  simp [ofJson?, toJson, required, defaulted, Assoc.get?, asString?,
    FieldType.ofJson?_toJson, TypeOptions.ofJson?_toJson, Constraints.ofJson?_toJson, withoutNull]

theorem ManyToOne.ofJson?_toJson (relation : ManyToOne) :
    ofJson? relation.toJson = some relation.withoutNull := by
  simp [ofJson?, toJson, required, defaulted, Assoc.get?, asString?,
    Constraints.ofJson?_toJson, withoutNull]

theorem OneToMany.ofJson?_toJson (relation : OneToMany) :
    ofJson? relation.toJson = some relation := by
  simp [ofJson?, toJson, required, Assoc.get?, asString?]

theorem Entity.ofJson?_toJson (entity : Entity) : ofJson? entity.toJson = some entity.withoutNull := by
  have hfields := listOf_map Field.ofJson?_toJson
  have hmanyToOne := listOf_map ManyToOne.ofJson?_toJson
  have honeToMany := listOf_map OneToMany.ofJson?_toJson
  simp [ofJson?, toJson, required, defaulted, Assoc.get?, asString?, hfields, hmanyToOne,
    honeToMany, withoutNull]

/-! ## What is read -/

theorem Constraints.ne_null_of_ofJson? (value : Json) (constraints : Constraints)
    (h : ofJson? value = some constraints) : constraints.defaultValue ≠ some .null := by
  simp only [ofJson?, Option.bind_eq_bind, Option.bind_eq_some_iff] at h
  obtain ⟨members, -, primary, -, unique, -, notNull, -, default, hdefault, hconstraints⟩ := h
  obtain rfl := Option.some.inj hconstraints
  exact of_defaulted (p := fun default => default ≠ some .null) (by simp)
    (fun _ _ => ne_null_of_nullable) hdefault

theorem Constraints.ne_null_of_defaulted {members : Assoc Json} {constraints : Constraints}
    (h : defaulted "constraints" {} ofJson? members = some constraints) :
    constraints.defaultValue ≠ some .null :=
  of_defaulted (p := fun read => read.defaultValue ≠ some .null) (by simp)
    ne_null_of_ofJson? h

theorem Field.ne_null_of_ofJson? (value : Json) (field : Field) (h : ofJson? value = some field) :
    field.constraints.defaultValue ≠ some .null := by
  simp only [ofJson?, Option.bind_eq_bind, Option.bind_eq_some_iff] at h
  obtain ⟨members, -, name, -, type, -, options, -, constraints, hconstraints, hfield⟩ := h
  obtain rfl := Option.some.inj hfield
  exact Constraints.ne_null_of_defaulted hconstraints

theorem ManyToOne.ne_null_of_ofJson? (value : Json) (relation : ManyToOne)
    (h : ofJson? value = some relation) : relation.constraints.defaultValue ≠ some .null := by
  simp only [ofJson?, Option.bind_eq_bind, Option.bind_eq_some_iff] at h
  obtain ⟨members, -, name, -, entity, -, field, -, constraints, hconstraints, hrelation⟩ := h
  obtain rfl := Option.some.inj hrelation
  exact Constraints.ne_null_of_defaulted hconstraints

namespace Entity

theorem noNullDefault_of_ofJson? (value : Json) (entity : Entity) (h : ofJson? value = some entity) :
    entity.NoNullDefault := by
  simp only [ofJson?, Option.bind_eq_bind, Option.bind_eq_some_iff] at h
  obtain ⟨members, -, name, -, fields, hfields, manyToOne, hmanyToOne, oneToMany, -, hentity⟩ := h
  obtain rfl := Option.some.inj hentity
  exact {
    fields := of_defaulted
      (p := fun fields => ∀ field ∈ fields, field.constraints.defaultValue ≠ some .null)
      (List.forall_mem_nil _) (fun _ _ => forall_of_listOf Field.ne_null_of_ofJson?) hfields
    manyToOne := of_defaulted
      (p := fun relations => ∀ relation ∈ relations, relation.constraints.defaultValue ≠ some .null)
      (List.forall_mem_nil _) (fun _ _ => forall_of_listOf ManyToOne.ne_null_of_ofJson?) hmanyToOne }

/-- A list of entities is read back from what it is written as, but for defaults of `null`, which are
gone. Without such a default the lists are the same, so that they make a schema or none alike. Whatever
is read has none, and is read again from what it is written as. -/
theorem roundTrips_listToJson (entities : List Entity) :
    listOfJson? (listToJson entities) = some (entities.map withoutNull) ∧
    ((∀ entity ∈ entities, entity.NoNullDefault) →
      listOfJson? (listToJson entities) = some entities ∧
        (Result.decoded (listOfJson? (listToJson entities)) >>= Schema.ofEntities) =
          Schema.ofEntities entities) ∧
    ∀ value, listOfJson? value = some entities →
      (∀ entity ∈ entities, entity.NoNullDefault) ∧
        listOfJson? (listToJson entities) = some entities := by
  have hread : listOfJson? (listToJson entities) = some (entities.map withoutNull) :=
    listOf_map ofJson?_toJson entities
  have hsame : (∀ entity ∈ entities, entity.NoNullDefault) →
      listOfJson? (listToJson entities) = some entities := by
    intro h
    rw [hread, List.map_congr_left fun entity hentity => withoutNull_eq_self (h entity hentity),
      List.map_id']
  refine ⟨hread, fun h => ⟨hsame h, ?_⟩, fun value hvalue => ?_⟩
  · rw [hsame h]
    rfl
  · have hnone := forall_of_listOf noNullDefault_of_ofJson? hvalue
    exact ⟨hnone, hsame hnone⟩

end Entity

/-! ## Threads of notes -/

namespace Threads

/-- Notes with a body, replies and the note that they reply to. -/
def entities (body : Option Json) : List Entity := [
  { name := "Note"
    fields := [
      { name := "id", type := .integer, constraints := { primary := true } },
      { name := "title", type := .string, options := { length := some 64 } },
      { name := "body", type := .jsonb, constraints := { defaultValue := body } }]
    manyToOne := [
      { name := "parent", targetEntity := "Note", targetField := "id", constraints := { notNull := true } }]
    oneToMany := [{ name := "replies", targetEntity := "Note", targetManyToOne := "parent" }] }]

/-- The same notes in a short form, in which a type has its second name and most records are arrays. -/
def abridged : Json :=
  .arr [.obj [("oneToMany", .arr [.arr [.str "replies", .str "Note", .str "parent"]]),
    ("name", .str "Note"),
    ("fields", .arr [
      .obj [("type", .str "int"), ("name", .str "id"),
        ("constraints", .obj [("primary", .bool true), ("defaultValue", .null)])],
      .arr [.str "title", .str "string", .arr [.int 64]],
      .obj [("name", .str "body"), ("type", .str "jsonb"), ("constraints", .arr [])]]),
    ("manyToOne", .arr [.arr [.str "parent", .str "Note", .str "id",
      .arr [.bool false, .bool false, .bool true]]])]]

end Threads

/-- A default that holds `null` stays, a default of `null` goes, and a short form reads as the full one. -/
theorem Entity.roundTrips_listToJson_threads :
    let body := some (.obj [("by", .null)])
    (∀ entity ∈ Threads.entities body, entity.NoNullDefault) ∧
      listOfJson? (listToJson (Threads.entities body)) = some (Threads.entities body) ∧
      listOfJson? (listToJson (Threads.entities (some .null))) = some (Threads.entities none) ∧
      listOfJson? Threads.abridged = some (Threads.entities none) ∧
      listOfJson? (listToJson (Threads.entities none)) = some (Threads.entities none) := by
  intro body
  have hnone : ∀ entity ∈ Threads.entities body, entity.NoNullDefault := by
    refine List.forall_mem_singleton.2 ⟨?_, ?_⟩ <;> simp [body]
  have habridged : listOfJson? Threads.abridged = some (Threads.entities none) := by decide +kernel
  obtain ⟨-, hsame, -⟩ := roundTrips_listToJson (Threads.entities body)
  obtain ⟨hdropped, -, -⟩ := roundTrips_listToJson (Threads.entities (some .null))
  obtain ⟨-, -, hread⟩ := roundTrips_listToJson (Threads.entities none)
  exact ⟨hnone, (hsame hnone).1, hdropped, habridged, (hread _ habridged).2⟩

end EntitySql
