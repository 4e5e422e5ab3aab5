import EntitySql.Compile.Operation
import EntitySql.Proofs.Migration.Plan
import EntitySql.Proofs.Operation.Sites
import EntitySql.Proofs.Read.Found

/-!
# Operations find their names

Operations on declared entities fail for many reasons, but for no want of a physical name.

* `findsNames_compileInsert`, `findsNames_compileUpdate` and `findsNames_compileDelete` are about
  statements that write, `Record.findsNames_bind` about their data.
* `Operation.findsNames_planSelect` and its like are about the plans of operations.
* `plan_findsNames` is about all operations on declared entities, and about migrations.
-/

namespace EntitySql

set_option autoImplicit false

open Compile

variable {schema : Schema} {naming : Naming}

/-! ## Writes -/

section

variable (h : naming.Covers schema)

include h

theorem findsNames_assignment (entity : String) (entry : String × BoundValue) :
    Result.FindsNames (assignment schema naming entity entry) := by
  obtain ⟨name, value⟩ := entry
  refine (schema.findsNames_resolve entity name).bind fun found hfound => ?_
  cases found with
  | none => exact .error fun h => by cases h
  | some member =>
    rcases Schema.found_of_resolve hfound with ⟨field, rfl, hfield⟩ | ⟨relation, rfl, hrelation⟩ |
      ⟨relation, rfl, -⟩
    · cases value with
      | param index => exact (Result.FindsNames.of_eq_ok (h.column _ _ _ hfield)).bind fun _ _ => .ok _
      | record entries => exact .error fun h => by cases h
      | list records => exact .error fun h => by cases h
    · have hindex : Result.FindsNames (targetParameter entity name relation value) := by
        unfold targetParameter
        split
        · exact .ok _
        · split
          · exact .ok _
          · exact .error fun h => by cases h
        · exact .error fun h => by cases h
      exact hindex.bind fun _ _ =>
        (Result.FindsNames.of_eq_ok (h.manyToOne _ _ _ hrelation).link).bind fun _ _ =>
          (schema.findsNames_field _ _).bind fun _ _ => .ok _
    · exact .error fun h => by cases h

theorem findsNames_assignments (entity : String) (record : BoundRecord) :
    Result.FindsNames (assignments schema naming entity record) :=
  .mapM fun entry _ => findsNames_assignment h entity entry

theorem findsNames_insertRows (entity : String) (records : List BoundRecord)
    (before : Option (List String)) :
    Result.FindsNames (insertRows schema naming entity before records) := by
  induction records generalizing before with
  | nil => exact .ok _
  | cons record rest ih =>
    refine (findsNames_assignments h entity record).bind fun pairs _ => ?_
    have hrest := (ih (some (pairs.map Prod.fst))).bind
      (f := fun later => .ok (later.1, pairs.map Prod.snd :: later.2)) fun _ _ => .ok _
    cases before with
    | none => exact hrest
    | some expected =>
      by_cases hsame : expected = pairs.map Prod.fst
      · simp only [hsame, ne_eq, not_true_eq_false, if_false]
        exact hrest
      · simp only [hsame, ne_eq, not_false_eq_true, if_true]
        exact .error nofun

variable {entity : String} (hentity : schema.Declares entity)

include hentity

theorem findsNames_compileInsert (records : List BoundRecord) :
    Result.FindsNames (compileInsert schema naming entity records) := by
  refine (findsNames_insertRows h entity records none).bind fun rows _ => ?_
  refine (Result.FindsNames.of_eq_ok (h.table entity hentity)).bind fun table _ => ?_
  unfold Insert.checked
  split_ifs
  · exact .error nofun
  · exact .error nofun
  · split
    · exact .error nofun
    · exact .ok _

theorem findsNames_compileTouched (filter : Option Filter) :
    Result.FindsNames (compileTouched schema naming entity filter) :=
  (FindsNames.ofResult_bind (.of_eq_ok (h.table entity hentity)) fun source _ =>
    (filter.getD {}).findsNames_compile h entity source) {}

theorem findsNames_compileUpdate (record : BoundRecord) (filter : Option Filter) :
    Result.FindsNames (compileUpdate schema naming entity record filter) := by
  refine (findsNames_assignments h entity record).bind fun pairs _ => ?_
  refine (findsNames_compileTouched h hentity filter).bind fun condition _ => ?_
  refine (Result.FindsNames.of_eq_ok (h.table entity hentity)).bind fun table _ => ?_
  unfold Update.checked
  split_ifs
  · exact .error nofun
  · exact .ok _

theorem findsNames_compileDelete (filter : Option Filter) :
    Result.FindsNames (compileDelete schema naming entity filter) :=
  (findsNames_compileTouched h hentity filter).bind fun _ _ =>
    (Result.FindsNames.of_eq_ok (h.table entity hentity)).bind fun _ _ => .ok _

end

/-! ## Binding records -/

namespace Record

theorem findsNames_bindDatum (value : Json) : FindsNames (bindDatum value) :=
  FindsNames.map _ (.modifyGet (Bindings.push value))

theorem findsNames_bindManyToOne (entity name : String) (relation : ManyToOne) (value : Json) :
    FindsNames (bindManyToOne entity name relation value) := by
  unfold bindManyToOne
  split
  · exact findsNames_bindDatum _
  · split
    · exact (findsNames_bindDatum _).map _
    · exact .pure _
  · exact .throw nofun

mutual

theorem findsNames_bind (schema : Schema) : (members : List (String × Json)) → ∀ entity,
    FindsNames (bind schema entity members)
  | [], _ => .pure _
  | (name, value) :: rest, entity => by
    rw [bind]
    refine FindsNames.bind (.ofExcept (schema.findsNames_resolve entity name)) fun found _ _ _ => ?_
    cases found with
    | none => exact .bind (.throw nofun) fun _ _ _ _ => (findsNames_bind schema rest entity).map _
    | some member =>
      cases member with
      | field field =>
        exact (findsNames_bindDatum _).bind fun _ _ _ _ => (findsNames_bind schema rest entity).map _
      | manyToOne relation =>
        exact (findsNames_bindManyToOne _ _ _ _).bind fun _ _ _ _ =>
          (findsNames_bind schema rest entity).map _
      | oneToMany relation =>
        exact (findsNames_bindOneToMany schema value entity name relation.targetEntity).bind
          fun _ _ _ _ => (findsNames_bind schema rest entity).map _

theorem findsNames_bindOneToMany (schema : Schema) : (value : Json) → ∀ entity name target,
    FindsNames (bindOneToMany schema entity name target value)
  | .arr items, entity, name, target => by
    rw [bindOneToMany]
    exact (findsNames_bindItems schema items entity name target).map _
  | .null, _, _, _ => .throw nofun
  | .bool _, _, _, _ => .throw nofun
  | .int _, _, _, _ => .throw nofun
  | .double _, _, _, _ => .throw nofun
  | .str _, _, _, _ => .throw nofun
  | .obj _, _, _, _ => .throw nofun

theorem findsNames_bindItems (schema : Schema) : (items : List Json) → ∀ entity name target,
    FindsNames (bindItems schema entity name target items)
  | [], _, _, _ => .pure _
  | .obj members :: rest, entity, name, target => by
    rw [bindItems]
    exact (findsNames_bind schema members target).bind fun _ _ _ _ =>
      (findsNames_bindItems schema rest entity name target).map _
  | .null :: _, _, _, _ => .throw nofun
  | .bool _ :: _, _, _, _ => .throw nofun
  | .int _ :: _, _, _, _ => .throw nofun
  | .double _ :: _, _, _, _ => .throw nofun
  | .str _ :: _, _, _, _ => .throw nofun
  | .arr _ :: _, _, _, _ => .throw nofun

end

theorem findsNames_bindAll (schema : Schema) (entity : String) (records : List Record) :
    FindsNames (bindAll schema entity records) := by
  induction records with
  | nil => exact .pure _
  | cons record rest ih =>
    exact (findsNames_bind schema record entity).bind fun _ _ _ _ => ih.map _

end Record

/-! ## Operations -/

namespace Operation

variable (h : naming.Covers schema)

include h

theorem findsNames_argument (entity table : String) (target : AggregateTarget) :
    Result.FindsNames (target.argument schema naming entity table) := by
  unfold AggregateTarget.argument
  split
  · exact .ok _
  · split
    · exact .ok _
    · exact (schema.findsNames_field _ _).bind fun field hfield =>
        (Result.FindsNames.of_eq_ok (h.column _ _ _ (Schema.field_eq_ok.1 hfield))).bind
          fun _ _ => .ok _

section

variable {entity : String} (hentity : schema.Declares entity)

include hentity

theorem findsNames_planSelect (hschema : schema.WellFormed) (request : ReadRequest) (one : Bool) :
    Result.FindsNames (planSelect schema naming entity request one) := by
  refine (Selection.findsNames_ofRequest schema request entity).bind fun selection hchecked => ?_
  have hdeclared := (Selection.declared_ofRequest hschema request hchecked).1
  have hplan := planFindsNames_ofSelection h _ hentity
    (Selection.declared_bind schema selection hdeclared {}) []
  refine Result.FindsNames.bind ?_ fun query _ => .ok _
  cases one with
  | false => exact hplan none true {}
  | true => exact (hplan none false).map _ {}

theorem findsNames_planAggregate (function : Aggregate) (target : AggregateTarget)
    (filter : Option Filter) :
    Result.FindsNames (planAggregate schema naming entity function target filter) := by
  have hquery : ∀ filter, FindsNames
      (compileAggregate schema naming entity function target filter) := fun filter =>
    .ofResult_bind (.of_eq_ok (h.table entity hentity)) fun table _ =>
      .ofResult_bind (findsNames_argument h entity table target) fun _ _ =>
        (ReadPlan.findsNames_filterConditions h entity table filter).map _
  exact (hquery _ {}).bind fun _ _ => .ok _

theorem findsNames_planInsert (data : List Record) :
    Result.FindsNames (planInsert schema naming entity data) := by
  unfold planInsert
  split
  · exact .ok _
  · exact (Record.findsNames_bindAll schema entity data {}).bind fun records _ =>
      (findsNames_compileInsert h hentity records).bind fun _ _ => .ok _

theorem findsNames_planUpdate (data : Record) (filter : Option Filter) :
    Result.FindsNames (planUpdate schema naming entity data filter) :=
  (Record.findsNames_bind schema data entity {}).bind fun record _ =>
    (findsNames_compileUpdate h hentity record _).bind fun _ _ => .ok _

theorem findsNames_planDelete (filter : Option Filter) :
    Result.FindsNames (planDelete schema naming entity filter) :=
  (findsNames_compileDelete h hentity _).bind fun _ _ => .ok _

end

theorem findsNames_plan (hschema : schema.WellFormed) {operation : Operation}
    (hoperation : schema.Declares operation.entity) :
    Result.FindsNames (operation.plan schema naming) := by
  cases operation with
  | select entity request one => exact findsNames_planSelect h hoperation hschema request one
  | aggregate entity function target filter =>
    exact findsNames_planAggregate h hoperation function target filter
  | insert entity data => exact findsNames_planInsert h hoperation [data]
  | insertMany entity data => exact findsNames_planInsert h hoperation data
  | update entity data filter => exact findsNames_planUpdate h hoperation data filter
  | delete entity filter => exact findsNames_planDelete h hoperation filter

end Operation

/-- Under the naming of an accepted schema, whatever it overrides, no operation on a declared entity
fails for want of a physical name, and a migration can be planned against every catalog. -/
theorem plan_findsNames {entities : List Entity} {overrides : Assoc String}
    (hschema : Schema.ofEntities entities = .ok schema)
    (hnaming : Naming.ofSchema overrides schema = .ok naming) :
    (∀ operation : Operation, (∃ entity ∈ entities, entity.name = operation.entity) →
      ∀ fault, operation.plan schema naming = .error fault → fault.kind ≠ .dictionary) ∧
      ∀ catalog, ∃ definitions, migrationPlan schema naming catalog = .ok definitions := by
  obtain ⟨rfl, hwell⟩ := Schema.ofEntities_eq_ok.1 hschema
  have hfollows := Naming.follows_of_ofSchema hwell hnaming
  refine ⟨fun operation hoperation => ?_, fun catalog => ?_⟩
  · exact Operation.findsNames_plan (Naming.covers_of_follows hwell hfollows) hwell hoperation
  · obtain ⟨parts, -, hplan⟩ := migrationPlan_eq_parts hwell hfollows catalog
    exact ⟨_, hplan⟩

/-- The books by the names of their publishers, which no book has. -/
def Library.booksByPublisher : Operation :=
  .select "Book" {
    items := [.bare "title", .node { name := "writer", items := [.bare "fullName"] }]
    args := { order := some [⟨["publisher", "name"], "ob.publisher.name", .asc⟩] } } false

theorem plan_findsNames_booksByPublisher :
    Schema.ofEntities Library.entities = .ok Library.schema ∧
      Naming.ofSchema [] Library.schema = .ok Library.naming ∧
      (∃ fault, Library.booksByPublisher.plan Library.schema Library.naming = .error fault ∧
        fault.kind ≠ .dictionary) ∧
      ∃ definitions, migrationPlan Library.schema Library.naming {} = .ok definitions := by
  obtain ⟨hplan, hmigration⟩ := plan_findsNames Library.ofEntities_entities Library.ofSchema_schema
  have hfails : Library.booksByPublisher.plan Library.schema Library.naming =
      .error (.name (.sortPath "Book" ["publisher", "name"] "publisher")) := by
    rfl
  exact ⟨Library.ofEntities_entities, Library.ofSchema_schema,
    ⟨_, hfails, hplan _ ⟨_, List.mem_cons_of_mem _ (List.mem_cons_self ..), rfl⟩ _ hfails⟩,
    hmigration {}⟩

end EntitySql
