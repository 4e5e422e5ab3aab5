import EntitySql.Binding.Basic
import EntitySql.Compile.Read
import EntitySql.Proofs.Filter.Found

/-!
# Reads find their names

* `Selection.Declared` says that a read has declared fields only, at every depth of its relations.
  Checked requests have (`Selection.declared_ofRequest`), and binding their values changes nothing.
* `PlanFindsNames` says that a plan is compiled without a missing name. `planFindsNames_ofSelection`
  is about the plans of reads, `joinFindsNames_sortJoins` about the joins that only sorting needs.
-/

namespace EntitySql

set_option autoImplicit false

open Compile

variable {schema : Schema} {naming : Naming}

namespace Selection

mutual

/-- The fields of the read are declared on the entity, and those of every relation on its target. -/
def Declared (schema : Schema) (entity : String) : Selection → Prop
  | { fields, manyToOne, oneToMany, .. } =>
    (∀ field ∈ fields, (schema.field? entity field).isSome) ∧
      AllDeclared schema (fun name => (schema.manyToOne? entity name).map (·.targetEntity))
        manyToOne ∧
      AllDeclared schema (fun name => (schema.oneToMany? entity name).map (·.targetEntity))
        oneToMany
termination_by structural selection => selection

/-- The children are declared on the targets of their names, where these have any. -/
def AllDeclared (schema : Schema) (target : String → Option String) : List Selection → Prop
  | [] => True
  | child :: rest =>
    (∀ entity, target child.name = some entity → child.Declared schema entity) ∧
      AllDeclared schema target rest
termination_by structural children => children

end

variable {entity : String} {target : String → Option String}

theorem allDeclared_iff {children : List Selection} : AllDeclared schema target children ↔
    ∀ child ∈ children, ∀ entity, target child.name = some entity → child.Declared schema entity := by
  induction children with
  | nil => simp [AllDeclared]
  | cons child rest ih => rw [AllDeclared, ih, List.forall_mem_cons]

theorem declared_bare (name : String) (args : ReadArgs) :
    Declared schema entity { name, args } := by
  simp [Declared, AllDeclared]

section

variable {selection child : Selection} (h : selection.Declared schema entity)

include h

theorem Declared.withField {field : Field} {name : String}
    (hfield : schema.field? entity name = some field) :
    (selection.withField field.name).Declared schema entity := by
  obtain ⟨-, -, -, -, rfl⟩ := Schema.field?_eq_some hfield
  cases selection
  rw [Declared] at h
  rw [Selection.withField, Declared, List.forall_mem_append, List.forall_mem_singleton, hfield]
  exact ⟨⟨h.1, rfl⟩, h.2⟩

theorem Declared.withManyToOne (hchild : ∀ relation,
    schema.manyToOne? entity child.name = some relation →
      child.Declared schema relation.targetEntity) :
    (selection.withManyToOne child).Declared schema entity := by
  cases selection
  rw [Declared] at h
  rw [Selection.withManyToOne, Declared]
  refine ⟨h.1, allDeclared_iff.2 ?_, h.2.2⟩
  rw [List.forall_mem_append, List.forall_mem_singleton]
  refine ⟨allDeclared_iff.1 h.2.1, fun target htarget => ?_⟩
  obtain ⟨relation, hrelation, rfl⟩ := Option.map_eq_some_iff.1 htarget
  exact hchild relation hrelation

theorem Declared.withOneToMany (hchild : ∀ relation,
    schema.oneToMany? entity child.name = some relation →
      child.Declared schema relation.targetEntity) :
    (selection.withOneToMany child).Declared schema entity := by
  cases selection
  rw [Declared] at h
  rw [Selection.withOneToMany, Declared]
  refine ⟨h.1, h.2.1, allDeclared_iff.2 ?_⟩
  rw [List.forall_mem_append, List.forall_mem_singleton]
  refine ⟨allDeclared_iff.1 h.2.2, fun target htarget => ?_⟩
  obtain ⟨relation, hrelation, rfl⟩ := Option.map_eq_some_iff.1 htarget
  exact hchild relation hrelation

end

/-! ## Checked requests -/

mutual

theorem findsNames_ofRequest (schema : Schema) : (request : ReadRequest) → ∀ entity,
    Result.FindsNames (ofRequest schema entity request)
  | { name, items, args }, entity => by
    rw [ofRequest]
    exact findsNames_addItems schema items entity _

theorem findsNames_addItems (schema : Schema) : (items : List ReadItem) → ∀ entity selection,
    Result.FindsNames (addItems schema entity selection items)
  | [], _, selection => .ok selection
  | .bare name :: rest, entity, selection => by
    rw [addItems]
    refine (schema.findsNames_resolve entity name).bind fun found _ => ?_
    split
    · exact findsNames_addItems schema rest entity _
    · exact findsNames_addItems schema rest entity _
    · exact findsNames_addItems schema rest entity _
    · exact .error nofun
  | .node request :: rest, entity, selection => by
    rw [addItems]
    refine (schema.findsNames_resolve entity request.name).bind fun found _ => ?_
    split
    · exact findsNames_addItems schema rest entity _
    · exact (findsNames_ofRequest schema request _).bind fun child _ =>
        findsNames_addItems schema rest entity _
    · exact (findsNames_ofRequest schema request _).bind fun child _ =>
        findsNames_addItems schema rest entity _
    · exact .error nofun

end

mutual

/-- A checked request reads declared members, and keeps its name if it has one. -/
theorem declared_ofRequest (hschema : schema.WellFormed) : (request : ReadRequest) →
    ∀ {entity : String} {selection : Selection}, ofRequest schema entity request = .ok selection →
      selection.Declared schema entity ∧ (request.name ≠ "" → selection.name = request.name)
  | { name, items, args }, entity, selection, h => by
    rw [ofRequest] at h
    obtain ⟨hdeclared, hname⟩ := declared_addItems hschema items (declared_bare _ args) rfl h
    refine ⟨hdeclared, fun hne => ?_⟩
    rw [hname]
    exact if_neg hne

theorem declared_addItems (hschema : schema.WellFormed) : (items : List ReadItem) →
    ∀ {entity label : String} {before selection : Selection}, before.Declared schema entity →
      before.name = label → addItems schema entity before items = .ok selection →
        selection.Declared schema entity ∧ selection.name = label
  | [], entity, label, before, selection, hbefore, hlabel, h => by
    rw [addItems] at h
    obtain rfl := Except.ok.inj h
    exact ⟨hbefore, hlabel⟩
  | .bare name :: rest, entity, label, before, selection, hbefore, hlabel, h => by
    rw [addItems] at h
    obtain ⟨found, hfound, h⟩ := bind_eq_ok.1 h
    cases found with
    | none => exact absurd h throw_ne_ok
    | some member =>
      rcases Schema.found_of_resolve hfound with ⟨field, rfl, hfield⟩ | ⟨relation, rfl, -⟩ |
        ⟨relation, rfl, -⟩
      · exact declared_addItems hschema rest (hbefore.withField hfield) hlabel h
      · exact declared_addItems hschema rest
          (hbefore.withManyToOne fun relation _ => declared_bare name {}) hlabel h
      · exact declared_addItems hschema rest
          (hbefore.withOneToMany fun relation _ => declared_bare name {}) hlabel h
  | .node request :: rest, entity, label, before, selection, hbefore, hlabel, h => by
    rw [addItems] at h
    obtain ⟨found, hfound, h⟩ := bind_eq_ok.1 h
    cases found with
    | none => exact absurd h throw_ne_ok
    | some member =>
      rcases Schema.found_of_resolve hfound with ⟨field, rfl, hfield⟩ | ⟨relation, rfl, hrelation⟩ |
        ⟨relation, rfl, hrelation⟩
      · exact declared_addItems hschema rest (hbefore.withField hfield) hlabel h
      · obtain ⟨child, hchild, h⟩ := bind_eq_ok.1 h
        obtain ⟨hdeclared, hname⟩ := declared_ofRequest hschema request hchild
        obtain ⟨owner, howner, -, hmem, hnamed⟩ := Schema.manyToOne?_eq_some hrelation
        have hne : request.name ≠ "" := hnamed ▸ (hschema.entity owner howner).named _
          (List.mem_append_left _ (List.mem_append_right _ (List.mem_map_of_mem hmem)))
        refine declared_addItems hschema rest (hbefore.withManyToOne fun other hother => ?_) hlabel h
        rw [hname hne, hrelation] at hother
        exact Option.some.inj hother ▸ hdeclared
      · obtain ⟨child, hchild, h⟩ := bind_eq_ok.1 h
        obtain ⟨hdeclared, hname⟩ := declared_ofRequest hschema request hchild
        obtain ⟨owner, howner, -, hmem, hnamed⟩ := Schema.oneToMany?_eq_some hrelation
        have hne : request.name ≠ "" := hnamed ▸ (hschema.entity owner howner).named _
          (List.mem_append_right _ (List.mem_map_of_mem hmem))
        refine declared_addItems hschema rest (hbefore.withOneToMany fun other hother => ?_) hlabel h
        rw [hname hne, hrelation] at hother
        exact Option.some.inj hother ▸ hdeclared

end

theorem name_bind (selection : Selection) (s : Bindings) :
    (selection.bind.run s).1.name = selection.name := by
  cases selection
  rfl

mutual

/-- Binding changes filters only. -/
theorem declared_bind (schema : Schema) : (selection : Selection) → ∀ {entity : String},
    selection.Declared schema entity → ∀ s, (selection.bind.run s).1.Declared schema entity
  | { name, fields, args, manyToOne, oneToMany }, entity, h, s => by
    rw [Declared] at h
    let filter := (Filter.bindOptional args.filter).run s
    let ones := (bindList manyToOne).run filter.2
    let lists := (bindList oneToMany).run ones.2
    show Declared schema entity ⟨name, fields, { args with filter := filter.1 }, ones.1, lists.1⟩
    rw [Declared]
    exact ⟨h.1, allDeclared_bindList schema manyToOne h.2.1 _,
      allDeclared_bindList schema oneToMany h.2.2 _⟩

theorem allDeclared_bindList (schema : Schema) : (selections : List Selection) →
    ∀ {target : String → Option String}, AllDeclared schema target selections →
      ∀ s, AllDeclared schema target ((bindList selections).run s).1
  | [], _, _, _ => trivial
  | selection :: rest, target, h, s => by
    rw [AllDeclared] at h
    let first := selection.bind.run s
    show AllDeclared schema target (first.1 :: ((bindList rest).run first.2).1)
    rw [AllDeclared]
    refine ⟨fun entity hentity => declared_bind schema selection (h.1 entity ?_) s,
      allDeclared_bindList schema rest h.2 _⟩
    rw [← hentity, name_bind]

end

end Selection

/-! ## Plans -/

theorem ReadPlan.findsNames_filterConditions (h : naming.Covers schema) (entity root : String)
    (filter : Option Filter) : FindsNames (filterConditions schema naming entity root filter) := by
  cases filter with
  | none => exact .pure _
  | some filter => exact (filter.findsNames_compile h entity root).map _

/-- Wherever it is joined, the plan is compiled without a missing name. -/
def PlanFindsNames (schema : Schema) (naming : Naming) (plan : ReadPlan) : Prop :=
  ∀ correlation isList, FindsNames (plan.compile schema naming correlation isList)

/-- Under every source, the join of an entity is compiled without a missing name. -/
def JoinFindsNames (schema : Schema) (naming : Naming) (entity : String) (join : JoinPlan) : Prop :=
  ∀ root isList, FindsNames (ReadPlan.compileJoin schema naming entity root isList join)

theorem SortStep.findsNames_ofKeys (schema : Schema) (entity : String) (keys : List SortKey) :
    Result.FindsNames (ofKeys schema entity keys) := by
  induction keys with
  | nil => exact .ok _
  | cons key rest ih =>
    rw [ofKeys]
    split
    · exact ih
    · split
      · exact ih.bind fun _ _ => .ok _
      · exact .error nofun

section

variable {entity : String}

theorem joinFindsNames_on {relation : String} {requested : Bool} {plan : ReadPlan}
    (hlink : ∃ link, naming.link entity relation = .ok link)
    (hplan : PlanFindsNames schema naming plan) :
    JoinFindsNames schema naming entity (.on relation requested plan) := by
  intro root isList
  rw [ReadPlan.compileJoin]
  exact .ofResult_bind (.of_eq_ok hlink) fun _ _ => (hplan _ _).bind fun _ _ _ _ =>
    FindsNames.map _ (.modifyGet _)

theorem findsNames_compileJoins {joins : List JoinPlan}
    (hjoins : ∀ join ∈ joins, JoinFindsNames schema naming entity join) (root : String)
    (isList : Bool) :
    FindsNames (ReadPlan.compileJoins schema naming entity root isList joins) := by
  induction joins with
  | nil => exact .pure _
  | cons join rest ih =>
    obtain ⟨hjoin, hrest⟩ := List.forall_mem_cons.1 hjoins
    rw [ReadPlan.compileJoins]
    exact (hjoin root isList).bind fun _ _ _ _ => (ih hrest).map _

theorem planFindsNames_refused {fault : Fault} (hfault : fault.kind ≠ .dictionary) :
    PlanFindsNames schema naming (.refused fault) :=
  fun _ _ => .throw hfault

end

section

variable (h : naming.Covers schema)

include h

/-- A node finds its names if its fields are declared. -/
theorem planFindsNames_node {head : ReadHead} (hentity : schema.Declares head.entity)
    (hfields : ∀ field ∈ head.fields, (schema.field? head.entity field).isSome)
    {joins lists : List JoinPlan}
    (hjoins : ∀ join ∈ joins, JoinFindsNames schema naming head.entity join)
    (hlists : ∀ join ∈ lists, JoinFindsNames schema naming head.entity join) :
    PlanFindsNames schema naming (.node head joins lists) := by
  intro correlation isList
  have hdocument : ∀ base output relations, Result.FindsNames
      (ReadPlan.document naming head.entity base output head.fields relations) := by
    intro base output relations
    refine .bind (.mapM fun field hfield => ?_) fun _ _ => .ok _
    obtain ⟨declared, hdeclared⟩ := Option.isSome_iff_exists.1 (hfields field hfield)
    obtain ⟨-, -, -, -, rfl⟩ := Schema.field?_eq_some hdeclared
    exact (Result.FindsNames.of_eq_ok (h.column _ _ _ hdeclared)).bind fun _ _ => .ok _
  have hsorts : ∀ base, Result.FindsNames
      (ReadPlan.sortColumns schema naming head.entity base head.carried) := by
    refine fun base => .mapM fun key _ => ?_
    unfold ReadPlan.sortColumn
    split
    · next name _ =>
      exact (schema.findsNames_field _ _).bind fun field hfield =>
        (Result.FindsNames.of_eq_ok (h.column _ _ _ (Schema.field_eq_ok.1 hfield))).bind
          fun _ _ => .ok _
    · exact .ok _
  rw [ReadPlan.compile]
  refine FindsNames.bind (.modifyGet _) fun root _ _ _ => ?_
  refine .ofResult_bind (.of_eq_ok (h.table _ hentity)) fun table _ => ?_
  refine (findsNames_compileJoins hjoins root false).bind fun joined _ _ _ => ?_
  refine (findsNames_compileJoins hlists root true).bind fun listed _ _ _ => ?_
  refine (ReadPlan.findsNames_filterConditions h _ _ _).bind fun filter _ _ _ => ?_
  refine FindsNames.bind (.modifyGet _) fun base _ _ _ => ?_
  refine FindsNames.bind (.modifyGet _) fun output _ _ _ => ?_
  refine .ofResult_bind (hdocument _ _ _) fun document _ => ?_
  refine .ofResult_bind (hsorts base) fun sorts _ => ?_
  cases isList with
  | false => exact .pure _
  | true => exact FindsNames.map _ (.modifyGet _)

theorem joinFindsNames_joinManyToOne {entity relation : String} {requested : Bool}
    {plan : String → ReadPlan}
    (hplan : ∀ found, schema.manyToOne? entity relation = some found →
      schema.Declares found.targetEntity → PlanFindsNames schema naming (plan found.targetEntity)) :
    JoinFindsNames schema naming entity
      (ReadPlan.joinManyToOne schema entity relation requested plan) := by
  unfold ReadPlan.joinManyToOne
  cases hfound : schema.manyToOne entity relation with
  | error fault => exact fun _ _ => .throw (schema.findsNames_manyToOne _ _ fault hfound)
  | ok found =>
    have hknown := Schema.manyToOne?_of_manyToOne hfound
    obtain ⟨-, -, -, -, rfl⟩ := Schema.manyToOne?_eq_some hknown
    have hreaches := h.manyToOne _ _ _ hknown
    exact joinFindsNames_on hreaches.link (hplan found hknown hreaches.declared)

theorem joinFindsNames_joinOneToMany {entity relation : String} {plan : String → ReadPlan}
    (hplan : ∀ found, schema.oneToMany? entity relation = some found →
      schema.Declares found.targetEntity → PlanFindsNames schema naming (plan found.targetEntity)) :
    JoinFindsNames schema naming entity (ReadPlan.joinOneToMany schema entity relation plan) := by
  unfold ReadPlan.joinOneToMany
  cases hfound : schema.oneToMany entity relation with
  | error fault => exact fun _ _ => .throw (schema.findsNames_oneToMany _ _ fault hfound)
  | ok found =>
    have hknown := Schema.oneToMany?_of_oneToMany hfound
    obtain ⟨-, -, -, -, rfl⟩ := Schema.oneToMany?_eq_some hknown
    have hreaches := h.oneToMany _ _ _ hknown
    exact joinFindsNames_on hreaches.link (hplan found hknown hreaches.declared)

/-- Sort keys may walk through anything: a step that is not a many-to-one is refused. -/
theorem joinFindsNames_sortJoins (depth : Nat) (entity : String) (requested : List String)
    (steps : List SortStep) : ∀ join ∈ ReadPlan.sortJoins schema depth entity requested steps,
      JoinFindsNames schema naming entity join := by
  induction depth generalizing entity requested steps with
  | zero => exact fun join hjoin => absurd hjoin List.not_mem_nil
  | succ depth ih =>
    rw [ReadPlan.sortJoins, List.forall_mem_map]
    intro relation _
    refine joinFindsNames_joinManyToOne h fun found _ hdeclared => ?_
    dsimp only
    split
    · next fault hfault =>
      exact planFindsNames_refused (SortStep.findsNames_ofKeys _ _ _ fault hfault)
    · next behind _ =>
      exact planFindsNames_node h hdeclared (fun field hfield => absurd hfield List.not_mem_nil)
        (ih _ _ _) fun join hjoin => absurd hjoin List.not_mem_nil

mutual

theorem planFindsNames_ofSelection : (selection : Selection) → ∀ {entity : String},
    schema.Declares entity → selection.Declared schema entity → ∀ passing,
      PlanFindsNames schema naming (ReadPlan.ofSelection schema entity passing selection)
  | { name, fields, args, manyToOne, oneToMany }, entity, hentity, hdeclared, passing => by
    rw [Selection.Declared] at hdeclared
    obtain ⟨hfields, hones, hlists⟩ := hdeclared
    rw [ReadPlan.ofSelection]
    split
    · next fault hfault =>
      exact planFindsNames_refused (SortStep.findsNames_ofKeys _ _ _ fault hfault)
    · next steps _ =>
      refine planFindsNames_node h hentity hfields (List.forall_mem_append.2 ⟨?_, ?_⟩) ?_
      · exact joinFindsNames_requestedJoins manyToOne hones steps []
      · exact joinFindsNames_sortJoins h _ _ _ _
      · exact joinFindsNames_requestedLists oneToMany hlists

theorem joinFindsNames_requestedJoins : (children : List Selection) → ∀ {entity : String},
    Selection.AllDeclared schema
        (fun name => (schema.manyToOne? entity name).map (·.targetEntity)) children →
      ∀ steps earlier, ∀ join ∈ ReadPlan.requestedJoins schema entity steps earlier children,
        JoinFindsNames schema naming entity join
  | [], _, _, _, _ => fun join hjoin => absurd hjoin List.not_mem_nil
  | child :: rest, entity, hdeclared, steps, earlier => by
    rw [Selection.AllDeclared] at hdeclared
    rw [ReadPlan.requestedJoins, List.forall_mem_cons]
    refine ⟨joinFindsNames_joinManyToOne h fun found hfound hreached => ?_,
      joinFindsNames_requestedJoins rest hdeclared.2 steps _⟩
    exact planFindsNames_ofSelection child hreached
      (hdeclared.1 _ (by rw [hfound, Option.map_some])) _

theorem joinFindsNames_requestedLists : (children : List Selection) → ∀ {entity : String},
    Selection.AllDeclared schema
        (fun name => (schema.oneToMany? entity name).map (·.targetEntity)) children →
      ∀ join ∈ ReadPlan.requestedLists schema entity children,
        JoinFindsNames schema naming entity join
  | [], _, _ => fun join hjoin => absurd hjoin List.not_mem_nil
  | child :: rest, entity, hdeclared => by
    rw [Selection.AllDeclared] at hdeclared
    rw [ReadPlan.requestedLists, List.forall_mem_cons]
    refine ⟨joinFindsNames_joinOneToMany h fun found hfound hreached => ?_,
      joinFindsNames_requestedLists rest hdeclared.2⟩
    exact planFindsNames_ofSelection child hreached
      (hdeclared.1 _ (by rw [hfound, Option.map_some])) _

end

end

end EntitySql
