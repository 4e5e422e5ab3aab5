import EntitySql.Proofs.Compile.Run
import EntitySql.Proofs.Naming.Layout

/-!
# Names that are found

Computations that may fail, but never for want of a physical name.

* `Result.FindsNames` and `FindsNames` say this of a result and of a computation on a state;
  `Result.FindsNames.bind` and `FindsNames.bind` put it together step by step.
* `Naming.Covers` are the names that computations on declared entities rely on. The naming of a
  well-formed schema has them (`Naming.covers_of_follows`).
-/

namespace EntitySql

set_option autoImplicit false

open Compile

/-- The result is not a missing physical name. -/
def Result.FindsNames {α : Type} (result : Result α) : Prop :=
  ∀ fault, result = .error fault → fault.kind ≠ .dictionary

/-- From no state does the computation fail for want of a physical name. -/
def FindsNames {σ α : Type} (x : ExceptT Fault (StateM σ) α) : Prop :=
  ∀ s, Result.FindsNames (x.run.run s).1

namespace Result.FindsNames

variable {α β : Type}

theorem ok (a : α) : Result.FindsNames (.ok a) := by
  intro fault h
  cases h

theorem error {fault : Fault} (h : fault.kind ≠ .dictionary) :
    Result.FindsNames (.error fault : Result α) := by
  intro other hother
  cases hother
  exact h

theorem of_eq_ok {result : Result α} (h : ∃ a, result = .ok a) : Result.FindsNames result := by
  obtain ⟨a, rfl⟩ := h
  exact ok a

theorem bind {x : Result α} {f : α → Result β} (hx : Result.FindsNames x)
    (hf : ∀ a, x = .ok a → Result.FindsNames (f a)) : Result.FindsNames (x >>= f) := by
  cases x with
  | ok a => exact hf a rfl
  | error fault => exact error (hx fault rfl)

theorem mapM {f : α → Result β} {as : List α} (h : ∀ a ∈ as, Result.FindsNames (f a)) :
    Result.FindsNames (as.mapM f) := by
  intro fault hfault
  obtain ⟨done, a, rest, rfl, -, ha⟩ := exists_of_mapM_eq_error hfault
  exact h a (by simp) fault ha

end Result.FindsNames

namespace FindsNames

variable {σ α β : Type}

theorem pure (a : α) : FindsNames (Pure.pure a : ExceptT Fault (StateM σ) α) :=
  fun _ => .ok a

theorem throw {fault : Fault} (h : fault.kind ≠ .dictionary) :
    FindsNames (throw fault : ExceptT Fault (StateM σ) α) :=
  fun _ => .error h

/-- What only reads and changes the state does not fail. -/
theorem modifyGet (f : σ → α × σ) : FindsNames (modifyGet f : ExceptT Fault (StateM σ) α) :=
  fun s => .ok (f s).1

theorem ofExcept {result : Result α} (h : Result.FindsNames result) :
    FindsNames (MonadExcept.ofExcept result : ExceptT Fault (StateM σ) α) := by
  cases result with
  | ok a => exact pure a
  | error fault => exact throw (h fault rfl)

theorem bind {x : ExceptT Fault (StateM σ) α} {f : α → ExceptT Fault (StateM σ) β}
    (hx : FindsNames x) (hf : ∀ a s s', Yields x s a s' → FindsNames (f a)) :
    FindsNames (x >>= f) := by
  intro s
  have hfirst := hx s
  rw [run_bind]
  cases hrun : x.run.run s with
  | mk result s' =>
    rw [hrun] at hfirst
    cases result with
    | ok a => exact hf a s s' hrun s'
    | error fault => exact .error (hfirst fault rfl)

theorem ofResult_bind {result : Result α} {f : α → Compile β} (h : Result.FindsNames result)
    (hf : ∀ a, result = .ok a → FindsNames (f a)) : FindsNames (ofResult result >>= f) :=
  bind (ofExcept h) fun a _ _ hyields => hf a (yields_ofResult.1 hyields).1

theorem map {x : ExceptT Fault (StateM σ) α} (f : α → β) (hx : FindsNames x) :
    FindsNames (do return f (← x)) :=
  bind hx fun a _ _ _ => pure (f a)

end FindsNames

/-! ## Looking names up -/

namespace Schema

variable (schema : Schema) (entity name : String)

theorem findsNames_entity : Result.FindsNames (schema.entity name) := by
  unfold Schema.entity
  split
  · exact .ok _
  · exact .error nofun

theorem findsNames_resolve : Result.FindsNames (schema.resolve entity name) :=
  (schema.findsNames_entity entity).bind fun owner _ => .ok (owner.member? name)

theorem findsNames_field : Result.FindsNames (schema.field entity name) := by
  refine (schema.findsNames_entity entity).bind fun owner _ => ?_
  cases owner.field? name with
  | some field => exact .ok field
  | none => exact .error nofun

theorem findsNames_manyToOne : Result.FindsNames (schema.manyToOne entity name) := by
  refine (schema.findsNames_entity entity).bind fun owner _ => ?_
  cases owner.manyToOne? name with
  | some relation => exact .ok relation
  | none => exact .error nofun

theorem findsNames_oneToMany : Result.FindsNames (schema.oneToMany entity name) := by
  refine (schema.findsNames_entity entity).bind fun owner _ => ?_
  cases owner.oneToMany? name with
  | some relation => exact .ok relation
  | none => exact .error nofun

theorem oneToMany?_eq_some {schema : Schema} {entity name : String} {relation : OneToMany}
    (h : schema.oneToMany? entity name = some relation) :
    ∃ owner ∈ schema.entities, owner.name = entity ∧ relation ∈ owner.oneToMany ∧
      relation.name = name := by
  obtain ⟨owner, howner, hrelation⟩ := Option.bind_eq_some_iff.1 h
  obtain ⟨hmem, hname⟩ := entity?_eq_some howner
  exact ⟨owner, hmem, hname, Entity.oneToMany?_eq_some hrelation⟩

/-- What a name refers to is what the lookup for its kind finds. -/
theorem found_of_resolve {schema : Schema} {entity name : String} {member : Member}
    (h : schema.resolve entity name = .ok (some member)) :
    (∃ field, member = .field field ∧ schema.field? entity name = some field) ∨
      (∃ relation, member = .manyToOne relation ∧ schema.manyToOne? entity name = some relation) ∨
        ∃ relation, member = .oneToMany relation ∧ schema.oneToMany? entity name = some relation := by
  obtain ⟨owner, howner, hmember⟩ := Option.bind_eq_some_iff.1 (member?_of_resolve h)
  simp only [field?, manyToOne?, oneToMany?, howner, Option.bind_some]
  unfold Entity.member? at hmember
  split at hmember
  · next field hfield => exact .inl ⟨field, (Option.some.inj hmember).symm, hfield⟩
  · split at hmember
    · next relation hrelation =>
      exact .inr (.inl ⟨relation, (Option.some.inj hmember).symm, hrelation⟩)
    · obtain ⟨relation, hrelation, rfl⟩ := Option.map_eq_some_iff.1 hmember
      exact .inr (.inr ⟨relation, rfl, hrelation⟩)

section

variable {schema : Schema} {entity name : String}

theorem resolve_of_member? {member : Member} (h : schema.member? entity name = some member) :
    schema.resolve entity name = .ok (some member) := by
  obtain ⟨owner, howner, hmember⟩ := Option.bind_eq_some_iff.1 h
  rw [resolve, entity_eq_ok.2 howner]
  exact congrArg Except.ok hmember

theorem field?_of_resolve {field : Field}
    (h : schema.resolve entity name = .ok (some (.field field))) :
    schema.field? entity name = some field := by
  rcases found_of_resolve h with ⟨_, heq, hfield⟩ | ⟨_, heq, -⟩ | ⟨_, heq, -⟩
  · exact Member.field.inj heq ▸ hfield
  · cases heq
  · cases heq

theorem manyToOne?_of_resolve {relation : ManyToOne}
    (h : schema.resolve entity name = .ok (some (.manyToOne relation))) :
    schema.manyToOne? entity name = some relation := by
  rcases found_of_resolve h with ⟨_, heq, -⟩ | ⟨_, heq, hrelation⟩ | ⟨_, heq, -⟩
  · cases heq
  · exact Member.manyToOne.inj heq ▸ hrelation
  · cases heq

end

end Schema

/-- Some entity of the schema has the name. -/
def Schema.Declares (schema : Schema) (entity : String) : Prop :=
  ∃ owner ∈ schema.entities, owner.name = entity

namespace Naming

/-- A relation has its join, and what it leads to is declared. -/
structure Reaches (naming : Naming) (schema : Schema) (entity relation target : String) : Prop where
  link : ∃ link, naming.link entity relation = .ok link
  declared : schema.Declares target

/-- A naming with all names that a declared entity and its members need. -/
structure Covers (naming : Naming) (schema : Schema) : Prop where
  table : ∀ entity, schema.Declares entity → ∃ table, naming.table entity = .ok table
  column : ∀ entity name field, schema.field? entity name = some field →
    ∃ column, naming.column entity field.name = .ok column
  manyToOne : ∀ entity name relation, schema.manyToOne? entity name = some relation →
    naming.Reaches schema entity relation.name relation.targetEntity
  oneToMany : ∀ entity name relation, schema.oneToMany? entity name = some relation →
    naming.Reaches schema entity relation.name relation.targetEntity

theorem covers_of_follows {naming : Naming} {schema : Schema} {layout : Layout}
    (hschema : schema.WellFormed) (h : naming.Follows schema layout) : naming.Covers schema where
  table := by
    rintro entity ⟨owner, howner, rfl⟩
    exact ⟨_, h.table owner howner⟩
  column := by
    intro entity name field hfield
    obtain ⟨owner, howner, rfl, hmem, -⟩ := Schema.field?_eq_some hfield
    exact ⟨_, h.column owner howner field hmem⟩
  manyToOne := by
    intro entity name relation hrelation
    obtain ⟨owner, howner, rfl, hmem, -⟩ := Schema.manyToOne?_eq_some hrelation
    obtain ⟨target, htarget, hname, -⟩ := hschema.manyToOne_target howner hmem
    exact ⟨⟨_, h.manyToOne owner howner relation hmem⟩, target, htarget, hname⟩
  oneToMany := by
    intro entity name relation hrelation
    obtain ⟨owner, howner, rfl, hmem, -⟩ := Schema.oneToMany?_eq_some hrelation
    obtain ⟨target, htarget, hname, inverse, -, -, hinverse⟩ :=
      hschema.oneToMany_target howner hmem
    have hlink : (layout.inverseLink? schema relation).isSome := by
      rw [Layout.inverseLink?, hinverse]
      rfl
    obtain ⟨link, hlink⟩ := Option.isSome_iff_exists.1 hlink
    exact ⟨⟨link, h.oneToMany owner howner relation hmem link hlink⟩, target, htarget, hname⟩

end Naming

end EntitySql
