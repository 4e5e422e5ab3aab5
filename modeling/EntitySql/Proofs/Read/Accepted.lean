import EntitySql.Proofs.Filter.Faults
import EntitySql.Proofs.Read.Checked
import EntitySql.Proofs.Read.Lifted

/-!
# Reads that are accepted

Which checked reads are compiled: those in which the filter of every node is, and in which every sort key
of every node has a path of many-to-ones that ends in a field.

* `Schema.Sorts` is about such paths, `Selection.HasNode` are the nodes of a read with their entities.
* `Decides` says that a computation succeeds if a statement is true, and fails with a fault of a kind if
  it is not. `Result.Decides` says this of a result.
* `SortStep.decides_ofKeys` and `sorts_carried_iff` are what one node checks of the paths that pass
  through it: the first step of the long ones, and the field of the others.
* `ReadPlan.decides_compile` puts this together over a plan, `Selection.compile_succeeds_iff` for reads.
-/

namespace EntitySql

set_option autoImplicit false

open Compile

/-! ## Computations that decide -/

section

variable {α β : Type} {P P' : Prop} {Q : Fault → Prop}

/-- The result is a fault of the kind just if the statement is false. -/
def Result.Decides (result : Result α) (P : Prop) (Q : Fault → Prop) : Prop :=
  match result with
  | .ok _ => P
  | .error fault => ¬ P ∧ Q fault

/-- From every state, the computation fails with a fault of the kind just if the statement is false. -/
def Decides (x : Compile α) (P : Prop) (Q : Fault → Prop) : Prop :=
  ∀ s, Result.Decides (x.run.run s).1 P Q

namespace Result.Decides

theorem congr {result : Result α} (h : result.Decides P Q) (hiff : P ↔ P') :
    result.Decides P' Q := by
  rw [← propext hiff]
  exact h

theorem mono {result : Result α} {Q' : Fault → Prop} (h : result.Decides P Q)
    (hQ : ∀ fault, Q fault → Q' fault) : result.Decides P Q' := by
  cases result with
  | ok a => exact h
  | error fault => exact ⟨h.1, hQ fault h.2⟩

theorem bind {x : Result α} {f : α → Result β} (hx : x.Decides P Q)
    (hf : ∀ a, x = .ok a → (f a).Decides P' Q) : (x >>= f).Decides (P ∧ P') Q := by
  cases x with
  | error fault => exact ⟨fun hboth => hx.1 hboth.1, hx.2⟩
  | ok a =>
    have hP : P := hx
    exact (hf a rfl).congr (and_iff_right hP).symm

theorem mapM {f : α → Result β} {R : α → Prop} {as : List α}
    (hf : ∀ a ∈ as, (f a).Decides (R a) Q) : (as.mapM f).Decides (∀ a ∈ as, R a) Q := by
  induction as with
  | nil => exact List.forall_mem_nil R
  | cons a as ih =>
    obtain ⟨hfirst, hrest⟩ := List.forall_mem_cons.1 hf
    rw [List.mapM_cons, propext List.forall_mem_cons]
    refine hfirst.bind fun b _ => ?_
    have hpure : ∀ bs, (pure (b :: bs) : Result (List β)).Decides True Q := fun bs => trivial
    exact ((ih hrest).bind fun bs _ => hpure bs).congr (and_iff_left trivial)

end Result.Decides

namespace Decides

theorem congr {x : Compile α} (h : Decides x P Q) (hiff : P ↔ P') : Decides x P' Q :=
  fun s => (h s).congr hiff

theorem pure (a : α) : Decides (Pure.pure a : Compile α) True Q :=
  fun _ => trivial

theorem throw {fault : Fault} (hP : ¬ P) (hfault : Q fault) :
    Decides (throw fault : Compile α) P Q :=
  fun _ => ⟨hP, hfault⟩

theorem fresh (stem : String) : Decides (Compile.fresh stem) True Q :=
  fun _ => trivial

theorem ofResult {result : Result α} (h : result.Decides P Q) :
    Decides (Compile.ofResult result) P Q := by
  cases result with
  | ok a => exact fun _ => h
  | error fault => exact fun _ => h

theorem ofResult_ok {result : Result α} (h : ∃ a, result = .ok a) :
    Decides (Compile.ofResult result) True Q := by
  obtain ⟨a, rfl⟩ := h
  exact pure a

theorem bind {x : Compile α} {f : α → Compile β} (hx : Decides x P Q)
    (hf : ∀ a, Decides (f a) P' Q) : Decides (x >>= f) (P ∧ P') Q := by
  intro s
  have hfirst := hx s
  rw [run_bind]
  generalize x.run.run s = run at hfirst
  obtain ⟨result, s₁⟩ := run
  cases result with
  | error fault => exact ⟨fun hboth => hfirst.1 hboth.1, hfirst.2⟩
  | ok a =>
    have hP : P := hfirst
    exact (hf a s₁).congr (and_iff_right hP).symm

/-- A step that cannot fail does not matter. -/
theorem bind_of_true {x : Compile α} {f : α → Compile β} (hx : Decides x True Q)
    (hf : ∀ a, Decides (f a) P Q) : Decides (x >>= f) P Q :=
  (hx.bind hf).congr (and_iff_right trivial)

theorem map {x : Compile α} (hx : Decides x P Q) (f : α → β) :
    Decides (do return f (← x)) P Q :=
  (hx.bind fun a => pure (f a)).congr (and_iff_left trivial)

theorem of_reports {x : Compile α} {fault? : Option Fault} {R : α → Prop}
    (h : Reports x fault? R) (hP : fault? = none ↔ P) (hfault : ¬ P → ∀ fault, Q fault) :
    Decides x P Q := by
  intro s
  have hs := h s
  cases fault? with
  | none =>
    obtain ⟨a, ha, -⟩ := hs
    rw [ha]
    exact hP.1 rfl
  | some fault =>
    have hfalse : ¬ P := fun hP' => Option.some_ne_none fault (hP.2 hP')
    have hrun : (x.run.run s).1 = .error fault := hs
    rw [hrun]
    exact ⟨hfalse, hfault hfalse fault⟩

theorem succeeds_iff {x : Compile α} (h : Decides x P Q) (s : Aliases) : Succeeds x s ↔ P := by
  have hs := h s
  rw [Succeeds, ← exists_congr fun _ => fst_eq_ok]
  cases hrun : (x.run.run s).1 with
  | ok a =>
    rw [hrun] at hs
    exact iff_of_true ⟨a, rfl⟩ hs
  | error fault =>
    rw [hrun] at hs
    refine iff_of_false ?_ hs.1
    rintro ⟨_, ⟨⟩⟩

theorem exists_error {x : Compile α} (h : Decides x P Q) (hP : ¬ P) (s : Aliases) :
    ∃ fault, (x.run.run s).1 = .error fault ∧ Q fault := by
  have hs := h s
  cases hrun : (x.run.run s).1 with
  | ok a =>
    rw [hrun] at hs
    exact absurd hs hP
  | error fault =>
    rw [hrun] at hs
    exact ⟨fault, rfl, hs.2⟩

end Decides

end

/-! ## Sort paths -/

/-- A path from an entity through many-to-ones to a field of the last entity. -/
inductive Schema.Sorts (schema : Schema) : String → List String → Prop
  | field {entity name : String} {field : Field} (declared : schema.field? entity name = some field) :
    Sorts schema entity [name]
  | relation {entity relation : String} {names : List String} {found : ManyToOne}
      (declared : schema.manyToOne? entity relation = some found)
      (behind : Sorts schema found.targetEntity names) :
      Sorts schema entity (relation :: names)

variable {schema : Schema} {naming : Naming} {entity : String}

theorem Schema.not_sorts_nil : ¬ schema.Sorts entity [] := nofun

theorem Schema.sorts_singleton {name : String} :
    schema.Sorts entity [name] ↔ (schema.field? entity name).isSome := by
  constructor
  · intro h
    cases h with
    | field declared =>
      rw [declared]
      rfl
    | relation _ behind => exact absurd behind not_sorts_nil
  · intro h
    obtain ⟨field, hfield⟩ := Option.isSome_iff_exists.1 h
    exact .field hfield

theorem Schema.sorts_cons_cons {relation name : String} {names : List String} :
    schema.Sorts entity (relation :: name :: names) ↔ ∃ found,
      schema.manyToOne? entity relation = some found ∧
        schema.Sorts found.targetEntity (name :: names) := by
  constructor
  · intro h
    cases h with
    | relation declared behind => exact ⟨_, declared, behind⟩
  · rintro ⟨found, declared, behind⟩
    exact .relation declared behind

/-- Taking the steps of keys checks the first name of each path that has more than one. -/
theorem SortStep.decides_ofKeys (schema : Schema) (entity : String) (keys : List SortKey) :
    (ofKeys schema entity keys).Decides
      (∀ key ∈ keys, ∀ relation name names, key.path = relation :: name :: names →
        (schema.manyToOne? entity relation).isSome) (·.kind = .nameResolution) := by
  induction keys with
  | nil => exact List.forall_mem_nil _
  | cons key rest ih =>
    rw [ofKeys, ofKey?, propext List.forall_mem_cons]
    cases hpath : key.path with
    | nil =>
      refine ih.congr (and_iff_right ?_).symm
      rintro _ _ _ ⟨⟩
    | cons relation names =>
      cases names with
      | nil =>
        refine ih.congr (and_iff_right ?_).symm
        rintro _ _ _ ⟨⟩
      | cons name names =>
        have hfirst : (∀ first second others,
            relation :: name :: names = first :: second :: others →
              (schema.manyToOne? entity first).isSome) ↔
            (schema.manyToOne? entity relation).isSome := by
          constructor
          · intro h
            exact h relation name names rfl
          · rintro h _ _ _ ⟨⟩
            exact h
        rw [hfirst]
        dsimp only
        split
        · next hfound =>
          refine ((ih.bind fun steps _ => ?_).congr (and_iff_left trivial)).congr
            (and_iff_right hfound).symm
          exact trivial
        · next hmissing => exact ⟨fun hboth => hmissing hboth.1, rfl⟩

/-- A key that a join is handed is left of one that the node carries. -/
theorem JoinsPlanned.exists_above {children : List Selection} {carried : List SortKey}
    {joins : List PlannedJoin} (h : JoinsPlanned children carried joins) {join : PlannedJoin}
    (hjoin : join ∈ joins) {key : SortKey} (hkey : key ∈ join.keys) :
    ∃ above ∈ carried, above.behind? join.child.name = some key := by
  obtain ⟨before, after, hjoins⟩ := List.append_of_mem hjoin
  rw [h.keys before join after hjoins] at hkey
  split at hkey
  · cases hkey
  · exact List.mem_filterMap.1 hkey

/-- What is joined is what is requested, and after it relations that a sort key walks through, of which
nothing is read. -/
theorem JoinsPlanned.children_eq {children : List Selection} {carried : List SortKey}
    {joins : List PlannedJoin} (h : JoinsPlanned children carried joins) :
    ∃ added : List String, joins.map (·.child) = children ++ added.map ({ name := · }) ∧
      ∀ relation ∈ added, ∃ key ∈ carried, (key.behind? relation).isSome := by
  obtain ⟨added, -, hadded, hjoined⟩ := h.joined
  refine ⟨added, ?_, fun relation hrelation => ((hadded relation).1 hrelation).2⟩
  have hchildren := congrArg (List.map Prod.fst) hjoined
  simp only [List.map_append, List.map_map, Function.comp_def, List.map_id'] at hchildren
  exact hchildren

/-- The paths that a node carries lead to fields if what is left of them for the joins does, and the
paths of one name are fields of the node. -/
theorem sorts_carried_iff {children : List Selection} {carried : List SortKey}
    {joins : List PlannedJoin} (hplanned : JoinsPlanned children carried joins)
    (hpaths : ∀ key ∈ carried, key.path ≠ [])
    (hsteps : ∀ key ∈ carried, ∀ relation name names, key.path = relation :: name :: names →
      (schema.manyToOne? entity relation).isSome) :
    (∀ key ∈ carried, schema.Sorts entity key.path) ↔
      (∀ join ∈ joins, ∀ found, schema.manyToOne? entity join.child.name = some found →
        ∀ key ∈ join.keys, schema.Sorts found.targetEntity key.path) ∧
      ∀ key ∈ carried, ∀ name, key.path = [name] → (schema.field? entity name).isSome := by
  constructor
  · intro h
    refine ⟨fun join hjoin found hfound key hkey => ?_, fun key hkey name hname => ?_⟩
    · obtain ⟨above, habove, hbehind⟩ := hplanned.exists_above hjoin hkey
      obtain ⟨name, names, hpath, rfl⟩ := SortKey.behind?_eq_some.1 hbehind
      have hsorts := h above habove
      rw [hpath, Schema.sorts_cons_cons] at hsorts
      obtain ⟨other, hother, hleft⟩ := hsorts
      obtain rfl := Option.some.inj (hfound.symm.trans hother)
      exact hleft
    · have hsorts := h key hkey
      rwa [hname, Schema.sorts_singleton] at hsorts
  · rintro ⟨hjoins, hfields⟩ key hkey
    match hpath : key.path with
    | [] => exact absurd hpath (hpaths key hkey)
    | [name] => exact Schema.sorts_singleton.2 (hfields key hkey name hpath)
    | relation :: name :: names =>
      obtain ⟨found, hfound⟩ :=
        Option.isSome_iff_exists.1 (hsteps key hkey relation name names hpath)
      obtain ⟨before, join, after, rfl, rfl, hhanded, -⟩ :=
        hplanned.handed key hkey relation _ (SortKey.behind?_eq_some.2 ⟨name, names, hpath, rfl⟩)
      have hjoin : join ∈ before ++ join :: after :=
        List.mem_append_right _ (List.mem_cons_self ..)
      exact Schema.sorts_cons_cons.2 ⟨found, hfound, hjoins join hjoin found hfound _ hhanded⟩

/-! ## Nodes -/

namespace Selection

/-- The nodes of a read on an entity: the entities that they read, and their arguments. -/
inductive HasNode (schema : Schema) : String → Selection → String → ReadArgs → Prop
  | root {entity : String} {selection : Selection} :
    HasNode schema entity selection entity selection.args
  | manyToOne {entity owner : String} {selection child : Selection} {found : ManyToOne}
      {args : ReadArgs} (requested : child ∈ selection.manyToOne)
      (declared : schema.manyToOne? entity child.name = some found)
      (below : HasNode schema found.targetEntity child owner args) :
      HasNode schema entity selection owner args
  | oneToMany {entity owner : String} {selection child : Selection} {found : OneToMany}
      {args : ReadArgs} (requested : child ∈ selection.oneToMany)
      (declared : schema.oneToMany? entity child.name = some found)
      (below : HasNode schema found.targetEntity child owner args) :
      HasNode schema entity selection owner args

/-- Every node of a read has a property. -/
def Every (schema : Schema) (p : String → ReadArgs → Prop) (entity : String)
    (selection : Selection) : Prop :=
  ∀ owner args, HasNode schema entity selection owner args → p owner args

theorem every_iff {p : String → ReadArgs → Prop} {selection : Selection} :
    Every schema p entity selection ↔ p entity selection.args ∧
      (∀ child ∈ selection.manyToOne, ∀ found, schema.manyToOne? entity child.name = some found →
        Every schema p found.targetEntity child) ∧
      ∀ child ∈ selection.oneToMany, ∀ found, schema.oneToMany? entity child.name = some found →
        Every schema p found.targetEntity child := by
  constructor
  · intro h
    refine ⟨h _ _ .root, fun child hchild found hfound owner args hnode => ?_,
      fun child hchild found hfound owner args hnode => ?_⟩
    · exact h owner args (.manyToOne hchild hfound hnode)
    · exact h owner args (.oneToMany hchild hfound hnode)
  · rintro ⟨hroot, hones, hlists⟩ owner args hnode
    cases hnode with
    | root => exact hroot
    | manyToOne hchild hfound hbelow => exact hones _ hchild _ hfound owner args hbelow
    | oneToMany hchild hfound hbelow => exact hlists _ hchild _ hfound owner args hbelow

theorem every_bare {p : String → ReadArgs → Prop} (name : String) :
    Every schema p entity { name } ↔ p entity {} := by
  rw [every_iff]
  exact and_iff_left ⟨nofun, nofun⟩

/-! ## Checked reads -/

/-- The read is what a request is checked to, and its sort keys have paths. -/
structure Fits (schema : Schema) (entity : String) (selection : Selection) : Prop where
  split : ∃ request, Splits schema entity request selection
  ordered : selection.Each ReadArgs.Ordered

theorem fits_bare (name : String) : Fits schema entity { name } :=
  ⟨⟨{ name := "" }, .node rfl rfl .nil .nil rfl⟩, each_bare name ReadArgs.ordered_default⟩

namespace Fits

variable {selection child : Selection} (h : selection.Fits schema entity)

include h

theorem field {name : String} (hname : name ∈ selection.fields) :
    ∃ field, schema.field? entity name = some field := by
  obtain ⟨⟨request, -, hfields, -⟩, -⟩ := h
  rw [hfields] at hname
  obtain ⟨item, -, hitem⟩ := List.mem_filterMap.1 hname
  unfold ReadItem.field? at hitem
  split at hitem
  · next field hmember =>
    obtain rfl := Option.some.inj hitem
    exact ⟨field, Schema.field?_of_resolve (Schema.resolve_of_member? hmember)⟩
  · cases hitem

theorem manyToOne (hchild : child ∈ selection.manyToOne) :
    ∃ found, schema.manyToOne? entity child.name = some found ∧
      child.Fits schema found.targetEntity := by
  have hordered := eachAll_iff.1 (each_iff.1 h.ordered).2.1 child hchild
  obtain ⟨⟨request, -, -, hones, -⟩, -⟩ := h
  obtain ⟨⟨target, item⟩, hitem, hmeets⟩ := exists_of_mem_right hones hchild
  obtain ⟨item, -, hitem⟩ := List.mem_filterMap.1 hitem
  unfold ReadItem.manyToOne? at hitem
  split at hitem
  · next found hmember =>
    cases hitem
    have hfound := Schema.manyToOne?_of_resolve (Schema.resolve_of_member? hmember)
    cases hmeets with
    | bare name => exact ⟨found, hfound, fits_bare _⟩
    | node hname hsplits => exact ⟨found, hname ▸ hfound, ⟨_, hsplits⟩, hordered⟩
  · cases hitem

theorem oneToMany (hchild : child ∈ selection.oneToMany) :
    ∃ found, schema.oneToMany? entity child.name = some found ∧
      child.Fits schema found.targetEntity := by
  have hordered := eachAll_iff.1 (each_iff.1 h.ordered).2.2 child hchild
  obtain ⟨⟨request, -, -, -, hlists⟩, -⟩ := h
  obtain ⟨⟨target, item⟩, hitem, hmeets⟩ := exists_of_mem_right hlists hchild
  obtain ⟨item, -, hitem⟩ := List.mem_filterMap.1 hitem
  unfold ReadItem.oneToMany? at hitem
  split at hitem
  · next found hmember =>
    cases hitem
    obtain ⟨_, ⟨⟩, hfound⟩ : ∃ relation, Member.oneToMany found = .oneToMany relation ∧
        schema.oneToMany? entity item.name = some relation := by
      have hresolve := Schema.resolve_of_member? hmember
      rcases Schema.found_of_resolve hresolve with ⟨_, heq, -⟩ | ⟨_, heq, -⟩ | hrelation
      · cases heq
      · cases heq
      · exact hrelation
    cases hmeets with
    | bare name => exact ⟨found, hfound, fits_bare _⟩
    | node hname hsplits => exact ⟨found, hname ▸ hfound, ⟨_, hsplits⟩, hordered⟩
  · cases hitem

end Fits

end Selection

/-! ## Arguments -/

namespace ReadArgs

/-- The filter of a node is compiled on its entity, if there is one. -/
def FilterCompiles (schema : Schema) (naming : Naming) (owner : String) (args : ReadArgs) : Prop :=
  ∀ filter ∈ args.filter, Succeeds (filter.compileOn schema naming owner none) {}

/-- The sort keys of a node have paths from its entity to fields. -/
def PathsSort (schema : Schema) (owner : String) (args : ReadArgs) : Prop :=
  ∀ key ∈ args.sortKeys, schema.Sorts owner key.path

/-- Nothing is wrong with the arguments of a node. -/
def Valid (schema : Schema) (naming : Naming) (owner : String) (args : ReadArgs) : Prop :=
  args.FilterCompiles schema naming owner ∧ args.PathsSort schema owner

theorem valid_default (owner : String) : Valid schema naming owner {} :=
  ⟨nofun, nofun⟩

end ReadArgs

theorem Schema.decides_field (schema : Schema) (entity name : String) :
    (schema.field entity name).Decides (schema.field? entity name).isSome
      (·.kind = .nameResolution) := by
  rw [field, Schema.entity, field?]
  cases schema.entity? entity with
  | none => exact ⟨Bool.false_ne_true, rfl⟩
  | some owner =>
    rw [Option.bind_some]
    dsimp only [bind, Except.bind]
    cases owner.field? name with
    | none => exact ⟨Bool.false_ne_true, rfl⟩
    | some field => exact rfl

namespace ReadPlan

variable {Q : Fault → Prop}

section

variable (h : naming.Covers schema)

include h

/-- The value of a sort key that is a name has to be that of a field. -/
theorem decides_sortColumns (entity base : String) (keys : List SortKey) :
    (sortColumns schema naming entity base keys).Decides
      (∀ key ∈ keys, ∀ name, key.path = [name] → (schema.field? entity name).isSome)
      (·.kind = .nameResolution) := by
  refine .mapM fun key _ => ?_
  unfold sortColumn
  split
  · next name hpath =>
    have hiff : (∀ other, key.path = [other] → (schema.field? entity other).isSome) ↔
        (schema.field? entity name).isSome := by
      constructor
      · intro hfields
        exact hfields name hpath
      · intro hfield other hother
        obtain rfl := (List.cons.inj (hpath.symm.trans hother)).1
        exact hfield
    refine ((schema.decides_field entity name).bind fun field hfield => ?_).congr
      ((and_iff_left trivial).trans hiff.symm)
    obtain ⟨column, hcolumn⟩ := h.column _ _ _ (Schema.field_eq_ok.1 hfield)
    rw [hcolumn]
    exact trivial
  · next hlong =>
    intro name hname
    exact absurd hname (hlong name)

theorem decides_document (base output : String) {fields : List String}
    (hfields : ∀ name ∈ fields, ∃ field, schema.field? entity name = some field)
    (relations : List String) :
    (document naming entity base output fields relations).Decides True Q := by
  have hcolumns : Result.Decides (fields.mapM fun field => do
      return (Expr.column base (← naming.column entity field), some field))
        (∀ name ∈ fields, True) Q := by
    refine .mapM fun name hname => ?_
    obtain ⟨field, hfield⟩ := hfields name hname
    obtain ⟨column, hcolumn⟩ := h.column _ _ _ hfield
    obtain ⟨-, -, -, -, rfl⟩ := Schema.field?_eq_some hfield
    rw [hcolumn]
    exact trivial
  have hdocument : ∀ query : Query, (pure query : Result Query).Decides True Q :=
    fun query => trivial
  exact (hcolumns.bind fun columns _ => hdocument _).congr
    (iff_of_true ⟨fun _ _ => trivial, trivial⟩ trivial)

theorem decides_filterConditions (hentity : schema.Declares entity) {F : Prop} {args : ReadArgs}
    (hF : F → args.FilterCompiles schema naming entity) (root : String) :
    Decides (filterConditions schema naming entity root args.filter)
      (args.FilterCompiles schema naming entity) (F → ·.kind = .nameResolution) := by
  cases hfilter : args.filter with
  | none =>
    refine (Decides.pure []).congr (iff_of_true trivial fun filter hmem => ?_)
    rw [hfilter] at hmem
    cases hmem
  | some filter =>
    have hcompiles : args.FilterCompiles schema naming entity ↔
        Succeeds (filter.compileOn schema naming entity none) {} := by
      rw [ReadArgs.FilterCompiles, hfilter]
      exact ⟨fun hall => hall filter rfl, fun hone other hother => Option.some.inj hother ▸ hone⟩
    have hreports := filter.reports_compile h entity root hentity
    have hon := (filter.reports_compileOn h hentity none).succeeds_iff {}
    refine (Decides.of_reports hreports (hon.symm.trans hcompiles.symm) ?_).map _
    intro hfails fault hholds
    exact absurd (hF hholds) hfails

/-- A node decides what its joins and its filter do, and whether its short sort keys are fields. -/
theorem decides_node {head : ReadHead} {joins lists : List JoinPlan} {ones many filters : Prop}
    (hentity : schema.Declares head.entity)
    (hfields : ∀ name ∈ head.fields, ∃ field, schema.field? head.entity name = some field)
    (hones : ∀ root, Decides (compileJoins schema naming head.entity root false joins) ones Q)
    (hmany : ∀ root, Decides (compileJoins schema naming head.entity root true lists) many Q)
    (hfilters : ∀ root,
      Decides (filterConditions schema naming head.entity root head.args.filter) filters Q)
    (hQ : ∀ fault, fault.kind = .nameResolution → Q fault)
    (correlation : Option Correlation) (isList : Bool) :
    Decides ((ReadPlan.node head joins lists).compile schema naming correlation isList)
      (ones ∧ many ∧ filters ∧ ∀ key ∈ head.carried, ∀ name, key.path = [name] →
        (schema.field? head.entity name).isSome) Q := by
  rw [compile]
  refine .bind_of_true (.fresh _) fun root => ?_
  refine .bind_of_true (.ofResult_ok (h.table _ hentity)) fun table => ?_
  refine (hones root).bind fun joined => (hmany root).bind fun listed => ?_
  refine (hfilters root).bind fun conditions => ?_
  refine .bind_of_true (.fresh _) fun base => .bind_of_true (.fresh _) fun output => ?_
  refine .bind_of_true (.ofResult (decides_document h base output hfields _)) fun document => ?_
  have hsorts := (decides_sortColumns h head.entity base head.carried).mono hQ
  have hend : ∀ query : Query, Decides (if isList then do return collect head query (← fresh "agg")
      else return query) True Q := by
    intro query
    cases isList with
    | false => exact .pure _
    | true => exact (Decides.fresh _).map _
  exact ((Decides.ofResult hsorts).bind fun sorts => hend _).congr (and_iff_left trivial)

end

/-- The join of a relation that has a link decides what is behind it, before the rest. -/
theorem decides_joins_cons {relation root : String} {requested isList : Bool} {plan : ReadPlan}
    {rest : List JoinPlan} {P P' : Prop} (hlink : ∃ link, naming.link entity relation = .ok link)
    (hplan : ∀ correlation, Decides (plan.compile schema naming correlation isList) P Q)
    (hrest : Decides (compileJoins schema naming entity root isList rest) P' Q) :
    Decides (compileJoins schema naming entity root isList (.on relation requested plan :: rest))
      (P ∧ P') Q := by
  rw [compileJoins, compileJoin]
  refine .bind (.bind_of_true (.ofResult_ok hlink) fun link => ?_) fun first => hrest.map _
  exact ((hplan _).bind fun query => (Decides.fresh _).map _).congr (and_iff_left trivial)

end ReadPlan

/-! ## Reads -/

/-- What a plan is compiled for: a read that fits a declared entity, sort keys with paths, and filters
that are compiled if an assumption holds. -/
structure Selection.Ready (schema : Schema) (naming : Naming) (F : Prop) (entity : String)
    (passing : List SortKey) (selection : Selection) : Prop where
  declared : schema.Declares entity
  fits : selection.Fits schema entity
  paths : ∀ key ∈ passing, key.path ≠ []
  filters : F → Every schema (fun owner args => args.FilterCompiles schema naming owner) entity
    selection

namespace Selection.Ready

variable {F : Prop} {passing : List SortKey} {selection : Selection}
  (h : selection.Ready schema naming F entity passing)

include h

theorem carried_ne_nil : ∀ key ∈ (selection.head entity passing).carried, key.path ≠ [] :=
  List.forall_mem_append.2 ⟨h.paths, (each_iff.1 h.fits.ordered).1⟩

/-- A node is ready for its joins if the first step of each long path is a many-to-one. -/
theorem join (hcovers : naming.Covers schema) {joins : List PlannedJoin}
    (hplanned : JoinsPlanned selection.manyToOne (selection.head entity passing).carried joins)
    (hsteps : ∀ key ∈ (selection.head entity passing).carried, ∀ relation name names,
      key.path = relation :: name :: names → (schema.manyToOne? entity relation).isSome)
    {join : PlannedJoin} (hjoin : join ∈ joins) :
    ∃ found, schema.manyToOne? entity join.child.name = some found ∧
      join.child.Ready schema naming F found.targetEntity join.keys := by
  have hkeys : ∀ key ∈ join.keys, key.path ≠ [] := by
    intro key hkey
    obtain ⟨above, -, hbehind⟩ := hplanned.exists_above hjoin hkey
    obtain ⟨name, names, -, rfl⟩ := SortKey.behind?_eq_some.1 hbehind
    exact List.cons_ne_nil _ _
  obtain ⟨added, hchildren, hadded⟩ := hplanned.children_eq
  have hchild : join.child ∈ joins.map (·.child) := List.mem_map_of_mem hjoin
  rw [hchildren, List.mem_append] at hchild
  rcases hchild with hrequested | hbare
  · obtain ⟨found, hfound, hfits⟩ := h.fits.manyToOne hrequested
    have hdeclared := (hcovers.manyToOne _ _ _ hfound).declared
    exact ⟨found, hfound, hdeclared, hfits, hkeys,
      fun hF => (every_iff.1 (h.filters hF)).2.1 _ hrequested found hfound⟩
  · obtain ⟨relation, hrelation, hbare⟩ := List.mem_map.1 hbare
    obtain ⟨key, hkey, hbehind⟩ := hadded relation hrelation
    obtain ⟨rest, hrest⟩ := Option.isSome_iff_exists.1 hbehind
    obtain ⟨name, names, hpath, -⟩ := SortKey.behind?_eq_some.1 hrest
    obtain ⟨found, hfound⟩ := Option.isSome_iff_exists.1 (hsteps key hkey relation name names hpath)
    have hdeclared := (hcovers.manyToOne _ _ _ hfound).declared
    rw [← hbare]
    exact ⟨found, hfound, hdeclared, fits_bare relation, hkeys,
      fun _ => (every_bare relation).2 nofun⟩

theorem list (hcovers : naming.Covers schema) {child : Selection}
    (hchild : child ∈ selection.oneToMany) :
    ∃ found, schema.oneToMany? entity child.name = some found ∧
      child.Ready schema naming F found.targetEntity [] := by
  obtain ⟨found, hfound, hfits⟩ := h.fits.oneToMany hchild
  have hdeclared := (hcovers.oneToMany _ _ _ hfound).declared
  exact ⟨found, hfound, hdeclared, hfits, nofun,
    fun hF => (every_iff.1 (h.filters hF)).2.2 _ hchild found hfound⟩

end Selection.Ready

namespace ReadPlan

/-- What a node decides by itself and through its joins is that everything below it is valid, and that the
sort keys that pass through it have paths to fields. -/
theorem valid_iff {passing : List SortKey} {selection : Selection} {joins : List PlannedJoin}
    (hplanned : JoinsPlanned selection.manyToOne (selection.head entity passing).carried joins)
    (hpaths : ∀ key ∈ (selection.head entity passing).carried, key.path ≠ [])
    (hsteps : ∀ key ∈ (selection.head entity passing).carried, ∀ relation name names,
      key.path = relation :: name :: names → (schema.manyToOne? entity relation).isSome) :
    ((∀ join ∈ joins, ∀ found, schema.manyToOne? entity join.child.name = some found →
        Selection.Every schema (fun owner args => args.Valid schema naming owner)
          found.targetEntity join.child ∧
          ∀ key ∈ join.keys, schema.Sorts found.targetEntity key.path) ∧
      (∀ child ∈ selection.oneToMany, ∀ found, schema.oneToMany? entity child.name = some found →
        Selection.Every schema (fun owner args => args.Valid schema naming owner)
          found.targetEntity child) ∧
      selection.args.FilterCompiles schema naming entity ∧
      ∀ key ∈ (selection.head entity passing).carried, ∀ name, key.path = [name] →
        (schema.field? entity name).isSome) ↔
    Selection.Every schema (fun owner args => args.Valid schema naming owner) entity selection ∧
      ∀ key ∈ passing, schema.Sorts entity key.path := by
  have hcarried : (∀ key ∈ (selection.head entity passing).carried, schema.Sorts entity key.path) ↔
      (∀ key ∈ passing, schema.Sorts entity key.path) ∧ selection.args.PathsSort schema entity :=
    List.forall_mem_append
  have hsorts := sorts_carried_iff hplanned hpaths hsteps
  obtain ⟨added, hchildren, -⟩ := hplanned.children_eq
  -- what is joined for sorting only has one node, of which nothing is asked
  have hones : (∀ join ∈ joins, ∀ found, schema.manyToOne? entity join.child.name = some found →
        Selection.Every schema (fun owner args => args.Valid schema naming owner)
          found.targetEntity join.child) ↔
      ∀ child ∈ selection.manyToOne, ∀ found,
        schema.manyToOne? entity child.name = some found →
          Selection.Every schema (fun owner args => args.Valid schema naming owner)
            found.targetEntity child := by
    rw [← List.forall_mem_map (f := PlannedJoin.child) (P := fun child : Selection => ∀ found,
      schema.manyToOne? entity child.name = some found → Selection.Every schema
        (fun owner args => args.Valid schema naming owner) found.targetEntity child), hchildren,
      List.forall_mem_append, List.forall_mem_map]
    exact and_iff_left fun relation _ found _ =>
      (Selection.every_bare relation).2 (ReadArgs.valid_default _)
  rw [Selection.every_iff, ReadArgs.Valid, ← hones]
  constructor
  · rintro ⟨hjoins, hlists, hfilter, hfields⟩
    obtain ⟨hpassing, hown⟩ := hcarried.1 (hsorts.2
      ⟨fun join hjoin found hfound => (hjoins join hjoin found hfound).2, hfields⟩)
    exact ⟨⟨⟨hfilter, hown⟩, fun join hjoin found hfound => (hjoins join hjoin found hfound).1,
      hlists⟩, hpassing⟩
  · rintro ⟨⟨⟨hfilter, hown⟩, hjoins, hlists⟩, hpassing⟩
    obtain ⟨hkeys, hfields⟩ := hsorts.1 (hcarried.2 ⟨hpassing, hown⟩)
    exact ⟨fun join hjoin found hfound =>
      ⟨hjoins join hjoin found hfound, hkeys join hjoin found hfound⟩, hlists, hfilter, hfields⟩

mutual

/-- The plan of a read is compiled if every node below it is valid and the sort keys that pass through it
have paths to fields. Otherwise a name is not found, unless it is a filter that fails. -/
theorem decides_compile (h : naming.Covers schema) {F : Prop} : (plan : ReadPlan) →
    ∀ {entity : String} {passing : List SortKey} {selection : Selection},
      plan = ofSelection schema entity passing selection →
        selection.Ready schema naming F entity passing → ∀ correlation isList,
          Decides (plan.compile schema naming correlation isList)
            (Selection.Every schema (fun owner args => args.Valid schema naming owner) entity
              selection ∧ ∀ key ∈ passing, schema.Sorts entity key.path)
            (F → ·.kind = .nameResolution)
  | .refused fault, entity, passing, selection, hplan, hready, correlation, isList => by
    have hdecides :=
      SortStep.decides_ofKeys schema entity (selection.head entity passing).carried
    cases hsteps : SortStep.ofKeys schema entity (selection.head entity passing).carried with
    | ok steps => cases hplan.trans (ofSelection_eq_node hsteps)
    | error other =>
      cases hplan.trans (ofSelection_eq_refused hsteps)
      rw [hsteps] at hdecides
      rw [compile]
      refine .throw ?_ fun _ => hdecides.2
      rintro ⟨hvalid, hpassing⟩
      refine hdecides.1 fun key hkey relation name names hpath => ?_
      have hsorts : schema.Sorts entity key.path := by
        rcases List.mem_append.1 hkey with hmem | hmem
        · exact hpassing key hmem
        · exact (Selection.every_iff.1 hvalid).1.2 key hmem
      rw [hpath, Schema.sorts_cons_cons] at hsorts
      obtain ⟨found, hfound, -⟩ := hsorts
      exact Option.isSome_iff_exists.2 ⟨found, hfound⟩
  | .node head joins lists, entity, passing, selection, hplan, hready, correlation, isList => by
    have hdecides :=
      SortStep.decides_ofKeys schema entity (selection.head entity passing).carried
    cases hsteps : SortStep.ofKeys schema entity (selection.head entity passing).carried with
    | error fault => cases hplan.trans (ofSelection_eq_refused hsteps)
    | ok steps =>
      rw [hsteps] at hdecides
      obtain ⟨rfl, hjoins, hlists⟩ := ReadPlan.node.inj (hplan.trans (ofSelection_eq_node hsteps))
      have hplanned :=
        joinsPlanned_plannedJoins selection.manyToOne (selection.head entity passing).carried
      have hones := fun root => decides_compileJoins h joins hjoins
        (fun join hjoin => hready.join h hplanned hdecides hjoin) root
      have hmany := fun root => decides_compileLists h lists hlists
        (fun child hchild => hready.list h hchild) root
      have hfilters := decides_filterConditions h hready.declared
        (fun hF => (Selection.every_iff.1 (hready.filters hF)).1)
      exact (decides_node h hready.declared (fun name hname => hready.fits.field hname) hones hmany
        hfilters (fun fault hkind _ => hkind) correlation isList).congr
          (valid_iff hplanned hready.carried_ne_nil hdecides)

theorem decides_compileJoins (h : naming.Covers schema) {F : Prop} : (joins : List JoinPlan) →
    ∀ {entity : String} {planned : List PlannedJoin},
      joins = planned.map (PlannedJoin.plan schema entity) →
        (∀ join ∈ planned, ∃ found, schema.manyToOne? entity join.child.name = some found ∧
          join.child.Ready schema naming F found.targetEntity join.keys) → ∀ root,
            Decides (compileJoins schema naming entity root false joins)
              (∀ join ∈ planned, ∀ found, schema.manyToOne? entity join.child.name = some found →
                Selection.Every schema (fun owner args => args.Valid schema naming owner)
                  found.targetEntity join.child ∧
                ∀ key ∈ join.keys, schema.Sorts found.targetEntity key.path)
              (F → ·.kind = .nameResolution)
  | [], _, planned, hplan, _, root => by
    obtain rfl := List.map_eq_nil_iff.1 hplan.symm
    rw [compileJoins]
    exact (Decides.pure []).congr (iff_of_true trivial (List.forall_mem_nil _))
  | .unknown fault :: rest, entity, planned, hplan, hready, root => by
    obtain ⟨join, others, rfl, hjoin, hothers⟩ := List.map_eq_cons_iff.1 hplan.symm
    obtain ⟨⟨found, hfound, -⟩, -⟩ := List.forall_mem_cons.1 hready
    rw [PlannedJoin.plan, joinManyToOne, Schema.manyToOne_of_manyToOne? hfound] at hjoin
    cases hjoin
  | .on relation requested plan :: rest, entity, planned, hplan, hready, root => by
    obtain ⟨join, others, rfl, hjoin, hothers⟩ := List.map_eq_cons_iff.1 hplan.symm
    obtain ⟨found, hfound, rfl, hbehind⟩ := PlannedJoin.plan_eq_on hjoin
    obtain ⟨⟨same, hsame, hfirst⟩, hrest⟩ := List.forall_mem_cons.1 hready
    obtain rfl := Option.some.inj (hfound.symm.trans hsame)
    obtain ⟨-, -, -, -, hname⟩ := Schema.manyToOne?_eq_some hfound
    have hlink := (h.manyToOne _ _ _ hfound).link
    rw [hname] at hlink
    refine (decides_joins_cons hlink (fun correlation => decides_compile h plan hbehind hfirst
      correlation false) (decides_compileJoins h rest hothers.symm hrest root)).congr ?_
    rw [List.forall_mem_cons]
    refine and_congr_left' ⟨fun hvalid other hother => ?_, fun hvalid => hvalid found hfound⟩
    obtain rfl := Option.some.inj (hfound.symm.trans hother)
    exact hvalid

theorem decides_compileLists (h : naming.Covers schema) {F : Prop} : (lists : List JoinPlan) →
    ∀ {entity : String} {children : List Selection},
      lists = children.map (Selection.listPlan schema entity) →
        (∀ child ∈ children, ∃ found, schema.oneToMany? entity child.name = some found ∧
          child.Ready schema naming F found.targetEntity []) → ∀ root,
            Decides (compileJoins schema naming entity root true lists)
              (∀ child ∈ children, ∀ found, schema.oneToMany? entity child.name = some found →
                Selection.Every schema (fun owner args => args.Valid schema naming owner)
                  found.targetEntity child)
              (F → ·.kind = .nameResolution)
  | [], _, children, hplan, _, root => by
    obtain rfl := List.map_eq_nil_iff.1 hplan.symm
    rw [compileJoins]
    exact (Decides.pure []).congr (iff_of_true trivial (List.forall_mem_nil _))
  | .unknown fault :: rest, entity, children, hplan, hready, root => by
    obtain ⟨child, others, rfl, hchild, hothers⟩ := List.map_eq_cons_iff.1 hplan.symm
    obtain ⟨⟨found, hfound, -⟩, -⟩ := List.forall_mem_cons.1 hready
    rw [Selection.listPlan, joinOneToMany, Schema.oneToMany_of_oneToMany? hfound] at hchild
    cases hchild
  | .on relation requested plan :: rest, entity, children, hplan, hready, root => by
    obtain ⟨child, others, rfl, hchild, hothers⟩ := List.map_eq_cons_iff.1 hplan.symm
    obtain ⟨found, hfound, rfl, hbehind⟩ := Selection.listPlan_eq_on hchild
    obtain ⟨⟨same, hsame, hfirst⟩, hrest⟩ := List.forall_mem_cons.1 hready
    obtain rfl := Option.some.inj (hfound.symm.trans hsame)
    obtain ⟨-, -, -, -, hname⟩ := Schema.oneToMany?_eq_some hfound
    have hlink := (h.oneToMany _ _ _ hfound).link
    rw [hname] at hlink
    refine (decides_joins_cons hlink (fun correlation => decides_compile h plan hbehind hfirst
      correlation true) (decides_compileLists h rest hothers.symm hrest root)).congr ?_
    rw [List.forall_mem_cons]
    refine and_congr_left' ⟨fun hvalid other hother => ?_, fun hvalid => ?_⟩
    · obtain rfl := Option.some.inj (hfound.symm.trans hother)
      exact hvalid.1
    · exact ⟨hvalid found hfound, List.forall_mem_nil _⟩

end

end ReadPlan

/-- A checked read of a declared entity is compiled if and only if the filter of every node is compiled on
the entity of this node, and every sort key of every node has a path of many-to-ones from there to a field.
With filters that are compiled, a path of another kind is an undeclared name. The sort keys have paths, as
those of requests that are read have (`ReadRequest.ordered_ofJson?`). -/
theorem Selection.compile_succeeds_iff {entities : List Entity} {overrides : Assoc String}
    (hschema : Schema.ofEntities entities = .ok schema)
    (hnaming : Naming.ofSchema overrides schema = .ok naming) {owner : Entity}
    (howner : owner ∈ entities) {request : ReadRequest} (hordered : request.Each ReadArgs.Ordered)
    {selection : Selection} (hselection : ofRequest schema owner.name request = .ok selection)
    (s : Aliases) :
    (Succeeds (selection.compile schema naming owner.name) s ↔
      ∀ entity args, HasNode schema owner.name selection entity args →
        args.FilterCompiles schema naming entity ∧ args.PathsSort schema entity) ∧
    ((∀ entity args, HasNode schema owner.name selection entity args →
        args.FilterCompiles schema naming entity) →
      (∃ entity args, HasNode schema owner.name selection entity args ∧
        ¬ args.PathsSort schema entity) →
      ∃ fault, ((selection.compile schema naming owner.name).run.run s).1 = .error fault ∧
        fault.kind = .nameResolution) := by
  obtain ⟨rfl, hwellFormed⟩ := Schema.ofEntities_eq_ok.1 hschema
  have hcovers := Naming.covers_of_follows hwellFormed
    (Naming.follows_of_ofSchema hwellFormed hnaming)
  obtain ⟨-, -, -, hsplits⟩ := ofRequest_splits hschema owner.name request
  have hfits : selection.Fits ⟨entities⟩ owner.name :=
    ⟨⟨request, (hsplits selection hselection).2⟩,
      each_ofRequest ReadArgs.ordered_default request hordered hselection⟩
  have hready : selection.Ready ⟨entities⟩ naming
      (Every ⟨entities⟩ (fun entity args => args.FilterCompiles ⟨entities⟩ naming entity) owner.name
        selection) owner.name [] :=
    ⟨⟨owner, howner, rfl⟩, hfits, nofun, id⟩
  have hdecides := ReadPlan.decides_compile hcovers _ rfl hready none true
  have hnone : ∀ key ∈ ([] : List SortKey), Schema.Sorts ⟨entities⟩ owner.name key.path := nofun
  refine ⟨(hdecides.succeeds_iff s).trans (and_iff_left hnone), ?_⟩
  rintro hfilters ⟨entity, args, hnode, hunsorted⟩
  obtain ⟨fault, hfault, hkind⟩ :=
    hdecides.exists_error (fun hvalid => hunsorted (hvalid.1 entity args hnode).2) s
  exact ⟨fault, hfault, hkind hfilters⟩

/-- Books in the order of a path. -/
def Library.booksBy (path : List String) : ReadRequest where
  name := "books"
  items := [.bare "title"]
  args := { order := some [.ofPath path .asc] }

/-- Books are sorted by the names of their writers, and not by the writers themselves. -/
theorem Selection.compile_succeeds_iff_booksBy :
    ∃ byName byWriter,
      ofRequest Library.schema "Book" (Library.booksBy ["writer", "fullName"]) = .ok byName ∧
      Succeeds (byName.compile Library.schema Library.naming "Book") {} ∧
      ofRequest Library.schema "Book" (Library.booksBy ["writer"]) = .ok byWriter ∧
      ∃ fault, ((byWriter.compile Library.schema Library.naming "Book").run.run {}).1 =
        .error fault ∧ fault.kind = .nameResolution := by
  have hbook : Library.entities[1] ∈ Library.entities := List.getElem_mem _
  have hordered : ∀ {path}, path ≠ [] → (Library.booksBy path).Each ReadArgs.Ordered := by
    intro path hpath
    refine ⟨List.forall_mem_singleton.2 hpath, trivial, trivial⟩
  -- the only node of the read is the root
  have hnodes : ∀ path entity args, HasNode Library.schema "Book"
      { name := "books", fields := ["title"], args := (Library.booksBy path).args } entity args →
        entity = "Book" ∧ args = (Library.booksBy path).args := by
    intro path entity args hnode
    cases hnode with
    | root => exact ⟨rfl, rfl⟩
    | manyToOne hchild => cases hchild
    | oneToMany hchild => cases hchild
  refine ⟨_, _, rfl, ?_, rfl, ?_⟩
  · refine (Selection.compile_succeeds_iff Library.ofEntities_entities Library.ofSchema_schema hbook
      (hordered (List.cons_ne_nil "writer" ["fullName"])) rfl {}).1.2 ?_
    intro entity args hnode
    obtain ⟨rfl, rfl⟩ := hnodes _ entity args hnode
    exact ⟨nofun, List.forall_mem_singleton.2 (.relation rfl (.field rfl))⟩
  · refine (Selection.compile_succeeds_iff Library.ofEntities_entities Library.ofSchema_schema hbook
      (hordered (List.cons_ne_nil "writer" [])) rfl {}).2 ?_ ?_
    · intro entity args hnode
      obtain ⟨rfl, rfl⟩ := hnodes _ entity args hnode
      exact nofun
    · refine ⟨_, _, .root, fun hsorts => ?_⟩
      have hwriter := Schema.sorts_singleton.1 (hsorts _ (List.mem_singleton_self _))
      cases hwriter

end EntitySql
