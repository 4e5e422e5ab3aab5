import EntitySql.Proofs.Read.PageNode
import EntitySql.Proofs.Read.Soundness

/-!
# Pages of compiled reads

The query that a read is compiled to lists, at every node that is a list, the documents of a page of
the rows that its filter keeps, in the order of its sort keys. The page is cut from these rows in the
order in which the engine delivers them.

* `joinsOffer_joinManyToOne` and `joinsOffer_joinOneToMany` join one relation to a node.
* `joinsOffer_sortJoins` joins the relations that only sort paths walk through.
* `Selection.delivers` compiles a checked read, by induction on its nodes.
* `Selection.lists_compile` puts the checks, the naming and the compilation together.

The page is cut below the level on which the documents are sorted. With a limit or an offset it is
not, in general, that part of all sorted rows: see `Library.not_slices_latestBooks`.
-/

namespace EntitySql

set_option autoImplicit false

open Compile

variable {V : Type} {engine : Engine V} {db : Instance V} {schema : Schema} {naming : Naming}
  {layout : Layout}

/-! ## One relation -/

/-- Compiled, the plan gives one row beside each row above, with a document and with values. -/
def JoinDelivers (engine : Engine V) (db : Instance V) (schema : Schema) (naming : Naming)
    (isList : Bool) (table relation : String) (link : Link) (plan : ReadPlan)
    (shows : Tuple V → Json → Prop) (values : Tuple V → Assoc V) : Prop :=
  ∀ (outside : Outside V) scope s s' query, outside.link = link →
    outside.Visible db scope s table →
      Yields (plan.compile schema naming (some outside.correlation) isList) s query s' →
        s ≤ s' ∧ Gives (query.eval engine db scope) fun rows => ∃ row json,
          orAbsent engine (query.exports db) rows = [row] ∧ shows outside.tuple json ∧
            Cells.Holds engine row [(relation, json)] (values outside.tuple)

/-- The values of sort keys behind a child. -/
def Selection.cellsBehind (engine : Engine V) (db : Instance V) (schema : Schema) (layout : Layout)
    (entity : String) (child : Selection) (keys : List SortKey) (tuple : Tuple V) : Assoc V :=
  keys.map fun key => (key.label, child.behind engine db schema layout entity child.name tuple
    fun target partner => Selection.sortValue engine db schema layout key.path target child partner)

/-- A many-to-one gives the document of the row that it reads, or none of the values either. -/
theorem Delivers.one {child : Selection} {keys : List SortKey} {plan : ReadPlan} {entity : String}
    {relation : ManyToOne} (h : Delivers engine db schema naming layout false relation.targetEntity
      keys child plan) (hfound : schema.manyToOne? entity child.name = some relation)
    (hlength : ∀ tuple, (db.partners engine (layout.link entity relation) tuple).length ≤ 1) :
    JoinDelivers engine db schema naming false (layout.table relation.targetEntity) child.name
      (layout.link entity relation) plan
      (fun tuple json =>
        (child.args.partner? engine db schema layout entity relation tuple).elim (json = .null)
          fun partner => child.Shows engine db schema layout relation.targetEntity partner json)
      (child.cellsBehind engine db schema layout entity keys) := by
  rintro ⟨_, source, tuple⟩ scope s s' query rfl hvisible hyields
  obtain ⟨hle, hexports, hgives⟩ := h (some ⟨layout.link entity relation, source, tuple⟩) scope s s'
    query (fun outside houtside => Option.some.inj houtside ▸ hvisible) hyields
  refine ⟨hle, hgives.mono ?_⟩
  rintro rows ⟨page, hpage, hrows⟩
  have hpartner := ReadArgs.Page.eq_partner hpage (hlength tuple)
  have hvalues : ∀ value ∈ child.cellsBehind engine db schema layout entity keys tuple, ∃ key ∈ keys,
      value = (key.label, (child.args.partner? engine db schema layout entity relation tuple).elim
        engine.null fun partner => Selection.sortValue engine db schema layout key.path
          relation.targetEntity child partner) := by
    intro value hvalue
    obtain ⟨key, hkey, rfl⟩ := List.mem_map.1 hvalue
    rw [Selection.behind, hfound]
    exact ⟨key, hkey, rfl⟩
  cases hfirst : child.args.partner? engine db schema layout entity relation tuple with
  | none =>
    rw [hfirst, Option.toList_none] at hpartner
    subst hpartner
    cases hrows
    refine ⟨_, .null, rfl, ?_, ?_, fun value hvalue => ?_⟩
    · simp only [hfirst, Option.elim_none]
    · rw [List.forall_mem_singleton, hexports]
      exact ⟨_, List.mem_cons_self .., engine.toJson_null⟩
    · obtain ⟨key, hkey, rfl⟩ := hvalues value hvalue
      rw [hfirst, hexports]
      exact List.mem_cons_of_mem _ (List.mem_map.2 ⟨_, List.mem_map_of_mem hkey, rfl⟩)
  | some partner =>
    rw [hfirst, Option.toList_some] at hpartner
    subst hpartner
    cases hrows with
    | cons hrow hnone =>
      cases hnone
      obtain ⟨json, hshows, rfl⟩ := hrow
      refine ⟨_, json, rfl, ?_, ?_, fun value hvalue => ?_⟩
      · simp only [hfirst, Option.elim_some]
        exact hshows
      · rw [List.forall_mem_singleton]
        exact ⟨_, List.mem_cons_self .., rfl⟩
      · obtain ⟨key, hkey, rfl⟩ := hvalues value hvalue
        rw [hfirst]
        exact List.mem_cons_of_mem _ (List.mem_map.2 ⟨_, List.mem_map_of_mem hkey, rfl⟩)

/-- A one-to-many gives one array. -/
theorem Delivers.many {child : Selection} {keys : List SortKey} {plan : ReadPlan} {target : String}
    (h : Delivers engine db schema naming layout true target keys child plan) (link : Link) :
    JoinDelivers engine db schema naming true (layout.table target) child.name link plan
      (fun tuple json => ∃ documents, child.Lists engine db schema layout target
        (db.partners engine link tuple) documents ∧ json = .arr documents) fun _ => [] := by
  rintro ⟨link, source, tuple⟩ scope s s' query rfl hvisible hyields
  obtain ⟨hle, -, hgives⟩ := h (some ⟨link, source, tuple⟩) scope s s' query
    (fun outside houtside => Option.some.inj houtside ▸ hvisible) hyields
  refine ⟨hle, hgives.mono ?_⟩
  rintro _ ⟨documents, hlists, rfl⟩
  refine ⟨_, .arr documents, rfl, ⟨documents, hlists, rfl⟩, ?_, fun value hvalue => ?_⟩
  · rw [List.forall_mem_singleton]
    exact ⟨_, List.mem_cons_self .., rfl⟩
  · cases hvalue

/-- A join offers what its plan gives. -/
theorem joinsOffer_cons {isList requested : Bool} {entity : Entity} {relation target : String}
    {link : Link} {plan : ReadPlan} {rest : List JoinPlan} {one : Tuple V → Json → Prop}
    {shows : Tuple V → List (String × Json) → Prop} {values later : Tuple V → Assoc V}
    (hlink : naming.link entity.name relation = .ok link)
    (hjoined : db.Joined layout entity.name target link)
    (hplan : JoinDelivers engine db schema naming isList (layout.table target) relation link plan one
      values)
    (hrest : JoinsOffer engine db schema naming isList entity.name (layout.table entity.name) rest
      shows later) :
    JoinsOffer engine db schema naming isList entity.name (layout.table entity.name)
      (.on relation requested plan :: rest)
      (fun tuple members => ∃ json more, one tuple json ∧ shows tuple more ∧
        members = if requested then (relation, json) :: more else more)
      fun tuple => values tuple ++ later tuple := by
  intro number s s' queries hnumber h
  obtain ⟨_, query, others, s₁, hlink', hquery, hothers, rfl⟩ := ReadPlan.yields_joins_cons h
  obtain rfl := Except.ok.inj (hlink.symm.trans hlink')
  let root := Aliases.name "root.base" number
  let label := Aliases.name "j" (s₁.count "j")
  let cells (tuple : Tuple V) : Cells V := (db (layout.table entity.name)).cells tuple
  -- the sub-query is read beside the row that it is joined to
  have hreads : ∀ tuple (prior : Frame V) (scope : Scope V), (∀ item ∈ prior, item.1 ≠ root) →
      s ≤ s₁ ∧ Gives (query.eval engine db (((root, cells tuple) :: prior) :: scope)) fun rows =>
        ∃ row, orAbsent engine (query.exports db) rows = [row] ∧ ∃ json, one tuple json ∧
          Cells.Holds engine row [(relation, json)] (values tuple) := by
    intro tuple prior scope hprior
    obtain ⟨hle, hgives⟩ := hplan ⟨link, root, tuple⟩ (((root, cells tuple) :: prior) :: scope) s s₁
      query rfl ⟨⟨number, hnumber, rfl⟩, hjoined.toTable, hjoined.toColumn,
        layout.table entity.name, Scope.cells_cons_head hprior, hjoined.fromColumn⟩ hquery
    refine ⟨hle, hgives.mono ?_⟩
    rintro rows ⟨row, json, hrow, hone, hholds⟩
    exact ⟨row, hrow, json, hone, hholds⟩
  have hle := (hreads (fun _ => engine.null) [] [] fun item hitem =>
    absurd hitem List.not_mem_nil).1
  have hnext := le_trans hle (Aliases.le_next "j" s₁)
  obtain ⟨hlast, hoffer⟩ := hrest _ _ _ _ (Nat.lt_of_lt_of_le hnumber (hnext "root.base")) hothers
  refine ⟨le_trans hnext hlast, fun scope tuple prior rest Q hprior hQ => ?_⟩
  show Gives (Query.evalJoins engine db scope _ ((query, label) :: (others ++ rest))) Q
  refine Query.gives_join (hreads tuple prior scope hprior).2 ?_
  rintro row ⟨json, hone, hholds⟩
  have hfirst : Offers engine [(label, row)] (if requested then [(relation, json)] else [])
      (values tuple) := by
    refine .singleton _ ⟨fun member hmember => ?_, hholds.values⟩
    split at hmember
    · exact hholds.members member hmember
    · cases hmember
  refine hoffer scope tuple (prior ++ [(label, row)]) rest Q
    (List.forall_mem_append.2 ⟨hprior, hfirst.ne_root number⟩)
    fun joined more hshows hnames hoffers => ?_
  have hgives := hQ ((label, row) :: joined) ((if requested then [(relation, json)] else []) ++ more)
    ⟨json, more, hone, hshows, by cases requested <;> rfl⟩
    (by rw [List.map_append, hnames]; cases requested <;> rfl) (hfirst.append hoffers)
  rw [List.append_assoc]
  exact hgives

theorem joinsOffer_unknown {isList : Bool} {entity table : String} {fault : Fault}
    {rest : List JoinPlan} (shows : Tuple V → List (String × Json) → Prop)
    (values : Tuple V → Assoc V) :
    JoinsOffer engine db schema naming isList entity table (.unknown fault :: rest) shows values := by
  intro number s s' queries _ h
  exact absurd h ReadPlan.not_yields_joins_unknown

section

variable (hstores : db.Stores schema naming layout) {entity : Entity}
  (hentity : entity ∈ schema.entities) {child : Selection} {keys : List SortKey}
  {plan : String → ReadPlan} {rest : List JoinPlan}
  {shows : Tuple V → List (String × Json) → Prop} {later : Tuple V → Assoc V}

include hstores hentity

theorem joinsOffer_joinManyToOne (hkeyed : db.Keyed engine schema layout)
    (hequates : engine.Equates) {requested : Bool} (hplan : ∀ target ∈ schema.entities,
      Delivers engine db schema naming layout false target.name keys child (plan target.name))
    (hrest : JoinsOffer engine db schema naming false entity.name (layout.table entity.name) rest
      shows later) :
    JoinsOffer engine db schema naming false entity.name (layout.table entity.name)
      (ReadPlan.joinManyToOne schema entity.name child.name requested plan :: rest)
      (fun tuple members => ∃ relation json more,
        schema.manyToOne? entity.name child.name = some relation ∧
        (child.args.partner? engine db schema layout entity.name relation tuple).elim (json = .null)
          (fun partner => child.Shows engine db schema layout relation.targetEntity partner json) ∧
        shows tuple more ∧ members = if requested then (child.name, json) :: more else more)
      fun tuple => child.cellsBehind engine db schema layout entity.name keys tuple ++
        later tuple := by
  unfold ReadPlan.joinManyToOne
  cases hfound : schema.manyToOne entity.name child.name with
  | error fault => exact joinsOffer_unknown _ _
  | ok relation =>
    have hrelation := Schema.manyToOne?_of_manyToOne hfound
    obtain ⟨hmem, hname⟩ := hstores.wellFormed.mem_of_manyToOne? hentity hrelation
    obtain ⟨target, htarget, htargetName, -⟩ := hstores.wellFormed.manyToOne_target hentity hmem
    have hlink := hstores.follows.manyToOne entity hentity relation hmem
    have hjoined := hstores.conforms.joined_manyToOne hstores.wellFormed hentity hmem
    have hdelivers := hplan target htarget
    rw [hname] at hlink
    rw [htargetName] at hdelivers
    have hone := hdelivers.one hrelation
      (hkeyed.partners_le_one hequates hstores.wellFormed hentity hmem)
    refine (joinsOffer_cons hlink hjoined hone hrest).mono ?_ fun _ _ hvalue => hvalue
    rintro tuple members ⟨json, more, hshows, hmore, hmembers⟩
    exact ⟨relation, json, more, hrelation, hshows, hmore, hmembers⟩

theorem joinsOffer_joinOneToMany (hplan : ∀ target ∈ schema.entities,
      Delivers engine db schema naming layout true target.name keys child (plan target.name))
    (hrest : JoinsOffer engine db schema naming true entity.name (layout.table entity.name) rest
      shows fun _ => []) :
    JoinsOffer engine db schema naming true entity.name (layout.table entity.name)
      (ReadPlan.joinOneToMany schema entity.name child.name plan :: rest)
      (fun tuple members => ∃ relation link documents more,
        schema.oneToMany? entity.name child.name = some relation ∧
        layout.inverseLink? schema relation = some link ∧
        child.Lists engine db schema layout relation.targetEntity (db.partners engine link tuple)
          documents ∧
        shows tuple more ∧ members = (child.name, .arr documents) :: more) fun _ => [] := by
  unfold ReadPlan.joinOneToMany
  cases hfound : schema.oneToMany entity.name child.name with
  | error fault => exact joinsOffer_unknown _ _
  | ok relation =>
    have hrelation := Schema.oneToMany?_of_oneToMany hfound
    obtain ⟨hmem, hname⟩ := hstores.wellFormed.mem_of_oneToMany? hentity hrelation
    obtain ⟨target, htarget, htargetName, -⟩ := hstores.wellFormed.oneToMany_target hentity hmem
    obtain ⟨link, hinverse, hjoined⟩ :=
      hstores.conforms.joined_oneToMany hstores.wellFormed hentity hmem
    have hlink := hstores.follows.oneToMany entity hentity relation hmem link hinverse
    have hdelivers := hplan target htarget
    rw [hname] at hlink
    rw [htargetName] at hdelivers
    refine (joinsOffer_cons hlink hjoined (hdelivers.many link) hrest).mono ?_
      fun _ _ hvalue => hvalue
    rintro tuple members ⟨_, more, ⟨documents, hlists, rfl⟩, hmore, hmembers⟩
    exact ⟨relation, link, documents, more, hrelation, hinverse, hlists, hmore, hmembers⟩

end

/-! ## Values to sort by -/

/-- The value of a sort key behind its first step, under the label of the key. -/
def SortStep.cell (engine : Engine V) (db : Instance V) (schema : Schema) (layout : Layout)
    (entity : String) (children : List Selection) (step : SortStep) (tuple : Tuple V) : String × V :=
  (step.key.label,
    Selection.sortValue engine db schema layout (step.relation :: step.key.path) entity
      { name := "", manyToOne := children } tuple)

namespace SortStep

theorem mem_cellsBehind {entity : String} {children : List Selection} {child : Selection}
    {steps : List SortStep} {step : SortStep} (hstep : step ∈ steps) (hpath : step.key.path ≠ [])
    (hname : step.relation = child.name) (hchild : Selection.through children child.name = child)
    (tuple : Tuple V) : step.cell engine db schema layout entity children tuple ∈
      child.cellsBehind engine db schema layout entity (keysThrough child.name steps) tuple := by
  refine List.mem_map.2 ⟨step.key, mem_keysThrough.2 ⟨step, hstep, hname, rfl⟩, ?_⟩
  rw [cell, Selection.sortValue_cons hpath, hname, hchild]

/-- A key has a path of one name, or its value is that behind a step. -/
theorem cell_of_ofKeys (engine : Engine V) (db : Instance V) (layout : Layout) {entity : String}
    (selection : Selection) {keys : List SortKey} {steps : List SortStep}
    (h : ofKeys schema entity keys = .ok steps) {key : SortKey}
    (hkey : key ∈ keys) (hpath : key.path ≠ []) :
    (∃ field, key.path = [field]) ∨ ∃ step ∈ steps, ∀ tuple : Tuple V,
      (key.label, Selection.sortValue engine db schema layout key.path entity selection tuple) =
        step.cell engine db schema layout entity selection.manyToOne tuple := by
  refine (step_of_ofKeys h hkey hpath).imp_right ?_
  rintro ⟨step, hstep, hlabel, hrest⟩
  obtain ⟨hne, -⟩ := path_of_ofKeys h hstep
  refine ⟨step, hstep, fun tuple => ?_⟩
  rw [cell, hlabel, ← hrest, Selection.sortValue_cons hne, Selection.sortValue_cons hne]

end SortStep

theorem delivers_refused (isList : Bool) (entity : String) (keys : List SortKey)
    (selection : Selection) (fault : Fault) :
    Delivers engine db schema naming layout isList entity keys selection (.refused fault) := by
  intro above scope s s' query _ h
  rw [ReadPlan.compile] at h
  exact absurd h not_yields_throw

section

variable (hstores : db.Stores schema naming layout) (hkeyed : db.Keyed engine schema layout)
  (hequates : engine.Equates) (hranks : engine.Ranks)

include hstores hkeyed hequates

theorem joinsOffer_carriers {entity : Entity} (hentity : entity ∈ schema.entities)
    {plan : String → String → ReadPlan} {keys : String → List SortKey}
    (hplan : ∀ relation, ∀ target ∈ schema.entities, Delivers engine db schema naming layout false
      target.name (keys relation) { name := relation } (plan relation target.name))
    (relations : List String) :
    JoinsOffer engine db schema naming false entity.name (layout.table entity.name)
      (relations.map fun relation =>
        ReadPlan.joinManyToOne schema entity.name relation false (plan relation))
      (fun _ members => members = [])
      fun tuple => relations.flatMap fun relation => Selection.cellsBehind engine db schema layout
        entity.name { name := relation } (keys relation) tuple := by
  induction relations with
  | nil => exact joinsOffer_nil false _ _
  | cons relation rest ih =>
    refine (joinsOffer_joinManyToOne hstores hentity hkeyed hequates (hplan relation) ih).mono ?_
      fun _ _ hvalue => hvalue
    rintro tuple members ⟨_, _, _, -, -, rfl, rfl⟩
    rfl

include hranks

omit hkeyed hequates in
theorem delivers_carrier {depth : Nat} {relation : String} {keys : List SortKey}
    (hpaths : ∀ key ∈ keys, key.path ≠ []) {target : Entity} (htarget : target ∈ schema.entities)
    (hjoins : ∀ steps, SortStep.ofKeys schema target.name keys = .ok steps →
      JoinsOffer engine db schema naming false target.name (layout.table target.name)
        (ReadPlan.sortJoins schema depth target.name [] steps) (fun _ members => members = [])
        fun tuple => steps.map fun step =>
          step.cell engine db schema layout target.name [] tuple) :
    Delivers engine db schema naming layout false target.name keys { name := relation }
      (ReadPlan.carrier schema depth relation keys target.name) := by
  unfold ReadPlan.carrier
  cases hkeys : SortStep.ofKeys schema target.name keys with
  | error fault => exact delivers_refused _ _ _ _ _
  | ok steps =>
    let reader : Selection := { name := relation }
    refine delivers_node hstores hranks htarget
      ((hjoins steps hkeys).mono (fun tuple members hnone => ?_) fun _ _ hvalue => hvalue)
      ((joinsOffer_nil true _ _).mono (fun tuple members hnone => ?_) fun _ _ hvalue => hvalue)
      (fun key hkey => ?_) (fun key hkey => by cases hkey) false
    · rw [Selection.ShowsOnes, hnone]
    · rw [Selection.ShowsLists, hnone]
    · refine (SortStep.cell_of_ofKeys engine db layout reader hkeys hkey
        (hpaths key hkey)).imp_right ?_
      rintro ⟨step, hstep, hcell⟩ tuple
      rw [hcell tuple]
      exact List.mem_map_of_mem hstep

/-- The joins that only sorting needs offer the values behind all steps through relations that are
not requested. -/
theorem joinsOffer_sortJoins (depth : Nat) {entity : Entity} (hentity : entity ∈ schema.entities)
    (children : List Selection) {steps : List SortStep}
    (hsteps : ∀ step ∈ steps, step.key.path ≠ [] ∧ step.key.path.length < depth) :
    JoinsOffer engine db schema naming false entity.name (layout.table entity.name)
      (ReadPlan.sortJoins schema depth entity.name (children.map (·.name)) steps)
      (fun _ members => members = [])
      fun tuple => (steps.filter (·.relation ∉ children.map (·.name))).map fun step =>
        step.cell engine db schema layout entity.name children tuple := by
  induction depth generalizing entity children steps with
  | zero =>
    obtain rfl : steps = [] := List.eq_nil_iff_forall_not_mem.2 fun step hstep =>
      Nat.not_lt_zero _ (hsteps step hstep).2
    exact joinsOffer_nil false _ _
  | succ depth ih =>
    have hthrough : ∀ relation, ∀ key ∈ SortStep.keysThrough relation steps,
        key.path ≠ [] ∧ key.path.length < depth + 1 := by
      intro relation key hkey
      obtain ⟨step, hstep, -, rfl⟩ := SortStep.mem_keysThrough.1 hkey
      exact hsteps step hstep
    have hplan : ∀ relation, ∀ target ∈ schema.entities,
        Delivers engine db schema naming layout false target.name
          (SortStep.keysThrough relation steps) { name := relation }
          (ReadPlan.carrier schema depth relation (SortStep.keysThrough relation steps)
            target.name) := by
      intro relation target htarget
      refine delivers_carrier hstores hranks
        (fun key hkey => (hthrough relation key hkey).1) htarget fun behind hbehind => ?_
      have hshorter : ∀ step ∈ behind, step.key.path ≠ [] ∧ step.key.path.length < depth := by
        intro step hstep
        obtain ⟨hne, key, hkey, hlt⟩ := SortStep.path_of_ofKeys hbehind hstep
        have hlength := (hthrough relation key hkey).2
        exact ⟨hne, by omega⟩
      simpa using ih htarget [] hshorter
    rw [ReadPlan.sortJoins_succ]
    refine (joinsOffer_carriers hstores hkeyed hequates hentity hplan _).mono
      (fun _ _ hnone => hnone) fun tuple value hvalue => ?_
    obtain ⟨step, hstep, rfl⟩ := List.mem_map.1 hvalue
    obtain ⟨hmem, hunknown⟩ := List.mem_filter.1 hstep
    have hunknown : step.relation ∉ children.map (·.name) := by simpa using hunknown
    have hchild : Selection.through children step.relation = { name := step.relation } := by
      rw [Selection.through, find?_name_eq_none hunknown, Option.getD_none]
    exact List.mem_flatMap.2 ⟨step.relation, SortStep.mem_relations hmem hunknown,
      SortStep.mem_cellsBehind hmem (hsteps step hmem).1 rfl hchild tuple⟩

end

/-! ## Checked requests -/

mutual

/-- A checked request delivers the documents of a page, beside the values of any keys that pass
through it. -/
theorem Selection.delivers (hstores : db.Stores schema naming layout)
    (hkeyed : db.Keyed engine schema layout) (hequates : engine.Equates) (hranks : engine.Ranks) :
    (selection : Selection) → selection.Each ReadArgs.Ordered → ∀ {entity : Entity},
      entity ∈ schema.entities → ∀ {passing : List SortKey}, (∀ key ∈ passing, key.path ≠ []) →
        ∀ isList, Delivers engine db schema naming layout isList entity.name
          (passing ++ selection.args.sortKeys) selection
          (ReadPlan.ofSelection schema entity.name passing selection)
  | { name, fields, args, manyToOne, oneToMany }, heach, entity, hentity, passing, hpassing,
      isList => by
    rw [Selection.Each] at heach
    obtain ⟨hordered, heachOne, heachMany⟩ := heach
    rw [ReadPlan.ofSelection]
    cases hkeys : SortStep.ofKeys schema entity.name (passing ++ args.sortKeys) with
    | error fault => exact delivers_refused _ _ _ _ _
    | ok steps =>
      have hpaths : ∀ key ∈ passing ++ args.sortKeys, key.path ≠ [] :=
        List.forall_mem_append.2 ⟨hpassing, hordered⟩
      have hsteps : ∀ step ∈ steps, step.key.path ≠ [] ∧
          step.key.path.length < ReadPlan.depth (passing ++ args.sortKeys) := by
        intro step hstep
        obtain ⟨hne, key, hkey, hlt⟩ := SortStep.path_of_ofKeys hkeys hstep
        exact ⟨hne, Nat.lt_of_lt_of_le hlt (ReadPlan.length_le_depth hkey)⟩
      have hones := (Selection.joinsOffer_ones hstores hkeyed hequates hranks manyToOne heachOne
        hentity (fun step hstep => (hsteps step hstep).1) []).append
          (joinsOffer_sortJoins hstores hkeyed hequates hranks _ hentity manyToOne hsteps)
      have hothers :=
        Selection.joinsOffer_lists hstores hkeyed hequates hranks oneToMany heachMany hentity
      let selection : Selection := { name, fields, args, manyToOne, oneToMany }
      refine delivers_node hstores hranks hentity (hones.mono ?_ fun _ _ hvalue => hvalue) hothers
        (fun key hkey => ?_) (fun key hkey => List.mem_append_right _ hkey) isList
      · rintro tuple _ ⟨members, _, hshows, rfl, rfl⟩
        rw [List.append_nil]
        exact hshows
      · refine (SortStep.cell_of_ofKeys engine db layout selection hkeys hkey
          (hpaths key hkey)).imp_right ?_
        rintro ⟨step, hstep, hcell⟩ tuple
        rw [hcell tuple, List.mem_append]
        by_cases hrequested : step.relation ∈ manyToOne.map (·.name)
        · refine .inl (List.mem_map.2 ⟨step, List.mem_filter.2 ⟨hstep, ?_⟩, rfl⟩)
          simpa using hrequested
        · refine .inr (List.mem_map.2 ⟨step, List.mem_filter.2 ⟨hstep, ?_⟩, rfl⟩)
          simpa using hrequested

/-- The requested many-to-ones offer their members, and the values behind all steps through them. -/
theorem Selection.joinsOffer_ones (hstores : db.Stores schema naming layout)
    (hkeyed : db.Keyed engine schema layout) (hequates : engine.Equates) (hranks : engine.Ranks) :
    (children : List Selection) →
    Selection.EachAll ReadArgs.Ordered children → ∀ {entity : Entity}, entity ∈ schema.entities →
      ∀ {steps : List SortStep}, (∀ step ∈ steps, step.key.path ≠ []) → ∀ (earlier : List String),
        JoinsOffer engine db schema naming false entity.name (layout.table entity.name)
          (ReadPlan.requestedJoins schema entity.name steps earlier children)
          (fun tuple => Selection.ShowsOnes engine db schema layout entity.name tuple children)
          fun tuple => (steps.filter fun step => step.relation ∈ children.map (·.name) ∧
            step.relation ∉ earlier).map fun step =>
              step.cell engine db schema layout entity.name children tuple
  | [], _, entity, _, steps, _, earlier => by
    refine (joinsOffer_nil false _ _).mono (fun tuple members hnone => ?_)
      fun tuple value hvalue => ?_
    · rw [Selection.ShowsOnes, hnone]
    · obtain ⟨step, hstep, rfl⟩ := List.mem_map.1 hvalue
      simpa using (List.mem_filter.1 hstep).2
  | child :: rest, heach, entity, hentity, steps, hsteps, earlier => by
    rw [Selection.EachAll] at heach
    rw [ReadPlan.requestedJoins]
    have hpassing : ∀ key ∈ if child.name ∈ earlier then [] else
        SortStep.keysThrough child.name steps, key.path ≠ [] := by
      intro key hkey
      split at hkey
      · cases hkey
      · obtain ⟨step, hstep, -, rfl⟩ := SortStep.mem_keysThrough.1 hkey
        exact hsteps step hstep
    have hrest := Selection.joinsOffer_ones hstores hkeyed hequates hranks rest heach.2 hentity
      hsteps (child.name :: earlier)
    have hplan := fun target (htarget : target ∈ schema.entities) =>
      Selection.delivers hstores hkeyed hequates hranks child heach.1 htarget hpassing false
    refine (joinsOffer_joinManyToOne hstores hentity hkeyed hequates hplan hrest).mono
      (fun tuple members hshows => ?_) fun tuple value hvalue => ?_
    · rw [Selection.ShowsOnes]
      exact hshows
    · obtain ⟨step, hstep, rfl⟩ := List.mem_map.1 hvalue
      obtain ⟨hmem, hnamed⟩ := List.mem_filter.1 hstep
      simp only [decide_eq_true_eq, List.map_cons, List.mem_cons] at hnamed
      rw [List.mem_append]
      by_cases hfirst : step.relation = child.name
      · -- the first relation of the name takes the sort keys
        left
        have hchild : Selection.through (child :: rest) child.name = child := by
          simp [Selection.through]
        rw [if_neg (hfirst ▸ hnamed.2), Selection.cellsBehind, List.map_append, List.mem_append]
        exact .inl (SortStep.mem_cellsBehind hmem (hsteps step hmem) hfirst hchild tuple)
      · right
        refine List.mem_map.2 ⟨step, List.mem_filter.2 ⟨hmem, ?_⟩, ?_⟩
        · simp only [decide_eq_true_eq, List.mem_cons, not_or]
          exact ⟨hnamed.1.resolve_left hfirst, hfirst, hnamed.2⟩
        · have hchild : Selection.through (child :: rest) step.relation =
              Selection.through rest step.relation := by
            simp [Selection.through, Ne.symm hfirst]
          rw [SortStep.cell, SortStep.cell, Selection.sortValue_cons (hsteps step hmem),
            Selection.sortValue_cons (hsteps step hmem), hchild]

theorem Selection.joinsOffer_lists (hstores : db.Stores schema naming layout)
    (hkeyed : db.Keyed engine schema layout) (hequates : engine.Equates) (hranks : engine.Ranks) :
    (children : List Selection) →
    Selection.EachAll ReadArgs.Ordered children → ∀ {entity : Entity}, entity ∈ schema.entities →
      JoinsOffer engine db schema naming true entity.name (layout.table entity.name)
        (ReadPlan.requestedLists schema entity.name children)
        (fun tuple => Selection.ShowsLists engine db schema layout entity.name tuple children)
        fun _ => []
  | [], _, entity, _ => by
    refine (joinsOffer_nil true _ _).mono (fun tuple members hnone => ?_) fun _ _ hvalue => hvalue
    rw [Selection.ShowsLists, hnone]
  | child :: rest, heach, entity, hentity => by
    rw [Selection.EachAll] at heach
    rw [ReadPlan.requestedLists]
    have hrest :=
      Selection.joinsOffer_lists hstores hkeyed hequates hranks rest heach.2 hentity
    have hnone : ∀ key ∈ ([] : List SortKey), key.path ≠ [] :=
      fun key hkey => absurd hkey List.not_mem_nil
    have hplan := fun target (htarget : target ∈ schema.entities) =>
      Selection.delivers hstores hkeyed hequates hranks child heach.1 htarget hnone true
    refine (joinsOffer_joinOneToMany hstores hentity hplan hrest).mono ?_ fun _ _ hvalue => hvalue
    rintro tuple _ ⟨relation, link, documents, more, hfound, hlink,
      ⟨page, hpage, harranged, hshown⟩, hmore, rfl⟩
    rw [Selection.ShowsLists]
    exact ⟨relation, link, page, documents, more, hfound, hlink, hpage, harranged, hshown, hmore,
      rfl⟩

end

/-- The query for a read, of all rows or of one, lists at each node that is a list the documents of a
page, in the order of the sort keys of the node, unless a name in it turns out to be ambiguous. The page
is cut in the order in which the engine delivers the rows of the node. Sort keys have paths, as those of
requests that are read have (`ReadRequest.ordered_ofJson?`). -/
theorem Selection.lists_compile {entities : List Entity} {overrides : Assoc String}
    (hschema : Schema.ofEntities entities = .ok schema)
    (hnaming : Naming.ofSchema overrides schema = .ok naming) (engine : Engine V)
    (hequates : engine.Equates) (hranks : engine.Ranks)
    (hdb : db.Conforms schema (.ofOverrides overrides))
    (hkeyed : db.Keyed engine schema (.ofOverrides overrides)) {entity : Entity}
    (hentity : entity ∈ schema.entities) {selection : Selection}
    (hordered : selection.Each ReadArgs.Ordered) {one : Bool} {s s' : Aliases} {query : Query}
    (h : Yields (if one then selection.compileOne schema naming entity.name
      else selection.compile schema naming entity.name) s query s') :
    (∃ name, query.eval engine db [] = .error (.ambiguous name)) ∨
      ∃ documents, query.eval engine db [] = .ok [[(selection.name,
          .document (if one then documents.head?.getD .null else .arr documents))]] ∧
        selection.Lists engine db schema (.ofOverrides overrides) entity.name
          (db ((Layout.ofOverrides overrides).table entity.name)).tuples documents := by
  have hstores := hdb.stores hschema hnaming
  have hdelivers := Selection.delivers hstores hkeyed hequates hranks selection hordered hentity
    fun key hkey => absurd hkey List.not_mem_nil
  have habove : ∀ outside : Outside V, outside ∈ (none : Option (Outside V)) →
      outside.Visible db [] s ((Layout.ofOverrides overrides).table entity.name) := by
    intro outside houtside
    cases houtside
  cases one with
  | false =>
    obtain ⟨-, -, hgives⟩ := hdelivers true none [] s s' query habove h
    rcases hgives.cases with hambiguous | ⟨rows, hrows, documents, hlists, rfl⟩
    · exact .inl hambiguous
    · exact .inr ⟨documents, hrows, hlists⟩
  | true =>
    obtain ⟨rows, s₁, hrows, hpure⟩ := yields_bind.1 h
    obtain ⟨rfl, rfl⟩ := yields_pure.1 hpure
    obtain ⟨-, -, hgives⟩ := hdelivers false none [] _ _ rows habove hrows
    have hfirst := gives_lists hranks (fun key hkey => hkey) hgives true "_final_root"
    rcases hfirst.cases with hambiguous | ⟨_, heval, documents, hlists, rfl⟩
    · exact .inl hambiguous
    · exact .inr ⟨documents, heval, hlists⟩

namespace Library

/-- The number that a value stands for. -/
def rank : Json → Int
  | .int n => n
  | _ => 0

/-- An engine that orders values by the numbers that they stand for. -/
def ordering : Engine Json where
  __ := Library.engine
  compare op v items :=
    match op, items with
    | .lt, [w] => if v = .null ∨ w = .null then .unknown else .ofBool (rank v < rank w)
    | op, items => compare op v items

theorem orders_ordering : ordering.Orders := by
  have hless : ∀ v w, ordering.compare .lt v [w] = .holds ↔
      v ≠ .null ∧ w ≠ .null ∧ rank v < rank w := by
    intro v w
    show (if v = .null ∨ w = .null then Truth.unknown else .ofBool (rank v < rank w)) = .holds ↔ _
    split
    · next hnull =>
      refine ⟨fun h => (by cases h), fun h => ?_⟩
      exact absurd hnull (not_or.2 ⟨h.1, h.2.1⟩)
    · next hnull =>
      rw [not_or] at hnull
      simp [hnull]
  refine ⟨fun v w h hback => ?_, fun u v w hv h => ?_⟩
  · have hlt := ((hless v w).1 h).2.2
    have hgt := ((hless w v).1 hback).2.2
    omega
  · obtain ⟨hu, hw, hlt⟩ := (hless u w).1 h
    rw [hless, hless]
    by_cases hbelow : rank u < rank v
    · exact .inl ⟨hu, hv, hbelow⟩
    · exact .inr ⟨hv, hw, by omega⟩

/-- The books by their authors, the latest of an author first, each with its author and the author's
latest book. -/
def booksByWriter : Selection where
  name := "Book"
  fields := ["title"]
  args := { order := some [⟨["writer", "id"], "ob.writer.id", .asc⟩, ⟨["id"], "ob.id", .desc⟩] }
  manyToOne := [{
    name := "writer"
    fields := ["fullName"]
    oneToMany := [{
      name := "books"
      fields := ["title"]
      args := { order := some [⟨["id"], "ob.id", .desc⟩], limit := some 1 } }] }]

/-- The book whose author is not known comes last. -/
theorem lists_booksByWriter : ∃ query s',
    Yields (booksByWriter.compile Library.schema Library.naming "Book") {} query s' ∧
      ∃ documents, query.eval ordering.sorting database [] =
          .ok [[("Book", .document (.arr documents))]] ∧
        documents = [
          .obj [("title", .str "Emma"), ("writer", .obj [("fullName", .str "Austen"),
            ("books", .arr [.obj [("title", .str "Emma")]])])],
          .obj [("title", .str "Beowulf"), ("writer", .null)]] ∧
        booksByWriter.Lists ordering.sorting database Library.schema (.ofOverrides []) "Book"
          (database "book").tuples documents := by
  have hbook : Library.entities[1] ∈ Library.schema.entities :=
    List.mem_cons_of_mem _ (List.mem_cons_self ..)
  have hequates : ordering.sorting.Equates :=
    ⟨equates_engine.null, equates_engine.symm, equates_engine.trans⟩
  have hkeyed : database.Keyed ordering.sorting Library.schema (.ofOverrides []) := by
    unfold Instance.Keyed Table.Unique
    decide +kernel
  have hordered : booksByWriter.Each ReadArgs.Ordered := by
    simp [booksByWriter, Selection.Each, Selection.EachAll, ReadArgs.Ordered, ReadArgs.sortKeys]
  obtain ⟨query, s', hquery, heval⟩ : ∃ query s',
      Yields (booksByWriter.compile Library.schema Library.naming "Book") {} query s' ∧
        query.eval ordering.sorting database [] = .ok [[("Book", .document (.arr [
          .obj [("title", .str "Emma"), ("writer", .obj [("fullName", .str "Austen"),
            ("books", .arr [.obj [("title", .str "Emma")]])])],
          .obj [("title", .str "Beowulf"), ("writer", .null)]]))]] :=
    ⟨_, _, rfl, rfl⟩
  have hlisted : Yields (if false = true then booksByWriter.compileOne Library.schema Library.naming "Book"
      else booksByWriter.compile Library.schema Library.naming "Book") {} query s' := hquery
  refine ⟨query, s', hquery, ?_⟩
  rcases Selection.lists_compile ofEntities_entities ofSchema_schema ordering.sorting hequates
    (Engine.ranks_sorting orders_ordering) conforms_database hkeyed hbook hordered hlisted with
    ⟨name, hambiguous⟩ | ⟨documents, hdocuments, hlists⟩
  · rw [hambiguous] at heval
    cases heval
  · refine ⟨documents, hdocuments, ?_, hlists⟩
    rw [hdocuments] at heval
    cases heval
    rfl

/-- The latest books. -/
def latestBooks (limit : Nat) : Selection where
  name := "Book"
  fields := ["title"]
  args := { order := some [⟨["id"], "ob.id", .desc⟩], limit := some limit }

theorem eq_of_shows {limit : Nat} {tuple : Tuple Json} {json : Json}
    (h : (latestBooks limit).Shows ordering.sorting database Library.schema (.ofOverrides []) "Book" tuple
      json) : json = .obj [("title", tuple "title")] := by
  obtain ⟨ones, lists, hones, hlists, rfl⟩ := Selection.shows_iff.1 h
  obtain rfl : ones = [] := by rwa [latestBooks, Selection.ShowsOnes] at hones
  obtain rfl : lists = [] := by rwa [latestBooks, Selection.ShowsLists] at hlists
  rfl

theorem eq_nil_of_slices {documents : List Json}
    (h : (latestBooks 0).Slices ordering.sorting database Library.schema (.ofOverrides []) "Book"
      (database "book").tuples documents) : documents = [] := by
  obtain ⟨arranged, -, -, hshows⟩ := h
  change List.Forall₂ _ [] documents at hshows
  cases hshows
  rfl

/-- Arranged before they are cut, the books start with the latest. -/
theorem eq_of_slices {documents : List Json}
    (h : (latestBooks 1).Slices ordering.sorting database Library.schema (.ofOverrides []) "Book"
      (database "book").tuples documents) : documents = [.obj [("title", .str "Beowulf")]] := by
  obtain ⟨arranged, hperm, harranged, hshows⟩ := h
  have hperm : arranged.Perm [emma, beowulf] := hperm
  have hprecedes : ordering.sorting.Precedes
      ((latestBooks 1).args.sortKeys.map SortKey.direction)
      ((latestBooks 1).sortValues ordering.sorting database Library.schema (.ofOverrides []) "Book"
        beowulf)
      ((latestBooks 1).sortValues ordering.sorting database Library.schema (.ofOverrides []) "Book"
        emma) := by
    decide +kernel
  cases arranged with
  | nil => cases hperm.nil_eq
  | cons tuple rest =>
    rcases List.mem_pair.1 (hperm.mem_iff.1 (List.mem_cons_self ..)) with rfl | rfl
    · rw [List.perm_singleton.1 hperm.cons_inv] at harranged
      exact absurd hprecedes (List.rel_of_pairwise_cons harranged (List.mem_singleton_self _))
    · change List.Forall₂ _ [beowulf] documents at hshows
      cases hshows with
      | cons hfirst hnone =>
        cases hnone
        rw [eq_of_shows hfirst]
        rfl

/-- Cut before they are arranged, the books start with the first that is stored. -/
theorem eq_of_lists {documents : List Json}
    (h : (latestBooks 1).Lists ordering.sorting database Library.schema (.ofOverrides []) "Book"
      (database "book").tuples documents) : documents = [.obj [("title", .str "Emma")]] := by
  obtain ⟨page, hpage, -, hshows⟩ := h
  obtain ⟨listed, hperm, hcells⟩ := hpage.of_oblivious Engine.oblivious_sorting
  rw [Engine.delivery_sorting] at hcells
  change listed.map (database "book").cells = [(database "book").cells emma] at hcells
  obtain ⟨tuple, rfl, htuple⟩ := List.map_eq_singleton_iff.1 hcells
  rw [List.perm_singleton.1 hperm] at hshows
  have htitle : tuple "title" = .str "Emma" := by
    have hcell := congrArg (fun cells => Assoc.get? "title" cells) htuple
    exact Cell.value.inj (Option.some.inj hcell)
  cases hshows with
  | cons hfirst hnone =>
    cases hnone
    rw [eq_of_shows hfirst, htitle]

/-- The page is cut before it is arranged: one book is the first that is stored, and not the latest.
And a limit of zero is no limit: it lists both books, and not none. In neither case are any documents
those of both readings. -/
theorem not_slices_latestBooks : ordering.sorting.Ranks ∧ ∀ limit ∈ [0, 1], ∃ query s' documents,
    Yields ((latestBooks limit).compile Library.schema Library.naming "Book") {} query s' ∧
      query.eval ordering.sorting database [] = .ok [[("Book", .document (.arr documents))]] ∧
      ¬ (latestBooks limit).Slices ordering.sorting database Library.schema (.ofOverrides []) "Book"
        (database "book").tuples documents ∧
      ∀ others, (latestBooks limit).Slices ordering.sorting database Library.schema (.ofOverrides [])
          "Book" (database "book").tuples others →
        ¬ (latestBooks limit).Lists ordering.sorting database Library.schema (.ofOverrides []) "Book"
          (database "book").tuples others := by
  refine ⟨Engine.ranks_sorting orders_ordering, fun limit hlimit => ?_⟩
  rw [List.mem_pair] at hlimit
  rcases hlimit with rfl | rfl
  · refine ⟨_, _, [.obj [("title", .str "Beowulf")], .obj [("title", .str "Emma")]], rfl, rfl,
      fun hslices => ?_, fun others hslices hlists => ?_⟩
    · cases eq_nil_of_slices hslices
    · obtain rfl := eq_nil_of_slices hslices
      obtain ⟨page, hpage, -, hshows⟩ := hlists
      obtain ⟨delivered, hdelivered, hwindow⟩ := hpage.exists_perm
      have hlength : page.length = 2 := hwindow.length_eq.trans hdelivered.length_eq
      cases hshows
      cases hlength
  · refine ⟨_, _, [.obj [("title", .str "Emma")]], rfl, rfl, fun hslices => ?_,
      fun others hslices hlists => ?_⟩
    · exact absurd (eq_of_slices hslices) (by decide)
    · exact absurd ((eq_of_lists hlists).symm.trans (eq_of_slices hslices)) (by decide)

end Library

end EntitySql
