import EntitySql.Proofs.Read.Sites

/-!
# Sort keys handed to joins

Which many-to-ones a node of a read joins, and what is left for each of them of the sort keys that
pass through the node and of its own.

* `SortKey.behind?` is what is left of a sort key behind a relation.
* `JoinsPlanned` says what the joins of a node are, and that each key goes to one of them;
  `joinsPlanned_plannedJoins` says so of `plannedJoins`.
* `ReadPlan.ofSelection_eq_node` plans these joins. A join that only sorting needs is planned like a
  bare relation that is requested, since the depth of its plan is never reached (`sortJoins_congr`).
-/

namespace EntitySql

set_option autoImplicit false

/-- What is left of a sort key behind a relation, if it walks through that one: the path without its
first name. -/
def SortKey.behind? (relation : String) (key : SortKey) : Option SortKey :=
  match key.path with
  | first :: name :: rest =>
    if first = relation then some { key with path := name :: rest } else none
  | _ => none

/-- A many-to-one that a node joins: what is read behind it, whether that is requested, and the sort
keys that it is handed. -/
structure PlannedJoin where
  child : Selection
  requested : Bool
  keys : List SortKey

/-- The many-to-ones that a node joins. -/
structure JoinsPlanned (children : List Selection) (carried : List SortKey)
    (joins : List PlannedJoin) : Prop where
  /-- The requested ones come first, in order. After them comes one for each other relation that a
  sort key walks through, and reads nothing. -/
  joined : ∃ added : List String, added.Nodup ∧
    (∀ relation, relation ∈ added ↔ relation ∉ children.map (·.name) ∧
      ∃ key ∈ carried, (key.behind? relation).isSome) ∧
    joins.map (fun join => (join.child, join.requested)) =
      children.map (·, true) ++ added.map fun relation => ({ name := relation }, false)
  /-- The first join of a relation is handed what is left of the keys behind it, in order. -/
  keys : ∀ before join after, joins = before ++ join :: after →
    join.keys = if join.child.name ∈ before.map (·.child.name) then []
      else carried.filterMap (·.behind? join.child.name)
  /-- What is left of a key is handed to one join of its relation. -/
  handed : ∀ key ∈ carried, ∀ relation rest, key.behind? relation = some rest →
    ∃ before join after, joins = before ++ join :: after ∧ join.child.name = relation ∧
      rest ∈ join.keys ∧ ∀ other ∈ before ++ after, other.child.name = relation → other.keys = []

variable {schema : Schema}

/-! ## Sort keys behind a relation -/

namespace SortKey

theorem behind?_eq_some {relation : String} {key rest : SortKey} :
    key.behind? relation = some rest ↔ ∃ name names, key.path = relation :: name :: names ∧
      rest = { key with path := name :: names } := by
  unfold behind?
  constructor
  · intro h
    split at h
    · next first name names hpath =>
      split at h
      · next heq => exact ⟨name, names, heq ▸ hpath, (Option.some.inj h).symm⟩
      · cases h
    · cases h
  · rintro ⟨name, names, hpath, rfl⟩
    rw [hpath]
    exact if_pos rfl

theorem behind?_eq_bind (relation : String) (key : SortKey) : key.behind? relation =
    (SortStep.ofKey? key).bind fun step =>
      if step.relation = relation then some step.key else none := by
  unfold behind? SortStep.ofKey?
  match key.path with
  | [] => rfl
  | [_] => rfl
  | _ :: _ :: _ => rfl

end SortKey

namespace SortStep

variable {entity : String} {carried : List SortKey} {steps : List SortStep}

theorem keysThrough_of_ofKeys (h : ofKeys schema entity carried = .ok steps) (relation : String) :
    keysThrough relation steps = carried.filterMap (·.behind? relation) := by
  rw [ofKeys_eq_ok h, keysThrough, List.filter_filterMap, List.map_filterMap]
  refine List.filterMap_congr fun key _ => ?_
  rw [SortKey.behind?_eq_bind]
  cases ofKey? key with
  | none => rfl
  | some step => by_cases heq : step.relation = relation <;> simp [heq, Option.filter]

/-- What is left of keys is shorter than they are. -/
theorem length_lt_of_ofKeys (h : ofKeys schema entity carried = .ok steps) {bound : Nat}
    (hbound : ∀ key ∈ carried, key.path.length ≤ bound) :
    ∀ step ∈ steps, step.key.path.length < bound := by
  intro step hstep
  obtain ⟨-, key, hkey, hlt⟩ := path_of_ofKeys h hstep
  exact Nat.lt_of_lt_of_le hlt (hbound key hkey)

theorem exists_relation_iff {relation : String} :
    (∃ step ∈ carried.filterMap ofKey?, step.relation = relation) ↔
      ∃ key ∈ carried, (key.behind? relation).isSome := by
  simp only [List.mem_filterMap, SortKey.behind?_eq_bind]
  constructor
  · rintro ⟨step, ⟨key, hkey, hstep⟩, rfl⟩
    refine ⟨key, hkey, ?_⟩
    rw [hstep, Option.bind_some, if_pos rfl]
    rfl
  · rintro ⟨key, hkey, hsome⟩
    cases hstep : ofKey? key with
    | none =>
      rw [hstep] at hsome
      cases hsome
    | some step =>
      refine ⟨step, ⟨key, hkey, hstep⟩, ?_⟩
      by_contra hne
      rw [hstep, Option.bind_some, if_neg hne] at hsome
      cases hsome

theorem mem_relations_iff {known : List String} {relation : String} :
    relation ∈ relations known steps ↔
      relation ∉ known ∧ ∃ step ∈ steps, step.relation = relation := by
  refine ⟨fun h => ?_, fun ⟨hknown, step, hstep, heq⟩ => heq ▸ mem_relations hstep (heq ▸ hknown)⟩
  induction steps generalizing known with
  | nil => cases h
  | cons first rest ih =>
    rw [relations] at h
    split at h
    · obtain ⟨hknown, step, hstep, heq⟩ := ih h
      exact ⟨hknown, step, List.mem_cons_of_mem _ hstep, heq⟩
    · next hfirst =>
      rcases List.mem_cons.1 h with rfl | h
      · exact ⟨hfirst, first, List.mem_cons_self .., rfl⟩
      · obtain ⟨hknown, step, hstep, heq⟩ := ih h
        exact ⟨fun hmem => hknown (List.mem_cons_of_mem _ hmem), step,
          List.mem_cons_of_mem _ hstep, heq⟩

theorem nodup_relations (known : List String) (steps : List SortStep) :
    (relations known steps).Nodup := by
  induction steps generalizing known with
  | nil => exact List.nodup_nil
  | cons first rest ih =>
    rw [relations]
    split
    · exact ih known
    · refine List.nodup_cons.2 ⟨fun h => ?_, ih _⟩
      exact (mem_relations_iff.1 h).1 (List.mem_cons_self ..)

end SortStep

/-! ## Handing keys out -/

/-- Hands sort keys out to joins: the first of a relation, unless there is an earlier one, takes all
that walk through it. -/
def handOut (carried : List SortKey) (earlier : List String) :
    List (Selection × Bool) → List PlannedJoin
  | [] => []
  | (child, requested) :: rest =>
    { child, requested
      keys := if child.name ∈ earlier then [] else carried.filterMap (·.behind? child.name) } ::
      handOut carried (child.name :: earlier) rest

/-- The relations that are joined for these sort keys beside the requested ones, each once. -/
def addedRelations (children : List Selection) (carried : List SortKey) : List String :=
  SortStep.relations (children.map (·.name)) (carried.filterMap SortStep.ofKey?)

/-- The many-to-ones that a node joins, with their sort keys. -/
def plannedJoins (children : List Selection) (carried : List SortKey) : List PlannedJoin :=
  handOut carried [] (children.map (·, true) ++
    (addedRelations children carried).map fun relation => ({ name := relation }, false))

section

variable {carried : List SortKey}

theorem handOut_map (earlier : List String) (items : List (Selection × Bool)) :
    (handOut carried earlier items).map (fun join => (join.child, join.requested)) = items := by
  induction items generalizing earlier with
  | nil => rfl
  | cons item rest ih =>
    rw [handOut, List.map_cons, ih]

theorem mem_addedRelations {children : List Selection} {relation : String} :
    relation ∈ addedRelations children carried ↔ relation ∉ children.map (·.name) ∧
      ∃ key ∈ carried, (key.behind? relation).isSome := by
  rw [addedRelations, SortStep.mem_relations_iff, SortStep.exists_relation_iff]

theorem nodup_addedRelations (children : List Selection) (carried : List SortKey) :
    (addedRelations children carried).Nodup :=
  SortStep.nodup_relations _ _

theorem names_plannedJoins (children : List Selection) (carried : List SortKey) :
    (plannedJoins children carried).map (·.child.name) =
      children.map (·.name) ++ addedRelations children carried := by
  have hjoins : (plannedJoins children carried).map (fun join => (join.child, join.requested)) = _ :=
    handOut_map [] _
  have hnames := congrArg (List.map fun item => item.1.name) hjoins
  rw [List.map_map, List.map_append, List.map_map, List.map_map] at hnames
  exact hnames.trans (congrArg _ (List.map_id' _))

theorem handOut_append (earlier : List String) (items others : List (Selection × Bool)) :
    handOut carried earlier (items ++ others) = handOut carried earlier items ++
      handOut carried ((items.map (·.1.name)).reverse ++ earlier) others := by
  induction items generalizing earlier with
  | nil => rfl
  | cons item rest ih =>
    rw [List.cons_append, handOut, handOut, ih, List.map_cons, List.reverse_cons,
      List.append_assoc]
    rfl

/-- Distinct new relations each take what walks through them. -/
theorem handOut_bare {earlier added : List String} (hnodup : added.Nodup)
    (hadded : ∀ relation ∈ added, relation ∉ earlier) :
    handOut carried earlier (added.map fun relation => ({ name := relation }, false)) =
      added.map fun relation =>
        ⟨{ name := relation }, false, carried.filterMap (·.behind? relation)⟩ := by
  induction added generalizing earlier with
  | nil => rfl
  | cons relation rest ih =>
    obtain ⟨hrelation, hrest⟩ := List.forall_mem_cons.1 hadded
    obtain ⟨hnew, hnodup⟩ := List.nodup_cons.1 hnodup
    rw [List.map_cons, handOut, List.map_cons, ih hnodup, if_neg hrelation]
    intro other hother
    rw [List.mem_cons, not_or]
    exact ⟨ne_of_mem_of_not_mem hother hnew, hrest other hother⟩

theorem keys_of_handOut {earlier : List String} {items : List (Selection × Bool)}
    {before after : List PlannedJoin} {join : PlannedJoin}
    (h : handOut carried earlier items = before ++ join :: after) :
    join.keys = if join.child.name ∈ before.map (·.child.name) ++ earlier then []
      else carried.filterMap (·.behind? join.child.name) := by
  induction items generalizing earlier before with
  | nil => exact absurd h.symm (List.append_ne_nil_of_right_ne_nil _ (List.cons_ne_nil _ _))
  | cons item rest ih =>
    rw [handOut] at h
    cases before with
    | nil =>
      obtain rfl := (List.cons.inj h).1
      rfl
    | cons first before =>
      obtain ⟨rfl, htail⟩ := List.cons.inj h
      rw [ih htail]
      refine if_congr ?_ rfl rfl
      simp only [List.map_cons, List.cons_append, List.mem_append, List.mem_cons]
      tauto

/-- The first join of a relation is handed what is left of a key behind it, and no other is handed
anything. -/
theorem handed_of_keys {joins : List PlannedJoin}
    (hkeys : ∀ before join after, joins = before ++ join :: after →
      join.keys = if join.child.name ∈ before.map (·.child.name) then []
        else carried.filterMap (·.behind? join.child.name))
    {key rest : SortKey} (hkey : key ∈ carried) {relation : String}
    (hrest : key.behind? relation = some rest) (hjoined : relation ∈ joins.map (·.child.name)) :
    ∃ before join after, joins = before ++ join :: after ∧ join.child.name = relation ∧
      rest ∈ join.keys ∧
        ∀ other ∈ before ++ after, other.child.name = relation → other.keys = [] := by
  obtain ⟨before, join, after, rfl, hname, hbefore⟩ : ∃ before join after,
      joins = before ++ join :: after ∧ join.child.name = relation ∧
        ∀ other ∈ before, other.child.name ≠ relation := by
    obtain ⟨found, hfound, hnamed⟩ := List.mem_map.1 hjoined
    obtain ⟨join, hfirst⟩ : ∃ join, joins.find? (·.child.name = relation) = some join :=
      Option.isSome_iff_exists.1 (List.find?_isSome.2 ⟨found, hfound, by simpa⟩)
    obtain ⟨hname, before, after, hjoins, hbefore⟩ := List.find?_eq_some_iff_append.1 hfirst
    exact ⟨before, join, after, hjoins, by simpa using hname, by simpa using hbefore⟩
  refine ⟨before, join, after, rfl, hname, ?_, fun other hother hsame => ?_⟩
  · rw [hkeys before join after rfl, if_neg, hname]
    · exact List.mem_filterMap.2 ⟨key, hkey, hrest⟩
    · rw [hname, List.mem_map]
      rintro ⟨other, hother, heq⟩
      exact hbefore other hother heq
  · rcases List.mem_append.1 hother with hmem | hmem
    · exact absurd hsame (hbefore other hmem)
    · obtain ⟨between, later, rfl⟩ := List.append_of_mem hmem
      rw [hkeys (before ++ join :: between) other later (by simp), if_pos]
      rw [hsame, ← hname]
      simp

theorem joinsPlanned_plannedJoins (children : List Selection) (carried : List SortKey) :
    JoinsPlanned children carried (plannedJoins children carried) := by
  have hkeys : ∀ before join after, plannedJoins children carried = before ++ join :: after →
      join.keys = if join.child.name ∈ before.map (·.child.name) then []
        else carried.filterMap (·.behind? join.child.name) := by
    intro before join after hsplit
    have hkeys := keys_of_handOut hsplit
    rwa [List.append_nil] at hkeys
  refine ⟨⟨_, nodup_addedRelations _ _, fun relation => mem_addedRelations, handOut_map [] _⟩,
    hkeys, fun key hkey relation rest hrest => handed_of_keys hkeys hkey hrest ?_⟩
  rw [names_plannedJoins, List.mem_append]
  by_cases hrequested : relation ∈ children.map (·.name)
  · exact .inl hrequested
  · refine .inr (mem_addedRelations.2 ⟨hrequested, key, hkey, ?_⟩)
    rw [hrest]
    rfl

end

/-! ## Plans -/

/-- The plan of a join of an entity. -/
def PlannedJoin.plan (schema : Schema) (entity : String) (join : PlannedJoin) : JoinPlan :=
  ReadPlan.joinManyToOne schema entity join.child.name join.requested fun target =>
    ReadPlan.ofSelection schema target join.keys join.child

namespace Selection

/-- What a node reads, apart from its joins. -/
def head (entity : String) (passing : List SortKey) (selection : Selection) : ReadHead where
  entity := entity
  name := selection.name
  fields := selection.fields
  args := selection.args
  carried := passing ++ selection.args.sortKeys

/-- The plan of a list of an entity. No sort key passes through it. -/
def listPlan (schema : Schema) (entity : String) (child : Selection) : JoinPlan :=
  ReadPlan.joinOneToMany schema entity child.name fun target =>
    ReadPlan.ofSelection schema target [] child

end Selection

namespace ReadPlan

variable {entity : String} {steps : List SortStep}

theorem sortJoins_nil (depth : Nat) (entity : String) (requested : List String) :
    sortJoins schema depth entity requested [] = [] := by
  cases depth <;> rfl

/-- Steps with shorter paths than the depth are planned to their end, whatever the depth is. -/
theorem sortJoins_congr {depth other : Nat} (entity : String) (requested : List String)
    (hdepth : ∀ step ∈ steps, step.key.path.length < depth)
    (hother : ∀ step ∈ steps, step.key.path.length < other) :
    sortJoins schema depth entity requested steps =
      sortJoins schema other entity requested steps := by
  have hnone : ∀ steps : List SortStep, (∀ step ∈ steps, step.key.path.length < 0) → steps = [] :=
    fun steps h => List.eq_nil_iff_forall_not_mem.2 fun step hstep =>
      Nat.not_lt_zero _ (h step hstep)
  induction depth generalizing other entity requested steps with
  | zero => rw [hnone steps hdepth, sortJoins_nil, sortJoins_nil]
  | succ depth ih =>
    cases other with
    | zero => rw [hnone steps hother, sortJoins_nil, sortJoins_nil]
    | succ other =>
      rw [sortJoins_succ, sortJoins_succ]
      refine List.map_congr_left fun relation _ => congrArg _ (funext fun target => ?_)
      unfold carrier
      cases hbehind : SortStep.ofKeys schema target (SortStep.keysThrough relation steps) with
      | error fault => rfl
      | ok behind =>
        have hshorter : ∀ bound, (∀ step ∈ steps, step.key.path.length < bound + 1) →
            ∀ step ∈ behind, step.key.path.length < bound := by
          intro bound hsteps
          refine SortStep.length_lt_of_ofKeys hbehind fun key hkey => ?_
          obtain ⟨above, habove, -, rfl⟩ := SortStep.mem_keysThrough.1 hkey
          exact Nat.le_of_lt_succ (hsteps above habove)
        dsimp only
        rw [ih target [] (hshorter depth hdepth) (hshorter other hother)]

/-- A join that only sorting needs is planned like a bare relation. -/
theorem carrier_eq {depth : Nat} {relation : String} {keys : List SortKey}
    (hkeys : ∀ key ∈ keys, key.path.length ≤ depth) (target : String) :
    carrier schema depth relation keys target =
      ofSelection schema target keys { name := relation } := by
  have hcarried : keys ++ ({} : ReadArgs).sortKeys = keys := List.append_nil keys
  unfold carrier
  rw [ofSelection, hcarried]
  cases hsteps : SortStep.ofKeys schema target keys with
  | error fault => rfl
  | ok steps =>
    dsimp only
    rw [requestedJoins, requestedLists, List.nil_append, List.map_nil,
      sortJoins_congr target [] (SortStep.length_lt_of_ofKeys hsteps hkeys)
        (SortStep.length_lt_of_ofKeys hsteps fun key => length_le_depth)]

variable {carried : List SortKey} (hsteps : SortStep.ofKeys schema entity carried = .ok steps)

include hsteps

theorem requestedJoins_eq (earlier : List String) (children : List Selection) :
    requestedJoins schema entity steps earlier children =
      (handOut carried earlier (children.map (·, true))).map (PlannedJoin.plan schema entity) := by
  induction children generalizing earlier with
  | nil => rw [requestedJoins, List.map_nil, handOut, List.map_nil]
  | cons child rest ih =>
    rw [requestedJoins, ih, SortStep.keysThrough_of_ofKeys hsteps, List.map_cons, handOut,
      List.map_cons]
    rfl

theorem sortJoins_eq (children : List Selection) :
    sortJoins schema (depth carried) entity (children.map (·.name)) steps =
      (addedRelations children carried).map fun relation => PlannedJoin.plan schema entity
        ⟨{ name := relation }, false, carried.filterMap (·.behind? relation)⟩ := by
  have hshort := SortStep.length_lt_of_ofKeys hsteps fun key => length_le_depth
  rw [sortJoins_congr entity _ hshort fun step hstep => Nat.lt_succ_of_lt (hshort step hstep),
    sortJoins_succ, addedRelations, ← SortStep.ofKeys_eq_ok hsteps]
  refine List.map_congr_left fun relation _ => congrArg _ (funext fun target => ?_)
  rw [carrier_eq, SortStep.keysThrough_of_ofKeys hsteps]
  intro key hkey
  obtain ⟨step, hstep, -, rfl⟩ := SortStep.mem_keysThrough.1 hkey
  exact Nat.le_of_lt (hshort step hstep)

omit hsteps in
theorem requestedLists_eq (children : List Selection) :
    requestedLists schema entity children = children.map (Selection.listPlan schema entity) := by
  induction children with
  | nil => rw [requestedLists, List.map_nil]
  | cons child rest ih =>
    rw [requestedLists, ih]
    rfl

omit hsteps in
/-- The plan of a node whose sort keys all walk through many-to-ones. -/
theorem ofSelection_eq_node {passing : List SortKey} {selection : Selection}
    (hsteps : SortStep.ofKeys schema entity (selection.head entity passing).carried = .ok steps) :
    ofSelection schema entity passing selection = .node (selection.head entity passing)
      ((plannedJoins selection.manyToOne (selection.head entity passing).carried).map
        (PlannedJoin.plan schema entity))
      (selection.oneToMany.map (Selection.listPlan schema entity)) := by
  obtain ⟨name, fields, args, manyToOne, oneToMany⟩ := selection
  change SortStep.ofKeys schema entity (passing ++ args.sortKeys) = .ok steps at hsteps
  rw [ofSelection, hsteps]
  dsimp only
  rw [requestedJoins_eq hsteps, sortJoins_eq hsteps, requestedLists_eq]
  change _ = ReadPlan.node _ ((plannedJoins manyToOne (passing ++ args.sortKeys)).map _) _
  rw [plannedJoins, handOut_append, handOut_bare (nodup_addedRelations _ _), List.map_append,
    List.map_map]
  · rfl
  · intro relation hrelation
    have hnew := (mem_addedRelations.1 hrelation).1
    simpa [Function.comp_def] using hnew

omit hsteps in
theorem ofSelection_eq_refused {passing : List SortKey} {selection : Selection} {fault : Fault}
    (h : SortStep.ofKeys schema entity (selection.head entity passing).carried = .error fault) :
    ofSelection schema entity passing selection = .refused fault := by
  obtain ⟨name, fields, args, manyToOne, oneToMany⟩ := selection
  change SortStep.ofKeys schema entity (passing ++ args.sortKeys) = _ at h
  rw [ofSelection, h]

end ReadPlan

end EntitySql
