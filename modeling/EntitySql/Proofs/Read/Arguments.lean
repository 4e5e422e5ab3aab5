import EntitySql.Binding.Basic
import EntitySql.Proofs.Result

/-!
# Arguments of reads

What holds of the arguments of every node of a read, from the request that is sent to the read that
is compiled.

* `ReadRequest.Each` and `Selection.Each` say that every node has arguments of a kind.
* `Selection.each_ofRequest` and `Selection.each_bind` keep this while a request is checked and its
  values are bound, `ReadRequest.each_ofJson?` brings it about.
* `ReadArgs.Ordered` says that every sort key has a path, which those of parsed orderings have.
-/

namespace EntitySql

set_option autoImplicit false

open Json

mutual

def ReadRequest.Each (p : ReadArgs → Prop) : ReadRequest → Prop
  | { items, args, .. } => p args ∧ ReadItem.EachAll p items
termination_by structural request => request

def ReadItem.Each (p : ReadArgs → Prop) : ReadItem → Prop
  | .bare _ => True
  | .node request => request.Each p
termination_by structural item => item

def ReadItem.EachAll (p : ReadArgs → Prop) : List ReadItem → Prop
  | [] => True
  | item :: rest => item.Each p ∧ ReadItem.EachAll p rest
termination_by structural items => items

end

mutual

def Selection.Each (p : ReadArgs → Prop) : Selection → Prop
  | { args, manyToOne, oneToMany, .. } =>
    p args ∧ Selection.EachAll p manyToOne ∧ Selection.EachAll p oneToMany
termination_by structural selection => selection

def Selection.EachAll (p : ReadArgs → Prop) : List Selection → Prop
  | [] => True
  | child :: rest => child.Each p ∧ Selection.EachAll p rest
termination_by structural children => children

end

variable {p : ReadArgs → Prop}

/-! ## Checking and binding -/

namespace Selection

theorem eachAll_iff {children : List Selection} :
    EachAll p children ↔ ∀ child ∈ children, child.Each p := by
  induction children with
  | nil => simp [EachAll]
  | cons child rest ih => rw [EachAll, ih, List.forall_mem_cons]

theorem each_iff {selection : Selection} : selection.Each p ↔
    p selection.args ∧ EachAll p selection.manyToOne ∧ EachAll p selection.oneToMany := by
  cases selection
  rw [Each]

theorem Each.withManyToOne {selection child : Selection} (h : selection.Each p)
    (hchild : child.Each p) : (selection.withManyToOne child).Each p := by
  cases selection
  rw [Each] at h
  rw [Selection.withManyToOne, Each]
  refine ⟨h.1, eachAll_iff.2 ?_, h.2.2⟩
  rw [List.forall_mem_append, List.forall_mem_singleton]
  exact ⟨eachAll_iff.1 h.2.1, hchild⟩

theorem Each.withOneToMany {selection child : Selection} (h : selection.Each p)
    (hchild : child.Each p) : (selection.withOneToMany child).Each p := by
  cases selection
  rw [Each] at h
  rw [Selection.withOneToMany, Each]
  refine ⟨h.1, h.2.1, eachAll_iff.2 ?_⟩
  rw [List.forall_mem_append, List.forall_mem_singleton]
  exact ⟨eachAll_iff.1 h.2.2, hchild⟩

theorem each_bare (name : String) {args : ReadArgs} (h : p args) : Each p { name, args } := by
  rw [Each, EachAll]
  exact ⟨h, trivial, trivial⟩

mutual

theorem each_ofRequest {schema : Schema} (hdefault : p {}) : (request : ReadRequest) →
    request.Each p → ∀ {entity : String} {selection : Selection},
      ofRequest schema entity request = .ok selection → selection.Each p
  | { name, items, args }, heach, entity, selection, h => by
    rw [ofRequest] at h
    rw [ReadRequest.Each] at heach
    exact each_addItems hdefault items heach.2 (each_bare _ heach.1) h

theorem each_addItems {schema : Schema} (hdefault : p {}) : (items : List ReadItem) →
    ReadItem.EachAll p items → ∀ {entity : String} {before selection : Selection}, before.Each p →
      addItems schema entity before items = .ok selection → selection.Each p
  | [], _, entity, before, selection, hbefore, h => by
    rw [addItems] at h
    obtain rfl := Except.ok.inj h
    exact hbefore
  | .bare name :: rest, heach, entity, before, selection, hbefore, h => by
    rw [addItems] at h
    rw [ReadItem.EachAll] at heach
    have hbare : Each p { name } := each_bare name hdefault
    obtain ⟨member, -, h⟩ := bind_eq_ok.1 h
    split at h
    · exact each_addItems hdefault rest heach.2 (by cases before; exact hbefore) h
    · exact each_addItems hdefault rest heach.2 (hbefore.withManyToOne hbare) h
    · exact each_addItems hdefault rest heach.2 (hbefore.withOneToMany hbare) h
    · exact absurd h throw_ne_ok
  | .node request :: rest, heach, entity, before, selection, hbefore, h => by
    rw [addItems] at h
    rw [ReadItem.EachAll, ReadItem.Each] at heach
    obtain ⟨member, -, h⟩ := bind_eq_ok.1 h
    split at h
    · exact each_addItems hdefault rest heach.2 (by cases before; exact hbefore) h
    · obtain ⟨child, hchild, h⟩ := bind_eq_ok.1 h
      have hnode := each_ofRequest hdefault request heach.1 hchild
      exact each_addItems hdefault rest heach.2 (hbefore.withManyToOne hnode) h
    · obtain ⟨child, hchild, h⟩ := bind_eq_ok.1 h
      have hnode := each_ofRequest hdefault request heach.1 hchild
      exact each_addItems hdefault rest heach.2 (hbefore.withOneToMany hnode) h
    · exact absurd h throw_ne_ok

end

mutual

/-- Binding changes filters only. -/
theorem each_bind
    (hfilter : ∀ (args : ReadArgs) (filter : Option Filter), p args → p { args with filter }) :
    (selection : Selection) → selection.Each p → ∀ s, (selection.bind.run s).1.Each p
  | { name, fields, args, manyToOne, oneToMany }, heach, s => by
    rw [Each] at heach
    let filter := (Filter.bindOptional args.filter).run s
    let ones := (bindList manyToOne).run filter.2
    let lists := (bindList oneToMany).run ones.2
    show Each p ⟨name, fields, { args with filter := filter.1 }, ones.1, lists.1⟩
    rw [Each]
    exact ⟨hfilter _ _ heach.1, eachAll_bindList hfilter manyToOne heach.2.1 _,
      eachAll_bindList hfilter oneToMany heach.2.2 _⟩

theorem eachAll_bindList
    (hfilter : ∀ (args : ReadArgs) (filter : Option Filter), p args → p { args with filter }) :
    (selections : List Selection) → EachAll p selections →
      ∀ s, EachAll p ((bindList selections).run s).1
  | [], _, s => trivial
  | selection :: rest, heach, s => by
    rw [EachAll] at heach
    let first := selection.bind.run s
    show EachAll p (first.1 :: ((bindList rest).run first.2).1)
    rw [EachAll]
    exact ⟨each_bind hfilter selection heach.1 _, eachAll_bindList hfilter rest heach.2 _⟩

end

end Selection

/-! ## Reading requests -/

/-- What is read from a member that may be left out has been decoded. -/
theorem Json.optional_eq_some {α : Type} {key : String} {decode : Json → Option α}
    {members : Assoc Json} {read : Option α} (h : Json.optional key decode members = some read) :
    ∀ a ∈ read, ∃ value, decode value = some a := by
  unfold Json.optional defaulted at h
  split at h
  · obtain rfl := Option.some.inj h
    intro a ha
    cases ha
  · next value _ =>
    unfold nullable at h
    split at h
    · obtain rfl := Option.some.inj h
      intro a ha
      cases ha
    · obtain ⟨found, hfound, rfl⟩ := Option.map_eq_some_iff.1 h
      intro a ha
      exact ⟨value, hfound.trans (congrArg some (Option.some.inj ha))⟩

namespace ReadRequest

theorem each_addMember? (hargs : ∀ value args, ReadArgs.ofJson? value = some args → p args)
    {read request : ReadRequest} (hread : read.Each p) {key : String} {value : Json}
    {listed : Option (List ReadItem)} (hlisted : ∀ items ∈ listed, ReadItem.EachAll p items)
    (h : addMember? read key value listed = some request) : request.Each p := by
  obtain ⟨name, items, args⟩ := read
  rw [Each] at hread
  unfold addMember? at h
  split_ifs at h
  · obtain ⟨label, -, h⟩ := Option.bind_eq_some_iff.1 h
    obtain rfl := Option.some.inj h
    rw [Each]
    exact hread
  · obtain ⟨items, hitems, h⟩ := Option.bind_eq_some_iff.1 h
    obtain rfl := Option.some.inj h
    rw [Each]
    exact ⟨hread.1, hlisted items hitems⟩
  · obtain ⟨given, hgiven, h⟩ := Option.bind_eq_some_iff.1 h
    obtain rfl := Option.some.inj h
    rw [Each]
    exact ⟨hargs value given hgiven, hread.2⟩
  · obtain rfl := Option.some.inj h
    rw [Each]
    exact hread

mutual

theorem each_ofMembers? (hargs : ∀ value args, ReadArgs.ofJson? value = some args → p args) :
    (members : List (String × Json)) → ∀ {read request : ReadRequest}, read.Each p →
      ofMembers? read members = some request → request.Each p
  | [], read, request, hread, h => by
    obtain rfl := Option.some.inj h
    exact hread
  | (key, value) :: rest, read, request, hread, h => by
    rw [ofMembers?] at h
    obtain ⟨added, hadded, h⟩ := Option.bind_eq_some_iff.1 h
    have hitems := each_addMember? hargs hread (fun _ => eachAll_itemsOfJson? hargs value) hadded
    exact each_ofMembers? hargs rest hitems h

theorem each_ofValues? (hargs : ∀ value args, ReadArgs.ofJson? value = some args → p args) :
    (values : List Json) → ∀ {keys : List String} {read request : ReadRequest}, read.Each p →
      ofValues? read keys values = some request → request.Each p
  | [], keys, read, request, hread, h => by
    obtain rfl := Option.some.inj h
    exact hread
  | value :: rest, [], read, request, hread, h => by cases h
  | value :: rest, key :: keys, read, request, hread, h => by
    rw [ofValues?] at h
    obtain ⟨added, hadded, h⟩ := Option.bind_eq_some_iff.1 h
    have hitems := each_addMember? hargs hread (fun _ => eachAll_itemsOfJson? hargs value) hadded
    exact each_ofValues? hargs rest hitems h

theorem eachAll_itemsOfJson? (hargs : ∀ value args, ReadArgs.ofJson? value = some args → p args) :
    (value : Json) → ∀ {items : List ReadItem},
    itemsOfJson? value = some items → ReadItem.EachAll p items
  | .arr values, items, h => by
    rw [itemsOfJson?] at h
    exact eachAll_itemsOfList? hargs values h
  | .null, items, h => by cases h
  | .bool _, items, h => by cases h
  | .int _, items, h => by cases h
  | .double _, items, h => by cases h
  | .str _, items, h => by cases h
  | .obj _, items, h => by cases h

theorem eachAll_itemsOfList? (hargs : ∀ value args, ReadArgs.ofJson? value = some args → p args) :
    (values : List Json) → ∀ {items : List ReadItem},
    itemsOfList? values = some items → ReadItem.EachAll p items
  | [], items, h => by
    obtain rfl := Option.some.inj h
    trivial
  | value :: rest, items, h => by
    rw [itemsOfList?] at h
    obtain ⟨item, hitem, h⟩ := Option.bind_eq_some_iff.1 h
    obtain ⟨others, hothers, h⟩ := Option.bind_eq_some_iff.1 h
    obtain rfl := Option.some.inj h
    rw [ReadItem.EachAll]
    exact ⟨each_itemOfJson? hargs value hitem, eachAll_itemsOfList? hargs rest hothers⟩

theorem each_itemOfJson? (hargs : ∀ value args, ReadArgs.ofJson? value = some args → p args) :
    (value : Json) → ∀ {item : ReadItem},
    itemOfJson? value = some item → item.Each p
  | .str name, item, h => by
    obtain rfl := Option.some.inj h
    trivial
  | .obj members, item, h => by
    rw [itemOfJson?] at h
    obtain ⟨request, hrequest, rfl⟩ := Option.map_eq_some_iff.1 h
    have hempty : Each p {} := ⟨hargs (.obj []) {} rfl, trivial⟩
    exact each_ofMembers? hargs members hempty hrequest
  | .arr values, item, h => by
    rw [itemOfJson?] at h
    obtain ⟨request, hrequest, rfl⟩ := Option.map_eq_some_iff.1 h
    have hempty : Each p {} := ⟨hargs (.obj []) {} rfl, trivial⟩
    exact each_ofValues? hargs values hempty hrequest
  | .null, item, h => by cases h
  | .bool _, item, h => by cases h
  | .int _, item, h => by cases h
  | .double _, item, h => by cases h

end

/-- If all arguments that can be read are of a kind, those of every node of a request that is read
are. -/
theorem each_ofJson? (hargs : ∀ value args, ReadArgs.ofJson? value = some args → p args)
    {value : Json} {request : ReadRequest} (h : ofJson? value = some request) :
    request.Each p := by
  obtain ⟨members, -, h⟩ := Option.bind_eq_some_iff.1 h
  have hempty : Each p {} := ⟨hargs (.obj []) {} rfl, trivial⟩
  exact each_ofMembers? hargs members hempty h

/-- Values in the order of a record are read as its members are. -/
theorem ofValues?_eq_ofMembers? (keys : List String) (values : List Json) (read : ReadRequest) :
    ofValues? read keys values = (asRecord? keys (.arr values)).bind (ofMembers? read) := by
  induction values generalizing keys read with
  | nil => simp [ofValues?, asRecord?, ofMembers?]
  | cons value rest ih =>
    cases keys with
    | nil => rfl
    | cons key keys =>
      simp only [ofValues?, ih, asRecord?, List.length_cons, Nat.add_le_add_iff_right]
      split_ifs
      · rfl
      · exact Option.bind_fun_none _

/-- A member to read that is no text is a node, which is read as the whole request is. -/
theorem itemOfJson?_eq_node {value : Json} (h : value.asString? = none) :
    itemOfJson? value = (ofJson? value).map .node := by
  cases value with
  | str name => cases h
  | arr values => rw [itemOfJson?, ofValues?_eq_ofMembers?]; rfl
  | obj members => rfl
  | null | bool | int | double => rfl

end ReadRequest

/-! ## Sort keys -/

/-- Every sort key has a path. -/
def ReadArgs.Ordered (args : ReadArgs) : Prop :=
  ∀ key ∈ args.sortKeys, key.path ≠ []

namespace SortKey

mutual

theorem path_ne_nil_of_flattenValue : (value : Json) → ∀ {path : List String}
    {keys : List SortKey}, path ≠ [] → flattenValue path value = .ok keys →
      ∀ key ∈ keys, key.path ≠ []
  | .str name, path, keys, hpath, h => by
    obtain ⟨direction, -, h⟩ := bind_eq_ok.1 h
    obtain rfl := pure_eq_ok.1 h
    intro key hkey
    rw [List.mem_singleton.1 hkey]
    exact hpath
  | .obj members, path, keys, _, h => path_ne_nil_of_flattenMembers members h
  | .null, path, keys, _, h => by cases h
  | .bool _, path, keys, _, h => by cases h
  | .int _, path, keys, _, h => by cases h
  | .double _, path, keys, _, h => by cases h
  | .arr _, path, keys, _, h => by cases h

theorem path_ne_nil_of_flattenMembers : (members : List (String × Json)) → ∀ {path : List String}
    {keys : List SortKey}, flattenMembers path members = .ok keys → ∀ key ∈ keys, key.path ≠ []
  | [], path, keys, h => by
    obtain rfl := Except.ok.inj h
    intro key hkey
    cases hkey
  | (name, value) :: rest, path, keys, h => by
    rw [flattenMembers] at h
    obtain ⟨first, hfirst, h⟩ := bind_eq_ok.1 h
    obtain ⟨others, hothers, h⟩ := bind_eq_ok.1 h
    obtain rfl := pure_eq_ok.1 h
    rw [List.forall_mem_append]
    exact ⟨path_ne_nil_of_flattenValue value (by simp) hfirst,
      path_ne_nil_of_flattenMembers rest hothers⟩

end

theorem path_ne_nil_of_parse {value : Json} {keys : List SortKey} (h : parse value = .ok keys) :
    ∀ key ∈ keys, key.path ≠ [] := by
  unfold parse at h
  split at h
  · exact path_ne_nil_of_flattenMembers _ h
  · cases h

end SortKey

theorem ReadArgs.ordered_default : ReadArgs.Ordered {} := by
  intro key hkey
  cases hkey

theorem ReadArgs.ordered_ofJson? (value : Json) (args : ReadArgs)
    (h : ReadArgs.ofJson? value = some args) : args.Ordered := by
  obtain ⟨members, -, h⟩ := Option.bind_eq_some_iff.1 h
  obtain ⟨filter, -, h⟩ := Option.bind_eq_some_iff.1 h
  obtain ⟨order, horder, h⟩ := Option.bind_eq_some_iff.1 h
  obtain ⟨limit, -, h⟩ := Option.bind_eq_some_iff.1 h
  obtain ⟨offset, -, h⟩ := Option.bind_eq_some_iff.1 h
  obtain rfl := Option.some.inj h
  cases order with
  | none =>
    intro key hkey
    cases hkey
  | some keys =>
    obtain ⟨ordering, hordering⟩ := Json.optional_eq_some horder keys rfl
    exact SortKey.path_ne_nil_of_parse (toOption_eq_some.1 hordering)

/-- The sort keys of a request that is read have paths. -/
theorem ReadRequest.ordered_ofJson? {value : Json} {request : ReadRequest}
    (h : ReadRequest.ofJson? value = some request) : request.Each ReadArgs.Ordered :=
  each_ofJson? ReadArgs.ordered_ofJson? h

end EntitySql
