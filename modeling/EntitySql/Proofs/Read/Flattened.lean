import EntitySql.Proofs.Result
import EntitySql.Request.Sort

/-!
# Orderings as lists of keys

An ordering is read to the list of its leaves in the order of the document, each under its path.

* `Json.Leaf` says that members with given numbers and keys lead through nested objects to a value that is
  no object. The order of the document is the lexicographic order of these numbers.
* `Json.leaves` lists the leaves, all of them (`Json.mem_leaves_iff`) and in order (`Json.ordered_leaves`).
* `Direction.Spells` says which names a direction has, without regard to the case of their letters.
* `SortKey.parse_flattens`: an ordering is accepted just if all of its leaves are names of directions; its
  keys are the leaves; and the first other leaf is reported.
-/

namespace EntitySql

set_option autoImplicit false

/-! ## Letters in any case -/

theorem toNat_toLower (c : Char) :
    c.toLower.toNat = if 65 ≤ c.toNat ∧ c.toNat ≤ 90 then c.toNat + 32 else c.toNat := by
  have hrange : (c.val ≥ 'A'.val ∧ c.val ≤ 'Z'.val) ↔ 65 ≤ c.toNat ∧ c.toNat ≤ 90 := Iff.rfl
  unfold Char.toLower
  by_cases h : c.val ≥ 'A'.val ∧ c.val ≤ 'Z'.val
  · rw [dif_pos h, if_pos (hrange.1 h)]
    have hle := (hrange.1 h).2
    change (c.val + ('a'.val - 'A'.val)).toNat = c.val.toNat + 32
    rw [UInt32.toNat_add]
    change (c.toNat + 32) % 2 ^ 32 = c.toNat + 32
    omega
  · rw [dif_neg h, if_neg fun hc => h (hrange.2 hc)]

/-- Two letters are alike in lower case if the one is the other or the other in lower case. -/
theorem toLower_eq_toLower_iff {letter : Char} (h : letter.isUpper = true) (c : Char) :
    c.toLower = letter.toLower ↔ c = letter ∨ c = letter.toLower := by
  have hletter : 65 ≤ letter.toNat ∧ letter.toNat ≤ 90 := of_decide_eq_true h
  have hcode : ∀ a b : Char, a = b ↔ a.toNat = b.toNat := fun a b => Char.toNat_inj.symm
  simp only [hcode, toNat_toLower, if_pos hletter]
  split <;> omega

theorem map_toLower_eq_iff {letters : List Char} (h : ∀ letter ∈ letters, letter.isUpper = true)
    (text : List Char) : text.map Char.toLower = letters.map Char.toLower ↔
      List.Forall₂ (fun c letter => c = letter ∨ c = letter.toLower) text letters := by
  induction text generalizing letters with
  | nil =>
    rw [List.map_nil, List.forall₂_nil_left_iff, eq_comm, List.map_eq_nil_iff]
  | cons c rest ih =>
    cases letters with
    | nil => exact iff_of_false nofun nofun
    | cons letter others =>
      obtain ⟨hletter, hothers⟩ := List.forall_mem_cons.1 h
      rw [List.map_cons, List.map_cons, List.cons.injEq, toLower_eq_toLower_iff hletter, ih hothers,
        List.forall₂_cons]

namespace Direction

/-- The name is that of the direction, each of its letters in either case. -/
def Spells (direction : Direction) (name : String) : Prop :=
  List.Forall₂ (fun c letter => c = letter ∨ c = letter.toLower) name.toList direction.text.toList

theorem asciiLower_eq_iff_spells (direction : Direction) (name : String) :
    asciiLower name = asciiLower direction.text ↔ direction.Spells name := by
  have hall : direction.text.toList.all Char.isUpper = true := by cases direction <;> rfl
  have hupper := List.all_eq_true.1 hall
  rw [Spells, ← map_toLower_eq_iff hupper, ← String.toList_inj, asciiLower, asciiLower,
    String.toList_map, String.toList_map]

theorem ofName?_eq_some_iff {name : String} {direction : Direction} :
    ofName? name = some direction ↔ direction.Spells name := by
  have hasc : asciiLower asc.text = "asc" := by
    rw [← String.toList_inj, asciiLower, String.toList_map]
    decide
  have hdesc : asciiLower desc.text = "desc" := by
    rw [← String.toList_inj, asciiLower, String.toList_map]
    decide
  rw [← asciiLower_eq_iff_spells]
  unfold ofName?
  split
  · next h => cases direction <;> simp [h, hasc, hdesc]
  · next h => cases direction <;> simp [h, hasc, hdesc]
  · next hnoAsc hnoDesc =>
    cases direction with
    | asc => exact iff_of_false nofun (hasc ▸ hnoAsc)
    | desc => exact iff_of_false nofun (hdesc ▸ hnoDesc)

end Direction

/-! ## Leaves -/

namespace Json

/-- From the value, the members with these numbers and keys lead to the leaf, which is no object. -/
inductive Leaf : Json → List Nat → List String → Json → Prop
  | here {value : Json} (h : value.asMembers? = none) : Leaf value [] [] value
  | within {members : List (String × Json)} {number : Nat} {key : String} {value leaf : Json}
      {position : List Nat} {path : List String} (member : members[number]? = some (key, value))
      (deeper : Leaf value position path leaf) :
      Leaf (.obj members) (number :: position) (key :: path) leaf

/-- A leaf with the numbers and the keys of the members that lead to it. -/
structure LeafEntry where
  position : List Nat
  path : List String
  leaf : Json

/-- The leaf as one of the object with the value as a member. -/
def LeafEntry.below (number : Nat) (key : String) (entry : LeafEntry) : LeafEntry where
  position := number :: entry.position
  path := key :: entry.path
  leaf := entry.leaf

mutual

/-- The leaves of a value, from the first to the last member, each with all that is below it. -/
def leaves : Json → List LeafEntry
  | .obj members => memberLeaves 0 members
  | .null => [⟨[], [], .null⟩]
  | .bool value => [⟨[], [], .bool value⟩]
  | .int value => [⟨[], [], .int value⟩]
  | .double value => [⟨[], [], .double value⟩]
  | .str value => [⟨[], [], .str value⟩]
  | .arr items => [⟨[], [], .arr items⟩]
termination_by structural value => value

/-- The leaves of members, the first of which has the number. -/
def memberLeaves (number : Nat) : List (String × Json) → List LeafEntry
  | [] => []
  | (key, value) :: rest =>
    value.leaves.map (LeafEntry.below number key) ++ memberLeaves (number + 1) rest
termination_by structural members => members

end

theorem leaves_eq_singleton {value : Json} (h : value.asMembers? = none) :
    value.leaves = [⟨[], [], value⟩] := by
  cases value with
  | obj members => cases h
  | _ => rfl

theorem leaf_obj_iff {members : List (String × Json)} {position : List Nat} {path : List String}
    {leaf : Json} : Leaf (.obj members) position path leaf ↔ ∃ number key value position' path',
      members[number]? = some (key, value) ∧ Leaf value position' path' leaf ∧
        position = number :: position' ∧ path = key :: path' := by
  constructor
  · rintro (h | ⟨hmember, hdeeper⟩)
    · cases h
    · exact ⟨_, _, _, _, _, hmember, hdeeper, rfl, rfl⟩
  · rintro ⟨number, key, value, position', path', hmember, hdeeper, rfl, rfl⟩
    exact .within hmember hdeeper

/-- A value that is no object is its own leaf. -/
theorem mem_leaves_iff_of_no_members {value : Json} (h : value.asMembers? = none)
    (entry : LeafEntry) :
    entry ∈ value.leaves ↔ Leaf value entry.position entry.path entry.leaf := by
  rw [leaves_eq_singleton h, List.mem_singleton]
  obtain ⟨position, path, leaf⟩ := entry
  constructor
  · rintro ⟨⟩
    exact .here h
  · rintro (_ | _)
    · rfl
    · cases h

mutual

theorem mem_leaves_iff : (value : Json) → ∀ entry : LeafEntry,
    entry ∈ value.leaves ↔ Leaf value entry.position entry.path entry.leaf
  | .obj members, entry => by
    rw [leaves, mem_memberLeaves_iff members, leaf_obj_iff]
    simp only [Nat.zero_add]
  | .null, entry | .bool _, entry | .int _, entry | .double _, entry | .str _, entry
  | .arr _, entry => mem_leaves_iff_of_no_members rfl entry

theorem mem_memberLeaves_iff : (members : List (String × Json)) → ∀ {first : Nat} {entry : LeafEntry},
    entry ∈ memberLeaves first members ↔ ∃ number key value position path,
      members[number]? = some (key, value) ∧ Leaf value position path entry.leaf ∧
        entry.position = (first + number) :: position ∧ entry.path = key :: path
  | [], first, entry => by
    rw [memberLeaves]
    exact iff_of_false List.not_mem_nil (by simp)
  | (key, value) :: rest, first, entry => by
    rw [memberLeaves, List.mem_append, List.mem_map, mem_memberLeaves_iff rest]
    constructor
    · rintro (⟨inner, hinner, rfl⟩ | ⟨number, key', value', position, path, hmember, hleaf, hposition,
        hpath⟩)
      · exact ⟨0, key, value, inner.position, inner.path, rfl, (mem_leaves_iff value inner).1 hinner,
          rfl, rfl⟩
      · refine ⟨number + 1, key', value', position, path, hmember, hleaf, ?_, hpath⟩
        rw [hposition, Nat.add_right_comm, Nat.add_assoc]
    · rintro ⟨number, key', value', position, path, hmember, hleaf, hposition, hpath⟩
      cases number with
      | zero =>
        obtain ⟨rfl, rfl⟩ := Prod.mk.inj (Option.some.inj hmember)
        refine .inl ⟨⟨position, path, entry.leaf⟩, (mem_leaves_iff value _).2 hleaf, ?_⟩
        cases entry
        obtain rfl : _ = _ := hposition
        obtain rfl : _ = _ := hpath
        rfl
      | succ number =>
        refine .inr ⟨number, key', value', position, path, hmember, hleaf, ?_, hpath⟩
        rw [hposition, Nat.add_right_comm, Nat.add_assoc]

end

/-- The members of an object come one after the other. -/
theorem le_of_mem_memberLeaves {members : List (String × Json)} {first : Nat} {entry : LeafEntry}
    (h : entry ∈ memberLeaves first members) :
    ∃ number position, entry.position = number :: position ∧ first ≤ number := by
  obtain ⟨number, -, -, position, -, -, -, hposition, -⟩ := (mem_memberLeaves_iff members).1 h
  exact ⟨_, _, hposition, Nat.le_add_right first number⟩

mutual

theorem ordered_leaves : (value : Json) →
    value.leaves.Pairwise fun entry later => entry.position < later.position
  | .obj members => ordered_memberLeaves members 0
  | .null | .bool _ | .int _ | .double _ | .str _ | .arr _ => List.pairwise_singleton ..

theorem ordered_memberLeaves : (members : List (String × Json)) → ∀ first : Nat,
    (memberLeaves first members).Pairwise fun entry later => entry.position < later.position
  | [], _ => .nil
  | (key, value) :: rest, first => by
    rw [memberLeaves, List.pairwise_append, List.pairwise_map]
    refine ⟨(ordered_leaves value).imp fun h => List.cons_lt_cons_iff.2 (.inr ⟨rfl, h⟩),
      ordered_memberLeaves rest (first + 1), ?_⟩
    rw [List.forall_mem_map]
    intro entry _ later hlater
    obtain ⟨number, position, hposition, hle⟩ := le_of_mem_memberLeaves hlater
    rw [hposition]
    exact List.cons_lt_cons_iff.2 (.inl hle)

end

/-- What stands before a leaf in the document stands before it in the list. -/
theorem mem_before_of_lt {value : Json} {before after : List LeafEntry} {entry : LeafEntry}
    (h : value.leaves = before ++ entry :: after) {position : List Nat} {path : List String}
    {leaf : Json} (hleaf : Leaf value position path leaf) (hlt : position < entry.position) :
    ⟨position, path, leaf⟩ ∈ before := by
  have hmem := (mem_leaves_iff value ⟨position, path, leaf⟩).2 hleaf
  have hordered := ordered_leaves value
  rw [h] at hmem hordered
  obtain ⟨-, hlater, -⟩ := List.pairwise_append.1 hordered
  obtain ⟨hafter, -⟩ := List.pairwise_cons.1 hlater
  rcases List.mem_append.1 hmem with hbefore | hrest
  · exact hbefore
  · rcases List.mem_cons.1 hrest with rfl | hrest
    · exact absurd hlt (List.lt_irrefl _)
    · exact absurd hlt (List.lt_asymm (hafter _ hrest))

end Json

/-! ## Keys -/

namespace SortKey

/-- The key of a leaf under a path. -/
def ofLeaf (path : List String) : Json → Result SortKey
  | .str name => do return ofPath path (← Direction.parse name)
  | got => .error (.filter (.orderLeaf path got))

mutual

/-- What stands under a path is flattened leaf by leaf. -/
theorem flattenValue_eq_mapM : (value : Json) → ∀ path : List String,
    flattenValue path value = value.leaves.mapM fun entry => ofLeaf (path ++ entry.path) entry.leaf
  | .obj members, path => by
    rw [flattenValue, Json.leaves]
    exact flattenMembers_eq_mapM members path 0
  | .str name, path => by
    rw [flattenValue, Json.leaves, List.mapM_cons, List.mapM_nil, List.append_nil, ofLeaf]
    cases Direction.parse name <;> rfl
  | .null, path | .bool _, path | .int _, path | .double _, path | .arr _, path => by
    rw [flattenValue, Json.leaves, List.mapM_cons, List.append_nil]
    · rfl
    · exact nofun
    · exact nofun

theorem flattenMembers_eq_mapM : (members : List (String × Json)) →
    ∀ (path : List String) (first : Nat), flattenMembers path members =
      (Json.memberLeaves first members).mapM fun entry => ofLeaf (path ++ entry.path) entry.leaf
  | [], path, first => rfl
  | (key, value) :: rest, path, first => by
    rw [flattenMembers, Json.memberLeaves, List.mapM_append, List.mapM_map, flattenValue_eq_mapM value,
      flattenMembers_eq_mapM rest path (first + 1)]
    simp only [List.append_assoc, List.singleton_append]
    rfl

end

theorem parse_obj (members : List (String × Json)) : parse (.obj members) =
    (Json.obj members).leaves.mapM fun entry => ofLeaf entry.path entry.leaf := by
  rw [parse, flattenMembers_eq_mapM members [] 0, Json.leaves]
  rfl

/-- A leaf that says in which direction to sort. -/
def IsDirection (leaf : Json) : Prop :=
  ∃ name direction, leaf = .str name ∧ Direction.Spells direction name

/-- Why a leaf is no direction: its text is unknown, or it is no text. -/
inductive Refused (path : List String) : Json → Fault → Prop
  | unknown {name : String} {fault : Fault} (h : ∀ direction, ¬ Direction.Spells direction name)
      (cause : fault = .operator (.direction name)) (kind : fault.kind = .invalidOperator) :
      Refused path (.str name) fault
  | noText {leaf : Json} {fault : Fault} (h : ∀ name, leaf ≠ .str name)
      (cause : fault = .filter (.orderLeaf path leaf)) (kind : fault.kind = .invalidFilter) :
      Refused path leaf fault

/-- The keys are the leaves of the value in the order of the document: all leaves, each under its path. -/
def Lists (value : Json) (keys : List SortKey) : Prop :=
  ∃ positions : List (List Nat), positions.Pairwise (· < ·) ∧
    (∀ position path leaf, Json.Leaf value position path leaf → position ∈ positions) ∧
    List.Forall₂ (fun position key => ∃ name, Json.Leaf value position key.path (.str name) ∧
      key.direction.Spells name ∧ key.label = "ob." ++ ".".intercalate key.path) positions keys

/-- Why a value is no ordering: it is no object, or it has a leaf that is no direction, before which there
are directions only. -/
inductive NoOrdering (value : Json) : Fault → Prop
  | noObject {fault : Fault} (h : value.asMembers? = none)
      (cause : fault = .filter (.orderNoObject value)) (kind : fault.kind = .invalidFilter) :
      NoOrdering value fault
  | leaf {members : List (String × Json)} {position : List Nat} {path : List String} {leaf : Json}
      {fault : Fault} (object : value = .obj members) (found : Json.Leaf value position path leaf)
      (refused : Refused path leaf fault)
      (first : ∀ earlier path' leaf', earlier < position → Json.Leaf value earlier path' leaf' →
        IsDirection leaf') : NoOrdering value fault

theorem parse_eq_error {value : Json} (h : value.asMembers? = none) :
    parse value = .error (.filter (.orderNoObject value)) := by
  cases value with
  | obj members => cases h
  | _ => rfl

theorem ofLeaf_eq_ok_iff {path : List String} {leaf : Json} {key : SortKey} :
    ofLeaf path leaf = .ok key ↔
      ∃ name direction, leaf = .str name ∧ Direction.Spells direction name ∧
        key = ofPath path direction := by
  cases leaf with
  | str name =>
    rw [ofLeaf, Direction.parse]
    simp only [← Direction.ofName?_eq_some_iff]
    constructor
    · intro h
      cases hname : Direction.ofName? name with
      | none =>
        rw [hname] at h
        cases h
      | some direction =>
        rw [hname] at h
        exact ⟨name, direction, rfl, hname, (Except.ok.inj h).symm⟩
    · rintro ⟨_, direction, ⟨⟩, hname, rfl⟩
      rw [hname]
      rfl
  | _ => exact iff_of_false nofun (by simp)

theorem exists_ofLeaf_iff {path : List String} {leaf : Json} :
    (∃ key, ofLeaf path leaf = .ok key) ↔ IsDirection leaf := by
  simp only [ofLeaf_eq_ok_iff]
  constructor
  · rintro ⟨key, name, direction, hleaf, hspells, -⟩
    exact ⟨name, direction, hleaf, hspells⟩
  · rintro ⟨name, direction, hleaf, hspells⟩
    exact ⟨_, name, direction, hleaf, hspells, rfl⟩

theorem refused_of_ofLeaf {path : List String} {leaf : Json} {fault : Fault}
    (h : ofLeaf path leaf = .error fault) : Refused path leaf fault := by
  cases leaf with
  | str name =>
    rw [ofLeaf, Direction.parse] at h
    cases hname : Direction.ofName? name with
    | none =>
      rw [hname] at h
      obtain rfl : _ = fault := Except.error.inj h
      refine .unknown (fun direction hspells => ?_) rfl rfl
      rw [Direction.ofName?_eq_some_iff.2 hspells] at hname
      cases hname
    | some direction =>
      rw [hname] at h
      cases h
  | _ => exact .noText nofun (Except.error.inj h).symm ((Except.error.inj h) ▸ rfl)

/-- The keys that are read from all leaves of a value. -/
theorem lists_of_mapM {value : Json} {keys : List SortKey}
    (h : (value.leaves.mapM fun entry => ofLeaf entry.path entry.leaf) = .ok keys) :
    Lists value keys := by
  refine ⟨value.leaves.map (·.position), List.pairwise_map.2 (Json.ordered_leaves value), ?_, ?_⟩
  · intro position path leaf hleaf
    exact List.mem_map_of_mem ((Json.mem_leaves_iff value ⟨position, path, leaf⟩).2 hleaf)
  · rw [List.forall₂_map_left_iff]
    have hread := (List.forall₂_and_left _ _).2 ⟨fun entry => (Json.mem_leaves_iff value entry).1, mapM_eq_ok.1 h⟩
    refine hread.imp fun entry key hentry => ?_
    obtain ⟨hleaf, hkey⟩ := hentry
    obtain ⟨name, direction, hname, hspells, rfl⟩ := ofLeaf_eq_ok_iff.1 hkey
    exact ⟨name, hname ▸ hleaf, hspells, rfl⟩

/-- An ordering is accepted if and only if it is an object all of whose leaves are directions. Its keys are
these leaves in the order of the document. If it is refused, then for the first leaf that is no direction,
or because it is no object. -/
theorem parse_flattens (value : Json) :
    ((∃ keys, parse value = .ok keys) ↔ (∃ members, value = .obj members) ∧
      ∀ position path leaf, Json.Leaf value position path leaf → IsDirection leaf) ∧
    (∀ keys, parse value = .ok keys → Lists value keys) ∧
    ∀ fault, parse value = .error fault → NoOrdering value fault := by
  by_cases hmembers : value.asMembers? = none
  · rw [parse_eq_error hmembers]
    refine ⟨iff_of_false nofun ?_, nofun, ?_⟩
    · rintro ⟨⟨members, rfl⟩, -⟩
      cases hmembers
    · rintro _ ⟨⟩
      exact .noObject hmembers rfl rfl
  · obtain ⟨members, rfl⟩ : ∃ members, value = .obj members := by
      cases value with
      | obj members => exact ⟨members, rfl⟩
      | _ => exact absurd rfl hmembers
    rw [parse_obj]
    refine ⟨?_, fun keys => lists_of_mapM, fun fault hfault => ?_⟩
    · rw [exists_mapM_eq_ok_iff]
      simp only [exists_ofLeaf_iff, Json.mem_leaves_iff]
      constructor
      · intro h
        exact ⟨⟨members, rfl⟩, fun position path leaf hleaf => h ⟨position, path, leaf⟩ hleaf⟩
      · rintro ⟨-, h⟩ entry hentry
        exact h entry.position entry.path entry.leaf hentry
    · obtain ⟨before, entry, after, hleaves, hbefore, hentry⟩ := exists_of_mapM_eq_error hfault
      have hfound : Json.Leaf (.obj members) entry.position entry.path entry.leaf := by
        rw [← Json.mem_leaves_iff, hleaves]
        exact List.mem_append_right _ (List.mem_cons_self ..)
      refine .leaf rfl hfound (refused_of_ofLeaf hentry) fun position path leaf hearlier hleaf => ?_
      exact exists_ofLeaf_iff.1 (hbefore _ (Json.mem_before_of_lt hleaves hleaf hearlier))

end SortKey

/-! ## The library -/

namespace Library

/-- Books by title, by nothing of their pages, and then by the last names of their writers. -/
def titleThenWriter : Json :=
  .obj [("title", .str "ASC"), ("pages", .obj []), ("writer", .obj [("lastName", .str "dEsc")])]

/-- Books with two members that are no directions, one of them deeper. -/
def writerSideways : Json :=
  .obj [("title", .str "asc"), ("writer", .obj [("lastName", .str "sideways")]), ("pages", .int 9)]

end Library

theorem SortKey.parse_flattens_titleThenWriter :
    (∃ keys, parse Library.titleThenWriter = .ok keys ∧
      keys.map (·.label) = ["ob.title", "ob.writer.lastName"] ∧ Lists Library.titleThenWriter keys) ∧
    parse Library.writerSideways = .error (.operator (.direction "sideways")) ∧
      NoOrdering Library.writerSideways (.operator (.direction "sideways")) := by
  have hkeys : parse Library.titleThenWriter =
      .ok [ofPath ["title"] .asc, ofPath ["writer", "lastName"] .desc] := by decide +kernel
  have hfault : parse Library.writerSideways = .error (.operator (.direction "sideways")) := by
    decide +kernel
  obtain ⟨-, hlists, -⟩ := parse_flattens Library.titleThenWriter
  obtain ⟨-, -, hrefused⟩ := parse_flattens Library.writerSideways
  exact ⟨⟨_, hkeys, by decide +kernel, hlists _ hkeys⟩, hfault, hrefused _ hfault⟩

end EntitySql
