import EntitySql.Proofs.Binding.Arrivals
import EntitySql.Proofs.Compile.Reports
import EntitySql.Proofs.Naming.Found
import EntitySql.Proofs.Read.Meaning

/-!
# Checked requests

What checking a read request accepts, what it refuses, and what it makes of the request.

* `ReadRequest.names` lists the names that a request asks for with the entities that they are read on,
  `Schema.nameFault?` is what is wrong with such a name.
* `Selection.Splits` says that a node of the read has what its node of the request asks for, apart by
  kind and each in the order of the request, at every depth.
* `ofRequest_splits` says that a request is refused for its first undeclared name, and else split.
-/

namespace EntitySql

set_option autoImplicit false

/-! ## Names that a request asks for -/

mutual

/-- The names that a request on an entity asks for, each before those below it. -/
def ReadRequest.names (schema : Schema) (entity : String) : ReadRequest → List (String × String)
  | { items, .. } => ReadItem.namesAll schema entity items
termination_by structural request => request

/-- The name of an item, and what its node asks for on the entity that the name leads to. -/
def ReadItem.names (schema : Schema) (entity : String) : ReadItem → List (String × String)
  | .bare name => [(entity, name)]
  | .node request => (entity, request.name) :: match schema.target? entity request.name with
    | some target => request.names schema target
    | none => []
termination_by structural item => item

def ReadItem.namesAll (schema : Schema) (entity : String) : List ReadItem → List (String × String)
  | [] => []
  | item :: rest => item.names schema entity ++ ReadItem.namesAll schema entity rest
termination_by structural items => items

end

/-- What is wrong with a name that is read on an entity. -/
def Schema.nameFault? (schema : Schema) (entity name : String) : Option Fault :=
  if schema.entity? entity = none then some (.name (.entity entity))
  else if schema.member? entity name = none then some (.name (.member entity name))
  else none

/-- What is wrong with the first of the names for which anything is. -/
def Schema.namesFault? (schema : Schema) (names : List (String × String)) : Option Fault :=
  names.findSome? fun asked => schema.nameFault? asked.1 asked.2

namespace Schema

variable {schema : Schema} {entity name : String}

theorem member?_eq_none (h : schema.entity? entity = none) : schema.member? entity name = none := by
  rw [member?, h, Option.bind_none]

theorem nameFault?_eq_none :
    schema.nameFault? entity name = none ↔ (schema.member? entity name).isSome := by
  rw [nameFault?, Option.isSome_iff_ne_none]
  split
  · next howner => exact iff_of_false (Option.some_ne_none _) fun hmember => hmember (member?_eq_none howner)
  · split
    · next hmember => exact iff_of_false (Option.some_ne_none _) fun hfound => hfound hmember
    · next hmember => exact iff_of_true rfl hmember

theorem kind_of_nameFault? {fault : Fault} (h : schema.nameFault? entity name = some fault) :
    fault.kind = .nameResolution := by
  unfold nameFault? at h
  split at h
  · obtain rfl := Option.some.inj h
    rfl
  · split at h
    · obtain rfl := Option.some.inj h
      rfl
    · cases h

theorem namesFault?_eq_none {names : List (String × String)} : schema.namesFault? names = none ↔
    ∀ asked ∈ names, (schema.member? asked.1 asked.2).isSome := by
  rw [namesFault?, List.findSome?_eq_none_iff]
  exact forall₂_congr fun asked _ => nameFault?_eq_none

theorem kind_of_namesFault? {names : List (String × String)} {fault : Fault}
    (h : schema.namesFault? names = some fault) : fault.kind = .nameResolution := by
  obtain ⟨asked, -, hasked⟩ := List.exists_of_findSome?_eq_some h
  exact kind_of_nameFault? hasked

theorem namesFault?_append (names later : List (String × String)) :
    schema.namesFault? (names ++ later) =
      (schema.namesFault? names).or (schema.namesFault? later) :=
  List.findSome?_append

theorem namesFault?_cons (names : List (String × String)) :
    schema.namesFault? ((entity, name) :: names) =
      (schema.nameFault? entity name).or (schema.namesFault? names) := by
  rw [namesFault?, List.findSome?_cons]
  cases schema.nameFault? entity name <;> rfl

/-- What a name refers to has that name, which is not empty. -/
theorem WellFormed.named_of_member? (hschema : schema.WellFormed) {member : Member}
    (h : schema.member? entity name = some member) :
    name ≠ "" ∧ ∀ field, member = .field field → field.name = name := by
  obtain ⟨owner, howner, hmember⟩ := Option.bind_eq_some_iff.1 h
  have hnamed := (hschema.entity owner (entity?_eq_some howner).1).named
  simp only [Entity.memberNames, List.mem_append, List.mem_map] at hnamed
  rcases Entity.member?_eq_some hmember with ⟨field, rfl, hmem, hname⟩ |
    ⟨relation, rfl, hmem, hname⟩ | ⟨relation, rfl, hmem, hname⟩
  · refine ⟨hnamed name (.inl (.inl ⟨field, hmem, hname⟩)), ?_⟩
    rintro _ ⟨⟩
    exact hname
  · exact ⟨hnamed name (.inl (.inr ⟨relation, hmem, hname⟩)), fun _ h => by cases h⟩
  · exact ⟨hnamed name (.inr ⟨relation, hmem, hname⟩), fun _ h => by cases h⟩

end Schema

/-! ## Items apart by kind -/

namespace ReadItem

variable (schema : Schema) (entity : String) (item : ReadItem)

/-- The field that an item names. -/
def field? : Option String :=
  match schema.member? entity item.name with
  | some (.field _) => some item.name
  | _ => none

/-- An item that names a many-to-one, with the entity that this leads to. -/
def manyToOne? : Option (String × ReadItem) :=
  match schema.member? entity item.name with
  | some (.manyToOne relation) => some (relation.targetEntity, item)
  | _ => none

/-- An item that names a one-to-many, with the entity that this leads to. -/
def oneToMany? : Option (String × ReadItem) :=
  match schema.member? entity item.name with
  | some (.oneToMany relation) => some (relation.targetEntity, item)
  | _ => none

end ReadItem

namespace Selection

mutual

/-- The node of a read has the arguments of the node of a request on an entity and, apart by kind and in
order, everything that it asks for. -/
inductive Splits (schema : Schema) : String → ReadRequest → Selection → Prop
  | node {entity : String} {request : ReadRequest} {selection : Selection}
      (args : selection.args = request.args)
      (fields : selection.fields = request.items.filterMap (·.field? schema entity))
      (manyToOne : List.Forall₂ (Meets schema)
        (request.items.filterMap (·.manyToOne? schema entity)) selection.manyToOne)
      (oneToMany : List.Forall₂ (Meets schema)
        (request.items.filterMap (·.oneToMany? schema entity)) selection.oneToMany)
      (complete : selection.fields.length + selection.manyToOne.length +
        selection.oneToMany.length = request.items.length) :
      Splits schema entity request selection

/-- The child of a read is what an item that leads to an entity asks for: nothing of the relation, or
what its node does. -/
inductive Meets (schema : Schema) : String × ReadItem → Selection → Prop
  | bare (target name : String) : Meets schema (target, .bare name) { name }
  | node {target : String} {request : ReadRequest} {child : Selection}
      (name : child.name = request.name) (splits : Splits schema target request child) :
      Meets schema (target, .node request) child

end

/-- What a selection is after items have been added to it. -/
structure Added (schema : Schema) (entity : String) (before : Selection) (items : List ReadItem)
    (selection : Selection) : Prop where
  name : selection.name = before.name
  args : selection.args = before.args
  fields : selection.fields = before.fields ++ items.filterMap (·.field? schema entity)
  manyToOne : ∃ children, selection.manyToOne = before.manyToOne ++ children ∧
    List.Forall₂ (Meets schema) (items.filterMap (·.manyToOne? schema entity)) children
  oneToMany : ∃ children, selection.oneToMany = before.oneToMany ++ children ∧
    List.Forall₂ (Meets schema) (items.filterMap (·.oneToMany? schema entity)) children
  complete : selection.fields.length + selection.manyToOne.length + selection.oneToMany.length =
    before.fields.length + before.manyToOne.length + before.oneToMany.length + items.length

namespace Added

variable {schema : Schema} {entity : String} {before middle selection : Selection}
  {items later : List ReadItem} {item : ReadItem}

theorem nil (before : Selection) : Added schema entity before [] before where
  name := rfl
  args := rfl
  fields := (List.append_nil _).symm
  manyToOne := ⟨[], (List.append_nil _).symm, .nil⟩
  oneToMany := ⟨[], (List.append_nil _).symm, .nil⟩
  complete := rfl

theorem append (h : Added schema entity before items middle)
    (hlater : Added schema entity middle later selection) :
    Added schema entity before (items ++ later) selection where
  name := hlater.name.trans h.name
  args := hlater.args.trans h.args
  fields := by rw [hlater.fields, h.fields, List.filterMap_append, List.append_assoc]
  manyToOne := by
    obtain ⟨first, hfirst, hmeets⟩ := h.manyToOne
    obtain ⟨rest, hrest, hlaterMeets⟩ := hlater.manyToOne
    refine ⟨first ++ rest, by rw [hrest, hfirst, List.append_assoc], ?_⟩
    rw [List.filterMap_append]
    exact List.rel_append hmeets hlaterMeets
  oneToMany := by
    obtain ⟨first, hfirst, hmeets⟩ := h.oneToMany
    obtain ⟨rest, hrest, hlaterMeets⟩ := hlater.oneToMany
    refine ⟨first ++ rest, by rw [hrest, hfirst, List.append_assoc], ?_⟩
    rw [List.filterMap_append]
    exact List.rel_append hmeets hlaterMeets
  complete := by rw [hlater.complete, h.complete, List.length_append, Nat.add_assoc]

theorem of_field {field : Field} (hmember : schema.member? entity item.name = some (.field field)) :
    Added schema entity before [item] (before.withField item.name) where
  name := rfl
  args := rfl
  fields := by simp [ReadItem.field?, hmember, withField]
  manyToOne := ⟨[], (List.append_nil _).symm, by simp [ReadItem.manyToOne?, hmember]⟩
  oneToMany := ⟨[], (List.append_nil _).symm, by simp [ReadItem.oneToMany?, hmember]⟩
  complete := by simp +arith [withField]

theorem of_manyToOne {relation : ManyToOne} {child : Selection}
    (hmember : schema.member? entity item.name = some (.manyToOne relation))
    (hchild : Meets schema (relation.targetEntity, item) child) :
    Added schema entity before [item] (before.withManyToOne child) where
  name := rfl
  args := rfl
  fields := by simp [ReadItem.field?, hmember, withManyToOne]
  manyToOne := ⟨[child], rfl, by simpa [ReadItem.manyToOne?, hmember] using hchild⟩
  oneToMany := ⟨[], (List.append_nil _).symm, by simp [ReadItem.oneToMany?, hmember]⟩
  complete := by simp +arith [withManyToOne]

theorem of_oneToMany {relation : OneToMany} {child : Selection}
    (hmember : schema.member? entity item.name = some (.oneToMany relation))
    (hchild : Meets schema (relation.targetEntity, item) child) :
    Added schema entity before [item] (before.withOneToMany child) where
  name := rfl
  args := rfl
  fields := by simp [ReadItem.field?, hmember, withOneToMany]
  manyToOne := ⟨[], (List.append_nil _).symm, by simp [ReadItem.manyToOne?, hmember]⟩
  oneToMany := ⟨[child], rfl, by simpa [ReadItem.oneToMany?, hmember] using hchild⟩
  complete := by simp +arith [withOneToMany]

/-- What is added once the item has been added is added with it. -/
theorem reports {fault? : Option Fault} (h : Added schema entity before [item] middle)
    (hlater : (addItems schema entity middle later).Reports fault? (Added schema entity middle later)) :
    (addItems schema entity middle later).Reports fault?
      (Added schema entity before (item :: later)) :=
  hlater.mono fun _ => h.append

/-- Added to nothing, the items are split. -/
theorem splits {name requested : String} {args : ReadArgs}
    (h : Added schema entity { name, args } items selection) :
    Splits schema entity { name := requested, items, args } selection := by
  obtain ⟨ones, hones, hmanyToOne⟩ := h.manyToOne
  obtain ⟨lists, hlists, honeToMany⟩ := h.oneToMany
  refine .node h.args h.fields ?_ ?_ (h.complete.trans (Nat.zero_add _))
  · rw [hones]
    exact hmanyToOne
  · rw [hlists]
    exact honeToMany

end Added

/-! ## Checking -/

variable {schema : Schema}

/-- What goes on with a member reports what is wrong with the member's name, or else what it reports. -/
theorem reports_resolve_bind {entity name : String} {names : List (String × String)}
    {add : Option Member → Result Selection} {P : Selection → Prop}
    (hnone : add none = .error (.name (.member entity name)))
    (hadd : ∀ member, schema.member? entity name = some member →
      (add (some member)).Reports (schema.namesFault? names) P) :
    (schema.resolve entity name >>= add).Reports
      (schema.namesFault? ((entity, name) :: names)) P := by
  rw [Schema.namesFault?_cons, Schema.nameFault?]
  cases howner : schema.entity? entity with
  | none =>
    rw [if_pos rfl, Schema.resolve, Schema.entity, howner]
    rfl
  | some owner =>
    have hresolve : schema.resolve entity name = .ok (schema.member? entity name) := by
      rw [Schema.resolve, Schema.entity_eq_ok.2 howner, Schema.member?, howner]
      rfl
    rw [if_neg (Option.some_ne_none owner), hresolve]
    cases hmember : schema.member? entity name with
    | none => exact hnone
    | some member => exact hadd member hmember

mutual

/-- Checking a request reports the first name that is not declared, and else splits the request. -/
theorem reports_ofRequest (hschema : schema.WellFormed) : (request : ReadRequest) → ∀ entity,
    (ofRequest schema entity request).Reports (schema.namesFault? (request.names schema entity))
      fun selection => selection.name = (if request.name = "" then entity else request.name) ∧
        Splits schema entity request selection
  | { name, items, args }, entity => by
    rw [ofRequest, ReadRequest.names]
    exact (reports_addItems hschema items entity _).mono fun selection h => ⟨h.name, h.splits⟩

theorem reports_addItems (hschema : schema.WellFormed) : (items : List ReadItem) →
    ∀ entity before, (addItems schema entity before items).Reports
      (schema.namesFault? (ReadItem.namesAll schema entity items))
      (Added schema entity before items)
  | [], entity, before => by
    rw [addItems]
    exact ⟨before, rfl, .nil before⟩
  | .bare name :: rest, entity, before => by
    rw [addItems, ReadItem.namesAll, ReadItem.names, List.singleton_append]
    refine reports_resolve_bind rfl fun member hmember => ?_
    obtain ⟨-, hname⟩ := hschema.named_of_member? hmember
    have hrest := fun after => reports_addItems hschema rest entity after
    cases member with
    | field field =>
      rw [← hname field rfl] at hmember ⊢
      exact Added.reports (.of_field hmember) (hrest _)
    | manyToOne relation => exact Added.reports (.of_manyToOne hmember (.bare _ name)) (hrest _)
    | oneToMany relation => exact Added.reports (.of_oneToMany hmember (.bare _ name)) (hrest _)
  | .node request :: rest, entity, before => by
    rw [addItems, ReadItem.namesAll, ReadItem.names, List.cons_append]
    refine reports_resolve_bind rfl fun member hmember => ?_
    obtain ⟨hnamed, hname⟩ := hschema.named_of_member? hmember
    have hrest := fun after => reports_addItems hschema rest entity after
    cases member with
    | field field =>
      simp only [Schema.target?, hmember, List.nil_append, hname field rfl]
      exact Added.reports (.of_field hmember) (hrest _)
    | manyToOne relation =>
      simp only [Schema.target?, hmember, Schema.namesFault?_append]
      refine (reports_ofRequest hschema request _).bind fun child hchild => ?_
      rw [if_neg hnamed] at hchild
      exact Added.reports (.of_manyToOne hmember (.node hchild.1 hchild.2)) (hrest _)
    | oneToMany relation =>
      simp only [Schema.target?, hmember, Schema.namesFault?_append]
      refine (reports_ofRequest hschema request _).bind fun child hchild => ?_
      rw [if_neg hnamed] at hchild
      exact Added.reports (.of_oneToMany hmember (.node hchild.1 hchild.2)) (hrest _)

end

/-- A request is accepted if and only if every name that it asks for, at any depth, is that of a member
of the entity it is read on, and else refused for the first that is not. The read has the members of each
node apart by kind, and the name of its root unless that is empty. -/
theorem ofRequest_splits {entities : List Entity} (hschema : Schema.ofEntities entities = .ok schema)
    (entity : String) (request : ReadRequest) :
    ((∃ selection, ofRequest schema entity request = .ok selection) ↔
      ∀ asked ∈ request.names schema entity, (schema.member? asked.1 asked.2).isSome) ∧
    (∀ fault, ofRequest schema entity request = .error fault ↔
      schema.namesFault? (request.names schema entity) = some fault) ∧
    (∀ fault, ofRequest schema entity request = .error fault → fault.kind = .nameResolution) ∧
    ∀ selection, ofRequest schema entity request = .ok selection →
      selection.name = (if request.name = "" then entity else request.name) ∧
        Splits schema entity request selection := by
  have hwell : schema.WellFormed := (Schema.ofEntities_eq_ok.1 hschema).2
  have hreports := reports_ofRequest hwell request entity
  rw [← Schema.namesFault?_eq_none]
  cases hfault : schema.namesFault? (request.names schema entity) with
  | none =>
    rw [hfault] at hreports
    obtain ⟨selection, hselection, hsplits⟩ := hreports
    rw [hselection]
    refine ⟨iff_of_true ⟨selection, rfl⟩ rfl, fun fault => ?_, ?_, ?_⟩
    · exact iff_of_false (by simp) (by simp)
    · rintro _ ⟨⟩
    · rintro _ ⟨⟩
      exact hsplits
  | some first =>
    rw [hfault] at hreports
    have hrefused : ofRequest schema entity request = .error first := hreports
    rw [hrefused]
    refine ⟨iff_of_false (by simp) (by simp), fun fault => ?_, ?_, ?_⟩
    · rw [Except.error.injEq, Option.some.injEq]
    · rintro _ ⟨⟩
      exact Schema.kind_of_namesFault? hfault
    · rintro _ ⟨⟩

/-- A nameless read of books with their titles and their writers, and of the member of these. -/
def booksWithWriters (member : String) : ReadRequest where
  items := [.bare "title", .node { name := "writer", items := [.bare member] }]

theorem ofRequest_splits_booksWithWriters :
    Schema.ofEntities Library.entities = .ok Library.schema ∧
      (∃ selection, ofRequest Library.schema "Book" (booksWithWriters "books") = .ok selection ∧
        selection.name = "Book" ∧
          Splits Library.schema "Book" (booksWithWriters "books") selection) ∧
      ofRequest Library.schema "Book" (booksWithWriters "penName") =
        .error (.name (.member "Author" "penName")) := by
  obtain ⟨haccepted, -, -, hsplits⟩ :=
    ofRequest_splits Library.ofEntities_entities "Book" (booksWithWriters "books")
  obtain ⟨-, hrefused, -⟩ :=
    ofRequest_splits Library.ofEntities_entities "Book" (booksWithWriters "penName")
  obtain ⟨selection, hselection⟩ := haccepted.2 (by decide +kernel)
  obtain ⟨hname, hsplit⟩ := hsplits selection hselection
  exact ⟨Library.ofEntities_entities, ⟨selection, hselection, hname, hsplit⟩,
    (hrefused _).2 (by decide +kernel)⟩

end Selection

end EntitySql
