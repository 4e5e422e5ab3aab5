import EntitySql.Proofs.Filter.Meaning
import EntitySql.Proofs.Read.Arguments

/-!
# What reads mean

The documents that a read asks for, said on the data alone.

* `ReadRequest.documents` are the documents of the rows of an entity that pass the filter of a
  request: the fields it names, the document or `null` for each many-to-one and the list of documents
  for each one-to-many.
* `Selection.document` says the same of a checked request, and `Selection.document_ofRequest` that
  checking keeps the meaning.
-/

namespace EntitySql

set_option autoImplicit false

variable {V : Type}

/-- Arguments that ask for no order and no part of the rows. -/
def ReadArgs.Plain (args : ReadArgs) : Prop :=
  args.order = none ∧ args.limit = none ∧ args.offset = none

mutual

/-- A request none of whose nodes asks for an order or for a part of its rows. -/
def ReadRequest.Plain : ReadRequest → Prop
  | { items, args, .. } => args.Plain ∧ ReadItem.AllPlain items
termination_by structural request => request

/-- Members all of whose nodes are plain. -/
def ReadItem.AllPlain : List ReadItem → Prop
  | [] => True
  | item :: rest => item.Plain ∧ ReadItem.AllPlain rest
termination_by structural items => items

def ReadItem.Plain : ReadItem → Prop
  | .bare _ => True
  | .node request => request.Plain
termination_by structural item => item

end

mutual

def Selection.Plain : Selection → Prop
  | { args, manyToOne, oneToMany, .. } =>
    args.Plain ∧ Selection.AllPlain manyToOne ∧ Selection.AllPlain oneToMany
termination_by structural selection => selection

def Selection.AllPlain : List Selection → Prop
  | [] => True
  | child :: rest => child.Plain ∧ Selection.AllPlain rest
termination_by structural children => children

end

def ReadItem.name : ReadItem → String
  | .bare name => name
  | .node request => request.name

section

variable (engine : Engine V) (db : Instance V) (schema : Schema) (layout : Layout)

/-- Whether the filter of a read keeps a row of the entity. -/
def ReadArgs.keeps (args : ReadArgs) (entity : String) (tuple : Tuple V) : Bool :=
  match args.filter with
  | none => true
  | some filter => filter.meaning engine db schema layout entity tuple = .holds

def fieldMember (entity : String) (tuple : Tuple V) (field : String) : String × Json :=
  (field, engine.toJson (tuple (layout.column entity field)))

/-! ## Requests -/

def ReadItem.fields (entity : String) (tuple : Tuple V) (items : List ReadItem) :
    List (String × Json) :=
  items.filterMap fun item => match schema.member? entity item.name with
    | some (.field field) => some (fieldMember engine layout entity tuple field.name)
    | _ => none

mutual

/-- The document of a row. -/
def ReadRequest.document (entity : String) (tuple : Tuple V) : ReadRequest → Json
  | { items, .. } => .obj (ReadItem.fields engine schema layout entity tuple items ++
      ReadItem.ones entity tuple items ++ ReadItem.lists entity tuple items)
termination_by structural request => request

/-- The many-to-ones among the items: the document of the row they refer to, or `null`. -/
def ReadItem.ones (entity : String) (tuple : Tuple V) : List ReadItem → List (String × Json)
  | [] => []
  | item :: rest =>
    (match schema.member? entity item.name with
      | some (.manyToOne relation) =>
        let documents := item.documents relation.targetEntity
          (db.partners engine (layout.link entity relation) tuple)
        [(relation.name, documents.head?.getD .null)]
      | _ => []) ++ ReadItem.ones entity tuple rest
termination_by structural items => items

/-- The one-to-manys among the items: the documents of all rows that refer to the row. -/
def ReadItem.lists (entity : String) (tuple : Tuple V) : List ReadItem → List (String × Json)
  | [] => []
  | item :: rest =>
    (match schema.member? entity item.name with
      | some (.oneToMany relation) => match layout.inverseLink? schema relation with
        | some link =>
          [(relation.name, .arr (item.documents relation.targetEntity
            (db.partners engine link tuple)))]
        | none => []
      | _ => []) ++ ReadItem.lists entity tuple rest
termination_by structural items => items

/-- The documents of those rows of an entity that an item keeps. A bare name keeps them all and asks
for nothing. -/
def ReadItem.documents (entity : String) (tuples : List (Tuple V)) : ReadItem → List Json
  | .bare _ => tuples.map fun _ => .obj []
  | .node request =>
    (tuples.filter (request.args.keeps engine db schema layout entity)).map fun tuple =>
      request.document entity tuple
termination_by structural item => item

end

/-- The documents of the rows of an entity that a request keeps. -/
def ReadRequest.documents (entity : String) (request : ReadRequest) : List Json :=
  ((db (layout.table entity)).tuples.filter
    (request.args.keeps engine db schema layout entity)).map fun tuple =>
      request.document engine db schema layout entity tuple

/-! ## Checked requests -/

mutual

def Selection.document (entity : String) (tuple : Tuple V) : Selection → Json
  | { fields, manyToOne, oneToMany, .. } =>
    .obj (fields.map (fieldMember engine layout entity tuple) ++
      Selection.ones entity tuple manyToOne ++ Selection.lists entity tuple oneToMany)
termination_by structural selection => selection

def Selection.ones (entity : String) (tuple : Tuple V) : List Selection → List (String × Json)
  | [] => []
  | child :: rest =>
    (match schema.manyToOne? entity child.name with
      | some relation =>
        let partners := (db.partners engine (layout.link entity relation) tuple).filter
          (child.args.keeps engine db schema layout relation.targetEntity)
        [(child.name, (partners.map fun partner =>
          child.document relation.targetEntity partner).head?.getD .null)]
      | none => []) ++ Selection.ones entity tuple rest
termination_by structural children => children

def Selection.lists (entity : String) (tuple : Tuple V) : List Selection → List (String × Json)
  | [] => []
  | child :: rest =>
    (match schema.oneToMany? entity child.name with
      | some relation => match layout.inverseLink? schema relation with
        | some link =>
          let partners := (db.partners engine link tuple).filter
            (child.args.keeps engine db schema layout relation.targetEntity)
          [(child.name, .arr (partners.map fun partner =>
            child.document relation.targetEntity partner))]
        | none => []
      | none => []) ++ Selection.lists entity tuple rest
termination_by structural children => children

end

/-- The documents of those rows of an entity that a checked request keeps. -/
def Selection.documents (entity : String) (tuples : List (Tuple V)) (selection : Selection) :
    List Json :=
  (tuples.filter (selection.args.keeps engine db schema layout entity)).map fun tuple =>
    selection.document engine db schema layout entity tuple

end

/-! ## Checking keeps the meaning -/

section

variable {engine : Engine V} {db : Instance V} {schema : Schema} {layout : Layout}

theorem Selection.document_eq (entity : String) (tuple : Tuple V) (selection : Selection) :
    selection.document engine db schema layout entity tuple =
      .obj (selection.fields.map (fieldMember engine layout entity tuple) ++
        Selection.ones engine db schema layout entity tuple selection.manyToOne ++
          Selection.lists engine db schema layout entity tuple selection.oneToMany) := by
  cases selection
  rw [Selection.document]

theorem Selection.ones_append (entity : String) (tuple : Tuple V) (children others : List Selection) :
    Selection.ones engine db schema layout entity tuple (children ++ others) =
      Selection.ones engine db schema layout entity tuple children ++
        Selection.ones engine db schema layout entity tuple others := by
  induction children with
  | nil => rw [List.nil_append, Selection.ones, List.nil_append]
  | cons child rest ih =>
    rw [List.cons_append, Selection.ones, Selection.ones, ih, List.append_assoc]

theorem Selection.lists_append (entity : String) (tuple : Tuple V)
    (children others : List Selection) :
    Selection.lists engine db schema layout entity tuple (children ++ others) =
      Selection.lists engine db schema layout entity tuple children ++
        Selection.lists engine db schema layout entity tuple others := by
  induction children with
  | nil => rw [List.nil_append, Selection.lists, List.nil_append]
  | cons child rest ih =>
    rw [List.cons_append, Selection.lists, Selection.lists, ih, List.append_assoc]

/-- The selection reads what `before` reads and the items. -/
structure Selection.Extends (engine : Engine V) (db : Instance V) (schema : Schema)
    (layout : Layout) (entity : String) (before selection : Selection) (items : List ReadItem) :
    Prop where
  name : selection.name = before.name
  args : selection.args = before.args
  fields : ∀ tuple, selection.fields.map (fieldMember engine layout entity tuple) =
    before.fields.map (fieldMember engine layout entity tuple) ++
      ReadItem.fields engine schema layout entity tuple items
  ones : ∀ tuple, Selection.ones engine db schema layout entity tuple selection.manyToOne =
    Selection.ones engine db schema layout entity tuple before.manyToOne ++
      ReadItem.ones engine db schema layout entity tuple items
  lists : ∀ tuple, Selection.lists engine db schema layout entity tuple selection.oneToMany =
    Selection.lists engine db schema layout entity tuple before.oneToMany ++
      ReadItem.lists engine db schema layout entity tuple items

namespace Selection.Extends

variable {entity : Entity} {before selection : Selection} {item : ReadItem} {rest : List ReadItem}

theorem field {field : Field} (hmember : schema.member? entity.name item.name = some (.field field))
    (h : Extends engine db schema layout entity.name (before.withField field.name) selection rest) :
    Extends engine db schema layout entity.name before selection (item :: rest) := by
  refine ⟨h.name, h.args, fun tuple => ?_, fun tuple => ?_, fun tuple => ?_⟩
  · simp only [h.fields, withField, ReadItem.fields, List.filterMap_cons, hmember, List.map_append,
      List.map_cons, List.map_nil, List.append_assoc, List.singleton_append]
  · simp only [h.ones, withField, ReadItem.ones, hmember, List.nil_append]
  · simp only [h.lists, withField, ReadItem.lists, hmember, List.nil_append]

theorem manyToOne {relation : ManyToOne} {child : Selection}
    (hmember : schema.member? entity.name item.name = some (.manyToOne relation))
    (hones : ∀ tuple, Selection.ones engine db schema layout entity.name tuple [child] =
      ReadItem.ones engine db schema layout entity.name tuple [item])
    (h : Extends engine db schema layout entity.name (before.withManyToOne child) selection rest) :
    Extends engine db schema layout entity.name before selection (item :: rest) := by
  refine ⟨h.name, h.args, fun tuple => ?_, fun tuple => ?_, fun tuple => ?_⟩
  · simp only [h.fields, withManyToOne, ReadItem.fields, List.filterMap_cons, hmember]
  · have hitem := hones tuple
    simp only [ReadItem.ones, List.append_nil] at hitem
    simp only [h.ones, withManyToOne, ones_append, hitem, ReadItem.ones, List.append_assoc]
  · simp only [h.lists, withManyToOne, ReadItem.lists, hmember, List.nil_append]

theorem oneToMany {relation : OneToMany} {child : Selection}
    (hmember : schema.member? entity.name item.name = some (.oneToMany relation))
    (hlists : ∀ tuple, Selection.lists engine db schema layout entity.name tuple [child] =
      ReadItem.lists engine db schema layout entity.name tuple [item])
    (h : Extends engine db schema layout entity.name (before.withOneToMany child) selection rest) :
    Extends engine db schema layout entity.name before selection (item :: rest) := by
  refine ⟨h.name, h.args, fun tuple => ?_, fun tuple => ?_, fun tuple => ?_⟩
  · simp only [h.fields, withOneToMany, ReadItem.fields, List.filterMap_cons, hmember]
  · simp only [h.ones, withOneToMany, ReadItem.ones, hmember, List.nil_append]
  · have hitem := hlists tuple
    simp only [ReadItem.lists, List.append_nil] at hitem
    simp only [h.lists, withOneToMany, lists_append, hitem, ReadItem.lists, List.append_assoc]

end Selection.Extends

theorem Selection.ones_singleton (entity : String) (tuple : Tuple V) {child : Selection}
    {relation : ManyToOne} (h : schema.manyToOne? entity child.name = some relation) :
    Selection.ones engine db schema layout entity tuple [child] =
      [(child.name, (child.documents engine db schema layout relation.targetEntity
        (db.partners engine (layout.link entity relation) tuple)).head?.getD .null)] := by
  rw [Selection.ones, Selection.ones, h]
  rfl

theorem Selection.lists_singleton (entity : String) (tuple : Tuple V) {child : Selection}
    {relation : OneToMany} (h : schema.oneToMany? entity child.name = some relation) {link : Link}
    (hlink : layout.inverseLink? schema relation = some link) :
    Selection.lists engine db schema layout entity tuple [child] =
      [(child.name, .arr (child.documents engine db schema layout relation.targetEntity
        (db.partners engine link tuple)))] := by
  rw [Selection.lists, Selection.lists, h]
  simp only [hlink]
  rfl

variable (engine db layout)

/-- The selection reads what the item reads, on the entity that the item refers to. -/
def Selection.Matches (schema : Schema) (entity name : String) (child : Selection)
    (item : ReadItem) : Prop :=
  child.name = name ∧ ∀ tuples, child.documents engine db schema layout entity tuples =
    item.documents engine db schema layout entity tuples

theorem Selection.matches_bare (schema : Schema) (entity name : String) :
    Selection.Matches engine db layout schema entity name { name } (.bare name) := by
  refine ⟨rfl, fun tuples => ?_⟩
  have hall : tuples.filter (ReadArgs.keeps engine db schema layout {} entity) = tuples :=
    List.filter_eq_self.2 fun tuple _ => rfl
  simp only [Selection.documents, hall, ReadItem.documents, Selection.document, Selection.ones,
    Selection.lists, List.map_nil, List.append_nil]

variable {engine db layout}

theorem Selection.matches_node {target name : String} {request : ReadRequest} {child : Selection}
    (hname : child.name = name) (hargs : child.args = request.args)
    (hdocument : ∀ tuple : Tuple V, child.document engine db schema layout target tuple =
      request.document engine db schema layout target tuple) :
    Selection.Matches engine db layout schema target name child (.node request) := by
  refine ⟨hname, fun tuples => ?_⟩
  rw [Selection.documents, hargs, ReadItem.documents]
  simp only [hdocument]

theorem ReadItem.ones_eq {entity : Entity} (hschema : schema.WellFormed)
    (hentity : entity ∈ schema.entities) {relation : ManyToOne}
    (hrelation : relation ∈ entity.manyToOne) {item : ReadItem} (hitem : item.name = relation.name)
    {child : Selection} (h : Selection.Matches engine db layout schema relation.targetEntity
      relation.name child item) (tuple : Tuple V) :
    Selection.ones engine db schema layout entity.name tuple [child] =
      ReadItem.ones engine db schema layout entity.name tuple [item] := by
  have hmember : schema.member? entity.name item.name = some (.manyToOne relation) := by
    rw [hschema.member?_name hentity, hitem,
      (hschema.entity entity hentity).member?_manyToOne hrelation]
  rw [Selection.ones_singleton entity.name tuple (h.1 ▸ hschema.manyToOne?_name hentity hrelation),
    h.1, h.2]
  simp only [ReadItem.ones, hmember, List.append_nil]

theorem ReadItem.lists_eq {entity : Entity} (hschema : schema.WellFormed)
    (hentity : entity ∈ schema.entities) {relation : OneToMany}
    (hrelation : relation ∈ entity.oneToMany) {item : ReadItem} (hitem : item.name = relation.name)
    {child : Selection} (h : Selection.Matches engine db layout schema relation.targetEntity
      relation.name child item) (tuple : Tuple V) :
    Selection.lists engine db schema layout entity.name tuple [child] =
      ReadItem.lists engine db schema layout entity.name tuple [item] := by
  have hmember : schema.member? entity.name item.name = some (.oneToMany relation) := by
    rw [hschema.member?_name hentity, hitem,
      (hschema.entity entity hentity).member?_oneToMany hrelation]
  obtain ⟨_, _, _, inverse, _, _, hinverse⟩ := hschema.oneToMany_target hentity hrelation
  have hlink : layout.inverseLink? schema relation =
      some (layout.link relation.targetEntity inverse).reversed := by
    rw [Layout.inverseLink?, hinverse, Option.map_some]
  rw [Selection.lists_singleton entity.name tuple
    (h.1 ▸ hschema.oneToMany?_name hentity hrelation) hlink, h.1, h.2]
  simp only [ReadItem.lists, hmember, hlink, List.append_nil]

mutual

/-- A checked request reads on each row what the request reads. -/
theorem Selection.document_ofRequest (engine : Engine V) (db : Instance V) (layout : Layout)
    (hschema : schema.WellFormed) : (request : ReadRequest) → {entity : Entity} →
      entity ∈ schema.entities → {selection : Selection} →
        Selection.ofRequest schema entity.name request = .ok selection →
          selection.name = (if request.name = "" then entity.name else request.name) ∧
            selection.args = request.args ∧ ∀ tuple : Tuple V,
              selection.document engine db schema layout entity.name tuple =
                request.document engine db schema layout entity.name tuple
  | { name, items, args }, entity, hentity, selection, h => by
    rw [Selection.ofRequest] at h
    have hextends := Selection.extends_addItems engine db layout hschema items hentity h
    refine ⟨hextends.name, hextends.args, fun tuple => ?_⟩
    rw [Selection.document_eq, hextends.fields, hextends.ones, hextends.lists, ReadRequest.document]
    simp only [List.map_nil, Selection.ones, Selection.lists, List.nil_append]

theorem Selection.extends_addItems (engine : Engine V) (db : Instance V) (layout : Layout)
    (hschema : schema.WellFormed) : (items : List ReadItem) → {entity : Entity} →
      entity ∈ schema.entities → {before selection : Selection} →
        Selection.addItems schema entity.name before items = .ok selection →
          Selection.Extends engine db schema layout entity.name before selection items
  | [], entity, hentity, before, selection, h => by
    rw [Selection.addItems] at h
    obtain rfl := Except.ok.inj h
    refine ⟨rfl, rfl, fun tuple => ?_, fun tuple => ?_, fun tuple => ?_⟩
    · rw [ReadItem.fields, List.filterMap_nil, List.append_nil]
    · rw [ReadItem.ones, List.append_nil]
    · rw [ReadItem.lists, List.append_nil]
  | .bare name :: rest, entity, hentity, before, selection, h => by
    rw [Selection.addItems] at h
    obtain ⟨member, hresolve, h⟩ := bind_eq_ok.1 h
    have hmember := Schema.member?_of_resolve hresolve
    cases member with
    | none => exact absurd h throw_ne_ok
    | some member =>
      have hdeclared := hmember
      rw [hschema.member?_name hentity] at hdeclared
      rcases Entity.member?_eq_some hdeclared with ⟨field, rfl, hfield, rfl⟩ |
        ⟨relation, rfl, hrelation, rfl⟩ | ⟨relation, rfl, hrelation, rfl⟩
      · exact (Selection.extends_addItems engine db layout hschema rest hentity h).field hmember
      · exact (Selection.extends_addItems engine db layout hschema rest hentity h).manyToOne hmember
          (ReadItem.ones_eq hschema hentity hrelation rfl (Selection.matches_bare ..))
      · exact (Selection.extends_addItems engine db layout hschema rest hentity h).oneToMany hmember
          (ReadItem.lists_eq hschema hentity hrelation rfl (Selection.matches_bare ..))
  | .node request :: rest, entity, hentity, before, selection, h => by
    rw [Selection.addItems] at h
    obtain ⟨member, hresolve, h⟩ := bind_eq_ok.1 h
    have hmember := Schema.member?_of_resolve hresolve
    cases member with
    | none => exact absurd h throw_ne_ok
    | some member =>
      have hdeclared := hmember
      rw [hschema.member?_name hentity] at hdeclared
      rcases Entity.member?_eq_some hdeclared with ⟨field, rfl, hfield, hname⟩ |
        ⟨relation, rfl, hrelation, hname⟩ | ⟨relation, rfl, hrelation, hname⟩
      · exact (Selection.extends_addItems engine db layout hschema rest hentity h).field hmember
      · obtain ⟨child, hchild, h⟩ := bind_eq_ok.1 h
        obtain ⟨target, htarget, htargetName, -⟩ := hschema.manyToOne_target hentity hrelation
        have hnamed : request.name ≠ "" := hname ▸ (hschema.entity entity hentity).named _
          (List.mem_append_left _ (List.mem_append_right _ (List.mem_map_of_mem hrelation)))
        rw [← htargetName] at hchild
        obtain ⟨hchildName, hargs, hdocument⟩ :=
          Selection.document_ofRequest engine db layout hschema request htarget hchild
        rw [if_neg hnamed, ← hname] at hchildName
        rw [htargetName] at hdocument
        have hitem : (ReadItem.node request).name = relation.name := hname.symm
        exact (Selection.extends_addItems engine db layout hschema rest hentity h).manyToOne hmember
          (ReadItem.ones_eq hschema hentity hrelation hitem
            (Selection.matches_node hchildName hargs hdocument))
      · obtain ⟨child, hchild, h⟩ := bind_eq_ok.1 h
        obtain ⟨target, htarget, htargetName, -⟩ := hschema.oneToMany_target hentity hrelation
        have hnamed : request.name ≠ "" := hname ▸ (hschema.entity entity hentity).named _
          (List.mem_append_right _ (List.mem_map_of_mem hrelation))
        rw [← htargetName] at hchild
        obtain ⟨hchildName, hargs, hdocument⟩ :=
          Selection.document_ofRequest engine db layout hschema request htarget hchild
        rw [if_neg hnamed, ← hname] at hchildName
        rw [htargetName] at hdocument
        have hitem : (ReadItem.node request).name = relation.name := hname.symm
        exact (Selection.extends_addItems engine db layout hschema rest hentity h).oneToMany hmember
          (ReadItem.lists_eq hschema hentity hrelation hitem
            (Selection.matches_node hchildName hargs hdocument))

end

end

/-! ## Checking keeps requests plain -/

mutual

theorem ReadRequest.plain_iff_each :
    (request : ReadRequest) → (request.Plain ↔ request.Each ReadArgs.Plain)
  | { name, items, args } => by
    rw [ReadRequest.Plain, ReadRequest.Each, ReadItem.allPlain_iff_each items]

theorem ReadItem.allPlain_iff_each :
    (items : List ReadItem) → (ReadItem.AllPlain items ↔ ReadItem.EachAll ReadArgs.Plain items)
  | [] => by rw [ReadItem.AllPlain, ReadItem.EachAll]
  | item :: rest => by
    rw [ReadItem.AllPlain, ReadItem.EachAll, ReadItem.plain_iff_each item,
      ReadItem.allPlain_iff_each rest]

theorem ReadItem.plain_iff_each : (item : ReadItem) → (item.Plain ↔ item.Each ReadArgs.Plain)
  | .bare name => by rw [ReadItem.Plain, ReadItem.Each]
  | .node request => by
    rw [ReadItem.Plain, ReadItem.Each, ReadRequest.plain_iff_each request]

end

namespace Selection

mutual

theorem plain_iff_each :
    (selection : Selection) → (selection.Plain ↔ selection.Each ReadArgs.Plain)
  | { name, fields, args, manyToOne, oneToMany } => by
    rw [Plain, Each, allPlain_iff_each manyToOne, allPlain_iff_each oneToMany]

theorem allPlain_iff_each :
    (children : List Selection) → (AllPlain children ↔ EachAll ReadArgs.Plain children)
  | [] => by rw [AllPlain, EachAll]
  | child :: rest => by
    rw [AllPlain, EachAll, plain_iff_each child, allPlain_iff_each rest]

end

theorem plain_ofRequest {schema : Schema} {request : ReadRequest} (hplain : request.Plain)
    {entity : String} {selection : Selection}
    (h : ofRequest schema entity request = .ok selection) : selection.Plain :=
  selection.plain_iff_each.2
    (each_ofRequest ⟨rfl, rfl, rfl⟩ request (request.plain_iff_each.1 hplain) h)

end Selection

end EntitySql
