import EntitySql.Proofs.Schema.Declared

/-!
# Exact namings

What the naming of a schema has under every name: for declared entities, fields and relations the name
that the overrides and the snake case give, and a fault for everything else.

* `Naming.Exact` says this of the declarations alone, in no order.
* `Naming.Exact.perm` and `Naming.Exact.equivalent` compare namings: declarations in another order
  are named alike.
* `Naming.ofSchema_exact` says that the naming of every checked schema is exact.
-/

namespace EntitySql

set_option autoImplicit false

/-! ## Reordered declarations -/

theorem ManyToOne.Refers.perm {entities reordered : List Entity} {relation : ManyToOne}
    (h : relation.Refers entities) (hperm : reordered.Perm entities) :
    relation.Refers reordered := by
  obtain ⟨target, htarget, hrest⟩ := h
  exact ⟨target, hperm.mem_iff.2 htarget, hrest⟩

theorem OneToMany.Inverts.perm {entities reordered : List Entity} {owner : String}
    {relation : OneToMany} (h : relation.Inverts entities owner) (hperm : reordered.Perm entities) :
    relation.Inverts reordered owner := by
  obtain ⟨target, htarget, hrest⟩ := h
  exact ⟨target, hperm.mem_iff.2 htarget, hrest⟩

/-- Declarations make a schema in any order. -/
theorem Declared.perm {entities reordered : List Entity} (h : Declared entities)
    (hperm : reordered.Perm entities) : Declared reordered := by
  refine ⟨(hperm.map Entity.name).nodup_iff.2 h.nodup, fun entity hentity => ?_⟩
  have hentity := h.entity entity (hperm.mem_iff.1 hentity)
  exact { hentity with
    refers := fun relation hrelation => (hentity.refers relation hrelation).perm hperm
    inverts := fun relation hrelation => (hentity.inverts relation hrelation).perm hperm }

namespace Naming

/-! ## Names that are missing -/

section

variable {naming : Naming} {entity : String}

theorem names_of_table {table : String} (h : naming.table entity = .ok table) :
    ∃ names, naming.names entity = .ok names := by
  obtain ⟨names, hnames, -⟩ := table_eq_ok.1 h
  exact ⟨names, names_eq_ok.2 hnames⟩

theorem names_eq_error (h : Assoc.get? entity naming.entities = none) :
    naming.names entity = .error (.naming (.table entity)) := by
  unfold names
  rw [h]

/-- A named entity has no column under a name that gives none. -/
theorem column_eq_error {table field : String} (h : naming.table entity = .ok table)
    (hnone : ∀ column, ¬ naming.column entity field = .ok column) :
    naming.column entity field = .error (.naming (.column entity field)) := by
  obtain ⟨names, hnames⟩ := names_of_table h
  cases hget : Assoc.get? field names.columns with
  | some column => exact absurd (column_eq_ok.2 ⟨names, names_eq_ok.1 hnames, hget⟩) (hnone column)
  | none =>
    simp only [Naming.column, hnames, bind, Except.bind, hget]
    rfl

/-- A named entity has no join under a name that gives none. -/
theorem link_eq_error {table relation : String} (h : naming.table entity = .ok table)
    (hnone : ∀ link, ¬ naming.link entity relation = .ok link) :
    naming.link entity relation = .error (.naming (.link entity relation)) := by
  obtain ⟨names, hnames⟩ := names_of_table h
  cases hget : Assoc.get? relation names.links with
  | some link => exact absurd (link_eq_ok.2 ⟨names, names_eq_ok.1 hnames, hget⟩) (hnone link)
  | none =>
    simp only [Naming.link, hnames, bind, Except.bind, hget]
    rfl

end

/-! ## Entities that are not declared -/

/-- A join is added to an entity that is named already. -/
theorem get?_addLink_of_none {naming after : Naming} {entity relation name : String} {link : Link}
    (h : naming.addLink entity relation link = .ok after)
    (hnone : Assoc.get? name naming.entities = none) :
    Assoc.get? name after.entities = none := by
  obtain ⟨names, hnames, hafter⟩ := bind_eq_ok.1 h
  obtain rfl := pure_eq_ok.1 hafter
  have hne : ¬ entity = name := by
    rintro rfl
    rw [names_eq_error hnone] at hnames
    cases hnames
  rw [withNames, Assoc.get?_insert, if_neg hne, hnone]

/-- Only declared entities are named. -/
theorem get?_ofEntities_of_notMem {overrides : Assoc String} {entities : List Entity}
    {naming : Naming} {name : String} (h : ofEntities overrides entities = .ok naming)
    (hname : name ∉ entities.map Entity.name) : Assoc.get? name naming.entities = none := by
  let Unnamed (naming : Naming) := Assoc.get? name naming.entities = none
  obtain ⟨owned, howned, hlisted⟩ := bind_eq_ok.1 h
  have hnone : Unnamed owned := by
    refine foldlM_keeps (P := Unnamed) (fun start entity _ after hafter hstart => ?_) howned
      (get?_addEntities_of_notMem overrides hname)
    refine foldlM_keeps (P := Unnamed) (fun start relation _ after hafter hstart => ?_) hafter hstart
    obtain ⟨toColumn, -, hafter⟩ := bind_eq_ok.1 hafter
    obtain ⟨fromTable, -, hafter⟩ := bind_eq_ok.1 hafter
    obtain ⟨toTable, -, hadded⟩ := bind_eq_ok.1 hafter
    exact get?_addLink_of_none hadded hstart
  refine foldlM_keeps (P := Unnamed) (fun start entity _ after hafter hstart => ?_) hlisted hnone
  refine foldlM_keeps (P := Unnamed) (fun start relation _ after hafter hstart => ?_) hafter hstart
  obtain ⟨inverse, -, hadded⟩ := bind_eq_ok.1 hafter
  exact get?_addLink_of_none hadded hstart

/-! ## Exact namings -/

theorem named_or_missing {α : Type} (name : α → String) (items : List α) (key : String) :
    (∃ item ∈ items, name item = key) ∨ ∀ item ∈ items, name item ≠ key := by
  by_cases h : ∃ item ∈ items, name item = key
  · exact .inl h
  · exact .inr fun item hitem heq => h ⟨item, hitem, heq⟩

/-- A naming that gives the names of a layout to what entities declare, and fails for everything else
with the name that is missing. -/
structure Exact (naming : Naming) (entities : List Entity) (layout : Layout) : Prop where
  table : ∀ entity ∈ entities, naming.table entity.name = .ok (layout.table entity.name)
  column : ∀ entity ∈ entities, ∀ field ∈ entity.fields,
    naming.column entity.name field.name = .ok (layout.column entity.name field.name)
  manyToOne : ∀ entity ∈ entities, ∀ relation ∈ entity.manyToOne,
    naming.link entity.name relation.name = .ok (layout.link entity.name relation)
  /-- The join of a one-to-many is that of its inverse, seen from the other side. -/
  oneToMany : ∀ entity ∈ entities, ∀ relation ∈ entity.oneToMany, ∃ link,
    naming.link relation.targetEntity relation.targetManyToOne = .ok link ∧
      naming.link entity.name relation.name = .ok link.reversed
  noEntity : ∀ name, (∀ entity ∈ entities, entity.name ≠ name) →
    naming.table name = .error (.naming (.table name)) ∧
      (∀ field, naming.column name field = .error (.naming (.table name))) ∧
        ∀ relation, naming.link name relation = .error (.naming (.table name))
  noField : ∀ entity ∈ entities, ∀ name, (∀ field ∈ entity.fields, field.name ≠ name) →
    naming.column entity.name name = .error (.naming (.column entity.name name))
  noRelation : ∀ entity ∈ entities, ∀ name, (∀ relation ∈ entity.manyToOne, relation.name ≠ name) →
    (∀ relation ∈ entity.oneToMany, relation.name ≠ name) →
      naming.link entity.name name = .error (.naming (.link entity.name name))

/-- Namings that give the same names, and fail alike. -/
structure Equivalent (naming other : Naming) : Prop where
  table : ∀ entity, naming.table entity = other.table entity
  column : ∀ entity field, naming.column entity field = other.column entity field
  link : ∀ entity relation, naming.link entity relation = other.link entity relation

namespace Exact

variable {naming other : Naming} {entities reordered : List Entity} {layout : Layout}

/-- The order of the declarations does not matter. -/
theorem perm (h : naming.Exact entities layout) (hperm : reordered.Perm entities) :
    naming.Exact reordered layout where
  table entity hentity := h.table entity (hperm.mem_iff.1 hentity)
  column entity hentity := h.column entity (hperm.mem_iff.1 hentity)
  manyToOne entity hentity := h.manyToOne entity (hperm.mem_iff.1 hentity)
  oneToMany entity hentity := h.oneToMany entity (hperm.mem_iff.1 hentity)
  noEntity name hname := h.noEntity name fun entity hentity =>
    hname entity (hperm.mem_iff.2 hentity)
  noField entity hentity := h.noField entity (hperm.mem_iff.1 hentity)
  noRelation entity hentity := h.noRelation entity (hperm.mem_iff.1 hentity)

/-- The inverse of a one-to-many is declared, so that its join is that of the layout. -/
theorem link_oneToMany (h : naming.Exact entities layout) (hdeclared : Declared entities)
    {entity : Entity} (hentity : entity ∈ entities) {relation : OneToMany}
    (hrelation : relation ∈ entity.oneToMany) :
    ∃ link, naming.link entity.name relation.name = .ok link ∧
      layout.inverseLink? ⟨entities⟩ relation = some link := by
  have hschema := Declared.iff_wellFormed.1 hdeclared
  obtain ⟨target, htarget, hname, inverse, hinverse, -, hfound⟩ :=
    hschema.oneToMany_target hentity hrelation
  obtain ⟨-, -, -, -, hinverseName⟩ := Schema.manyToOne?_eq_some hfound
  obtain ⟨link, hlink, hreversed⟩ := h.oneToMany entity hentity relation hrelation
  rw [← hname, ← hinverseName, h.manyToOne target htarget inverse hinverse] at hlink
  obtain rfl := Except.ok.inj hlink
  refine ⟨_, hreversed, ?_⟩
  rw [Layout.inverseLink?, hfound, Option.map_some, hname]

/-- Declarations and a layout leave no choice of names. -/
theorem equivalent (h : naming.Exact entities layout) (hother : other.Exact entities layout)
    (hdeclared : Declared entities) : naming.Equivalent other := by
  refine ⟨fun name => ?_, fun name field => ?_, fun name relation => ?_⟩
  · rcases named_or_missing Entity.name entities name with ⟨entity, hentity, rfl⟩ | hmissing
    · rw [h.table entity hentity, hother.table entity hentity]
    · rw [(h.noEntity name hmissing).1, (hother.noEntity name hmissing).1]
  · rcases named_or_missing Entity.name entities name with ⟨entity, hentity, rfl⟩ | hmissing
    · rcases named_or_missing Field.name entity.fields field with ⟨found, hfound, rfl⟩ | hmissing
      · rw [h.column entity hentity found hfound, hother.column entity hentity found hfound]
      · rw [h.noField entity hentity field hmissing, hother.noField entity hentity field hmissing]
    · rw [(h.noEntity name hmissing).2.1, (hother.noEntity name hmissing).2.1]
  · rcases named_or_missing Entity.name entities name with ⟨entity, hentity, rfl⟩ | hmissing
    · rcases named_or_missing ManyToOne.name entity.manyToOne relation with
        ⟨found, hfound, rfl⟩ | howned
      · rw [h.manyToOne entity hentity found hfound, hother.manyToOne entity hentity found hfound]
      rcases named_or_missing OneToMany.name entity.oneToMany relation with
        ⟨found, hfound, rfl⟩ | hlisted
      · obtain ⟨link, hlink, hjoin⟩ := h.link_oneToMany hdeclared hentity hfound
        obtain ⟨link', hlink', hjoin'⟩ := hother.link_oneToMany hdeclared hentity hfound
        rw [hlink, hlink', Option.some.inj (hjoin.symm.trans hjoin')]
      · rw [h.noRelation entity hentity relation howned hlisted,
          hother.noRelation entity hentity relation howned hlisted]
    · rw [(h.noEntity name hmissing).2.2, (hother.noEntity name hmissing).2.2]

end Exact

/-! ## The naming of a schema -/

section

variable {naming : Naming} {schema : Schema} {layout : Layout} {entity : Entity} {name : String}

theorem not_column_of_agrees (h : naming.Agrees schema layout) (hschema : schema.WellFormed)
    (hentity : entity ∈ schema.entities) (hname : ∀ field ∈ entity.fields, field.name ≠ name)
    (column : String) : ¬ naming.column entity.name name = .ok column := by
  intro hcolumn
  have hfield := h.declared entity.name name column hcolumn
  rw [Schema.field?, hschema.entity?_name hentity, Option.bind_some] at hfield
  obtain ⟨field, hfound⟩ := Option.isSome_iff_exists.1 hfield
  obtain ⟨hmem, hsame⟩ := Entity.field?_eq_some hfound
  exact hname field hmem hsame

theorem not_link_of_agrees (h : naming.Agrees schema layout) (hschema : schema.WellFormed)
    (hentity : entity ∈ schema.entities)
    (howned : ∀ relation ∈ entity.manyToOne, relation.name ≠ name)
    (hlisted : ∀ relation ∈ entity.oneToMany, relation.name ≠ name) (link : Link) :
    ¬ naming.link entity.name name = .ok link := by
  intro hlink
  have hjoin := h.join entity.name name link hlink
  rw [Layout.join?, hschema.member?_name hentity] at hjoin
  cases hmember : entity.member? name with
  | none =>
    rw [hmember] at hjoin
    cases hjoin
  | some member =>
    rw [hmember] at hjoin
    rcases Entity.member?_eq_some hmember with ⟨field, rfl, -⟩ | ⟨relation, -, hmem, hsame⟩ |
      ⟨relation, -, hmem, hsame⟩
    · cases hjoin
    · exact howned relation hmem hsame
    · exact hlisted relation hmem hsame

end

theorem exact_of_wellFormed (overrides : Assoc String) {schema : Schema} (h : schema.WellFormed) :
    ∃ naming, ofSchema overrides schema = .ok naming ∧
      naming.Exact schema.entities (.ofOverrides overrides) := by
  obtain ⟨naming, hnaming, hagrees, -⟩ := ofSchema_agrees overrides h
  have hfollows := follows_of_ofSchema h hnaming
  refine ⟨naming, hnaming, ⟨hagrees.table, hagrees.column, hfollows.manyToOne, ?_, ?_, ?_, ?_⟩⟩
  · intro entity hentity relation hrelation
    obtain ⟨target, htarget, hname, inverse, hinverse, -, hfound⟩ :=
      h.oneToMany_target hentity hrelation
    obtain ⟨-, -, -, -, hinverseName⟩ := Schema.manyToOne?_eq_some hfound
    have hlink := hfollows.manyToOne target htarget inverse hinverse
    rw [hname, hinverseName] at hlink
    refine ⟨_, hlink, hfollows.oneToMany entity hentity relation hrelation _ ?_⟩
    rw [Layout.inverseLink?, hfound, Option.map_some]
  · intro name hname
    have hnotMem : name ∉ schema.entities.map Entity.name := fun hmem => by
      obtain ⟨entity, hentity, hsame⟩ := List.mem_map.1 hmem
      exact hname entity hentity hsame
    have hnames := names_eq_error (get?_ofEntities_of_notMem hnaming hnotMem)
    refine ⟨?_, fun field => ?_, fun relation => ?_⟩
    · simp only [Naming.table, hnames, bind, Except.bind]
    · simp only [Naming.column, hnames, bind, Except.bind]
    · simp only [Naming.link, hnames, bind, Except.bind]
  · intro entity hentity name hname
    exact column_eq_error (hagrees.table entity hentity)
      (not_column_of_agrees hagrees h hentity hname)
  · intro entity hentity name howned hlisted
    exact link_eq_error (hagrees.table entity hentity)
      (not_link_of_agrees hagrees h hentity howned hlisted)

/-- Every checked schema can be named, and its names are those that the overrides and the snake case
give, and no others. In another order the declarations make a schema too, with the same names. -/
theorem ofSchema_exact (overrides : Assoc String) {entities : List Entity} {schema : Schema}
    (h : Schema.ofEntities entities = .ok schema) :
    ∃ naming, ofSchema overrides schema = .ok naming ∧
      naming.Exact entities (.ofOverrides overrides) ∧
        ∀ reordered, reordered.Perm entities → ∃ other second,
          Schema.ofEntities reordered = .ok other ∧ ofSchema overrides other = .ok second ∧
            second.Equivalent naming := by
  obtain ⟨rfl, hschema⟩ := Schema.ofEntities_eq_ok.1 h
  obtain ⟨naming, hnaming, hexact⟩ := exact_of_wellFormed overrides hschema
  refine ⟨naming, hnaming, hexact, fun reordered hperm => ?_⟩
  have hdeclared := (Declared.iff_wellFormed.2 hschema).perm hperm
  have hother := Declared.iff_wellFormed.1 hdeclared
  obtain ⟨second, hsecond, hexact'⟩ := exact_of_wellFormed overrides hother
  exact ⟨⟨reordered⟩, second, Schema.ofEntities_eq_ok.2 ⟨rfl, hother⟩, hsecond,
    hexact'.equivalent (hexact.perm hperm) hdeclared⟩

end Naming

/-- Other names for authors, their key and the column that refers to it. -/
def Library.renames : Assoc String :=
  [("Author", "writers"), ("Author.id", "uid"), ("Book.writer", "author_fk")]

/-- Books refer to renamed authors, whichever are declared first, and a title is no relation. -/
theorem Naming.ofSchema_exact_library :
    Schema.ofEntities Library.entities = .ok Library.schema ∧ ∃ naming,
      Naming.ofSchema Library.renames Library.schema = .ok naming ∧
        naming.link "Book" "writer" = .ok ⟨"book", "author_fk", "writers", "uid"⟩ ∧
          naming.link "Author" "books" = .ok ⟨"writers", "uid", "book", "author_fk"⟩ ∧
            naming.link "Book" "title" = .error (.naming (.link "Book" "title")) ∧
              ∃ other second, Schema.ofEntities Library.entities.reverse = .ok other ∧
                Naming.ofSchema Library.renames other = .ok second ∧
                  second.Equivalent naming := by
  obtain ⟨naming, hnaming, hexact, hreordered⟩ :=
    Naming.ofSchema_exact Library.renames Library.ofEntities_entities
  have hwriter : naming.link "Book" "writer" = .ok ⟨"book", "author_fk", "writers", "uid"⟩ := by
    have hlayout : (Layout.ofOverrides Library.renames).link "Book" ⟨"writer", "Author", "id", {}⟩ =
        ⟨"book", "author_fk", "writers", "uid"⟩ := by decide +kernel
    rw [← hlayout]
    exact hexact.manyToOne Library.entities[1] (List.getElem_mem _) _ (List.mem_singleton.2 rfl)
  refine ⟨Library.ofEntities_entities, naming, hnaming, hwriter, ?_, ?_,
    hreordered _ (List.reverse_perm _)⟩
  · obtain ⟨link, hlink, hbooks⟩ := hexact.oneToMany Library.entities[0] (List.getElem_mem _)
      ⟨"books", "Book", "writer"⟩ (List.mem_singleton.2 rfl)
    obtain rfl := Except.ok.inj (hwriter.symm.trans hlink)
    exact hbooks
  · exact hexact.noRelation Library.entities[1] (List.getElem_mem _) "title" (by decide) (by decide)

end EntitySql
