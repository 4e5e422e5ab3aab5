import EntitySql.Proofs.Filter.Soundness
import EntitySql.Proofs.Sql.Sites

/-!
# Names in compiled filters

Every name in the condition that a filter is compiled to refers to a column of an entity, and every
placeholder is cast to the type of the column that it is compared with.

* `Site.Fits` says this of a name.
* `FitsUnder` is what a compilation for a source has to give; `fits_compileExists` goes from the
  target of a relation to its `EXISTS`, whose alias is not the source outside.
* `Filter.fits_compile` compiles a filter, by induction on its terms.
-/

namespace EntitySql

set_option autoImplicit false

open Compile

variable {V : Type} {db : Instance V} {schema : Schema} {naming : Naming} {layout : Layout}

/-- The name is that of a table of the schema, or refers to something; a placeholder has the declared
type of the column that it meets. -/
def Site.Fits (db : Instance V) (schema : Schema) (layout : Layout) (site : Site) : Prop :=
  match site.mention with
  | .table name => name ∈ layout.tables schema
  | .placeholder source column type => ∃ table declared,
    Context.range? source site.around = some (.table table) ∧ type = some declared ∧
      layout.Declares schema table column declared
  | .column .. | .ident _ => site.Resolves db

theorem Site.fits_column {around : Context} {source table column : String}
    (hsource : Context.range? source around = some (.table table))
    (hcolumn : column ∈ (db table).columns) :
    (⟨around, .column source column⟩ : Site).Fits db schema layout :=
  ⟨.table table, hsource, hcolumn⟩

theorem Layout.Declares.mem_columns {table column : String} {type : SqlType}
    (h : layout.Declares schema table column type) (hdb : db.Conforms schema layout) :
    column ∈ (db table).columns := by
  cases h with
  | field hentity hfield => exact hdb.field _ hentity _ hfield
  | foreignKey hentity hrelation _ => exact hdb.manyToOne _ hentity _ hrelation

theorem Site.Fits.resolves {site : Site} (h : site.Fits db schema layout)
    (hdb : db.Conforms schema layout) : site.Resolves db := by
  obtain ⟨around, mention⟩ := site
  cases mention with
  | column source name => exact h
  | ident name => exact h
  | table name => trivial
  | placeholder source column type =>
    obtain ⟨table, declared, hsource, -, hdeclares⟩ := h
    exact ⟨.table table, hsource, hdeclares.mem_columns hdb⟩

/-! ## Comparisons -/

theorem Expr.meetings_column (around : Context) (expr : Expr) (source name : String) :
    meetings around expr (.column source name) = [] := by
  cases expr <;> rfl

theorem Expr.sitesAll_eq_nil {around : Context} {items : List Expr}
    (h : ∀ item ∈ items, item.sites around = []) : sitesAll around items = [] := by
  induction items with
  | nil => rfl
  | cons item rest ih =>
    rw [sitesAll, h item (List.mem_cons_self ..), List.nil_append]
    exact ih fun other hother => h other (List.mem_cons_of_mem _ hother)

theorem Expr.sites_equal (around : Context) (source name other column : String) :
    (Condition.equal (.column source name) (.column other column)).sites around =
      [⟨around, .column source name⟩, ⟨around, .column other column⟩] := by
  simp [Condition.equal, Condition.sites, Expr.sites, Expr.sitesOf, Expr.meetingsOf,
    Expr.meetings_column]

section

variable {around : Context} {source table column : String} {type : SqlType}

/-- A comparison of a column with an operand without names, whose placeholders have the type of the
column. -/
theorem Condition.fits_compare (hsource : Context.range? source around = some (.table table))
    (hcolumn : column ∈ (db table).columns) (hdeclares : layout.Declares schema table column type)
    {op : Comparison} {right : Option Expr} (hnames : Expr.sitesOf around right = [])
    (htypes : ∀ expr ∈ right, ∀ given ∈ expr.operandTypes, given = some type) :
    ∀ site ∈ (Condition.compare (.column source column) op right).sites around,
      site.Fits db schema layout := by
  have hleft : (⟨around, .column source column⟩ : Site).Fits db schema layout :=
    Site.fits_column hsource hcolumn
  intro site hsite
  rw [Condition.sites, Expr.sites, hnames, List.append_nil] at hsite
  rcases List.mem_append.1 hsite with hmem | hmem
  · rw [List.mem_singleton.1 hmem]
    exact hleft
  · cases right with
    | none => cases hmem
    | some expr =>
      rw [Expr.meetingsOf, Expr.meetings_column, List.append_nil] at hmem
      obtain ⟨given, hgiven, rfl⟩ := List.mem_map.1 hmem
      exact ⟨table, type, hsource, htypes expr rfl given hgiven, hdeclares⟩

theorem Predicate.fits_membership (hsource : Context.range? source around = some (.table table))
    (hcolumn : column ∈ (db table).columns) (hdeclares : layout.Declares schema table column type)
    {op : Operator} {items : List Expr} (hnames : ∀ item ∈ items, item.sites around = [])
    (htypes : ∀ item ∈ items, ∀ given ∈ item.castTypes, given = some type) :
    ∀ site ∈ (membership (.column source column) op items).sites around,
      site.Fits db schema layout := by
  unfold membership
  split
  · intro site hsite
    cases hsite
  · refine Condition.fits_compare hsource hcolumn hdeclares (Expr.sitesAll_eq_nil hnames) ?_
    intro expr hexpr given hgiven
    obtain rfl := Option.some.inj hexpr
    obtain ⟨item, hitem, htype⟩ := List.mem_flatMap.1 hgiven
    exact htypes item hitem given htype

/-- Compiled, a predicate on a column names that column only, and casts its placeholders to the type
of the column. -/
theorem Predicate.fits_compile (hsource : Context.range? source around = some (.table table))
    (hcolumn : column ∈ (db table).columns) (hdeclares : layout.Declares schema table column type)
    {predicate : Predicate} {condition : Condition}
    (h : predicate.compile (.column source column) type = .ok condition) :
    ∀ site ∈ condition.sites around, site.Fits db schema layout := by
  have htyped : ∀ index, ∀ given ∈ (Expr.typedParam index type).castTypes, given = some type := by
    intro index given hgiven
    exact List.mem_singleton.1 hgiven
  have hnull : ∀ op, ∀ site ∈ (Condition.compare (.column source column) op none).sites around,
      site.Fits db schema layout := fun op =>
    Condition.fits_compare hsource hcolumn hdeclares rfl fun expr hexpr => by cases hexpr
  have hone : ∀ op right, right.sites around = [] →
      (∀ given ∈ right.operandTypes, given = some type) →
        ∀ site ∈ (Condition.compare (.column source column) op (some right)).sites around,
          site.Fits db schema layout := by
    intro op right hnames htypes
    refine Condition.fits_compare hsource hcolumn hdeclares hnames fun expr hexpr => ?_
    obtain rfl := Option.some.inj hexpr
    exact htypes
  obtain ⟨op, operand⟩ := predicate
  simp only [compile] at h
  split at h
  · split at h
    · obtain rfl := Except.ok.inj h
      exact hnull _
    · obtain rfl := Except.ok.inj h
      exact hnull _
    · cases h
  · split at h
    · split at h
      · next indices =>
        obtain rfl := Except.ok.inj h
        refine fits_membership hsource hcolumn hdeclares (fun item hitem => ?_) fun item hitem => ?_
        · obtain ⟨index, -, rfl⟩ := List.mem_map.1 hitem
          rfl
        · obtain ⟨index, -, rfl⟩ := List.mem_map.1 hitem
          exact htyped index
      · next values =>
        obtain rfl := Except.ok.inj h
        refine fits_membership hsource hcolumn hdeclares (fun item hitem => ?_)
          fun item hitem given hgiven => ?_
        · obtain ⟨value, -, rfl⟩ := List.mem_map.1 hitem
          rfl
        · obtain ⟨value, -, rfl⟩ := List.mem_map.1 hitem
          cases hgiven
      · cases h
    · split at h
      · next index =>
        obtain rfl := Except.ok.inj h
        exact hone _ _ rfl (htyped index)
      · next value =>
        obtain rfl := Except.ok.inj h
        exact hone _ _ rfl fun given hgiven => by cases hgiven
      · cases h

end

/-! ## Relations -/

/-- A source over the table of an entity, which is none of the aliases still to come. -/
structure SourceUnder (layout : Layout) (around : Context) (s : Aliases) (entity source : String) :
    Prop where
  range : Context.range? source around = some (.table (layout.table entity))
  avoids : s.Avoids "w" source

theorem SourceUnder.mono {around : Context} {s s' : Aliases} {entity source : String}
    (h : SourceUnder layout around s entity source) (hle : s ≤ s') :
    SourceUnder layout around s' entity source :=
  ⟨h.range, h.avoids.mono hle⟩

/-- Compiled for a source of the entity, every name fits. -/
def FitsUnder {α : Type} (db : Instance V) (schema : Schema) (layout : Layout) (entity : String)
    (sites : Context → α → List Site) (compile : String → Compile α) : Prop :=
  ∀ around s s' source a, SourceUnder layout around s entity source →
    Yields (compile source) s a s' → s ≤ s' ∧ ∀ site ∈ sites around a, site.Fits db schema layout

theorem FitsUnder.singleton {entity : String} {compile : String → Compile Condition}
    (h : FitsUnder db schema layout entity Condition.sites compile) :
    FitsUnder db schema layout entity Condition.sitesAll
      fun source => do return [← compile source] := by
  intro around s s' source conditions hsource hyields
  obtain ⟨condition, s₁, hcondition, hpure⟩ := yields_bind.1 hyields
  obtain ⟨rfl, rfl⟩ := yields_pure.1 hpure
  obtain ⟨hle, hfits⟩ := h _ _ _ _ _ hsource hcondition
  refine ⟨hle, ?_⟩
  rw [Condition.sitesAll, Condition.sitesAll, List.append_nil]
  exact hfits

theorem fits_compileExists {entity relation target : String} {link : Link}
    {inner : String → Compile Condition} (hjoined : db.Joined layout entity target link)
    (hlink : naming.link entity relation = .ok link)
    (htable : naming.table target = .ok (layout.table target))
    (hdeclared : layout.table target ∈ layout.tables schema)
    (hinner : FitsUnder db schema layout target Condition.sites inner) :
    FitsUnder db schema layout entity Condition.sites
      fun source => compileExists naming entity source relation target inner := by
  intro around s s' source condition hsource hyields
  simp only [compileExists, yields_bind, yields_ofResult, yields_fresh, yields_pure] at hyields
  obtain ⟨_, _, ⟨hlink', rfl⟩, _, s, ⟨htable', rfl⟩, _, _, ⟨rfl, rfl⟩, c, s₁, hc, rfl, rfl⟩ := hyields
  obtain rfl := Except.ok.inj (hlink.symm.trans hlink')
  obtain rfl := Except.ok.inj (htable.symm.trans htable')
  let joined := Aliases.name "w" (s.count "w")
  let inside : Context := [(joined, .table (layout.table target))] :: around
  have hne : joined ≠ source := fun heq => hsource.avoids _ (Nat.le_refl _) heq.symm
  have hjoinedRange : Context.range? joined inside = some (.table (layout.table target)) :=
    Context.range?_cons_head fun item hitem => absurd hitem List.not_mem_nil
  have hsourceRange : Context.range? source inside = some (.table (layout.table entity)) := by
    rw [Context.range?_cons_of_ne, hsource.range]
    intro item hitem
    rw [List.mem_singleton.1 hitem]
    exact hne
  obtain ⟨hle, hfits⟩ := hinner inside _ _ _ _ ⟨hjoinedRange, Aliases.avoids_next "w" s⟩ hc
  refine ⟨le_trans (Aliases.le_next "w" s) hle, ?_⟩
  have hsites : (Condition.exists {
      columns := [(.literal (.int 1), none)]
      source := some (.table (layout.table target) (some joined))
      filter := some (.all [.equal (.column joined link.toColumn)
        (.column source link.fromColumn), c]) }).sites around =
      ⟨around, .table (layout.table target)⟩ :: ⟨inside, .column joined link.toColumn⟩ ::
        ⟨inside, .column source link.fromColumn⟩ :: c.sites inside := by
    simp [Condition.sites, Condition.sitesAll, Condition.sitesOf, Query.sites, Query.columnSites,
      Query.joinSites, Query.sourceLevel, Query.joinLevel, Source.sitesOf, Source.sites,
      SortItem.sites, Expr.sites, Expr.sites_equal, inside]
  rw [hsites]
  simp only [List.forall_mem_cons]
  exact ⟨hdeclared, Site.fits_column hjoinedRange hjoined.toColumn,
    Site.fits_column hsourceRange hjoined.fromColumn, hfits⟩

theorem fits_nothing (entity : String) :
    FitsUnder db schema layout entity Condition.sites fun _ => return .all [] := by
  intro around s s' source condition _ hyields
  obtain ⟨rfl, rfl⟩ := yields_pure.1 hyields
  exact ⟨le_refl s', fun site hsite => by cases hsite⟩

section

variable (h : db.Stores schema naming layout) {entity : Entity} (hentity : entity ∈ schema.entities)
  {inner : String → Compile Condition}

include h hentity

theorem fits_manyToOne {relation : ManyToOne} (hrelation : relation ∈ entity.manyToOne)
    (hinner : FitsUnder db schema layout relation.targetEntity Condition.sites inner) :
    FitsUnder db schema layout entity.name Condition.sites fun source => compileExists naming
      entity.name source relation.name relation.targetEntity inner := by
  obtain ⟨target, htarget, hname, -⟩ := h.wellFormed.manyToOne_target hentity hrelation
  exact fits_compileExists (h.conforms.joined_manyToOne h.wellFormed hentity hrelation)
    (h.follows.manyToOne entity hentity relation hrelation) (hname ▸ h.follows.table target htarget)
    (Layout.mem_tables.2 ⟨target, htarget, by rw [hname]⟩) hinner

theorem fits_oneToMany {relation : OneToMany} (hrelation : relation ∈ entity.oneToMany)
    (hinner : FitsUnder db schema layout relation.targetEntity Condition.sites inner) :
    FitsUnder db schema layout entity.name Condition.sites fun source => compileExists naming
      entity.name source relation.name relation.targetEntity inner := by
  obtain ⟨target, htarget, hname, -⟩ := h.wellFormed.oneToMany_target hentity hrelation
  obtain ⟨link, hlink, hjoined⟩ := h.conforms.joined_oneToMany h.wellFormed hentity hrelation
  exact fits_compileExists hjoined
    (h.follows.oneToMany entity hentity relation hrelation link hlink)
    (hname ▸ h.follows.table target htarget)
    (Layout.mem_tables.2 ⟨target, htarget, by rw [hname]⟩) hinner

theorem fits_predicates {field : Field} (hfield : field ∈ entity.fields)
    (predicates : List Predicate) :
    FitsUnder db schema layout entity.name Condition.sitesAll fun source =>
      ofResult (Predicate.compileAll naming entity.name source field predicates) := by
  intro around s s' source conditions hsource hyields
  obtain ⟨hcompile, rfl⟩ := yields_ofResult.1 hyields
  obtain ⟨column, hcolumn, hpredicates⟩ := bind_eq_ok.1 hcompile
  rw [h.follows.column entity hentity field hfield] at hcolumn
  obtain rfl := Except.ok.inj hcolumn
  refine ⟨le_refl s', ?_⟩
  have hforall := mapM_eq_ok.1 hpredicates
  clear hpredicates hcompile hyields
  induction hforall with
  | nil =>
    intro site hsite
    cases hsite
  | cons hfirst _ ih =>
    rw [Condition.sitesAll, List.forall_mem_append]
    exact ⟨Predicate.fits_compile hsource.range (h.conforms.field entity hentity field hfield)
      (.field hentity hfield) hfirst, ih⟩

end

/-! ## Filters -/

mutual

/-- Compiled for a source of the entity, a filter has names that fit only. -/
theorem Filter.fits_compile (hstores : db.Stores schema naming layout) :
    (filter : Filter) → {entity : Entity} → entity ∈ schema.entities →
      FitsUnder db schema layout entity.name Condition.sites
        fun source => filter.compile schema naming entity.name source
  | { terms, conjuncts, alternatives }, entity, hentity => by
    intro around s s' source condition hsource h
    simp only [Filter.compile, yields_bind, yields_pure] at h
    obtain ⟨termConditions, s₁, hterms, conditions, s₂, hconjuncts, options, s₃, halternatives,
      rfl, rfl⟩ := h
    obtain ⟨hle₁, hfits₁⟩ := Filter.fits_compileTerms hstores terms hentity _ _ _ _ _ hsource hterms
    obtain ⟨hle₂, hfits₂⟩ := Filter.fits_compileList hstores conjuncts hentity _ _ _ _ _
      (hsource.mono hle₁) hconjuncts
    obtain ⟨hle₃, hfits₃⟩ := Filter.fits_compileList hstores alternatives hentity _ _ _ _ _
      (hsource.mono (le_trans hle₁ hle₂)) halternatives
    refine ⟨le_trans hle₁ (le_trans hle₂ hle₃), ?_⟩
    rw [Condition.sites, Condition.sitesAll_append, Condition.sitesAll_append,
      List.forall_mem_append, List.forall_mem_append]
    refine ⟨⟨hfits₁, hfits₂⟩, ?_⟩
    split
    · intro site hsite
      cases hsite
    · rw [Condition.sitesAll, Condition.sites, Condition.sitesAll, List.append_nil]
      exact hfits₃

theorem Filter.fits_compileTerm (hstores : db.Stores schema naming layout) :
    (term : Term) → {entity : Entity} → entity ∈ schema.entities →
      FitsUnder db schema layout entity.name Condition.sitesAll
        fun source => Filter.compileTerm schema naming entity.name source term
  | .predicates name predicates, entity, hentity => by
    intro around s s' source conditions hsource h
    simp only [Filter.compileTerm, yields_bind, yields_ofResult] at h
    obtain ⟨member, _, ⟨hresolve, rfl⟩, h⟩ := h
    have hmember := hstores.wellFormed.entityMember?_of_resolve hentity hresolve
    cases member with
    | none => exact absurd h not_yields_throw
    | some member =>
      rcases Entity.member?_eq_some hmember with ⟨field, rfl, hfield, -⟩ |
        ⟨relation, rfl, hrelation, -⟩ | ⟨relation, rfl, hrelation, -⟩
      · exact fits_predicates hstores hentity hfield predicates _ _ _ _ _ hsource h
      · cases predicates with
        | cons predicate rest => exact absurd h not_yields_throw
        | nil =>
          exact (fits_manyToOne hstores hentity hrelation (fits_nothing _)).singleton
            _ _ _ _ _ hsource h
      · cases predicates with
        | cons predicate rest => exact absurd h not_yields_throw
        | nil =>
          exact (fits_oneToMany hstores hentity hrelation (fits_nothing _)).singleton
            _ _ _ _ _ hsource h
  | .nested name filter, entity, hentity => by
    intro around s s' source conditions hsource h
    simp only [Filter.compileTerm, yields_bind, yields_ofResult] at h
    obtain ⟨member, _, ⟨hresolve, rfl⟩, h⟩ := h
    have hmember := hstores.wellFormed.entityMember?_of_resolve hentity hresolve
    cases member with
    | none => exact absurd h not_yields_throw
    | some member =>
      rcases Entity.member?_eq_some hmember with ⟨field, rfl, hfield, -⟩ |
        ⟨relation, rfl, hrelation, -⟩ | ⟨relation, rfl, hrelation, -⟩
      · obtain ⟨hnone, rfl⟩ := yields_ofResult.1 h
        obtain rfl := compileOnField_eq_ok hnone
        exact ⟨le_refl s', fun site hsite => by cases hsite⟩
      · obtain ⟨target, htarget, hname, -⟩ := hstores.wellFormed.manyToOne_target hentity hrelation
        have hinner := Filter.fits_compile hstores filter htarget
        rw [hname] at hinner
        exact (fits_manyToOne hstores hentity hrelation hinner).singleton _ _ _ _ _ hsource h
      · obtain ⟨target, htarget, hname, -⟩ := hstores.wellFormed.oneToMany_target hentity hrelation
        have hinner := Filter.fits_compile hstores filter htarget
        rw [hname] at hinner
        exact (fits_oneToMany hstores hentity hrelation hinner).singleton _ _ _ _ _ hsource h

theorem Filter.fits_compileTerms (hstores : db.Stores schema naming layout) :
    (terms : List Term) → {entity : Entity} → entity ∈ schema.entities →
      FitsUnder db schema layout entity.name Condition.sitesAll
        fun source => Filter.compileTerms schema naming entity.name source terms
  | [], entity, hentity => by
    intro around s s' source conditions hsource h
    obtain ⟨rfl, rfl⟩ := yields_pure.1 h
    exact ⟨le_refl s', fun site hsite => by cases hsite⟩
  | term :: rest, entity, hentity => by
    intro around s s' source conditions hsource h
    simp only [Filter.compileTerms, yields_bind, yields_pure] at h
    obtain ⟨first, s₁, hfirst, later, s₂, hlater, rfl, rfl⟩ := h
    obtain ⟨hle₁, hfits₁⟩ := Filter.fits_compileTerm hstores term hentity _ _ _ _ _ hsource hfirst
    obtain ⟨hle₂, hfits₂⟩ := Filter.fits_compileTerms hstores rest hentity _ _ _ _ _
      (hsource.mono hle₁) hlater
    refine ⟨le_trans hle₁ hle₂, ?_⟩
    rw [Condition.sitesAll_append, List.forall_mem_append]
    exact ⟨hfits₁, hfits₂⟩

theorem Filter.fits_compileList (hstores : db.Stores schema naming layout) :
    (filters : List Filter) → {entity : Entity} → entity ∈ schema.entities →
      FitsUnder db schema layout entity.name Condition.sitesAll
        fun source => Filter.compileList schema naming entity.name source filters
  | [], entity, hentity => by
    intro around s s' source conditions hsource h
    obtain ⟨rfl, rfl⟩ := yields_pure.1 h
    exact ⟨le_refl s', fun site hsite => by cases hsite⟩
  | filter :: rest, entity, hentity => by
    intro around s s' source conditions hsource h
    simp only [Filter.compileList, yields_bind, yields_pure] at h
    obtain ⟨first, s₁, hfirst, later, s₂, hlater, rfl, rfl⟩ := h
    obtain ⟨hle₁, hfits₁⟩ := Filter.fits_compile hstores filter hentity _ _ _ _ _ hsource hfirst
    obtain ⟨hle₂, hfits₂⟩ := Filter.fits_compileList hstores rest hentity _ _ _ _ _
      (hsource.mono hle₁) hlater
    refine ⟨le_trans hle₁ hle₂, ?_⟩
    rw [Condition.sitesAll, List.forall_mem_append]
    exact ⟨hfits₁, hfits₂⟩

end

end EntitySql
