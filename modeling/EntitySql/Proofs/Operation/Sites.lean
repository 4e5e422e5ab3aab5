import EntitySql.Proofs.Migration.ForeignKeys
import EntitySql.Proofs.Operation.Reading
import EntitySql.Proofs.Read.Sites

/-!
# Names in planned statements

Whatever a planned statement names is something that the migration of an empty database creates, and
what it compares with a column or writes to one has the type that the column is created with.

* `Assignment.Fits` says that a value is written to a declared column, under its type; the
  assignments of records fit.
* `Operation.fits_plan` is about the names in the statement of an operation.
* `Site.DefinedBy` compares a name with the definitions of a migration.
* `Operation.definedBy_plan` puts both together.

Aggregates, updates and deletes name the rows that they touch by the table. Where the table has the
name of an alias, the `EXISTS` under that alias takes the name for itself; see
`Operation.captured_plan`.
-/

namespace EntitySql

set_option autoImplicit false

open Compile

variable {V : Type} {db : Instance V} {schema : Schema} {naming : Naming} {layout : Layout}

/-! ## Values that are written -/

/-- A placeholder for a declared column, cast to the type of the column. -/
def Assignment.Fits (schema : Schema) (layout : Layout) (table : String) (pair : Assignment) :
    Prop :=
  ∃ index type, pair.2 = .typedParam index type ∧ layout.Declares schema table pair.1 type

theorem Assignment.Fits.written {table : String} {pair : Assignment}
    (h : pair.Fits schema layout table) (hdb : db.Conforms schema layout) :
    ∀ site ∈ pair.2.writtenSites table pair.1, site.Fits db schema layout := by
  obtain ⟨column, value⟩ := pair
  obtain ⟨index, type, rfl, hdeclares⟩ := h
  have hrange : Context.range? table [[(table, .table table)]] = some (.table table) :=
    Context.range?_cons_head fun item hitem => absurd hitem List.not_mem_nil
  have hsites : (Expr.typedParam index type).writtenSites table column =
      [⟨[[(table, .table table)]], .column table column⟩,
        ⟨[[(table, .table table)]], .placeholder table column (some type)⟩] := rfl
  rw [hsites, List.forall_mem_cons, List.forall_mem_singleton]
  exact ⟨Site.fits_column hrange (hdeclares.mem_columns hdb), table, type, hrange, rfl, hdeclares⟩

section

variable (hstores : db.Stores schema naming layout) {entity : Entity}
  (hentity : entity ∈ schema.entities)

include hstores hentity

theorem fits_assignment {entry : String × BoundValue} {pair : Assignment}
    (h : assignment schema naming entity.name entry = .ok pair) :
    pair.Fits schema layout (layout.table entity.name) := by
  cases assigns_of_assignment hstores.wellFormed hstores.follows hentity h with
  | @field field index hfield hname => exact ⟨index, field.sqlType, rfl, .field hentity hfield⟩
  | @manyToOne relation target index hrelation hname htarget =>
    exact ⟨index, target.sqlType, rfl, .foreignKey hentity hrelation htarget⟩

theorem fits_assignments {record : BoundRecord} {pairs : List Assignment}
    (h : assignments schema naming entity.name record = .ok pairs) :
    ∀ pair ∈ pairs, pair.Fits schema layout (layout.table entity.name) := by
  intro pair hpair
  obtain ⟨entry, -, hentry⟩ := exists_of_mem_right (mapM_eq_ok.1 h) hpair
  exact fits_assignment hstores hentity hentry

/-- All rows of an insert are written to the same columns, which are those of the first row or given
before. -/
theorem fits_insertRows {before : Option (List String)} {records : List BoundRecord}
    {columns : List String} {rows : List (List Expr)}
    (h : insertRows schema naming entity.name before records = .ok (columns, rows)) :
    (∀ expected ∈ before, columns = expected) ∧
      (∀ column ∈ columns, column ∈ before.getD [] ∨
        ∃ pair : Assignment, pair.Fits schema layout (layout.table entity.name) ∧ pair.1 = column) ∧
      ∀ row ∈ rows, ∃ pairs : List Assignment,
        (∀ pair ∈ pairs, pair.Fits schema layout (layout.table entity.name)) ∧
          columns.zip row = pairs := by
  induction records generalizing before columns rows with
  | nil =>
    obtain ⟨rfl, rfl⟩ := Prod.mk.inj (Except.ok.inj h)
    refine ⟨fun expected hexpected => ?_, fun column hcolumn => .inl hcolumn, fun row hrow => ?_⟩
    · obtain rfl := hexpected
      rfl
    · cases hrow
  | cons record rest ih =>
    obtain ⟨pairs, all, others, hpairs, hsame, hrest, hout⟩ :=
      Record.insertRows_cons_eq_ok.1 h
    obtain ⟨rfl, rfl⟩ := Prod.mk.inj hout
    obtain ⟨hcolumns, -, hrows⟩ := ih hrest
    obtain rfl := hcolumns _ rfl
    have hfits := fits_assignments hstores hentity hpairs
    refine ⟨fun expected hexpected => (hsame expected hexpected).symm, fun column hcolumn => ?_, ?_⟩
    · obtain ⟨pair, hpair, rfl⟩ := List.mem_map.1 hcolumn
      exact .inr ⟨pair, hfits pair hpair, rfl⟩
    · refine List.forall_mem_cons.2 ⟨⟨pairs, hfits, ?_⟩, hrows⟩
      rw [List.zip_map', List.map_id']

/-! ## Statements -/

theorem fits_compileTouched
    (hfree : ∀ number, layout.table entity.name ≠ Aliases.name "w" number)
    {filter : Option Filter} {condition : Condition}
    (h : compileTouched schema naming entity.name filter = .ok condition) :
    ∀ site ∈ condition.sites [[(layout.table entity.name, .table (layout.table entity.name))]],
      site.Fits db schema layout := by
  obtain ⟨s', hyields⟩ := compileTouched_eq_ok.1 h
  obtain ⟨label, hlabel, hcompile⟩ := Filter.yields_compileOn hyields
  obtain rfl : label = layout.table entity.name :=
    hlabel _ (hstores.follows.table entity hentity)
  have hsource : SourceUnder layout
      [[(layout.table entity.name, .table (layout.table entity.name))]] {} entity.name
      (layout.table entity.name) :=
    ⟨Context.range?_cons_head fun item hitem => absurd hitem List.not_mem_nil,
      fun number _ => hfree number⟩
  exact (Filter.fits_compile hstores _ hentity _ _ _ _ _ hsource hcompile).2

theorem fits_compileAggregate
    (hfree : ∀ number, layout.table entity.name ≠ Aliases.name "w" number)
    {function : Aggregate} {target : AggregateTarget} {filter : Option Filter} {s s' : Aliases}
    {query : Query}
    (h : Yields (compileAggregate schema naming entity.name function target filter) s query s') :
    ∀ site ∈ query.sites [], site.Fits db schema layout := by
  simp only [compileAggregate, yields_bind, yields_ofResult, yields_pure] at h
  obtain ⟨table, _, ⟨htable, rfl⟩, argument, _, ⟨hargument, rfl⟩, conditions, s₁, hconditions, rfl,
    rfl⟩ := h
  rw [hstores.follows.table entity hentity] at htable
  obtain rfl := Except.ok.inj htable
  let table := layout.table entity.name
  let inside : Context := [[(table, .table table)]]
  have hrange : Context.range? table inside = some (.table table) :=
    Context.range?_cons_head fun item hitem => absurd hitem List.not_mem_nil
  have hargument : ∀ site ∈ argument.sites inside, site.Fits db schema layout := by
    have hnone : ∀ site ∈ ([] : List Site), site.Fits db schema layout :=
      fun site hsite => absurd hsite List.not_mem_nil
    unfold AggregateTarget.argument at hargument
    split at hargument
    · obtain rfl := Except.ok.inj hargument
      exact hnone
    · split at hargument
      · obtain rfl := Except.ok.inj hargument
        exact hnone
      · obtain ⟨field, -, hargument⟩ := bind_eq_ok.1 hargument
        obtain ⟨column, hcolumn, hargument⟩ := bind_eq_ok.1 hargument
        obtain rfl := pure_eq_ok.1 hargument
        rw [Expr.sites, List.forall_mem_singleton]
        exact Site.fits_column hrange (hstores.column_eq hcolumn).2
  obtain ⟨-, hfilter⟩ := fits_filterConditions hstores hentity filter inside _ _ _ _
    ⟨hrange, fun number _ => hfree number⟩ hconditions
  have hsites : Query.sites [] {
      columns := [(.toJson (.aggregate function argument), some function.name)]
      source := some (.table table none)
      filter := some (.all (.literal true :: conditions)) } = argument.sites inside ++
        (⟨[], .table table⟩ :: Condition.sitesAll inside conditions) := by
    simp [Query.sites, Query.columnSites, Query.sourceLevel, Query.joinLevel, Query.joinSites,
      Source.sitesOf, Source.sites, Condition.sitesOf, Condition.sites, Condition.sitesAll,
      SortItem.sites, Expr.sites, inside]
  rw [hsites, List.forall_mem_append, List.forall_mem_cons]
  exact ⟨hargument, Layout.mem_tables.2 ⟨entity, hentity, rfl⟩, hfilter⟩

end

/-! ## Operations -/

namespace Operation

def entity : Operation → String
  | select entity .. | aggregate entity .. | insert entity _ | insertMany entity _
  | update entity .. | delete entity _ => entity

/-- Whether the rows that an operation touches are named by their table. -/
def usesTableName : Operation → Bool
  | select .. | insert .. | insertMany .. => false
  | aggregate .. | update .. | delete .. => true

/-- Every sort key of a read has a path. -/
def Ordered : Operation → Prop
  | select _ request _ => request.Each ReadArgs.Ordered
  | _ => True

theorem ordered_ofJson? {value : Json} {operation : Operation}
    (h : Operation.ofJson? value = some operation) : operation.Ordered := by
  have hparsed := parsed_of_ofJson? h
  cases operation with
  | select entity request one =>
    obtain ⟨tree, hread⟩ := hparsed
    exact ReadRequest.ordered_ofJson? hread
  | aggregate | insert | insertMany | update | delete => trivial

section

variable (hstores : db.Stores schema naming layout) {entity : Entity}
  (hentity : entity ∈ schema.entities) {plan : OperationPlan} {bound : BoundStatement}

include hstores hentity

theorem fits_planSelect {request : ReadRequest} (hordered : request.Each ReadArgs.Ordered)
    {one : Bool} (h : planSelect schema naming entity.name request one = .ok plan)
    (hbound : plan.bound? = some bound) :
    ∀ site ∈ bound.statement.sites, site.Fits db schema layout := by
  obtain ⟨selection, query, s', hselection, hquery, rfl⟩ := planSelect_eq_ok.1 h
  obtain rfl := Option.some.inj hbound
  have hselected := Selection.each_ofRequest ReadArgs.ordered_default request hordered hselection
  have hboundEach := Selection.each_bind (fun _ _ hargs => hargs) selection hselected {}
  exact Selection.fits_compile hstores hentity hboundEach hquery

theorem fits_planInsert {data : List Record}
    (h : planInsert schema naming entity.name data = .ok plan)
    (hbound : plan.bound? = some bound) :
    ∀ site ∈ bound.statement.sites, site.Fits db schema layout := by
  rcases planInsert_eq_ok.1 h with ⟨-, rfl⟩ | ⟨-, records, insert, s', -, hinsert, rfl⟩
  · cases hbound
  · obtain rfl := Option.some.inj hbound
    obtain ⟨columns, rows, table, hrows, htable, hchecked⟩ := compileInsert_eq_ok.1 hinsert
    obtain rfl := Insert.checked_eq_ok hchecked
    rw [hstores.follows.table entity hentity] at htable
    obtain rfl := Except.ok.inj htable
    obtain ⟨-, hcolumns, hwritten⟩ := fits_insertRows hstores hentity hrows
    simp only [Statement.sites, List.forall_mem_cons, List.forall_mem_append, List.forall_mem_map,
      List.forall_mem_flatMap]
    refine ⟨Layout.mem_tables.2 ⟨entity, hentity, rfl⟩, fun column hcolumn => ?_,
      fun row hrow => ?_⟩
    · obtain hnone | ⟨pair, hpair, rfl⟩ := hcolumns column hcolumn
      · cases hnone
      · obtain ⟨index, type, -, hdeclares⟩ := hpair
        exact Site.fits_column
          (Context.range?_cons_head fun item hitem => absurd hitem List.not_mem_nil)
          (hdeclares.mem_columns hstores.conforms)
    · obtain ⟨pairs, hpairs, hzip⟩ := hwritten row hrow
      rw [hzip]
      exact fun pair hpair => (hpairs pair hpair).written hstores.conforms

theorem fits_planUpdate (hfree : ∀ number, layout.table entity.name ≠ Aliases.name "w" number)
    {data : Record} {filter : Option Filter}
    (h : planUpdate schema naming entity.name data filter = .ok plan)
    (hbound : plan.bound? = some bound) :
    ∀ site ∈ bound.statement.sites, site.Fits db schema layout := by
  obtain ⟨record, update, s', -, hupdate, rfl⟩ := planUpdate_eq_ok.1 h
  obtain rfl := Option.some.inj hbound
  obtain ⟨pairs, condition, table, hpairs, hcondition, htable, hchecked⟩ :=
    compileUpdate_eq_ok.1 hupdate
  obtain rfl := Update.checked_eq_ok hchecked
  rw [hstores.follows.table entity hentity] at htable
  obtain rfl := Except.ok.inj htable
  simp only [Statement.sites, List.forall_mem_cons, List.forall_mem_append,
    List.forall_mem_flatMap]
  exact ⟨Layout.mem_tables.2 ⟨entity, hentity, rfl⟩,
    fun pair hpair => (fits_assignments hstores hentity hpairs pair hpair).written hstores.conforms,
    fits_compileTouched hstores hentity hfree hcondition⟩

theorem fits_planDelete (hfree : ∀ number, layout.table entity.name ≠ Aliases.name "w" number)
    {filter : Option Filter} (h : planDelete schema naming entity.name filter = .ok plan)
    (hbound : plan.bound? = some bound) :
    ∀ site ∈ bound.statement.sites, site.Fits db schema layout := by
  obtain ⟨delete, hdelete, rfl⟩ := planDelete_eq_ok.1 h
  obtain rfl := Option.some.inj hbound
  obtain ⟨condition, table, hcondition, htable, rfl⟩ := compileDelete_eq_ok.1 hdelete
  rw [hstores.follows.table entity hentity] at htable
  obtain rfl := Except.ok.inj htable
  exact List.forall_mem_cons.2 ⟨Layout.mem_tables.2 ⟨entity, hentity, rfl⟩,
    fits_compileTouched hstores hentity hfree hcondition⟩

/-- The names in the statement of an operation fit, unless the table that an operation names its rows
by is called like an alias. -/
theorem fits_plan {operation : Operation} (hname : operation.entity = entity.name)
    (hordered : operation.Ordered) (hfree : operation.usesTableName = true →
      ∀ number, layout.table entity.name ≠ Aliases.name "w" number)
    (h : operation.plan schema naming = .ok plan) (hbound : plan.bound? = some bound) :
    ∀ site ∈ bound.statement.sites, site.Fits db schema layout := by
  cases operation with
  | select name request one =>
    obtain rfl : name = entity.name := hname
    exact fits_planSelect hstores hentity hordered h hbound
  | aggregate name function target filter =>
    obtain rfl : name = entity.name := hname
    obtain ⟨query, s', hquery, rfl⟩ := planAggregate_eq_ok.1 h
    obtain rfl := Option.some.inj hbound
    exact fits_compileAggregate hstores hentity (hfree rfl) hquery
  | insert name data =>
    obtain rfl : name = entity.name := hname
    exact fits_planInsert hstores hentity h hbound
  | insertMany name data =>
    obtain rfl : name = entity.name := hname
    exact fits_planInsert hstores hentity h hbound
  | update name data filter =>
    obtain rfl : name = entity.name := hname
    exact fits_planUpdate hstores hentity (hfree rfl) h hbound
  | delete name filter =>
    obtain rfl : name = entity.name := hname
    exact fits_planDelete hstores hentity (hfree rfl) h hbound

end

end Operation

/-! ## Migrations -/

/-- What is named is there after the definitions: a table that they create, a column that they add,
and for a placeholder that meets a column the type that the column is added with. -/
structure Site.DefinedBy (db : Instance V) (definitions : List Definition) (site : Site) : Prop where
  resolves : site.Resolves db
  table : ∀ name, site.mention = .table name → name ∈ definitions.filterMap Definition.created?
  column : ∀ pair ∈ site.stored? db, pair ∈ definitions.flatMap Definition.columns
  type : ∀ source column type, site.mention = .placeholder source column type →
    ∃ table clause, site.stored? db = some (table, column) ∧
      (table, clause) ∈ definitions.flatMap Definition.clauses ∧ clause.column = column ∧
        type = some clause.type

theorem Site.Fits.definedBy {site : Site}
    (h : site.Fits (layout.blank schema) schema layout) (hschema : schema.WellFormed)
    {parts : List (List Definition × List Definition)}
    (hparts : List.Forall₂ (EntityPart layout schema {}) schema.entities parts) :
    site.DefinedBy (layout.blank schema) (parts.flatMap Prod.fst ++ parts.flatMap Prod.snd) := by
  have hresolves := h.resolves (layout.conforms_blank schema)
  have hreconciles := reconciles_of_parts hschema hparts
  refine ⟨hresolves, ?_, ?_, ?_⟩
  · intro name hmention
    obtain ⟨around, mention⟩ := site
    obtain rfl : mention = .table name := hmention
    exact (hreconciles.created name).2 ⟨h, rfl⟩
  · rintro ⟨table, column⟩ hstored
    have hcolumn := Site.mem_of_stored? hresolves hstored
    exact (hreconciles.columns table column).2 ⟨Layout.mem_blank.1 hcolumn, rfl⟩
  · intro source column type hmention
    obtain ⟨around, mention⟩ := site
    obtain rfl : mention = .placeholder source column type := hmention
    obtain ⟨table, declared, hsource, rfl, hdeclares⟩ := h
    obtain ⟨clause, hclause, rfl, rfl⟩ := (declares_iff_of_parts hparts).2 ⟨hdeclares, rfl⟩
    refine ⟨table, clause, ?_, hclause, rfl, rfl⟩
    show (Context.range? source around).bind _ = _
    rw [hsource]
    rfl

/-- What the statement of an operation names, the migration of an empty database creates: tables,
columns, and the types of the columns that placeholders meet. Where rows are named by their table,
the table must not be called like an alias of a filter. Sort keys have paths, as those of operations
that are read have (`Operation.ordered_ofJson?`). -/
theorem Operation.definedBy_plan {entities : List Entity} {overrides : Assoc String}
    (hschema : Schema.ofEntities entities = .ok schema)
    (hnaming : Naming.ofSchema overrides schema = .ok naming) {entity : Entity}
    (hentity : entity ∈ schema.entities) {operation : Operation}
    (hname : operation.entity = entity.name) (hordered : operation.Ordered)
    (hfree : operation.usesTableName = true →
      ∀ number, (Layout.ofOverrides overrides).table entity.name ≠ Aliases.name "w" number)
    {plan : OperationPlan} {bound : BoundStatement}
    (h : operation.plan schema naming = .ok plan) (hbound : plan.bound? = some bound) :
    ∃ definitions, migrationPlan schema naming {} = .ok definitions ∧
      ∀ site ∈ bound.statement.sites,
        site.DefinedBy ((Layout.ofOverrides overrides).blank schema) definitions := by
  have hstores := ((Layout.ofOverrides overrides).conforms_blank schema).stores hschema hnaming
  obtain ⟨parts, hparts, hplan⟩ :=
    migrationPlan_eq_parts hstores.wellFormed hstores.follows {}
  refine ⟨_, hplan, fun site hsite => ?_⟩
  exact (Operation.fits_plan hstores hentity hname hordered hfree h hbound site hsite).definedBy
    hstores.wellFormed hparts

theorem Operation.definedBy_plan_moveToJoyce : ∃ plan bound definitions,
    Library.moveToJoyce.plan Library.schema Library.naming = .ok plan ∧
      plan.bound? = some bound ∧
      bound.statement.sites.any (fun site => site.mention matches .placeholder "book" "writer_id" _) ∧
      migrationPlan Library.schema Library.naming {} = .ok definitions ∧
      ∀ site ∈ bound.statement.sites,
        site.DefinedBy ((Layout.ofOverrides []).blank Library.schema) definitions := by
  obtain ⟨plan, bound, hplan, hbound, hwritten⟩ : ∃ plan bound,
      Library.moveToJoyce.plan Library.schema Library.naming = .ok plan ∧
        plan.bound? = some bound ∧ bound.statement.sites.any
          (fun site => site.mention matches .placeholder "book" "writer_id" _) :=
    ⟨_, _, rfl, rfl, by decide +kernel⟩
  have hbook : Library.entities[1] ∈ Library.schema.entities :=
    List.mem_cons_of_mem _ (List.mem_cons_self ..)
  have hname : Library.moveToJoyce.entity = Library.entities[1].name := rfl
  have hordered : Library.moveToJoyce.Ordered := trivial
  obtain ⟨definitions, hdefinitions, hsites⟩ := Operation.definedBy_plan
    Library.ofEntities_entities Library.ofSchema_schema hbook hname hordered
    (fun _ => Aliases.ne_name (by decide +kernel)) hplan hbound
  exact ⟨plan, bound, definitions, hplan, hbound, hwritten, hdefinitions, hsites⟩

/-- Where books are stored in a table called `w_0`, a delete of the books that have an author looks
for the author of an author: in the `EXISTS`, whose alias is `w_0` too, the column of the book is read
from the authors, who have none. -/
theorem Operation.captured_plan : ∃ naming plan bound definitions,
    Schema.ofEntities Library.entities = .ok Library.schema ∧
      Naming.ofSchema [("Book", "w_0")] Library.schema = .ok naming ∧
      (Operation.delete "Book" (some { terms := [.nested "writer" {}] })).plan Library.schema naming =
        .ok plan ∧
      plan.bound? = some bound ∧
      migrationPlan Library.schema naming {} = .ok definitions ∧
      bound.statement.sites.any (fun site =>
        site.stored? ((Layout.ofOverrides [("Book", "w_0")]).blank Library.schema) =
          some ("author", "writer_id")) ∧
      ("author", "writer_id") ∉ definitions.flatMap Definition.columns :=
  ⟨_, _, _, _, Library.ofEntities_entities, rfl, rfl, rfl, rfl, by decide +kernel, by decide +kernel⟩

end EntitySql
