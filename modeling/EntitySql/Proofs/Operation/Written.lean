import EntitySql.Proofs.Binding.Arrivals
import EntitySql.Proofs.Filter.Faults
import EntitySql.Proofs.Operation.Plan
import EntitySql.Proofs.Relational.Stored

/-!
# Written records

Where the data of a record are written, and which records can be.

* `Lands` relates an entry of a record to the assignment that it becomes: the column under its key, and
  a placeholder for its value.
* `Record.Writable` says that every entry has such a column and such a value.
* `Operation.writes`: inserts and updates of these records are planned, and of no others, and each entry
  lands where it should.
-/

namespace EntitySql

set_option autoImplicit false

/-! ## Entries -/

/-- What an entry of a record becomes. The value of a field goes to the column of the field, a document
as its text; that of a many-to-one to the column that refers to the target, as `null` or as what is
given for the target field, whatever else is. The placeholder has the type of the column. -/
inductive Lands (schema : Schema) (naming : Naming) (entity : String) (values : List Json) :
    String × Json → Assignment → Prop
  | plain {name column : String} {value : Json} {field : Field} {index : Nat}
      (hmember : schema.member? entity name = some (.field field))
      (hcolumn : naming.column entity name = .ok column)
      (hplain : field.type.isDocument = false ∨ value = .null)
      (hholds : Holds values index value) :
      Lands schema naming entity values (name, value) (column, .typedParam index field.sqlType)
  | document {name column : String} {value : Json} {field : Field} {index : Nat}
      (hmember : schema.member? entity name = some (.field field))
      (hcolumn : naming.column entity name = .ok column)
      (hdocument : field.type.isDocument = true) (hvalue : value ≠ .null)
      (hholds : Holds values index (.str value.compact)) :
      Lands schema naming entity values (name, value) (column, .typedParam index field.sqlType)
  | absent {name : String} {relation : ManyToOne} {link : Link} {target : Field} {index : Nat}
      (hmember : schema.member? entity name = some (.manyToOne relation))
      (hlink : naming.link entity name = .ok link)
      (htarget : schema.field? relation.targetEntity relation.targetField = some target)
      (hholds : Holds values index .null) :
      Lands schema naming entity values (name, .null)
        (link.fromColumn, .typedParam index target.sqlType)
  | target {name : String} {members : List (String × Json)} {key : Json} {relation : ManyToOne}
      {link : Link} {target : Field} {index : Nat}
      (hmember : schema.member? entity name = some (.manyToOne relation))
      (hkey : Assoc.get? relation.targetField members = some key)
      (hlink : naming.link entity name = .ok link)
      (htarget : schema.field? relation.targetEntity relation.targetField = some target)
      (hholds : Holds values index key) :
      Lands schema naming entity values (name, .obj members)
        (link.fromColumn, .typedParam index target.sqlType)

/-- The key is a field, or a many-to-one whose value is `null` or has the target field. -/
def Schema.Accepts (schema : Schema) (entity : String) (entry : String × Json) : Prop :=
  (∃ field, schema.member? entity entry.1 = some (.field field)) ∨
    ∃ relation, schema.member? entity entry.1 = some (.manyToOne relation) ∧
      (entry.2 = .null ∨ ∃ members key, entry.2 = .obj members ∧
        Assoc.get? relation.targetField members = some key)

/-- The record has entries, and all of them are accepted. -/
structure Record.Writable (schema : Schema) (entity : String) (record : Record) : Prop where
  nonempty : record ≠ []
  accepted : ∀ entry ∈ record, schema.Accepts entity entry

variable {schema : Schema} {naming : Naming} {entity : String} {values : List Json}

theorem Lands.accepts {entry : String × Json} {pair : Assignment}
    (h : Lands schema naming entity values entry pair) : schema.Accepts entity entry := by
  cases h with
  | plain hmember => exact .inl ⟨_, hmember⟩
  | document hmember => exact .inl ⟨_, hmember⟩
  | absent hmember => exact .inr ⟨_, hmember, .inl rfl⟩
  | target hmember hkey => exact .inr ⟨_, hmember, .inr ⟨_, _, rfl, hkey⟩⟩

/-- Bound to the parameter of its field, a value is written as it is, or as its text. -/
theorem lands_parameter {name column : String} {value : Json} {field : Field} {index : Nat}
    (hmember : schema.member? entity name = some (.field field))
    (hcolumn : naming.column entity name = .ok column)
    (hholds : Holds values index (field.parameter value)) :
    Lands schema naming entity values (name, value) (column, .typedParam index field.sqlType) := by
  unfold Field.parameter at hholds
  split_ifs at hholds with hnull hdocument
  · exact .plain hmember hcolumn (.inr hnull) (hnull ▸ hholds)
  · exact .document hmember hcolumn hdocument hnull hholds
  · exact .plain hmember hcolumn (.inl (Bool.eq_false_iff.2 hdocument)) hholds

/-- What the placeholder of a many-to-one is written to. -/
theorem assignment_manyToOne_eq_ok {name : String} {relation : ManyToOne} {datum : BoundValue}
    {index : Nat} {pair : Assignment}
    (hresolve : schema.resolve entity name = .ok (some (.manyToOne relation)))
    (hindex : targetParameter entity name relation datum = .ok index) :
    assignment schema naming entity (name, datum) = .ok pair ↔
      ∃ link target, naming.link entity name = .ok link ∧
        schema.field? relation.targetEntity relation.targetField = some target ∧
        pair = (link.fromColumn, .typedParam index target.sqlType) := by
  obtain ⟨_, _, _, _, hname⟩ := Schema.manyToOne?_eq_some (Schema.manyToOne?_of_resolve hresolve)
  rw [assignment_resolved hresolve, memberAssignment, relationAssignment, hindex, hname]
  constructor
  · intro h
    obtain ⟨_, hsame, h⟩ := bind_eq_ok.1 h
    obtain rfl := Except.ok.inj hsame
    obtain ⟨link, hlink, h⟩ := bind_eq_ok.1 h
    obtain ⟨target, htarget, h⟩ := bind_eq_ok.1 h
    exact ⟨link, target, hlink, Schema.field_eq_ok.1 htarget, (pure_eq_ok.1 h).symm⟩
  · rintro ⟨link, target, hlink, htarget, rfl⟩
    exact bind_eq_ok.2 ⟨index, rfl, bind_eq_ok.2 ⟨link, hlink,
      bind_eq_ok.2 ⟨target, Schema.field_eq_ok.2 htarget, rfl⟩⟩⟩

/-- A bound entry that is written lands where it should. -/
theorem lands_of_bound {entry : String × Json} {datum : String × BoundValue} {pair : Assignment}
    (hbound : EntryBound schema entity values entry datum)
    (hpair : assignment schema naming entity datum = .ok pair) :
    Lands schema naming entity values entry pair := by
  cases hbound with
  | field hresolve hholds =>
    rw [assignment_resolved hresolve] at hpair
    obtain ⟨column, hcolumn, hpair⟩ := bind_eq_ok.1 hpair
    obtain rfl := pure_eq_ok.1 hpair
    obtain ⟨_, _, _, _, hname⟩ := Schema.field?_eq_some (Schema.field?_of_resolve hresolve)
    rw [hname] at hcolumn
    exact lands_parameter (Schema.member?_of_resolve hresolve) hcolumn hholds
  | target hresolve hkey hholds =>
    obtain ⟨link, target, hlink, htarget, rfl⟩ :=
      (assignment_manyToOne_eq_ok hresolve (targetParameter_record ..)).1 hpair
    exact .target (Schema.member?_of_resolve hresolve) hkey hlink htarget hholds
  | keyless hresolve hkey =>
    rw [assignment_resolved hresolve] at hpair
    cases hpair
  | null hresolve hholds =>
    obtain ⟨link, target, hlink, htarget, rfl⟩ :=
      (assignment_manyToOne_eq_ok hresolve rfl).1 hpair
    exact .absent (Schema.member?_of_resolve hresolve) hlink htarget hholds
  | list hresolve =>
    rw [assignment_resolved hresolve] at hpair
    cases hpair

/-! ## Records -/

namespace Record

/-- A record that is bound and written lands entry by entry. -/
theorem lands_of_assignments {record : Record} {s s' : Bindings} {bound : BoundRecord}
    {pairs : List Assignment} (hbind : Yields (Record.bind schema entity record) s bound s')
    (hpairs : assignments schema naming entity bound = .ok pairs) (hvalues : s'.values <+: values) :
    List.Forall₂ (Lands schema naming entity values) record pairs := by
  obtain ⟨-, hsettled⟩ := settles_bind schema record entity s
  rw [hbind] at hsettled
  exact forall₂_comp (hsettled values hvalues bound rfl) (mapM_eq_ok.1 hpairs)
    fun _ _ _ => lands_of_bound

theorem exists_assignment_param (hschema : schema.WellFormed) (h : naming.Covers schema)
    {entry : String × Json} (hentry : schema.Accepts entity entry) (index : Nat) :
    ∃ pair, assignment schema naming entity (entry.1, .param index) = .ok pair := by
  rcases hentry with ⟨field, hmember⟩ | ⟨relation, hmember, -⟩
  · have hresolve := Schema.resolve_of_member? hmember
    obtain ⟨column, hcolumn⟩ := h.column _ _ field (Schema.field?_of_resolve hresolve)
    rw [assignment_resolved hresolve]
    exact ⟨_, bind_eq_ok.2 ⟨column, hcolumn, rfl⟩⟩
  · have hresolve := Schema.resolve_of_member? hmember
    have hrelation := Schema.manyToOne?_of_resolve hresolve
    obtain ⟨⟨link, hlink⟩, -⟩ := h.manyToOne _ _ relation hrelation
    obtain ⟨owner, howner, rfl, hmem, hname⟩ := Schema.manyToOne?_eq_some hrelation
    obtain ⟨target, htarget, -⟩ := (hschema.entity owner howner).target relation hmem
    rw [hname] at hlink
    exact ⟨_, (assignment_manyToOne_eq_ok hresolve rfl).2 ⟨link, target, hlink, htarget, rfl⟩⟩

theorem exists_assignments_numbered (hschema : schema.WellFormed) (h : naming.Covers schema)
    {record : Record} (hrecord : ∀ entry ∈ record, schema.Accepts entity entry) (start : Nat) :
    ∃ pairs, assignments schema naming entity (numbered start (record.map Prod.fst)) = .ok pairs := by
  induction record generalizing start with
  | nil => exact ⟨[], rfl⟩
  | cons entry rest ih =>
    obtain ⟨hentry, hrest⟩ := List.forall_mem_cons.1 hrecord
    obtain ⟨pair, hpair⟩ := exists_assignment_param hschema h hentry start
    obtain ⟨later, hlater⟩ := ih hrest (start + 1)
    exact ⟨pair :: later, assignments_cons_eq_ok.2 ⟨pair, later, hpair, hlater, rfl⟩⟩

/-- A record can be bound and written if its entries are accepted, and only then. -/
theorem exists_assignments_iff (hschema : schema.WellFormed) (h : naming.Covers schema)
    (record : Record) (s : Bindings) :
    (∃ bound s' pairs, Yields (Record.bind schema entity record) s bound s' ∧
      assignments schema naming entity bound = .ok pairs) ↔
        ∀ entry ∈ record, schema.Accepts entity entry := by
  constructor
  · rintro ⟨bound, s', pairs, hbind, hpairs⟩ entry hentry
    obtain ⟨pair, -, hlands⟩ :=
      exists_of_mem_left (lands_of_assignments hbind hpairs List.prefix_rfl) hentry
    exact hlands.accepts
  · intro hrecord
    have hrefers : Refers schema entity record := by
      intro name value hmem relation hresolve
      have hmember := Schema.member?_of_resolve hresolve
      rcases hrecord _ hmem with ⟨field, hfield⟩ | ⟨other, hother, hvalue⟩
      · cases hmember.symm.trans hfield
      · cases hmember.symm.trans hother
        exact hvalue
    -- keys are numbered in order, so that what is written is known before the record is bound
    obtain ⟨pairs, hpairs⟩ :=
      exists_assignments_numbered hschema h hrecord (s.values.length + 1)
    obtain ⟨bound, s', hbind, hwritten⟩ := exists_bind hrefers s hpairs
    exact ⟨bound, s', pairs, hbind, hwritten⟩

theorem yields_bindAll_singleton {record : Record} {s s' : Bindings} {records : List BoundRecord} :
    Yields (bindAll schema entity [record]) s records s' ↔
      ∃ bound, Yields (Record.bind schema entity record) s bound s' ∧ records = [bound] := by
  simp only [bindAll, yields_bind, yields_pure]
  constructor
  · rintro ⟨bound, _, hbound, _, _, ⟨rfl, rfl⟩, rfl, rfl⟩
    exact ⟨bound, hbound, rfl⟩
  · rintro ⟨bound, hbound, rfl⟩
    exact ⟨bound, s', hbound, [], s', ⟨rfl, rfl⟩, rfl, rfl⟩

/-- Just the writable records are bound to something, and written to some columns. -/
theorem exists_assignments_ne_nil_iff (hschema : schema.WellFormed) (h : naming.Covers schema)
    (record : Record) (s : Bindings) :
    (∃ bound s' pairs, Yields (Record.bind schema entity record) s bound s' ∧
      assignments schema naming entity bound = .ok pairs ∧ pairs ≠ []) ↔
        record.Writable schema entity := by
  have hnil : ∀ {bound s' pairs}, Yields (Record.bind schema entity record) s bound s' →
      assignments schema naming entity bound = .ok pairs → (pairs = [] ↔ record = []) := by
    intro bound s' pairs hbind hpairs
    have hlength := (lands_of_assignments hbind hpairs List.prefix_rfl).length_eq
    rw [← List.length_eq_zero_iff, ← hlength, List.length_eq_zero_iff]
  constructor
  · rintro ⟨bound, s', pairs, hbind, hpairs, hsome⟩
    exact ⟨mt (hnil hbind hpairs).2 hsome,
      (exists_assignments_iff hschema h record s).1 ⟨bound, s', pairs, hbind, hpairs⟩⟩
  · rintro ⟨hsome, haccepted⟩
    obtain ⟨bound, s', pairs, hbind, hpairs⟩ :=
      (exists_assignments_iff hschema h record s).2 haccepted
    exact ⟨bound, s', pairs, hbind, hpairs, mt (hnil hbind hpairs).1 hsome⟩

end Record

/-! ## Statements -/

/-- One row of the columns and values of a record, if there are any. -/
theorem compileInsert_singleton_eq_ok {bound : BoundRecord} {insert : Insert} :
    compileInsert schema naming entity [bound] = .ok insert ↔ ∃ pairs table,
      assignments schema naming entity bound = .ok pairs ∧ naming.table entity = .ok table ∧
        pairs ≠ [] ∧
          insert = { table, columns := pairs.map Prod.fst, rows := [pairs.map Prod.snd] } := by
  have hchecked : ∀ {table : String} {pairs : List Assignment}, pairs ≠ [] →
      Insert.checked { table, columns := pairs.map Prod.fst, rows := [pairs.map Prod.snd] } =
        .ok { table, columns := pairs.map Prod.fst, rows := [pairs.map Prod.snd] } := by
    intro table pairs hpairs
    simp [Insert.checked, hpairs]
  rw [compileInsert_eq_ok]
  constructor
  · rintro ⟨columns, rows, table, hrows, htable, hinsert⟩
    obtain ⟨pairs, all, later, hpairs, -, hlater, heq⟩ := Record.insertRows_cons_eq_ok.1 hrows
    cases hlater
    cases heq
    refine ⟨pairs, table, hpairs, htable, ?_, Insert.checked_eq_ok hinsert⟩
    rintro rfl
    cases hinsert
  · rintro ⟨pairs, table, hpairs, htable, hsome, rfl⟩
    refine ⟨_, _, table, Record.insertRows_cons_eq_ok.2 ?_, htable, hchecked hsome⟩
    exact ⟨pairs, _, _, hpairs, nofun, rfl, rfl⟩

theorem Update.checked_eq_ok_iff {update checked : Update} :
    update.checked = .ok checked ↔ update.assignments ≠ [] ∧ checked = update := by
  unfold Update.checked
  split_ifs with hempty
  · simp [List.isEmpty_iff.1 hempty]
  · rw [Except.ok.injEq, eq_comm]
    exact (and_iff_right (mt List.isEmpty_iff.2 hempty)).symm

/-- The condition of a write is compiled if that of the filter as given is, and binding it keeps what is
bound. -/
theorem exists_compileTouched_bind_iff (h : naming.Covers schema) (hentity : schema.Declares entity)
    (filter : Option Filter) (s : Bindings) :
    s.values <+: ((Filter.bindOptional filter).run s).2.values ∧
      ((∃ condition, compileTouched schema naming entity ((Filter.bindOptional filter).run s).1 =
        .ok condition) ↔ Succeeds ((filter.getD {}).compileOn schema naming entity none) {}) := by
  obtain ⟨hkept, hsuits⟩ := Filter.settles_suitsOptional filter s
  refine ⟨hkept, ?_⟩
  rw [Filter.succeeds_compileOn h hentity, ← hsuits _ List.prefix_rfl entity,
    ← Filter.succeeds_compileOn h hentity _ none {}]
  exact exists_congr fun condition => compileTouched_eq_ok

/-! ## Operations -/

/-- The plan inserts one row with the data of a record. -/
def OperationPlan.Inserts (schema : Schema) (naming : Naming) (entity : String) (record : Record)
    (plan : OperationPlan) : Prop :=
  ∃ table pairs values, naming.table entity = .ok table ∧
    List.Forall₂ (Lands schema naming entity values) record pairs ∧
    plan = .count ⟨.insert
      { table, columns := pairs.map Prod.fst, rows := [pairs.map Prod.snd] }, values⟩

/-- The plan sets the data of a record in the rows that a condition selects. -/
def OperationPlan.Updates (schema : Schema) (naming : Naming) (entity : String) (record : Record)
    (plan : OperationPlan) : Prop :=
  ∃ table pairs values condition, naming.table entity = .ok table ∧
    List.Forall₂ (Lands schema naming entity values) record pairs ∧
    plan = .count ⟨.update { table, assignments := pairs, filter := condition }, values⟩

namespace Operation

variable {record : Record} {plan : OperationPlan}

theorem plan_insert_eq_ok : (insert entity record).plan schema naming = .ok plan ↔
    ∃ bound s' pairs table, Yields (Record.bind schema entity record) {} bound s' ∧
      assignments schema naming entity bound = .ok pairs ∧ naming.table entity = .ok table ∧
      pairs ≠ [] ∧ plan = .count ⟨.insert
        { table, columns := pairs.map Prod.fst, rows := [pairs.map Prod.snd] }, s'.values⟩ := by
  rw [Operation.plan, planInsert_eq_ok]
  constructor
  · rintro (⟨hnil, -⟩ | ⟨-, records, insert, s', hbind, hinsert, rfl⟩)
    · cases hnil
    · obtain ⟨bound, hbound, rfl⟩ := Record.yields_bindAll_singleton.1 hbind
      obtain ⟨pairs, table, hpairs, htable, hsome, rfl⟩ := compileInsert_singleton_eq_ok.1 hinsert
      exact ⟨bound, s', pairs, table, hbound, hpairs, htable, hsome, rfl⟩
  · rintro ⟨bound, s', pairs, table, hbound, hpairs, htable, hsome, rfl⟩
    exact .inr ⟨List.cons_ne_nil _ _, [bound], _, s',
      Record.yields_bindAll_singleton.2 ⟨bound, hbound, rfl⟩,
      compileInsert_singleton_eq_ok.2 ⟨pairs, table, hpairs, htable, hsome, rfl⟩, rfl⟩

theorem plan_update_eq_ok {filter : Option Filter} :
    (update entity record filter).plan schema naming = .ok plan ↔
      ∃ bound s' pairs condition table, Yields (Record.bind schema entity record) {} bound s' ∧
        assignments schema naming entity bound = .ok pairs ∧
        compileTouched schema naming entity ((Filter.bindOptional filter).run s').1 = .ok condition ∧
        naming.table entity = .ok table ∧ pairs ≠ [] ∧
        plan = .count ⟨.update { table, assignments := pairs, filter := condition },
          ((Filter.bindOptional filter).run s').2.values⟩ := by
  rw [Operation.plan, planUpdate_eq_ok]
  constructor
  · rintro ⟨bound, update, s', hbound, hupdate, rfl⟩
    obtain ⟨pairs, condition, table, hpairs, hcondition, htable, hchecked⟩ :=
      compileUpdate_eq_ok.1 hupdate
    obtain ⟨hsome, rfl⟩ := Update.checked_eq_ok_iff.1 hchecked
    exact ⟨bound, s', pairs, condition, table, hbound, hpairs, hcondition, htable, hsome, rfl⟩
  · rintro ⟨bound, s', pairs, condition, table, hbound, hpairs, hcondition, htable, hsome, rfl⟩
    exact ⟨bound, _, s', hbound, compileUpdate_eq_ok.2 ⟨pairs, condition, table, hpairs, hcondition,
      htable, Update.checked_eq_ok_iff.2 ⟨hsome, rfl⟩⟩, rfl⟩

/-- Every data of a writable record lands in the columns of its keys, when it is inserted and when it is
set. Both are planned just for these records, if the filter of an update can be compiled. -/
theorem writes {entities : List Entity} {overrides : Assoc String}
    (hschema : Schema.ofEntities entities = .ok schema)
    (hnaming : Naming.ofSchema overrides schema = .ok naming) {owner : Entity}
    (howner : owner ∈ entities) (record : Record) (filter : Option Filter) :
    ((∃ plan, (insert owner.name record).plan schema naming = .ok plan) ↔
      record.Writable schema owner.name) ∧
    (∀ plan, (insert owner.name record).plan schema naming = .ok plan →
      plan.Inserts schema naming owner.name record) ∧
    ((∃ plan, (update owner.name record filter).plan schema naming = .ok plan) ↔
      record.Writable schema owner.name ∧
        Succeeds ((filter.getD {}).compileOn schema naming owner.name none) {}) ∧
    (∀ plan, (update owner.name record filter).plan schema naming = .ok plan →
      plan.Updates schema naming owner.name record) := by
  obtain ⟨rfl, hwellFormed⟩ := Schema.ofEntities_eq_ok.1 hschema
  have hcovers := Naming.covers_of_follows hwellFormed
    (Naming.follows_of_ofSchema hwellFormed hnaming)
  have hdeclared : Schema.Declares ⟨entities⟩ owner.name := ⟨owner, howner, rfl⟩
  obtain ⟨table, htable⟩ := hcovers.table owner.name hdeclared
  have hwritable : _ ↔ Record.Writable ⟨entities⟩ owner.name record :=
    Record.exists_assignments_ne_nil_iff hwellFormed hcovers record {}
  have htouched := exists_compileTouched_bind_iff hcovers hdeclared filter
  rw [← hwritable]
  refine ⟨⟨?_, ?_⟩, ?_, ⟨?_, ?_⟩, ?_⟩
  · rintro ⟨plan, hplan⟩
    obtain ⟨bound, s', pairs, _, hbind, hpairs, -, hsome, -⟩ := plan_insert_eq_ok.1 hplan
    exact ⟨bound, s', pairs, hbind, hpairs, hsome⟩
  · rintro ⟨bound, s', pairs, hbind, hpairs, hsome⟩
    exact ⟨_, plan_insert_eq_ok.2 ⟨bound, s', pairs, table, hbind, hpairs, htable, hsome, rfl⟩⟩
  · intro plan hplan
    obtain ⟨bound, s', pairs, _, hbind, hpairs, htable, -, rfl⟩ := plan_insert_eq_ok.1 hplan
    exact ⟨_, pairs, s'.values, htable,
      Record.lands_of_assignments hbind hpairs List.prefix_rfl, rfl⟩
  · rintro ⟨plan, hplan⟩
    obtain ⟨bound, s', pairs, condition, _, hbind, hpairs, hcondition, -, hsome, -⟩ :=
      plan_update_eq_ok.1 hplan
    exact ⟨⟨bound, s', pairs, hbind, hpairs, hsome⟩, (htouched s').2.1 ⟨condition, hcondition⟩⟩
  · rintro ⟨⟨bound, s', pairs, hbind, hpairs, hsome⟩, hcompiles⟩
    obtain ⟨condition, hcondition⟩ := (htouched s').2.2 hcompiles
    exact ⟨_, plan_update_eq_ok.2 ⟨bound, s', pairs, condition, table, hbind, hpairs, hcondition,
      htable, hsome, rfl⟩⟩
  · intro plan hplan
    obtain ⟨bound, s', pairs, condition, _, hbind, hpairs, -, htable, -, rfl⟩ :=
      plan_update_eq_ok.1 hplan
    exact ⟨_, pairs, _, condition, htable,
      Record.lands_of_assignments hbind hpairs (htouched s').1, rfl⟩

end Operation

/-- A title, and an author who is given with more than the key. -/
def Library.emmaByAusten : Record :=
  [("title", .str "Emma"), ("writer", .obj [("fullName", .str "Austen"), ("id", .int 1)])]

/-- The book is inserted and updated, with its title and the key of its author. -/
theorem Operation.writes_emmaByAusten :
    (∃ plan, (insert "Book" Library.emmaByAusten).plan Library.schema Library.naming = .ok plan ∧
      plan.Inserts Library.schema Library.naming "Book" Library.emmaByAusten) ∧
    ∃ plan, (update "Book" Library.emmaByAusten none).plan Library.schema Library.naming = .ok plan ∧
      plan.Updates Library.schema Library.naming "Book" Library.emmaByAusten := by
  have hwritable : Library.emmaByAusten.Writable Library.schema "Book" := by
    refine ⟨List.cons_ne_nil _ _, List.forall_mem_cons.2 ⟨.inl ⟨_, rfl⟩, ?_⟩⟩
    exact List.forall_mem_singleton.2 (.inr ⟨_, rfl, .inr ⟨_, _, rfl, rfl⟩⟩)
  have hbook : Library.entities[1] ∈ Library.entities := List.getElem_mem _
  obtain ⟨hinsert, hinserts, hupdate, hupdates⟩ := Operation.writes Library.ofEntities_entities
    Library.ofSchema_schema hbook Library.emmaByAusten none
  obtain ⟨inserted, hinserted⟩ := hinsert.2 hwritable
  obtain ⟨updated, hupdated⟩ := hupdate.2 ⟨hwritable, _, _, rfl⟩
  exact ⟨⟨inserted, hinserted, hinserts inserted hinserted⟩,
    updated, hupdated, hupdates updated hupdated⟩

end EntitySql
