import EntitySql.Proofs.Binding.Records
import EntitySql.Proofs.Naming.Layout

/-!
# Successful plans

What planning an operation comes to when it succeeds, one lemma for each kind of operation.

* `OperationPlan.bound?` is the statement of a plan with its parameters.
* `Layout.Assigns` is what a layout writes under a name; every assignment is of this form.
* `Operation.planSelect_eq_ok` and its like take the planning apart.
-/

namespace EntitySql

set_option autoImplicit false

variable {schema : Schema} {naming : Naming} {entity : String}

/-- The statement of a plan, if there is anything to do. -/
def OperationPlan.bound? : OperationPlan → Option BoundStatement
  | .fetch bound _ => some bound
  | .count bound => some bound
  | .skip => none

/-! ## Assignments -/

/-- What is written under a name: a placeholder in the column of a field or of a many-to-one, under the
type of that column. -/
inductive Layout.Assigns (layout : Layout) (schema : Schema) (entity : Entity) (name : String) :
    Assignment → Prop
  | field {field : Field} {index : Nat} (hfield : field ∈ entity.fields) (hname : field.name = name) :
      Assigns layout schema entity name
        (layout.column entity.name field.name, .typedParam index field.sqlType)
  | manyToOne {relation : ManyToOne} {target : Field} {index : Nat}
      (hrelation : relation ∈ entity.manyToOne) (hname : relation.name = name)
      (htarget : schema.field? relation.targetEntity relation.targetField = some target) :
      Assigns layout schema entity name
        (layout.foreignKey entity.name relation, .typedParam index target.sqlType)

theorem assigns_of_assignment {layout : Layout} {entity : Entity} (hschema : schema.WellFormed)
    (h : naming.Follows schema layout) (hentity : entity ∈ schema.entities)
    {entry : String × BoundValue} {pair : Assignment}
    (hpair : assignment schema naming entity.name entry = .ok pair) :
    layout.Assigns schema entity entry.1 pair := by
  obtain ⟨name, value⟩ := entry
  obtain ⟨found, hresolve, -⟩ := bind_eq_ok.1 hpair
  cases found with
  | none =>
    rw [assignment, hresolve] at hpair
    cases hpair
  | some member =>
    have hmember := hschema.entityMember?_of_resolve hentity hresolve
    rw [assignment_resolved hresolve] at hpair
    rcases Entity.member?_eq_some hmember with ⟨field, rfl, hfield, hname⟩ |
      ⟨relation, rfl, hrelation, hname⟩ | ⟨relation, rfl, -⟩
    · simp only [memberAssignment, fieldAssignment] at hpair
      split at hpair
      · obtain ⟨column, hcolumn, hpair⟩ := bind_eq_ok.1 hpair
        obtain rfl := pure_eq_ok.1 hpair
        rw [h.column entity hentity field hfield] at hcolumn
        obtain rfl := Except.ok.inj hcolumn
        exact .field hfield hname
      · cases hpair
    · simp only [memberAssignment, relationAssignment] at hpair
      obtain ⟨index, -, hpair⟩ := bind_eq_ok.1 hpair
      obtain ⟨link, hlink, hpair⟩ := bind_eq_ok.1 hpair
      obtain ⟨target, htarget, hpair⟩ := bind_eq_ok.1 hpair
      obtain rfl := pure_eq_ok.1 hpair
      rw [h.manyToOne entity hentity relation hrelation] at hlink
      obtain rfl := Except.ok.inj hlink
      exact .manyToOne hrelation hname (Schema.field_eq_ok.1 htarget)
    · cases hpair

/-! ## Statements that write -/

theorem Insert.checked_eq_ok {insert checked : Insert} (h : insert.checked = .ok checked) :
    checked = insert := by
  unfold Insert.checked at h
  split at h
  · cases h
  · split at h
    · cases h
    · split at h
      · cases h
      · exact (Except.ok.inj h).symm

theorem Update.checked_eq_ok {update checked : Update} (h : update.checked = .ok checked) :
    checked = update := by
  unfold Update.checked at h
  split at h
  · cases h
  · exact (Except.ok.inj h).symm

theorem compileInsert_eq_ok {records : List BoundRecord} {insert : Insert} :
    compileInsert schema naming entity records = .ok insert ↔ ∃ columns rows table,
      insertRows schema naming entity none records = .ok (columns, rows) ∧
        naming.table entity = .ok table ∧ Insert.checked { table, columns, rows } = .ok insert := by
  unfold compileInsert
  rw [bind_eq_ok]
  constructor
  · rintro ⟨⟨columns, rows⟩, hrows, h⟩
    obtain ⟨table, htable, h⟩ := bind_eq_ok.1 h
    exact ⟨columns, rows, table, hrows, htable, h⟩
  · rintro ⟨columns, rows, table, hrows, htable, h⟩
    exact ⟨(columns, rows), hrows, bind_eq_ok.2 ⟨table, htable, h⟩⟩

theorem compileTouched_eq_ok {filter : Option Filter} {condition : Condition} :
    compileTouched schema naming entity filter = .ok condition ↔
      ∃ s', Yields ((filter.getD {}).compileOn schema naming entity none) {} condition s' :=
  fst_eq_ok

theorem compileUpdate_eq_ok {record : BoundRecord} {filter : Option Filter} {update : Update} :
    compileUpdate schema naming entity record filter = .ok update ↔ ∃ pairs condition table,
      assignments schema naming entity record = .ok pairs ∧
        compileTouched schema naming entity filter = .ok condition ∧
          naming.table entity = .ok table ∧
            Update.checked { table, assignments := pairs, filter := condition } = .ok update := by
  unfold compileUpdate
  constructor
  · intro h
    obtain ⟨pairs, hpairs, h⟩ := bind_eq_ok.1 h
    obtain ⟨condition, hcondition, h⟩ := bind_eq_ok.1 h
    obtain ⟨table, htable, h⟩ := bind_eq_ok.1 h
    exact ⟨pairs, condition, table, hpairs, hcondition, htable, h⟩
  · rintro ⟨pairs, condition, table, hpairs, hcondition, htable, h⟩
    exact bind_eq_ok.2 ⟨pairs, hpairs, bind_eq_ok.2 ⟨condition, hcondition,
      bind_eq_ok.2 ⟨table, htable, h⟩⟩⟩

theorem compileDelete_eq_ok {filter : Option Filter} {delete : Delete} :
    compileDelete schema naming entity filter = .ok delete ↔ ∃ condition table,
      compileTouched schema naming entity filter = .ok condition ∧
        naming.table entity = .ok table ∧ delete = { table, filter := condition } := by
  unfold compileDelete
  constructor
  · intro h
    obtain ⟨condition, hcondition, h⟩ := bind_eq_ok.1 h
    obtain ⟨table, htable, h⟩ := bind_eq_ok.1 h
    exact ⟨condition, table, hcondition, htable, (pure_eq_ok.1 h).symm⟩
  · rintro ⟨condition, table, hcondition, htable, rfl⟩
    exact bind_eq_ok.2 ⟨condition, hcondition, bind_eq_ok.2 ⟨table, htable, rfl⟩⟩

/-! ## Operations -/

namespace Operation

variable {plan : OperationPlan}

theorem compiled_eq_ok {α : Type} {compilation : Compile α} {a : α} :
    compiled compilation = .ok a ↔ ∃ s', Yields compilation {} a s' :=
  fst_eq_ok

theorem planSelect_eq_ok {request : ReadRequest} {one : Bool} :
    planSelect schema naming entity request one = .ok plan ↔ ∃ selection query s',
      Selection.ofRequest schema entity request = .ok selection ∧
        Yields (if one then (selection.bind.run {}).1.compileOne schema naming entity
          else (selection.bind.run {}).1.compile schema naming entity) {} query s' ∧
          plan = .fetch ⟨.query query, (selection.bind.run {}).2.values⟩
            (selection.bind.run {}).1.name := by
  unfold planSelect
  constructor
  · intro h
    obtain ⟨selection, hselection, h⟩ := bind_eq_ok.1 h
    obtain ⟨query, hquery, h⟩ := bind_eq_ok.1 h
    obtain ⟨s', hquery⟩ := compiled_eq_ok.1 hquery
    exact ⟨selection, query, s', hselection, hquery, (pure_eq_ok.1 h).symm⟩
  · rintro ⟨selection, query, s', hselection, hquery, rfl⟩
    exact bind_eq_ok.2 ⟨selection, hselection,
      bind_eq_ok.2 ⟨query, compiled_eq_ok.2 ⟨s', hquery⟩, rfl⟩⟩

theorem planAggregate_eq_ok {function : Aggregate} {target : AggregateTarget}
    {filter : Option Filter} :
    planAggregate schema naming entity function target filter = .ok plan ↔ ∃ query s',
      Yields (compileAggregate schema naming entity function target
        ((Filter.bindOptional filter).run {}).1) {} query s' ∧
          plan = .fetch ⟨.query query, ((Filter.bindOptional filter).run {}).2.values⟩
            function.name := by
  unfold planAggregate
  constructor
  · intro h
    obtain ⟨query, hquery, h⟩ := bind_eq_ok.1 h
    obtain ⟨s', hquery⟩ := compiled_eq_ok.1 hquery
    exact ⟨query, s', hquery, (pure_eq_ok.1 h).symm⟩
  · rintro ⟨query, s', hquery, rfl⟩
    exact bind_eq_ok.2 ⟨query, compiled_eq_ok.2 ⟨s', hquery⟩, rfl⟩

theorem planInsert_eq_ok {data : List Record} :
    planInsert schema naming entity data = .ok plan ↔ data = [] ∧ plan = .skip ∨ data ≠ [] ∧
      ∃ records insert s', Yields (Record.bindAll schema entity data) {} records s' ∧
        compileInsert schema naming entity records = .ok insert ∧
          plan = .count ⟨.insert insert, s'.values⟩ := by
  unfold planInsert
  cases data with
  | nil =>
    constructor
    · intro h
      exact .inl ⟨rfl, (Except.ok.inj h).symm⟩
    · rintro (⟨-, rfl⟩ | ⟨hne, -⟩)
      · rfl
      · exact absurd rfl hne
  | cons record rest =>
    unfold Yields
    generalize (Record.bindAll schema entity (record :: rest)).run.run {} = run
    obtain ⟨result, s'⟩ := run
    constructor
    · intro h
      obtain ⟨records, hrecords, h⟩ := bind_eq_ok.1 h
      obtain ⟨insert, hinsert, h⟩ := bind_eq_ok.1 h
      exact .inr ⟨List.cons_ne_nil _ _, records, insert, s', Prod.ext hrecords rfl, hinsert,
        (pure_eq_ok.1 h).symm⟩
    · rintro (⟨hnil, -⟩ | ⟨-, records, insert, _, hrun, hinsert, rfl⟩)
      · cases hnil
      · cases hrun
        exact bind_eq_ok.2 ⟨records, rfl, bind_eq_ok.2 ⟨insert, hinsert, rfl⟩⟩

theorem planUpdate_eq_ok {data : Record} {filter : Option Filter} :
    planUpdate schema naming entity data filter = .ok plan ↔ ∃ record update s',
      Yields (Record.bind schema entity data) {} record s' ∧
        compileUpdate schema naming entity record ((Filter.bindOptional filter).run s').1 =
          .ok update ∧
          plan = .count ⟨.update update, ((Filter.bindOptional filter).run s').2.values⟩ := by
  unfold planUpdate Yields
  generalize (Record.bind schema entity data).run.run {} = run
  obtain ⟨result, s'⟩ := run
  constructor
  · intro h
    obtain ⟨record, hrecord, h⟩ := bind_eq_ok.1 h
    obtain ⟨update, hupdate, h⟩ := bind_eq_ok.1 h
    exact ⟨record, update, s', Prod.ext hrecord rfl, hupdate, (pure_eq_ok.1 h).symm⟩
  · rintro ⟨record, update, _, hrun, hupdate, rfl⟩
    cases hrun
    exact bind_eq_ok.2 ⟨record, rfl, bind_eq_ok.2 ⟨update, hupdate, rfl⟩⟩

theorem planDelete_eq_ok {filter : Option Filter} :
    planDelete schema naming entity filter = .ok plan ↔ ∃ delete,
      compileDelete schema naming entity ((Filter.bindOptional filter).run {}).1 = .ok delete ∧
        plan = .count ⟨.delete delete, ((Filter.bindOptional filter).run {}).2.values⟩ := by
  unfold planDelete
  constructor
  · intro h
    obtain ⟨delete, hdelete, h⟩ := bind_eq_ok.1 h
    exact ⟨delete, hdelete, (pure_eq_ok.1 h).symm⟩
  · rintro ⟨delete, hdelete, rfl⟩
    exact bind_eq_ok.2 ⟨delete, hdelete, rfl⟩

end Operation

end EntitySql
