import EntitySql.Proofs.Binding.Shape
import EntitySql.Proofs.Operation.Plan
import EntitySql.Proofs.Relational.Stored

/-!
# Texts of plans

Values never come into the text of a statement. They are bound before anything is compiled, and what
is compiled is a request of placeholders, which are the same for all requests of one shape.

* `Operation.Alike` relates operations that differ in their values only.
* `Operation.exists_plan_of_alike` plans the one like the other.
* `Operation.text_plan_of_alike` compares the texts.
-/

namespace EntitySql

set_option autoImplicit false

/-! ## Operations that differ in their values -/

/-- The records have the same keys in the same order. Under a many-to-one both are absent or have
the field that is referred to; other data may be anything. -/
structure Record.Alike (schema : Schema) (entity : String) (record other : Record) : Prop where
  keys : record.map Prod.fst = other.map Prod.fst
  left : Refers schema entity record
  right : Refers schema entity other

/-- The operations are of one kind and on one entity, with records alike and filters of one
shape. -/
inductive Operation.Alike (schema : Schema) : Operation → Operation → Prop where
  | select {entity : String} {request other : ReadRequest} {one : Bool}
      (hrequest : request.shape = other.shape) :
      Alike schema (.select entity request one) (.select entity other one)
  | aggregate {entity : String} {function : Aggregate} {target : AggregateTarget}
      {filter other : Option Filter} (hfilter : filter.map Filter.shape = other.map Filter.shape) :
      Alike schema (.aggregate entity function target filter)
        (.aggregate entity function target other)
  | insert {entity : String} {data other : Record} (hdata : data.Alike schema entity other) :
      Alike schema (.insert entity data) (.insert entity other)
  | insertMany {entity : String} {data other : List Record}
      (hdata : List.Forall₂ (Record.Alike schema entity) data other) :
      Alike schema (.insertMany entity data) (.insertMany entity other)
  | update {entity : String} {data other : Record} {filter second : Option Filter}
      (hdata : data.Alike schema entity other)
      (hfilter : filter.map Filter.shape = second.map Filter.shape) :
      Alike schema (.update entity data filter) (.update entity other second)
  | delete {entity : String} {filter other : Option Filter}
      (hfilter : filter.map Filter.shape = other.map Filter.shape) :
      Alike schema (.delete entity filter) (.delete entity other)

variable {schema : Schema} {naming : Naming} {entity : String}

theorem Record.Alike.symm {record other : Record} (h : record.Alike schema entity other) :
    other.Alike schema entity record :=
  ⟨h.keys.symm, h.right, h.left⟩

theorem Record.alike_all_symm {data other : List Record}
    (h : List.Forall₂ (Record.Alike schema entity) data other) :
    List.Forall₂ (Record.Alike schema entity) other data := by
  induction h with
  | nil => exact .nil
  | cons hrecord _ ih => exact .cons hrecord.symm ih

theorem Record.keys_of_alike_all {data other : List Record}
    (h : List.Forall₂ (Record.Alike schema entity) data other) :
    data.map (·.map Prod.fst) = other.map (·.map Prod.fst) := by
  induction h with
  | nil => rfl
  | cons hrecord _ ih => rw [List.map_cons, List.map_cons, hrecord.keys, ih]

theorem Operation.Alike.symm {operation other : Operation} (h : Alike schema operation other) :
    Alike schema other operation := by
  cases h with
  | select hrequest => exact .select hrequest.symm
  | aggregate hfilter => exact .aggregate hfilter.symm
  | insert hdata => exact .insert hdata.symm
  | insertMany hdata => exact .insertMany (Record.alike_all_symm hdata)
  | update hdata hfilter => exact .update hdata.symm hfilter.symm
  | delete hfilter => exact .delete hfilter.symm

/-! ## Plans but for their parameters -/

namespace OperationPlan

/-- The text of the statement of a plan, if there is anything to do. -/
def text? (plan : OperationPlan) : Option String :=
  plan.bound?.map (·.statement.text)

/-- A plan with other parameters. -/
def withParams (plan : OperationPlan) (params : List Json) : OperationPlan :=
  match plan with
  | .fetch bound column => .fetch { bound with params } column
  | .count bound => .count { bound with params }
  | .skip => .skip

@[simp]
theorem text?_withParams (plan : OperationPlan) (params : List Json) :
    (plan.withParams params).text? = plan.text? := by
  cases plan <;> rfl

end OperationPlan

/-! ## Planning -/

namespace Operation

variable {plan : OperationPlan}

theorem exists_planSelect_of_shape {request other : ReadRequest} {one : Bool}
    (hshape : request.shape = other.shape)
    (h : planSelect schema naming entity request one = .ok plan) :
    ∃ params, planSelect schema naming entity other one = .ok (plan.withParams params) := by
  obtain ⟨selection, query, s', hselection, hquery, rfl⟩ := planSelect_eq_ok.1 h
  obtain ⟨second, hsecond, hshapes⟩ := Selection.exists_ofRequest_of_shape hshape hselection
  have hbind : (selection.bind.run {}).1 = (second.bind.run {}).1 :=
    Selection.bind_eq_of_shape hshapes
  refine ⟨(second.bind.run {}).2.values, ?_⟩
  rw [hbind] at hquery ⊢
  exact planSelect_eq_ok.2 ⟨second, query, s', hsecond, hquery, rfl⟩

theorem exists_planAggregate_of_shape {function : Aggregate} {target : AggregateTarget}
    {filter other : Option Filter} (hshape : filter.map Filter.shape = other.map Filter.shape)
    (h : planAggregate schema naming entity function target filter = .ok plan) :
    ∃ params, planAggregate schema naming entity function target other =
      .ok (plan.withParams params) := by
  obtain ⟨query, s', hquery, rfl⟩ := planAggregate_eq_ok.1 h
  have hbind : ((Filter.bindOptional filter).run {}).1 = ((Filter.bindOptional other).run {}).1 :=
    Filter.bindOptional_eq_of_shape hshape rfl
  refine ⟨((Filter.bindOptional other).run {}).2.values, ?_⟩
  rw [hbind] at hquery
  exact planAggregate_eq_ok.2 ⟨query, s', hquery, rfl⟩

theorem exists_planInsert_of_alike {data other : List Record}
    (halike : List.Forall₂ (Record.Alike schema entity) data other)
    (h : planInsert schema naming entity data = .ok plan) :
    ∃ params, planInsert schema naming entity other = .ok (plan.withParams params) := by
  rcases planInsert_eq_ok.1 h with ⟨rfl, rfl⟩ | ⟨hne, records, insert, s', hrecords, hinsert, rfl⟩
  · cases halike
    exact ⟨[], rfl⟩
  · obtain ⟨columns, rows, table, hrows, htable, hchecked⟩ := compileInsert_eq_ok.1 hinsert
    obtain ⟨-, hnumbered⟩ := Record.insertRows_bindAll hrecords hrows
    have hrefers : ∀ record ∈ other, record.Refers schema entity := by
      intro record hmem
      obtain ⟨first, -, hrecord⟩ := exists_of_mem_right halike hmem
      exact hrecord.right
    -- The numbered records depend on the keys only.
    rw [Record.keys_of_alike_all halike] at hnumbered
    obtain ⟨written, s₁, hwritten, hsame⟩ := Record.exists_bindAll hrefers {} hnumbered
    refine ⟨s₁.values, planInsert_eq_ok.2 (.inr ⟨?_, written, insert, s₁, hwritten, ?_, rfl⟩)⟩
    · rintro rfl
      cases halike
      exact hne rfl
    · exact compileInsert_eq_ok.2 ⟨columns, rows, table, hsame, htable, hchecked⟩

theorem exists_planUpdate_of_alike {data other : Record} {filter second : Option Filter}
    (halike : data.Alike schema entity other)
    (hshape : filter.map Filter.shape = second.map Filter.shape)
    (h : planUpdate schema naming entity data filter = .ok plan) :
    ∃ params, planUpdate schema naming entity other second = .ok (plan.withParams params) := by
  obtain ⟨record, update, s', hrecord, hupdate, rfl⟩ := planUpdate_eq_ok.1 h
  obtain ⟨pairs, condition, table, hpairs, hcondition, htable, hchecked⟩ :=
    compileUpdate_eq_ok.1 hupdate
  obtain ⟨hlength, hnumbered⟩ := Record.assignments_bind hrecord hpairs
  rw [halike.keys] at hnumbered
  obtain ⟨written, s₁, hwritten, hsame⟩ := Record.exists_bind halike.right {} hnumbered
  obtain ⟨hlengths, -⟩ := Record.assignments_bind hwritten hsame
  have hcount : data.length = other.length := by
    have hkeys := congrArg List.length halike.keys
    rw [List.length_map, List.length_map] at hkeys
    exact hkeys
  have hbind : ((Filter.bindOptional filter).run s').1 = ((Filter.bindOptional second).run s₁).1 :=
    Filter.bindOptional_eq_of_shape hshape (by omega)
  rw [hbind] at hcondition
  refine ⟨((Filter.bindOptional second).run s₁).2.values,
    planUpdate_eq_ok.2 ⟨written, update, s₁, hwritten, ?_, rfl⟩⟩
  exact compileUpdate_eq_ok.2 ⟨pairs, condition, table, hsame, hcondition, htable, hchecked⟩

theorem exists_planDelete_of_shape {filter other : Option Filter}
    (hshape : filter.map Filter.shape = other.map Filter.shape)
    (h : planDelete schema naming entity filter = .ok plan) :
    ∃ params, planDelete schema naming entity other = .ok (plan.withParams params) := by
  obtain ⟨delete, hdelete, rfl⟩ := planDelete_eq_ok.1 h
  have hbind : ((Filter.bindOptional filter).run {}).1 = ((Filter.bindOptional other).run {}).1 :=
    Filter.bindOptional_eq_of_shape hshape rfl
  refine ⟨((Filter.bindOptional other).run {}).2.values, ?_⟩
  rw [hbind] at hdelete
  exact planDelete_eq_ok.2 ⟨delete, hdelete, rfl⟩

/-- What is planned for an operation is planned for those like it, up to the parameters. -/
theorem exists_plan_of_alike {operation other : Operation} (halike : Alike schema operation other)
    (h : operation.plan schema naming = .ok plan) :
    ∃ params, other.plan schema naming = .ok (plan.withParams params) := by
  cases halike with
  | select hrequest => exact exists_planSelect_of_shape hrequest h
  | aggregate hfilter => exact exists_planAggregate_of_shape hfilter h
  | insert hdata => exact exists_planInsert_of_alike (.cons hdata .nil) h
  | insertMany hdata => exact exists_planInsert_of_alike hdata h
  | update hdata hfilter => exact exists_planUpdate_of_alike hdata hfilter h
  | delete hfilter => exact exists_planDelete_of_shape hfilter h

/-- Of operations that differ in their values only, one can be planned exactly when the other can,
and their plans have the same text and differ in their parameters only. -/
theorem text_plan_of_alike {operation other : Operation} (halike : Alike schema operation other) :
    ((∃ plan, operation.plan schema naming = .ok plan) ↔
      ∃ plan, other.plan schema naming = .ok plan) ∧
    ∀ plan second, operation.plan schema naming = .ok plan →
      other.plan schema naming = .ok second →
        second.text? = plan.text? ∧ ∃ params, second = plan.withParams params := by
  refine ⟨⟨?_, ?_⟩, ?_⟩
  · rintro ⟨plan, hplan⟩
    obtain ⟨params, hother⟩ := exists_plan_of_alike halike hplan
    exact ⟨plan.withParams params, hother⟩
  · rintro ⟨plan, hplan⟩
    obtain ⟨params, hoperation⟩ := exists_plan_of_alike halike.symm hplan
    exact ⟨plan.withParams params, hoperation⟩
  · intro plan second hplan hsecond
    obtain ⟨params, hother⟩ := exists_plan_of_alike halike hplan
    obtain rfl : plan.withParams params = second := Except.ok.inj (hother.symm.trans hsecond)
    exact ⟨plan.text?_withParams params, params, rfl⟩

end Operation

/-- Gives the books of an author a title, and no or another author. -/
def Library.retitle (title author : String) (writer : Json) : Operation :=
  .update "Book" [("title", .str title), ("writer", writer)] (some {
    terms := [.nested "writer" {
      terms := [.predicates "fullName" [⟨.eq, .value (.str author)⟩]] }] })

theorem Library.refers_retitle {title : String} {writer : Json} (h : writer = .null ∨
    ∃ members key, writer = .obj members ∧ Assoc.get? "id" members = some key) :
    Record.Refers Library.schema "Book" [("title", .str title), ("writer", writer)] := by
  intro name value hmem relation hresolve
  rcases List.mem_cons.1 hmem with heq | hmem
  · cases heq
    obtain ⟨field, hfield⟩ : ∃ field,
        Library.schema.resolve "Book" "title" = .ok (some (.field field)) := ⟨_, rfl⟩
    rw [hfield] at hresolve
    cases hresolve
  · cases List.mem_singleton.1 hmem
    obtain ⟨link, hlink, htarget⟩ : ∃ link, Library.schema.resolve "Book" "writer" =
        .ok (some (.manyToOne link)) ∧ link.targetField = "id" := ⟨_, rfl, rfl⟩
    rw [hlink] at hresolve
    cases hresolve
    rw [htarget]
    exact h

/-- A title with a quote and an author that is no name leave the text as it is. -/
theorem Operation.text_plan_of_alike_retitle : ∃ plan second,
    (Library.retitle "Emma" "Austen" .null).plan Library.schema Library.naming = .ok plan ∧
      (Library.retitle "Ulysses'; --" "' OR TRUE" (.obj [("id", .int 2)])).plan Library.schema
        Library.naming = .ok second ∧ second.text? = plan.text? ∧ plan.text? ≠ none := by
  have halike : Operation.Alike Library.schema (Library.retitle "Emma" "Austen" .null)
      (Library.retitle "Ulysses'; --" "' OR TRUE" (.obj [("id", .int 2)])) :=
    .update ⟨rfl, Library.refers_retitle (.inl rfl), Library.refers_retitle (.inr ⟨_, _, rfl, rfl⟩)⟩
      rfl
  obtain ⟨plan, hplan, htext⟩ : ∃ plan,
      (Library.retitle "Emma" "Austen" .null).plan Library.schema Library.naming = .ok plan ∧
        plan.text?.isSome = true := ⟨_, rfl, rfl⟩
  obtain ⟨hplans, htexts⟩ := @Operation.text_plan_of_alike _ Library.naming _ _ halike
  obtain ⟨second, hsecond⟩ := hplans.1 ⟨plan, hplan⟩
  refine ⟨plan, second, hplan, hsecond, (htexts plan second hplan hsecond).1, ?_⟩
  exact Option.isSome_iff_ne_none.1 htext

end EntitySql
