import EntitySql.Proofs.Naming.Exact
import EntitySql.Proofs.Operation.Sites
import EntitySql.Proofs.Session.Transaction

/-!
# Operations on undeclared entities

An operation on an entity that is not declared is refused before anything is called, unless there is
nothing to do. Which fault is reported depends on what is looked up first: a member of the entity, in
the schema, or its table, among the names.

* `Operation.namesMember` says that a member is looked up before the table is.
* `Session.Refuses` is an operation that fails to be planned, by itself and in a transaction.
* `Session.refuses_undeclared`: the fault is one of name resolution if the operation names a member, and
  a missing table otherwise.
-/

namespace EntitySql

set_option autoImplicit false

/-! ## What is looked up first -/

/-- The key walks through a relation. -/
def SortKey.isNested (key : SortKey) : Bool :=
  1 < key.path.length

/-- The operation names a member of its entity, to be looked up before the table is: something to read
or to sort by in a relation, or a key of a record. -/
def Operation.namesMember : Operation → Bool
  | .select _ request _ => !request.items.isEmpty || request.args.sortKeys.any SortKey.isNested
  | .aggregate .. | .delete .. => false
  | .insert _ data => !data.isEmpty
  | .insertMany _ data => data.any fun record => !record.isEmpty
  | .update _ data _ => !data.isEmpty

/-- A fault that a member name met, or else that the table has no name. -/
def Fault.IsUndeclared (fault : Fault) (entity : String) (namesMember : Bool) : Prop :=
  if namesMember then fault.kind = .nameResolution else fault = .naming (.table entity)

/-- Neither the schema nor the naming has the entity. -/
structure Lacks (schema : Schema) (naming : Naming) (entity : String) : Prop where
  schema : schema.entity? entity = none
  table : naming.table entity = .error (.naming (.table entity))

variable {schema : Schema} {naming : Naming} {entity : String}

/-! ## Records -/

namespace Record

theorem run_bind_nil (s : Bindings) : (Record.bind schema entity []).run.run s = (.ok [], s) := by
  rw [Record.bind]
  rfl

/-- A record binds its first key first, which has to be resolved. -/
theorem run_bind_undeclared (h : schema.entity? entity = none) {record : Record}
    (hrecord : record ≠ []) (s : Bindings) :
    (Record.bind schema entity record).run.run s = (.error (.name (.entity entity)), s) := by
  obtain ⟨⟨name, value⟩, rest, rfl⟩ := List.exists_cons_of_ne_nil hrecord
  rw [Record.bind, Schema.resolve_undeclared h]
  rfl

/-- Records are bound in order: those without keys to themselves, the first one with keys to nothing. -/
theorem run_bindAll_undeclared (h : schema.entity? entity = none) (data : List Record)
    (s : Bindings) :
    (bindAll schema entity data).run.run s =
      (if data.any (!·.isEmpty) then .error (.name (.entity entity)) else .ok (data.map fun _ => []),
        s) := by
  induction data with
  | nil => rfl
  | cons record rest ih =>
    rw [bindAll, EntitySql.run_bind]
    cases record with
    | cons entry later =>
      rw [run_bind_undeclared h (List.cons_ne_nil entry later)]
      rfl
    | nil =>
      simp only [run_bind_nil, EntitySql.run_bind, ih, List.any_cons, List.isEmpty_nil,
        Bool.not_true, Bool.false_or]
      cases rest.any (!·.isEmpty) <;> rfl

end Record

/-- Records without keys set no columns. -/
theorem insertRows_empty (data : List Record) {before : Option (List String)}
    (hbefore : before.getD [] = []) :
    insertRows schema naming entity before (data.map fun _ => []) =
      .ok ([], data.map fun _ => []) := by
  induction data generalizing before with
  | nil => rw [List.map_nil, insertRows, hbefore, List.map_nil]
  | cons first rest ih =>
    refine Record.insertRows_cons_eq_ok.2 ⟨[], [], _, rfl, fun expected hmem => ?_, ih rfl, rfl⟩
    obtain rfl := Option.mem_def.1 hmem
    exact hbefore

/-! ## Reads -/

/-- A sort key that walks through a relation starts at a many-to-one, of which there is none. -/
theorem SortStep.ofKeys_undeclared (h : schema.entity? entity = none) (keys : List SortKey) :
    if keys.any SortKey.isNested then
      ∃ path relation, ofKeys schema entity keys = .error (.name (.sortPath entity path relation))
    else ofKeys schema entity keys = .ok [] := by
  induction keys with
  | nil => rfl
  | cons key rest ih =>
    have hnone : ∀ relation, schema.manyToOne? entity relation = none := by
      intro relation
      rw [Schema.manyToOne?, h]
      rfl
    obtain ⟨path, label, direction⟩ := key
    rcases path with _ | ⟨relation, _ | ⟨name, later⟩⟩
    · exact ih
    · exact ih
    · refine ⟨relation :: name :: later, relation, ?_⟩
      simp only [ofKeys, ofKey?, hnone]
      rfl

/-- A read names the first of its items in the schema. -/
theorem Selection.ofRequest_undeclared (h : schema.entity? entity = none) {request : ReadRequest}
    (hitems : request.items ≠ []) :
    ofRequest schema entity request = .error (.name (.entity entity)) := by
  obtain ⟨name, items, args⟩ := request
  obtain ⟨item, rest, rfl⟩ := List.exists_cons_of_ne_nil hitems
  rw [ofRequest]
  cases item with
  | bare member =>
    rw [addItems, Schema.resolve_undeclared h]
    rfl
  | node child =>
    rw [addItems, Schema.resolve_undeclared h]
    rfl

/-- A node needs its table before its joins and its filter are compiled. -/
theorem ReadPlan.run_compile_unnamed {head : ReadHead} {fault : Fault}
    (h : naming.table head.entity = .error fault) (joins lists : List JoinPlan)
    (correlation : Option Correlation) (isList : Bool) (s : Aliases) :
    (compile schema naming correlation isList (.node head joins lists)).run.run s =
      (.error fault, (Aliases.next "root.base" s).2) := by
  rw [compile, h]
  rfl

/-- Whatever a checked read asks for, it fails for its sort keys or for the table. -/
theorem Selection.run_compile_undeclared (h : Lacks schema naming entity) (selection : Selection)
    (one : Bool) (s : Aliases) : ∃ fault s',
      (if one then selection.compileOne schema naming entity
        else selection.compile schema naming entity).run.run s = (.error fault, s') ∧
        fault.IsUndeclared entity (selection.args.sortKeys.any SortKey.isNested) := by
  have hnode : ∀ isList, ∃ fault s',
      ((ReadPlan.ofSelection schema entity [] selection).compile schema naming none isList).run.run s =
        (.error fault, s') ∧
        fault.IsUndeclared entity (selection.args.sortKeys.any SortKey.isNested) := by
    intro isList
    obtain ⟨name, fields, args, manyToOne, oneToMany⟩ := selection
    have hsteps := SortStep.ofKeys_undeclared h.schema args.sortKeys
    rw [ReadPlan.ofSelection, List.nil_append]
    cases hnested : args.sortKeys.any SortKey.isNested with
    | true =>
      rw [if_pos hnested] at hsteps
      obtain ⟨path, relation, hsteps⟩ := hsteps
      rw [hsteps]
      exact ⟨_, s, rfl, rfl⟩
    | false =>
      rw [if_neg (hnested ▸ Bool.false_ne_true)] at hsteps
      rw [hsteps]
      exact ⟨_, _, ReadPlan.run_compile_unnamed h.table _ _ none isList s, rfl⟩
  cases one with
  | true =>
    obtain ⟨fault, s', hfault, hkind⟩ := hnode false
    refine ⟨fault, s', ?_, hkind⟩
    rw [if_pos rfl, compileOne, run_bind, hfault]
  | false => exact hnode true

/-! ## Operations -/

theorem compileTouched_unnamed {fault : Fault} (h : naming.table entity = .error fault)
    (filter : Option Filter) : compileTouched schema naming entity filter = .error fault := by
  rw [compileTouched, Filter.compileOn, h]
  rfl

namespace Operation

theorem planSelect_undeclared (h : Lacks schema naming entity) (request : ReadRequest) (one : Bool) :
    ∃ fault, planSelect schema naming entity request one = .error fault ∧
      fault.IsUndeclared entity (namesMember (.select entity request one)) := by
  obtain ⟨name, items, args⟩ := request
  cases items with
  | cons item rest =>
    refine ⟨.name (.entity entity), ?_, rfl⟩
    rw [planSelect, Selection.ofRequest_undeclared h.schema (List.cons_ne_nil item rest)]
    rfl
  | nil =>
    -- binding keeps the sort keys
    let bound := (Filter.bindOptional args.filter).run {}
    let selection : Selection :=
      { name := if name = "" then entity else name, args := { args with filter := bound.1 } }
    have hplan : planSelect schema naming entity { name, args } one =
        (compiled (if one then selection.compileOne schema naming entity
          else selection.compile schema naming entity) >>= fun query =>
            return .fetch ⟨.query query, bound.2.values⟩ selection.name) := by
      rw [planSelect, Selection.ofRequest, Selection.addItems]
      rfl
    obtain ⟨fault, s', hfault, hkind⟩ := Selection.run_compile_undeclared h selection one {}
    refine ⟨fault, ?_, hkind⟩
    rw [hplan, compiled, hfault]
    rfl

theorem planInsert_undeclared (h : Lacks schema naming entity) {data : List Record}
    (hdata : data ≠ []) : ∃ fault, planInsert schema naming entity data = .error fault ∧
      fault.IsUndeclared entity (data.any (!·.isEmpty)) := by
  rw [planInsert, if_neg (by rwa [List.isEmpty_iff]), Record.run_bindAll_undeclared h.schema data]
  cases data.any (!·.isEmpty) with
  | true => exact ⟨_, rfl, rfl⟩
  | false =>
    -- records without keys are bound and set no columns, so that only the table is missing
    have hrows : insertRows schema naming entity none (data.map fun _ => []) =
        .ok ([], data.map fun _ => []) := insertRows_empty data rfl
    refine ⟨.naming (.table entity), ?_, rfl⟩
    change compileInsert schema naming entity (data.map fun _ => []) >>= _ = _
    rw [compileInsert, hrows]
    change (naming.table entity >>= _) >>= _ = _
    rw [h.table]
    rfl

theorem planUpdate_undeclared (h : Lacks schema naming entity) (data : Record)
    (filter : Option Filter) : ∃ fault, planUpdate schema naming entity data filter = .error fault ∧
      fault.IsUndeclared entity (namesMember (.update entity data filter)) := by
  cases data with
  | cons entry rest =>
    refine ⟨.name (.entity entity), ?_, rfl⟩
    rw [planUpdate, Record.run_bind_undeclared h.schema (List.cons_ne_nil entry rest)]
    rfl
  | nil =>
    refine ⟨.naming (.table entity), ?_, rfl⟩
    rw [planUpdate, Record.run_bind_nil]
    change compileUpdate schema naming entity [] _ >>= _ = _
    rw [compileUpdate, compileTouched_unnamed h.table]
    rfl

/-- Whatever an operation on an undeclared entity asks for, it cannot be planned. -/
theorem plan_undeclared {operation : Operation} (h : Lacks schema naming operation.entity)
    (hvoid : operation.isVoid = false) : ∃ fault, operation.plan schema naming = .error fault ∧
      fault.IsUndeclared operation.entity operation.namesMember := by
  cases operation with
  | select entity request one => exact planSelect_undeclared h request one
  | aggregate entity function target filter =>
    refine ⟨.naming (.table entity), ?_, rfl⟩
    rw [plan, planAggregate]
    change compiled (compileAggregate schema naming entity function target _) >>= _ = _
    rw [compileAggregate, show naming.table entity = _ from h.table]
    rfl
  | insert entity data =>
    obtain ⟨fault, hfault, hkind⟩ := planInsert_undeclared h (List.cons_ne_nil data [])
    rw [List.any_cons, List.any_nil, Bool.or_false] at hkind
    exact ⟨fault, hfault, hkind⟩
  | insertMany entity data =>
    have hdata : data ≠ [] := by
      rintro rfl
      cases hvoid
    exact planInsert_undeclared h hdata
  | update entity data filter => exact planUpdate_undeclared h data filter
  | delete entity filter =>
    refine ⟨.naming (.table entity), ?_, rfl⟩
    rw [plan, planDelete]
    generalize (Filter.bindOptional filter).run {} = bound
    change compileDelete schema naming entity bound.1 >>= _ = _
    have htouched : compileTouched schema naming entity bound.1 = .error (.naming (.table entity)) :=
      compileTouched_unnamed h.table bound.1
    rw [compileDelete, htouched]
    rfl

end Operation

/-! ## Sessions -/

namespace Session

/-- The operation is not planned, and nothing is called for it, nor for any operation that shares a
transaction with it. -/
structure Refuses (session : Session) (operation : Operation) (fault : Fault) : Prop where
  plan : session.plan operation = .error fault
  run : ∀ {σ : Type} (database : Database σ) (s : σ),
    (session.run database.recorded operation).run.run (s, []) = (.error (.fault fault), (s, []))
  transaction : ∀ {σ : Type} (database : Database σ) (s : σ) (operations : List Operation),
    operation ∈ operations → ∃ first,
      (session.transaction database.recorded operations).run.run (s, []) =
        (.error (.fault first), (s, []))

variable {session : Session} {operation : Operation} {fault : Fault}

theorem refuses_of_plan (h : session.plan operation = .error fault) :
    session.Refuses operation fault where
  plan := h
  run database s := by
    rw [Session.run, h]
    rfl
  transaction database s operations hmem := by
    cases hplans : Operation.planAll session.schema session.naming operations with
    | error first =>
      refine ⟨first, ?_⟩
      rw [Session.transaction, hplans]
      rfl
    | ok plans =>
      obtain ⟨plan, -, hplan⟩ := exists_of_mem_left (mapM_eq_ok.1 hplans) hmem
      cases h.symm.trans hplan

/-- A session has the schema of its entities and the names of that schema. -/
theorem checked_of_prepare {entities : List Entity} {config : Config}
    (h : prepare entities config = .ok session) :
    Schema.ofEntities entities = .ok session.schema ∧
      Naming.ofSchema config.overrides session.schema = .ok session.naming := by
  obtain ⟨schema, hschema, h⟩ := bind_eq_ok.1 h
  obtain ⟨naming, hnaming, h⟩ := bind_eq_ok.1 h
  obtain rfl := pure_eq_ok.1 h
  exact ⟨hschema, hnaming⟩

/-- What is not declared has no names in a session. -/
theorem lacks_of_prepare {entities : List Entity} {config : Config}
    (h : prepare entities config = .ok session) (hentity : ∀ owner ∈ entities, owner.name ≠ entity) :
    Lacks session.schema session.naming entity := by
  obtain ⟨hschema, hnaming⟩ := checked_of_prepare h
  obtain ⟨heq, hwellFormed⟩ := Schema.ofEntities_eq_ok.1 hschema
  obtain ⟨other, hother, hexact⟩ := Naming.exact_of_wellFormed config.overrides hwellFormed
  obtain rfl := Except.ok.inj (hother.symm.trans hnaming)
  rw [heq] at hexact ⊢
  refine ⟨List.find?_eq_none.2 fun owner howner => ?_, (hexact.noEntity entity hentity).1⟩
  rw [decide_eq_true_eq]
  exact hentity owner howner

/-- Every operation on an undeclared entity is refused, if there is anything to do. The fault is one of
name resolution only if the operation names a member; otherwise a table is missing. -/
theorem refuses_undeclared {entities : List Entity} {config : Config}
    (h : prepare entities config = .ok session)
    (hentity : ∀ owner ∈ entities, owner.name ≠ operation.entity)
    (hvoid : operation.isVoid = false) : ∃ fault, session.Refuses operation fault ∧
      if operation.namesMember then fault.kind = .nameResolution
      else fault = .naming (.table operation.entity) := by
  obtain ⟨fault, hplan, hkind⟩ := Operation.plan_undeclared (lacks_of_prepare h hentity) hvoid
  exact ⟨fault, refuses_of_plan hplan, hkind⟩

end Session

/-! ## The library -/

def Library.session : Session := ⟨Library.schema, Library.naming, {}⟩

theorem Library.prepare_entities : Session.prepare Library.entities {} = .ok Library.session :=
  bind_eq_ok.2 ⟨_, Library.ofEntities_entities, bind_eq_ok.2 ⟨_, Library.ofSchema_schema, rfl⟩⟩

def Library.publisherNames : Operation :=
  .select "Publisher" { items := [.bare "name"] } false

def Library.publisherCount : Operation :=
  .aggregate "Publisher" .count (.name "*") none

/-- Publishers are not declared. Their names are asked of the schema, and their number of the table. -/
theorem Session.refuses_undeclared_publisher :
    (∃ fault, Library.session.Refuses Library.publisherNames fault ∧
      fault.kind = .nameResolution) ∧
    Library.session.Refuses Library.publisherCount (.naming (.table "Publisher")) := by
  have hpublisher : ∀ owner ∈ Library.entities, owner.name ≠ "Publisher" := by decide
  have hnames : ∃ fault, Library.session.Refuses Library.publisherNames fault ∧
      fault.kind = .nameResolution :=
    Session.refuses_undeclared Library.prepare_entities hpublisher rfl
  have hcount : ∃ fault, Library.session.Refuses Library.publisherCount fault ∧
      fault = .naming (.table "Publisher") :=
    Session.refuses_undeclared Library.prepare_entities hpublisher rfl
  obtain ⟨_, hrefuses, rfl⟩ := hcount
  exact ⟨hnames, hrefuses⟩

/-- Deleting publishers fails for want of a table, not for the name of the entity. -/
theorem Session.plan_delete_publisher :
    Session.prepare Library.entities {} = .ok Library.session ∧
      (∀ owner ∈ Library.entities, owner.name ≠ "Publisher") ∧
      Library.session.plan (.delete "Publisher" none) = .error (.naming (.table "Publisher")) ∧
      (Fault.naming (.table "Publisher")).kind = .dictionary :=
  ⟨Library.prepare_entities, by decide, rfl, rfl⟩

end EntitySql
