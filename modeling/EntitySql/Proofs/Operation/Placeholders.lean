import EntitySql.Proofs.Operation.Plan
import EntitySql.Proofs.Read.Arguments
import EntitySql.Proofs.Relational.Stored
import Mathlib.Data.List.Perm.Subperm

/-!
# Placeholders in plans

The placeholders of a planned statement are the numbers of its parameters, each once. Values are
bound in one walk over a request and placeholders are compiled in another one; the two meet in the
placeholders of the bound request.

* `Operation.placeholders` are the placeholders that an operation has before it is planned. Those that
  it keeps (`Operation.kept`) stay as they are. Operations that are read from JSON have none.
* `Operation.placeholders_plan` lists those of the statement.
-/

namespace EntitySql

set_option autoImplicit false

mutual

def ReadRequest.placeholders : ReadRequest → List Nat
  | { items, args, .. } => Filter.placeholdersOf args.filter ++ ReadItem.placeholdersAll items
termination_by structural request => request

def ReadItem.placeholdersAll : List ReadItem → List Nat
  | [] => []
  | item :: rest => item.placeholders ++ ReadItem.placeholdersAll rest
termination_by structural items => items

def ReadItem.placeholders : ReadItem → List Nat
  | .bare _ => []
  | .node request => request.placeholders
termination_by structural item => item

end

def Operation.placeholders : Operation → List Nat
  | .select _ request _ => request.placeholders
  | .aggregate _ _ _ filter => Filter.placeholdersOf filter
  | .insert .. | .insertMany .. => []
  | .update _ _ filter => Filter.placeholdersOf filter
  | .delete _ filter => Filter.placeholdersOf filter

/-! ## Checking reads -/

/-- Arguments whose filter has no placeholders. -/
def ReadArgs.Fresh (args : ReadArgs) : Prop :=
  Filter.placeholdersOf args.filter = []

mutual

theorem ReadRequest.placeholders_eq_nil :
    (request : ReadRequest) → (request.placeholders = [] ↔ request.Each ReadArgs.Fresh)
  | { name, items, args } => by
    rw [ReadRequest.placeholders, List.append_eq_nil_iff, ReadItem.placeholdersAll_eq_nil items,
      ReadRequest.Each, ReadArgs.Fresh]

theorem ReadItem.placeholdersAll_eq_nil :
    (items : List ReadItem) →
      (ReadItem.placeholdersAll items = [] ↔ ReadItem.EachAll ReadArgs.Fresh items)
  | [] => by simp [ReadItem.placeholdersAll, ReadItem.EachAll]
  | item :: rest => by
    rw [ReadItem.placeholdersAll, List.append_eq_nil_iff, ReadItem.placeholders_eq_nil item,
      ReadItem.placeholdersAll_eq_nil rest, ReadItem.EachAll]

theorem ReadItem.placeholders_eq_nil :
    (item : ReadItem) → (item.placeholders = [] ↔ item.Each ReadArgs.Fresh)
  | .bare name => by simp [ReadItem.placeholders, ReadItem.Each]
  | .node request => by
    rw [ReadItem.placeholders, ReadRequest.placeholders_eq_nil request, ReadItem.Each]

end

namespace Selection

theorem placeholdersAll_concat (children : List Selection) (child : Selection) :
    placeholdersAll (children ++ [child]) = placeholdersAll children ++ child.placeholders := by
  induction children with
  | nil => simp [placeholdersAll]
  | cons first rest ih => rw [List.cons_append, placeholdersAll, placeholdersAll, ih, List.append_assoc]

theorem placeholders_withManyToOne (selection child : Selection) :
    (selection.withManyToOne child).placeholders.Perm (selection.placeholders ++ child.placeholders) := by
  obtain ⟨name, fields, args, manyToOne, oneToMany⟩ := selection
  rw [withManyToOne, placeholders, placeholders, placeholdersAll_concat, List.append_assoc,
    List.append_assoc, List.append_assoc]
  exact (List.perm_append_comm.append_left _).append_left _

theorem placeholders_withOneToMany (selection child : Selection) :
    (selection.withOneToMany child).placeholders = selection.placeholders ++ child.placeholders := by
  obtain ⟨name, fields, args, manyToOne, oneToMany⟩ := selection
  rw [withOneToMany, placeholders, placeholders, placeholdersAll_concat, List.append_assoc,
    List.append_assoc]

/-- One more member that is checked, before those that remain. -/
theorem subperm_step {selection next before : Selection} {item rest : List Nat}
    (h : selection.placeholders.Subperm (next.placeholders ++ rest))
    (hnext : next.placeholders.Subperm (before.placeholders ++ item)) :
    selection.placeholders.Subperm (before.placeholders ++ (item ++ rest)) := by
  rw [← List.append_assoc]
  exact h.trans (hnext.append (.refl rest))

mutual

/-- A request is checked into a read that has placeholders of the request only. Arguments of a field
are dropped. -/
theorem subperm_ofRequest {schema : Schema} : (request : ReadRequest) →
    ∀ {entity : String} {selection : Selection}, ofRequest schema entity request = .ok selection →
      selection.placeholders.Subperm request.placeholders
  | { name, items, args }, entity, selection, h => by
    rw [ofRequest] at h
    have hadded := subperm_addItems items h
    rwa [placeholders, placeholdersAll, List.append_nil, List.append_nil] at hadded

theorem subperm_addItems {schema : Schema} : (items : List ReadItem) →
    ∀ {entity : String} {before selection : Selection},
      addItems schema entity before items = .ok selection →
      selection.placeholders.Subperm (before.placeholders ++ ReadItem.placeholdersAll items)
  | [], entity, before, selection, h => by
    obtain rfl := Except.ok.inj h
    exact (List.sublist_append_left ..).subperm
  | .bare name :: rest, entity, before, selection, h => by
    rw [addItems] at h
    rw [ReadItem.placeholdersAll, ReadItem.placeholders]
    obtain ⟨member, -, h⟩ := bind_eq_ok.1 h
    split at h
    · refine subperm_step (subperm_addItems rest h) ?_
      cases before
      exact (List.sublist_append_left ..).subperm
    · refine subperm_step (subperm_addItems rest h) ?_
      exact (placeholders_withManyToOne before _).subperm
    · refine subperm_step (subperm_addItems rest h) ?_
      rw [placeholders_withOneToMany]
      exact .refl _
    · exact absurd h throw_ne_ok
  | .node request :: rest, entity, before, selection, h => by
    rw [addItems] at h
    rw [ReadItem.placeholdersAll, ReadItem.placeholders]
    obtain ⟨member, -, h⟩ := bind_eq_ok.1 h
    split at h
    · refine subperm_step (subperm_addItems rest h) ?_
      cases before
      exact (List.sublist_append_left ..).subperm
    · obtain ⟨child, hchild, h⟩ := bind_eq_ok.1 h
      refine subperm_step (subperm_addItems rest h) ?_
      have hsub := subperm_ofRequest request hchild
      exact (placeholders_withManyToOne before child).subperm.trans (.append (.refl _) hsub)
    · obtain ⟨child, hchild, h⟩ := bind_eq_ok.1 h
      refine subperm_step (subperm_addItems rest h) ?_
      rw [placeholders_withOneToMany]
      exact .append (.refl _) (subperm_ofRequest request hchild)
    · exact absurd h throw_ne_ok

end

end Selection

/-! ## Plans -/

namespace Operation

variable {schema : Schema} {naming : Naming} {entity : String} {plan : OperationPlan}
  {bound : BoundStatement}

theorem placeholders_compileTouched {filter : Option Filter} {condition : Condition}
    (h : compileTouched schema naming entity filter = .ok condition) :
    condition.placeholders = Filter.placeholdersOf filter := by
  obtain ⟨s', hcondition⟩ := compileTouched_eq_ok.1 h
  rw [Filter.placeholders_compileOn hcondition]
  cases filter with
  | none => rfl
  | some filter => rfl

/-- The placeholders of its filters that an operation keeps. Arguments of fields are dropped when a read
is checked, and their filters with them. -/
def kept (schema : Schema) : Operation → List Nat
  | .select entity request _ =>
    match Selection.ofRequest schema entity request with
    | .ok selection => selection.placeholders
    | .error _ => []
  | operation => operation.placeholders

theorem kept_subperm (schema : Schema) (operation : Operation) :
    (operation.kept schema).Subperm operation.placeholders := by
  cases operation with
  | select entity request one =>
    rw [kept, placeholders]
    split
    · next hselection => exact Selection.subperm_ofRequest request hselection
    · exact List.nil_subperm
  | _ => exact .refl _

theorem placeholders_planSelect {request : ReadRequest} {one : Bool}
    (h : planSelect schema naming entity request one = .ok plan) (hbound : plan.bound? = some bound) :
    Interleaves (List.range' 1 bound.params.length) (kept schema (.select entity request one))
      bound.statement.placeholders := by
  obtain ⟨selection, query, s', hselection, hquery, rfl⟩ := planSelect_eq_ok.1 h
  obtain rfl := Option.some.inj hbound
  obtain ⟨added, hvalues, hnumbers⟩ := Selection.numbers_bind selection {}
  have hplaceholders : query.placeholders = (selection.bind.run {}).1.placeholders := by
    cases one with
    | true => exact Selection.placeholders_compileOne hquery
    | false => exact Selection.placeholders_compile hquery
  rw [kept, hselection]
  show Interleaves (List.range' 1 (selection.bind.run {}).2.values.length) _ query.placeholders
  rw [hplaceholders, hvalues]
  exact hnumbers

theorem placeholders_planAggregate {function : Aggregate} {target : AggregateTarget}
    {filter : Option Filter} (h : planAggregate schema naming entity function target filter = .ok plan)
    (hbound : plan.bound? = some bound) :
    Interleaves (List.range' 1 bound.params.length) (Filter.placeholdersOf filter)
      bound.statement.placeholders := by
  obtain ⟨query, s', hquery, rfl⟩ := planAggregate_eq_ok.1 h
  obtain rfl := Option.some.inj hbound
  obtain ⟨added, hvalues, hnumbers⟩ := Filter.numbers_bindOptional filter {}
  show Interleaves (List.range' 1 ((Filter.bindOptional filter).run {}).2.values.length) _
    query.placeholders
  rw [placeholders_compileAggregate hquery, hvalues]
  exact hnumbers

theorem placeholders_planInsert {data : List Record}
    (h : planInsert schema naming entity data = .ok plan) (hbound : plan.bound? = some bound) :
    bound.statement.placeholders = List.range' 1 bound.params.length := by
  rcases planInsert_eq_ok.1 h with ⟨-, rfl⟩ | ⟨-, records, insert, s', hrecords, hinsert, rfl⟩
  · cases hbound
  · obtain rfl := Option.some.inj hbound
    obtain ⟨columns, rows, table, hrows, -, hchecked⟩ := compileInsert_eq_ok.1 hinsert
    obtain rfl := Insert.checked_eq_ok hchecked
    obtain ⟨hlength, hnumbered⟩ := Record.insertRows_bindAll hrecords hrows
    have hkeys : (data.map (·.map Prod.fst)).flatten.length = data.flatten.length := by
      rw [← List.map_flatten, List.length_map]
    have hbefore : ({} : Bindings).values.length = 0 := rfl
    show rows.flatMap Expr.placeholdersAll = List.range' 1 s'.values.length
    rw [Record.placeholders_insertRows hnumbered, hlength, hkeys, hbefore, Nat.zero_add,
      Nat.zero_add]

theorem placeholders_planUpdate {data : Record} {filter : Option Filter}
    (h : planUpdate schema naming entity data filter = .ok plan)
    (hbound : plan.bound? = some bound) :
    Interleaves (List.range' 1 bound.params.length) (Filter.placeholdersOf filter)
      bound.statement.placeholders := by
  obtain ⟨record, update, s', hrecord, hupdate, rfl⟩ := planUpdate_eq_ok.1 h
  obtain rfl := Option.some.inj hbound
  obtain ⟨pairs, condition, table, hpairs, hcondition, -, hchecked⟩ := compileUpdate_eq_ok.1 hupdate
  obtain rfl := Update.checked_eq_ok hchecked
  obtain ⟨hlength, hnumbered⟩ := Record.assignments_bind hrecord hpairs
  obtain ⟨added, hvalues, hnumbers⟩ := Filter.numbers_bindOptional filter s'
  show Interleaves (List.range' 1 ((Filter.bindOptional filter).run s').2.values.length) _
    (Expr.placeholdersAll (pairs.map Prod.snd) ++ condition.placeholders)
  have hstart : (data.map Prod.fst).length = s'.values.length := by
    have hbefore : ({} : Bindings).values.length = 0 := rfl
    rw [List.length_map]
    omega
  have hfirst : s'.values.length + 1 = 1 + s'.values.length := Nat.add_comm _ _
  rw [placeholders_compileTouched hcondition, Record.placeholders_assignments hnumbered, hvalues,
    List.length_append, hstart, ← List.range'_append_1, ← hfirst]
  exact (Interleaves.all_left _).append hnumbers

theorem placeholders_planDelete {filter : Option Filter}
    (h : planDelete schema naming entity filter = .ok plan) (hbound : plan.bound? = some bound) :
    Interleaves (List.range' 1 bound.params.length) (Filter.placeholdersOf filter)
      bound.statement.placeholders := by
  obtain ⟨delete, hdelete, rfl⟩ := planDelete_eq_ok.1 h
  obtain rfl := Option.some.inj hbound
  obtain ⟨condition, table, hcondition, -, rfl⟩ := compileDelete_eq_ok.1 hdelete
  obtain ⟨added, hvalues, hnumbers⟩ := Filter.numbers_bindOptional filter {}
  show Interleaves (List.range' 1 ((Filter.bindOptional filter).run {}).2.values.length) _
    condition.placeholders
  rw [placeholders_compileTouched hcondition, hvalues]
  exact hnumbers

/-- The placeholders of a planned statement are the numbers of its parameters, each once and in order,
among the placeholders that the operation has already and keeps. An operation that is read from JSON
has none: see `Operation.placeholders_ofJson?`. -/
theorem placeholders_plan {operation : Operation} (h : operation.plan schema naming = .ok plan)
    (hbound : plan.bound? = some bound) :
    Interleaves (List.range' 1 bound.params.length) (operation.kept schema)
        bound.statement.placeholders ∧
      (operation.kept schema).Subperm operation.placeholders ∧
      (operation.placeholders = [] →
        bound.statement.placeholders = List.range' 1 bound.params.length) := by
  have hinterleaves : Interleaves (List.range' 1 bound.params.length) (operation.kept schema)
      bound.statement.placeholders := by
    cases operation with
    | select entity request one => exact placeholders_planSelect h hbound
    | aggregate entity function target filter => exact placeholders_planAggregate h hbound
    | insert entity data => exact placeholders_planInsert h hbound ▸ .all_left _
    | insertMany entity data => exact placeholders_planInsert h hbound ▸ .all_left _
    | update entity data filter => exact placeholders_planUpdate h hbound
    | delete entity filter => exact placeholders_planDelete h hbound
  have hkept := kept_subperm schema operation
  refine ⟨hinterleaves, hkept, fun hnone => ?_⟩
  rw [hnone] at hkept
  rw [List.subperm_nil.1 hkept] at hinterleaves
  exact hinterleaves.eq_left

end Operation

/-- Moves books of Austen's to Joyce. -/
def Library.moveToJoyce : Operation :=
  .update "Book" [("writer", .obj [("id", .int 2), ("fullName", .str "Joyce")]),
    ("title", .str "Ulysses")] (some {
      terms := [.nested "writer" {
        terms := [.predicates "fullName" [⟨.eq, .value (.str "Austen")⟩]] }]
      alternatives := [{ terms := [.predicates "id" [⟨.oneOf, .list [.int 7, .int 8]⟩]] },
        { terms := [.predicates "title" [⟨.isNull, .flag true⟩]] }] })

/-- Two values are set and three are compared with. -/
theorem Operation.placeholders_plan_moveToJoyce : ∃ plan bound,
    Library.moveToJoyce.plan Library.schema Library.naming = .ok plan ∧
      plan.bound? = some bound ∧ bound.statement.placeholders = [1, 2, 3, 4, 5] := by
  obtain ⟨plan, bound, hplan, hbound, hlength⟩ : ∃ plan bound,
      Library.moveToJoyce.plan Library.schema Library.naming = .ok plan ∧
        plan.bound? = some bound ∧ bound.params.length = 5 := ⟨_, _, rfl, rfl, rfl⟩
  refine ⟨plan, bound, hplan, hbound, ?_⟩
  obtain ⟨-, -, hfresh⟩ := Operation.placeholders_plan hplan hbound
  rw [hfresh rfl, hlength]
  rfl

/-- Deletes the book that a placeholder stands for. -/
def Library.deleteSeventh : Operation :=
  .delete "Book" (some { terms := [.predicates "id" [⟨.eq, .param 7⟩]] })

/-- The placeholder stays, although no value is bound. -/
theorem Operation.not_numbered_deleteSeventh : ∃ plan bound,
    Library.deleteSeventh.plan Library.schema Library.naming = .ok plan ∧
      plan.bound? = some bound ∧ bound.params = [] ∧ bound.statement.placeholders = [7] ∧
      ¬ bound.statement.placeholders.Perm (List.range' 1 bound.params.length) :=
  ⟨_, _, rfl, rfl, rfl, rfl, by decide⟩

end EntitySql
