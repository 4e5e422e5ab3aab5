import EntitySql.Proofs.Binding.Arrivals
import EntitySql.Proofs.Binding.Inline
import EntitySql.Proofs.Binding.Literals
import EntitySql.Proofs.Relational.Stored

/-!
# Sequences of binding calls

One statement may bind several filters, reads and records, one after the other.

* A `BindingCall` binds one of them; `BindingCall.runAll` makes calls in order.
* `Restores` says what a call gave back: with the bound values a filter or a read is the original again,
  and it has nothing left to bind; every entry of a record has the placeholder of its value.
* `Continues` says that calls number their values on from each other. `continues_runAll` says this of
  every sequence of calls, from any values bound before.
-/

namespace EntitySql

set_option autoImplicit false

/-- Something to bind. -/
inductive BindingCall where
  | filter (filter : Filter)
  | selection (selection : Selection)
  | record (entity : String) (record : Record)

/-- What was bound. -/
inductive BoundCall where
  | filter (filter : Filter)
  | selection (selection : Selection)
  | record (record : BoundRecord)

def BoundCall.placeholders : BoundCall → List Nat
  | .filter bound => bound.placeholders
  | .selection bound => bound.placeholders
  | .record bound => BoundRecord.placeholders bound

namespace BindingCall

def run (schema : Schema) : BindingCall → Binding (Result BoundCall)
  | .filter given => do return .ok (.filter (← given.bind))
  | .selection given => do return .ok (.selection (← given.bind))
  | .record entity given => do return (← (Record.bind schema entity given).run).map .record

/-- Makes the calls in order. One that fails does not keep later ones from being made. -/
def runAll (schema : Schema) : List BindingCall → Binding (List (Result BoundCall))
  | [] => return []
  | call :: rest => do
    let answer ← call.run schema
    return answer :: (← runAll schema rest)

/-- A filter or read that has its values, and no placeholders. Records never have any. -/
def Unbound : BindingCall → Prop
  | .filter given => ∀ operand ∈ given.operands, operand.IsLiteral
  | .selection given => ∀ operand ∈ given.operands, operand.IsLiteral
  | .record _ _ => True

/-- The values that a call binds. -/
def literals (schema : Schema) : BindingCall → List Json
  | .filter given => given.literals
  | .selection given => given.literals
  | .record entity given => Record.literals schema entity given

end BindingCall

/-- With the values of the statement, what was bound is what the call was made with. -/
inductive Restores (schema : Schema) (values : List Json) : BindingCall → BoundCall → Prop
  | filter {given bound : Filter} (inline : bound.inline values = given)
      (exhausted : bound.bind = pure bound) : Restores schema values (.filter given) (.filter bound)
  | selection {given bound : Selection} (inline : bound.inline values = given)
      (exhausted : bound.bind = pure bound) :
      Restores schema values (.selection given) (.selection bound)
  | record {entity : String} {given : Record} {bound : BoundRecord}
      (entries : List.Forall₂ (EntryBound schema entity values) given bound) :
      Restores schema values (.record entity given) (.record bound)

/-- After the values before, the calls had the answers, and the statement has the final values. Each call
that succeeds appends its values and numbers them on; a record that fails may have appended some. -/
inductive Continues (schema : Schema) (final : List Json) :
    List Json → List BindingCall → List (Result BoundCall) → Prop
  | nil : Continues schema final final [] []
  | ok {before : List Json} {call : BindingCall} {calls : List BindingCall} {bound : BoundCall}
      {answers : List (Result BoundCall)}
      (numbers : bound.placeholders =
        List.range' (before.length + 1) (call.literals schema).length)
      (restores : Restores schema final call bound)
      (rest : Continues schema final (before ++ call.literals schema) calls answers) :
      Continues schema final before (call :: calls) (.ok bound :: answers)
  | failed {before added : List Json} {entity : String} {record : Record}
      {calls : List BindingCall} {fault : Fault} {answers : List (Result BoundCall)}
      (rest : Continues schema final (before ++ added) calls answers) :
      Continues schema final before (.record entity record :: calls) (.error fault :: answers)

/-- The placeholders of all calls that succeeded. -/
def boundPlaceholders (answers : List (Result BoundCall)) : List Nat :=
  answers.flatMap fun
    | .ok bound => bound.placeholders
    | .error _ => []

variable {schema : Schema}

namespace Continues

variable {before final : List Json} {calls : List BindingCall} {answers : List (Result BoundCall)}

/-- Values bound before stay where they are. -/
theorem isPrefix (h : Continues schema final before calls answers) : before <+: final := by
  induction h with
  | nil => exact List.prefix_rfl
  | ok _ _ _ ih => exact (List.prefix_append ..).trans ih
  | failed _ ih => exact (List.prefix_append ..).trans ih

/-- The placeholders go up from call to call, and are those of values bound by the calls. -/
theorem increasing (h : Continues schema final before calls answers) :
    (boundPlaceholders answers).Pairwise (· < ·) ∧
      ∀ index ∈ boundPlaceholders answers, before.length < index ∧ index ≤ final.length := by
  induction h with
  | nil => exact ⟨.nil, List.forall_mem_nil _⟩
  | @ok before call calls bound answers numbers _ rest ih =>
    obtain ⟨hrest, hbounds⟩ := ih
    have hlength := rest.isPrefix.length_le
    rw [List.length_append] at hlength hbounds
    rw [boundPlaceholders, List.flatMap_cons]
    simp only [numbers]
    refine ⟨List.pairwise_append.2 ⟨List.pairwise_lt_range', hrest, fun first hfirst later hlater => ?_⟩,
      List.forall_mem_append.2 ⟨fun index hindex => ?_, fun index hindex => ?_⟩⟩
    · have := List.mem_range'_1.1 hfirst
      have := hbounds later hlater
      omega
    · have := List.mem_range'_1.1 hindex
      omega
    · have := hbounds index hindex
      omega
  | failed _ ih =>
    obtain ⟨hrest, hbounds⟩ := ih
    refine ⟨hrest, fun index hindex => ?_⟩
    have := hbounds index hindex
    rw [List.length_append] at this
    omega

/-- Without a failure, the placeholders are those that follow the values bound before, in order. -/
theorem boundPlaceholders_eq (h : Continues schema final before calls answers)
    (hok : ∀ answer ∈ answers, ∃ bound, answer = .ok bound) :
    boundPlaceholders answers =
      List.range' (before.length + 1) (final.length - before.length) := by
  induction h with
  | nil => rw [Nat.sub_self]; rfl
  | @ok before call calls bound answers numbers _ rest ih =>
    have hlength := rest.isPrefix.length_le
    have hanswers := ih fun answer hmem => hok answer (List.mem_cons_of_mem _ hmem)
    rw [List.length_append] at hlength hanswers
    have hcount : final.length - before.length = (call.literals schema).length +
        (final.length - (before.length + (call.literals schema).length)) := by omega
    rw [hcount, ← List.range'_append_1, ← numbers, Nat.add_right_comm, ← hanswers]
    rfl
  | failed _ ih =>
    obtain ⟨bound, hbound⟩ := hok _ (List.mem_cons_self ..)
    cases hbound

end Continues

/-! ## Calls -/

namespace BindingCall

/-- A call succeeds, appends its values and numbers them on, or it is for a record, fails and may have
appended some. -/
theorem run_cases (schema : Schema) {call : BindingCall} (h : call.Unbound) (before : Bindings) :
    (∃ bound, ((call.run schema).run before).1 = .ok bound ∧
      Takes before ((call.run schema).run before).2 bound.placeholders (call.literals schema) ∧
      ∀ final, ((call.run schema).run before).2.values <+: final →
        Restores schema final call bound) ∨
    ∃ entity record fault added, call = .record entity record ∧
      ((call.run schema).run before).1 = .error fault ∧
      ((call.run schema).run before).2.values = before.values ++ added := by
  cases call with
  | filter given =>
    have hexhausted := (given.exhausts_bind before).2 _ List.prefix_rfl
    exact .inl ⟨_, rfl, Filter.takes_bind (Filter.placeholders_of_literals h) before,
      fun final hfinal => .filter ((given.recalls_bind h before).2 final hfinal) hexhausted⟩
  | selection given =>
    have hexhausted := (given.exhausts_bind before).2 _ List.prefix_rfl
    exact .inl ⟨_, rfl, Selection.takes_bind (given.placeholders_of_literals h) before,
      fun final hfinal => .selection ((given.recalls_bind h before).2 final hfinal) hexhausted⟩
  | record entity given =>
    obtain ⟨hkept, hentries⟩ := Record.settles_bind schema given entity before
    generalize hrun : (Record.bind schema entity given).run.run before = run at hkept hentries
    obtain ⟨result, after⟩ := run
    have hcall : ((BindingCall.record entity given).run schema).run before =
        (result.map BoundCall.record, after) := by
      show (((Record.bind schema entity given).run.run before).1.map BoundCall.record,
        ((Record.bind schema entity given).run.run before).2) = _
      rw [hrun]
    rw [hcall]
    cases result with
    | ok bound =>
      exact .inl ⟨.record bound, rfl, Record.takes_bind schema given hrun,
        fun final hfinal => .record (hentries final hfinal bound rfl)⟩
    | error fault =>
      obtain ⟨added, hadded⟩ := hkept
      exact .inr ⟨entity, given, fault, added, rfl, rfl, hadded.symm⟩

theorem continues_runAll (schema : Schema) {calls : List BindingCall}
    (h : ∀ call ∈ calls, call.Unbound) (before : Bindings) :
    Continues schema ((runAll schema calls).run before).2.values before.values calls
      ((runAll schema calls).run before).1 := by
  induction calls generalizing before with
  | nil => exact .nil
  | cons call rest ih =>
    obtain ⟨hcall, hrest⟩ := List.forall_mem_cons.1 h
    have hlater := ih hrest ((call.run schema).run before).2
    show Continues schema ((runAll schema rest).run ((call.run schema).run before).2).2.values
      before.values (call :: rest) (((call.run schema).run before).1 ::
        ((runAll schema rest).run ((call.run schema).run before).2).1)
    rcases run_cases schema hcall before with ⟨bound, hbound, htakes, hrestores⟩ |
      ⟨entity, record, fault, added, rfl, hfault, hadded⟩
    · have hfinal := hlater.isPrefix
      rw [htakes.values] at hlater
      rw [hbound]
      exact .ok htakes.numbers (hrestores _ hfinal) hlater
    · rw [hadded] at hlater
      rw [hfault]
      exact .failed hlater

end BindingCall

/-- From any values bound before, a sequence of calls keeps these where they are and numbers its own on:
those of each call in order, no placeholder twice, and none left out unless a call fails. What was bound
is what the calls were made with, and has nothing left to bind. -/
theorem runAll_continues (schema : Schema) {calls : List BindingCall}
    (h : ∀ call ∈ calls, call.Unbound) (before : Bindings)
    {answers : List (Result BoundCall)} {after : Bindings}
    (hrun : (BindingCall.runAll schema calls).run before = (answers, after)) :
    before.values <+: after.values ∧
      Continues schema after.values before.values calls answers ∧
      (boundPlaceholders answers).Nodup ∧
      ((∀ answer ∈ answers, ∃ bound, answer = .ok bound) → boundPlaceholders answers =
        List.range' (before.values.length + 1) (after.values.length - before.values.length)) := by
  have hcontinues := BindingCall.continues_runAll schema h before
  rw [hrun] at hcontinues
  exact ⟨hcontinues.isPrefix, hcontinues, hcontinues.increasing.1.imp Nat.ne_of_lt,
    hcontinues.boundPlaceholders_eq⟩

/-! ## The library -/

namespace Library

/-- A filter for two titles, a book by the author with the number one, and a book with a key that is not
declared. -/
def bindingCalls : List BindingCall := [
  .filter { terms := [.predicates "title" [⟨.oneOf, .list [.str "Emma", .str "Persuasion"]⟩]] },
  .record "Book" [("title", .str "Emma"), ("writer", .obj [("id", .int 1)])],
  .record "Book" [("title", .str "Emma"), ("pages", .int 9)]]

/-- What the calls give after one value. -/
def boundCalls : List (Result BoundCall) := [
  .ok (.filter { terms := [.predicates "title" [⟨.oneOf, .params [2, 3]⟩]] }),
  .ok (.record [("title", .param 4), ("writer", .record [("id", .param 5)])]),
  .error (.name (.recordKey "Book" "pages"))]

end Library

theorem runAll_continues_bindingCalls :
    (∀ call ∈ Library.bindingCalls, call.Unbound) ∧
      (BindingCall.runAll Library.schema Library.bindingCalls).run ⟨[.null]⟩ =
        (Library.boundCalls, ⟨[.null, .str "Emma", .str "Persuasion", .str "Emma", .int 1,
          .str "Emma"]⟩) ∧
      Continues Library.schema [.null, .str "Emma", .str "Persuasion", .str "Emma", .int 1, .str "Emma"]
        [.null] Library.bindingCalls Library.boundCalls := by
  have hunbound : ∀ call ∈ Library.bindingCalls, call.Unbound := by
    have htitles : ∀ operand ∈ [Operand.list [.str "Emma", .str "Persuasion"]], operand.IsLiteral :=
      List.forall_mem_singleton.2 trivial
    exact List.forall_mem_cons.2 ⟨htitles, List.forall_mem_cons.2 ⟨trivial,
      List.forall_mem_singleton.2 trivial⟩⟩
  have hrun : (BindingCall.runAll Library.schema Library.bindingCalls).run ⟨[.null]⟩ =
      (Library.boundCalls, ⟨[.null, .str "Emma", .str "Persuasion", .str "Emma", .int 1,
        .str "Emma"]⟩) := by
    rfl
  exact ⟨hunbound, hrun, (runAll_continues Library.schema hunbound _ hrun).2.1⟩

end EntitySql
