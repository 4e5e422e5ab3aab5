import EntitySql.Proofs.Database.Recorded
import EntitySql.Proofs.Operation.Plan
import EntitySql.Session.Basic

/-!
# All or nothing

What a transaction answers, which state it leaves and which calls it makes, whatever the database does
about each of them.

* `Session.RunsAlone` is an operation run by itself: one statement, or none if there is nothing to do.
* `Session.RunsInTurn` runs operations one after the other, up to the first that is interrupted.
* `Session.Transacts` puts such a run between a start and one end. `Session.transacts_transaction` says
  that every transaction is of this form.
-/

namespace EntitySql

set_option autoImplicit false

variable {σ : Type}

/-! ## Single operations -/

/-- An operation with nothing to do: the insertion of no records. -/
def Operation.isVoid : Operation → Bool
  | .insertMany _ [] => true
  | _ => false

def LogEntry.IsStatement : LogEntry → Prop
  | .query _ _ | .execute _ _ => True
  | _ => False

/-- Every statement gets the same reply from two databases in given states. -/
structure Database.RepliesAlike {τ : Type} (database : Database σ) (s : σ) (other : Database τ)
    (t : τ) : Prop where
  query : ∀ sql params, ((other.query sql params).run.run t).1 = ((database.query sql params).run.run s).1
  execute : ∀ sql params,
    ((other.execute sql params).run.run t).1 = ((database.execute sql params).run.run s).1

namespace Session

/-- An operation that is run by itself gives an answer, leaves a state and makes at most one call. It
makes the same call on any database, and the reply determines the answer. -/
structure RunsAlone (session : Session) (database : Database σ) (operation : Operation) (s : σ)
    (answer : Except Interruption Output) (s' : σ) (calls : List LogEntry) : Prop where
  run : (session.run database.recorded operation).run.run (s, []) = (answer, (s', calls))
  count : calls.length = if operation.isVoid then 0 else 1
  statement : ∀ call ∈ calls, call.IsStatement
  called : ∀ {τ : Type} (other : Database τ) (t : τ),
    ((session.run other.recorded operation).run.run (t, [])).2.2 = calls
  replied : ∀ {τ : Type} (other : Database τ) (t : τ), database.RepliesAlike s other t →
    ((session.run other operation).run.run t).1 = answer

/-- Operations run one after the other, each as it runs by itself, up to the first that is
interrupted. -/
inductive RunsInTurn (session : Session) (database : Database σ) : List Operation → σ →
    Except Interruption (List Output) → σ → List LogEntry → Prop
  | nil (s : σ) : RunsInTurn session database [] s (.ok []) s []
  | cons {operation : Operation} {rest : List Operation} {s s₁ s₂ : σ} {output : Output}
      {answer : Except Interruption (List Output)} {calls calls' : List LogEntry}
      (hfirst : session.RunsAlone database operation s (.ok output) s₁ calls)
      (hrest : RunsInTurn session database rest s₁ answer s₂ calls') :
      RunsInTurn session database (operation :: rest) s (answer.map (output :: ·)) s₂ (calls ++ calls')
  | interrupted {operation : Operation} {rest : List Operation} {s s₁ : σ}
      {interruption : Interruption} {calls : List LogEntry}
      (hfirst : session.RunsAlone database operation s (.error interruption) s₁ calls) :
      RunsInTurn session database (operation :: rest) s (.error interruption) s₁ calls

/-- What becomes of an interrupted transaction. After a fault it is rolled back and abandoned if that
fails, and the fault is what remains; a call that never completes leaves it abandoned. -/
inductive Undoes (database : Database σ) : Interruption → σ → Interruption → σ → List LogEntry → Prop
  | rolledBack {fault : Fault} {s s' : σ} (h : database.rollback.run.run s = (.ok (), s')) :
      Undoes database (.fault fault) s (.fault fault) s' [.event .rollback]
  | abandoned {fault other : Fault} {s s' : σ}
      (h : database.rollback.run.run s = (.error (.fault other), s')) :
      Undoes database (.fault fault) s (.fault fault) (database.abandon s')
        [.event .rollback, .event .abandon]
  | rollbackStalled {fault : Fault} {s s' : σ}
      (h : database.rollback.run.run s = (.error .stalled, s')) :
      Undoes database (.fault fault) s .stalled (database.abandon s')
        [.event .rollback, .event .abandon]
  | stalled (s : σ) :
      Undoes database .stalled s .stalled (database.abandon s) [.event .abandon]

/-- What a transaction answers, which state it leaves and which calls it makes. -/
inductive Transacts (session : Session) (database : Database σ) (operations : List Operation) (s : σ) :
    Except Interruption (List Output) → σ → List LogEntry → Prop
  /-- The first operation that cannot be planned is reported, and nothing is called. -/
  | refused {done rest : List Operation} {operation : Operation} {fault : Fault}
      (hoperations : operations = done ++ operation :: rest)
      (hdone : ∀ earlier ∈ done, ∃ plan, session.plan earlier = .ok plan)
      (hfault : session.plan operation = .error fault) :
      Transacts session database operations s (.error (.fault fault)) s []
  | unstarted {s' : σ} {interruption : Interruption}
      (hplans : ∀ operation ∈ operations, ∃ plan, session.plan operation = .ok plan)
      (hstart : database.start.run.run s = (.error interruption, s')) :
      Transacts session database operations s (.error interruption) s' [.event .start]
  | committed {s₁ s₂ s₃ : σ} {outputs : List Output} {calls : List LogEntry}
      (hplans : ∀ operation ∈ operations, ∃ plan, session.plan operation = .ok plan)
      (hstart : database.start.run.run s = (.ok (), s₁))
      (hruns : session.RunsInTurn database operations s₁ (.ok outputs) s₂ calls)
      (hcommit : database.commit.run.run s₂ = (.ok (), s₃)) :
      Transacts session database operations s (.ok outputs) s₃
        (.event .start :: (calls ++ [.event .commit]))
  | uncommitted {s₁ s₂ s₃ : σ} {outputs : List Output} {interruption : Interruption}
      {calls : List LogEntry}
      (hplans : ∀ operation ∈ operations, ∃ plan, session.plan operation = .ok plan)
      (hstart : database.start.run.run s = (.ok (), s₁))
      (hruns : session.RunsInTurn database operations s₁ (.ok outputs) s₂ calls)
      (hcommit : database.commit.run.run s₂ = (.error interruption, s₃)) :
      Transacts session database operations s (.error interruption) (database.abandon s₃)
        (.event .start :: (calls ++ [.event .commit, .event .abandon]))
  | undone {s₁ s₂ s₃ : σ} {interruption remaining : Interruption} {calls ending : List LogEntry}
      (hplans : ∀ operation ∈ operations, ∃ plan, session.plan operation = .ok plan)
      (hstart : database.start.run.run s = (.ok (), s₁))
      (hruns : session.RunsInTurn database operations s₁ (.error interruption) s₂ calls)
      (hundo : Undoes database interruption s₂ remaining s₃ ending) :
      Transacts session database operations s (.error remaining) s₃
        (.event .start :: (calls ++ ending))

end Session

/-! ## Planned operations -/

/-- The call that a plan comes to, if there is anything to do. -/
def OperationPlan.calls : OperationPlan → List LogEntry
  | .fetch bound _ => [.query bound.statement.text bound.params]
  | .count bound => [.execute bound.statement.text bound.params]
  | .skip => []

theorem OperationPlan.isStatement_of_mem_calls {plan : OperationPlan} :
    ∀ call ∈ plan.calls, call.IsStatement := by
  cases plan with
  | fetch bound column => exact List.forall_mem_singleton.2 trivial
  | count bound => exact List.forall_mem_singleton.2 trivial
  | skip => exact List.forall_mem_nil _

/-- There is something to do for every operation but the insertion of no records. -/
theorem Operation.length_calls {schema : Schema} {naming : Naming} {operation : Operation}
    {plan : OperationPlan} (h : operation.plan schema naming = .ok plan) :
    plan.calls.length = if operation.isVoid then 0 else 1 := by
  cases operation with
  | select entity request one =>
    obtain ⟨selection, query, s', -, -, rfl⟩ := planSelect_eq_ok.1 h
    rfl
  | aggregate entity function target filter =>
    obtain ⟨query, s', -, rfl⟩ := planAggregate_eq_ok.1 h
    rfl
  | insert entity data =>
    rcases planInsert_eq_ok.1 h with ⟨hnil, -⟩ | ⟨-, records, insert, s', -, -, rfl⟩
    · cases hnil
    · rfl
  | insertMany entity data =>
    rcases planInsert_eq_ok.1 h with ⟨rfl, rfl⟩ | ⟨hne, records, insert, s', -, -, rfl⟩
    · rfl
    · obtain ⟨record, rest, rfl⟩ := List.exists_cons_of_ne_nil hne
      rfl
  | update entity data filter =>
    obtain ⟨record, update, s', -, -, rfl⟩ := planUpdate_eq_ok.1 h
    rfl
  | delete entity filter =>
    obtain ⟨delete, -, rfl⟩ := planDelete_eq_ok.1 h
    rfl

namespace Session

variable {session : Session} {operation : Operation} {plan : OperationPlan}

theorem run_of_plan (h : session.plan operation = .ok plan) (database : Database σ) :
    session.run database operation = runPlan database plan := by
  rw [run, h]
  exact pure_bind plan (runPlan database)

theorem answer_statement {α : Type} (call : Call σ α) (output : α → Output) (s : σ) :
    ((do return output (← call) : Call σ Output).run.run s).1 = (call.run.run s).1.map output := by
  rw [run_bind]
  obtain ⟨reply, s'⟩ := call.run.run s
  cases reply <;> rfl

theorem makes_runPlan (database : Database σ) (plan : OperationPlan) (s : σ) :
    ∃ answer s', Makes (runPlan database plan) (runPlan database.recorded plan) s answer s' plan.calls ∧
      ∀ {τ : Type} (other : Database τ) (t : τ), database.RepliesAlike s other t →
        ((runPlan other plan).run.run t).1 = answer := by
  cases plan with
  | fetch bound column =>
    have hmakes := makes_answer (database.query bound.statement.text bound.params)
      (.query bound.statement.text bound.params) (fun result => Output.value (fetched result column)) s
    refine ⟨_, _, hmakes, fun other t h => ?_⟩
    rw [← h.query]
    exact answer_statement (other.query bound.statement.text bound.params) _ t
  | count bound =>
    have hmakes := makes_answer (database.execute bound.statement.text bound.params)
      (.execute bound.statement.text bound.params) Output.rowCount s
    refine ⟨_, _, hmakes, fun other t h => ?_⟩
    rw [← h.execute]
    exact answer_statement (other.execute bound.statement.text bound.params) _ t
  | skip => exact ⟨_, _, makes_pure (Output.rowCount 0) s, fun other t h => rfl⟩

theorem runsAlone_of_plan (h : session.plan operation = .ok plan) (database : Database σ) (s : σ) :
    ∃ answer s', Makes (runPlan database plan) (runPlan database.recorded plan) s answer s' plan.calls ∧
      session.RunsAlone database operation s answer s' plan.calls := by
  obtain ⟨answer, s', hmakes, hreplied⟩ := makes_runPlan database plan s
  refine ⟨answer, s', hmakes, {
    run := ?_
    count := Operation.length_calls h
    statement := OperationPlan.isStatement_of_mem_calls
    called := fun other t => ?_
    replied := fun other t hreplies => ?_ }⟩
  · rw [run_of_plan h]
    exact hmakes.recorded []
  · obtain ⟨_, _, hother, -⟩ := makes_runPlan other plan t
    rw [run_of_plan h, hother.recorded []]
    rfl
  · rw [run_of_plan h]
    exact hreplied other t hreplies

/-! ## Transactions -/

variable {operations : List Operation}

theorem runsInTurn_runPlans (database : Database σ) {plans : List OperationPlan}
    (h : List.Forall₂ (fun operation plan => session.plan operation = .ok plan) operations plans)
    (s : σ) : ∃ answer s' calls,
      Makes (runPlans database plans) (runPlans database.recorded plans) s answer s' calls ∧
        session.RunsInTurn database operations s answer s' calls := by
  -- by induction on the operations, from the state that the first of them leaves
  induction h generalizing s with
  | nil => exact ⟨_, _, _, makes_pure [] s, .nil s⟩
  | @cons operation plan operations plans hplan hplans ih =>
    obtain ⟨answer, s₁, hmakes, halone⟩ := runsAlone_of_plan hplan database s
    cases answer with
    | error interruption => exact ⟨_, _, _, hmakes.bind_error, .interrupted halone⟩
    | ok output =>
      obtain ⟨answer, s₂, calls, hrest, hturn⟩ := ih s₁
      exact ⟨_, _, _, hmakes.bind (hrest.map (output :: ·)), .cons halone hturn⟩

theorem undoes_undo {α : Type} (database : Database σ) (interruption : Interruption) (s : σ) :
    ∃ remaining s' ending, Makes (undo database interruption : Call σ α)
        (undo database.recorded interruption) s (.error remaining) s' ending ∧
      Undoes database interruption s remaining s' ending := by
  cases interruption with
  | stalled => exact ⟨_, _, _, makes_abandon database .stalled s, .stalled s⟩
  | fault fault =>
    obtain ⟨answer, s', hrollback⟩ : ∃ answer s', database.rollback.run.run s = (answer, s') :=
      ⟨_, _, rfl⟩
    have hfault : ∀ s : σ, Makes (throw (.fault fault) : Call σ α) (throw (.fault fault)) s
        (.error (.fault fault)) s [] := makes_throw (.fault fault)
    match answer with
    | .ok () =>
      have hfinish := makes_finish database hrollback (.event .rollback)
      exact ⟨_, _, _, hfinish.handled.bind (hfault s'), .rolledBack hrollback⟩
    | .error (.fault other) =>
      have hfinish := makes_finish_error database hrollback (.event .rollback)
      exact ⟨_, _, _, (hfinish.handled_error (makes_pure () _)).bind (hfault _), .abandoned hrollback⟩
    | .error .stalled =>
      have hfinish := makes_finish_error database hrollback (.event .rollback)
      refine ⟨_, _, _, (hfinish.handled_error ?_).bind_error, .rollbackStalled hrollback⟩
      exact makes_throw .stalled _

/-- Every transaction calls nothing, or starts, runs the operations in turn up to the first that is
interrupted, and ends once. Logging its calls changes neither its answer nor its effect. -/
theorem transacts_transaction (session : Session) (database : Database σ)
    (operations : List Operation) (s : σ) : ∃ answer s' calls,
      Makes (session.transaction database operations)
        (session.transaction database.recorded operations) s answer s' calls ∧
          session.Transacts database operations s answer s' calls := by
  unfold transaction
  cases hall : Operation.planAll session.schema session.naming operations with
  | error fault =>
    obtain ⟨done, operation, rest, hoperations, hdone, hfault⟩ := exists_of_mapM_eq_error hall
    have hrefused := makes_throw (α := List OperationPlan) (.fault fault) s
    exact ⟨_, _, _, hrefused.bind_error, .refused hoperations hdone hfault⟩
  | ok plans =>
    have hplanned := mapM_eq_ok.1 hall
    have hplans : ∀ operation ∈ operations, ∃ plan, session.plan operation = .ok plan := by
      intro operation hmem
      obtain ⟨plan, -, hplan⟩ := exists_of_mem_left hplanned hmem
      exact ⟨plan, hplan⟩
    have hcompiled := makes_pure plans s
    obtain ⟨started, s₁, hstart⟩ : ∃ started s₁, database.start.run.run s = (started, s₁) :=
      ⟨_, _, rfl⟩
    have hstarts := makes_recorded hstart (.event .start)
    cases started with
    | error interruption =>
      exact ⟨_, _, _, hcompiled.bind hstarts.bind_error, .unstarted hplans hstart⟩
    | ok _ =>
      obtain ⟨answer, s₂, calls, hmakes, hruns⟩ := runsInTurn_runPlans database hplanned s₁
      -- the transaction is open: an interruption is undone, outputs are kept if the commit succeeds
      cases answer with
      | error interruption =>
        obtain ⟨remaining, s₃, ending, hundone, hundo⟩ :=
          undoes_undo (α := List Output) database interruption s₂
        have hends := Transacts.undone hplans hstart hruns hundo
        exact ⟨_, _, _, hcompiled.bind (hstarts.bind (hmakes.handled_error hundone).bind_error), hends⟩
      | ok outputs =>
        obtain ⟨ended, s₃, hcommit⟩ : ∃ ended s₃, database.commit.run.run s₂ = (ended, s₃) :=
          ⟨_, _, rfl⟩
        cases ended with
        | error interruption =>
          have hfinish := makes_finish_error database hcommit (.event .commit)
          have hends := Transacts.uncommitted hplans hstart hruns hcommit
          exact ⟨_, _, _, hcompiled.bind (hstarts.bind (hmakes.handled.bind hfinish.bind_error)), hends⟩
        | ok _ =>
          have hfinish := makes_finish database hcommit (.event .commit)
          have hends := Transacts.committed hplans hstart hruns hcommit
          exact ⟨_, _, _, hcompiled.bind (hstarts.bind (hmakes.handled.bind
            (hfinish.bind (makes_pure outputs s₃)))), hends⟩

end Session

end EntitySql
