import EntitySql.Proofs.Database.Recorded

/-!
# Transactions end once

What a guard over a transaction does from its start to its end, whatever the database does about each
call, and wherever the guard is dropped.

* `Guard.use` opens a guard, performs steps under it and drops it in the end.
* `Guard.Lasts` follows an open guard step by step: statements leave it open, unless it is dropped with
  one that never completes; a commit, a rollback or a drop ends it.
* `Guard.uses_use`: every use of a guard is of this form, and makes one of six sequences of calls about
  the transaction.
-/

namespace EntitySql

set_option autoImplicit false

variable {σ : Type}

/-- The event of a call about the connection or its transaction. -/
def LogEntry.event? : LogEntry → Option Event
  | .event happened => some happened
  | _ => none

namespace Guard

/-! ## Uses of a guard -/

/-- What becomes of steps: what each of them gives. -/
abbrev Answers := List (Except Interruption Answer)

/-- Performs steps one after the other, and drops the guard in the end. -/
def run (database : Database σ) (guard : Guard σ) : List Step → Answers × Guard σ
  | [] => ([], guard.drop database)
  | step :: rest =>
    let (answer, next) := guard.step database step
    let (answers, last) := run database next rest
    (answer :: answers, last)

/-- Opens a guard, performs steps under it and drops it in the end. -/
def use (database : Database σ) (state : σ) (steps : List Step) :
    Except Interruption Unit × Answers × Guard σ :=
  let (started, guard) := start database state
  (started, run database guard steps)

/-! ## Steps -/

namespace Step

/-- Whether the step is a statement, after which the guard stays open. -/
def isStatement : Step → Bool
  | send .. => true
  | commit | rollback | drop => false

/-- Whether the guard stays open when the step is given up. -/
def keepsGuard : Step → Bool
  | send _ keeps => keeps
  | commit | rollback | drop => false

/-- Whether the step ends the guard by a call that can fail. -/
def isEnding : Step → Bool
  | commit | rollback => true
  | send .. | drop => false

/-- The call that a step makes. A drop makes none that can fail. -/
def call (database : Database σ) : Step → Call σ Answer
  | send request _ => request.call database
  | commit => do return (fun _ => .committed) (← database.commit)
  | rollback => do return (fun _ => .rolledBack) (← database.rollback)
  | drop => return .dropped

/-- The step as it is logged. -/
def entry : Step → LogEntry
  | send (.query sql params) _ => .query sql params
  | send (.execute sql params) _ => .execute sql params
  | send (.batch sql) _ => .batch sql
  | commit => .event .commit
  | rollback => .event .rollback
  | drop => .event .abandon

end Step

/-- What an open guard does until it ends: the answers to all steps, the state that it leaves and the
calls that it makes. Once it has ended, steps find it finished. -/
inductive Lasts (database : Database σ) : List Step → σ → Answers → σ → List LogEntry → Prop
  /-- A statement leaves the guard open, whether it completes or not, unless it is given up together
  with the guard. -/
  | statement {step : Step} {rest : List Step} {s s₁ s₂ : σ} {answer : Except Interruption Answer}
      {answers : Answers} {calls : List LogEntry} (hstep : step.isStatement = true)
      (hcall : (step.call database).run.run s = (answer, s₁))
      (hopen : answer = .error .stalled → step.keepsGuard = true)
      (hrest : Lasts database rest s₁ answers s₂ calls) :
      Lasts database (step :: rest) s (answer :: answers) s₂ (step.entry :: calls)
  /-- The guard is dropped with a statement that never completes. -/
  | cancelled {step : Step} {s s' : σ} (rest : List Step) (hstep : step.isStatement = true)
      (hkeeps : step.keepsGuard = false)
      (hcall : (step.call database).run.run s = (.error .stalled, s')) :
      Lasts database (step :: rest) s (.error .stalled :: rest.map fun _ => .ok .finished)
        (database.abandon s') [step.entry, .event .abandon]
  | ended {step : Step} {s s' : σ} {answer : Answer} (rest : List Step)
      (hstep : step.isEnding = true) (hcall : (step.call database).run.run s = (.ok answer, s')) :
      Lasts database (step :: rest) s (.ok answer :: rest.map fun _ => .ok .finished) s' [step.entry]
  /-- A commit or a rollback that does not succeed leaves the transaction abandoned. -/
  | unended {step : Step} {s s' : σ} {interruption : Interruption} (rest : List Step)
      (hstep : step.isEnding = true)
      (hcall : (step.call database).run.run s = (.error interruption, s')) :
      Lasts database (step :: rest) s (.error interruption :: rest.map fun _ => .ok .finished)
        (database.abandon s') [step.entry, .event .abandon]
  | dropped (rest : List Step) (s : σ) :
      Lasts database (.drop :: rest) s (.ok .dropped :: rest.map fun _ => .ok .finished)
        (database.abandon s) [.event .abandon]
  /-- A guard that no step ends is dropped after the last of them. -/
  | left (s : σ) : Lasts database [] s [] (database.abandon s) [.event .abandon]

/-- What the use of a guard comes to. If the transaction does not start there is no guard, and nothing
more is called. -/
inductive Uses (database : Database σ) (steps : List Step) (s : σ) :
    Except Interruption Unit → Answers → σ → List LogEntry → Prop
  | unstarted {s' : σ} {interruption : Interruption}
      (hstart : database.start.run.run s = (.error interruption, s')) :
      Uses database steps s (.error interruption) (steps.map fun _ => .ok .finished) s'
        [.event .start]
  | started {s₁ s₂ : σ} {answers : Answers} {calls : List LogEntry}
      (hstart : database.start.run.run s = (.ok (), s₁))
      (hlasts : Lasts database steps s₁ answers s₂ calls) :
      Uses database steps s (.ok ()) answers s₂ (.event .start :: calls)

variable {database : Database σ} {step : Step} {steps : List Step} {s s' : σ}

/-! ## Steps of an open guard -/

theorem step_of_isStatement (database : Database σ) (hstep : step.isStatement = true) (s : σ) :
    Guard.step database ⟨s, true⟩ step = match (step.call database).run.run s with
      | (.error .stalled, s') => (.error .stalled,
        if step.keepsGuard then ⟨s', true⟩ else ⟨database.abandon s', false⟩)
      | (answer, s') => (answer, ⟨s', true⟩) := by
  cases step with
  | send request keeps =>
    rw [Guard.step, if_pos rfl]
    unfold Guard.call Step.call
    obtain ⟨answer, s'⟩ := (request.call database).run.run s
    rcases answer with (fault | _) | value <;> rfl
  | commit | rollback | drop => cases hstep

theorem step_of_isEnding (database : Database σ) (hstep : step.isEnding = true) (s : σ) :
    Guard.step database ⟨s, true⟩ step = match (step.call database).run.run s with
      | (.error interruption, s') => (.error interruption, ⟨database.abandon s', false⟩)
      | (.ok answer, s') => (.ok answer, ⟨s', false⟩) := by
  have hfinish : ∀ (call : Call σ Unit) (answer : Answer),
      Guard.finish database ⟨s, true⟩ call answer =
        match (do return (fun _ => answer) (← call) : Call σ Answer).run.run s with
        | (.error interruption, s') => (.error interruption, ⟨database.abandon s', false⟩)
        | (.ok answer, s') => (.ok answer, ⟨s', false⟩) := by
    intro call answer
    rw [run_bind, Guard.finish, Database.finish, run_tryCatch]
    obtain ⟨reply, s'⟩ := call.run.run s
    cases reply <;> rfl
  cases step with
  | commit => exact hfinish database.commit .committed
  | rollback => exact hfinish database.rollback .rolledBack
  | send | drop => cases hstep

/-- Logging the call of a step changes neither its answer nor its effect. -/
theorem makes_call {answer : Except Interruption Answer}
    (hstep : step.isStatement = true ∨ step.isEnding = true)
    (hcall : (step.call database).run.run s = (answer, s')) :
    Makes (step.call database) (step.call database.recorded) s answer s' [step.entry] := by
  suffices h : ∃ answer s',
      Makes (step.call database) (step.call database.recorded) s answer s' [step.entry] by
    obtain ⟨other, s₁, hmakes⟩ := h
    obtain ⟨rfl, rfl⟩ := Prod.mk.inj (hmakes.plain.symm.trans hcall)
    exact hmakes
  cases step with
  | send request keeps =>
    cases request with
    | query sql params =>
      exact ⟨_, _, makes_answer (database.query sql params) (.query sql params) _ s⟩
    | execute sql params =>
      exact ⟨_, _, makes_answer (database.execute sql params) (.execute sql params) _ s⟩
    | batch sql => exact ⟨_, _, makes_answer (database.batch sql) (.batch sql) _ s⟩
  | commit => exact ⟨_, _, makes_answer database.commit (.event .commit) _ s⟩
  | rollback => exact ⟨_, _, makes_answer database.rollback (.event .rollback) _ s⟩
  | drop => rcases hstep with h | h <;> cases h

/-- Under an open guard a step gives an answer and leaves a state, with the guard open or not. On a
recorded database it does the same, and adds its calls to the log. -/
structure Performs (database : Database σ) (step : Step) (s : σ) (answer : Except Interruption Answer)
    (s' : σ) (isOpen : Bool) (calls : List LogEntry) : Prop where
  plain : Guard.step database ⟨s, true⟩ step = (answer, ⟨s', isOpen⟩)
  recorded : ∀ log, Guard.step database.recorded ⟨(s, log), true⟩ step =
    (answer, ⟨(s', log ++ calls), isOpen⟩)

section

variable {answer : Except Interruption Answer} {calls : List LogEntry}

theorem performs_statement (hstep : step.isStatement = true)
    (hcall : (step.call database).run.run s = (answer, s'))
    (hopen : answer = .error .stalled → step.keepsGuard = true) :
    Performs database step s answer s' true [step.entry] := by
  have hmakes := makes_call (.inl hstep) hcall
  have hstays : ∀ {τ : Type} (database : Database τ) {t t' : τ},
      (step.call database).run.run t = (answer, t') →
        Guard.step database ⟨t, true⟩ step = (answer, ⟨t', true⟩) := by
    intro τ database t t' h
    rw [step_of_isStatement database hstep, h]
    rcases answer with (fault | _) | value
    · rfl
    · simp only [hopen rfl, if_true]
    · rfl
  exact ⟨hstays database hcall, fun log => hstays database.recorded (hmakes.recorded log)⟩

theorem performs_cancelled (hstep : step.isStatement = true) (hkeeps : step.keepsGuard = false)
    (hcall : (step.call database).run.run s = (.error .stalled, s')) :
    Performs database step s (.error .stalled) (database.abandon s') false
      [step.entry, .event .abandon] where
  plain := by
    rw [step_of_isStatement database hstep, hcall]
    simp only [hkeeps, Bool.false_eq_true, if_false]
  recorded log := by
    rw [step_of_isStatement database.recorded hstep, (makes_call (.inl hstep) hcall).recorded]
    simp [hkeeps, Database.recorded]

theorem performs_ended (hstep : step.isEnding = true) {answer : Answer}
    (hcall : (step.call database).run.run s = (.ok answer, s')) :
    Performs database step s (.ok answer) s' false [step.entry] where
  plain := by rw [step_of_isEnding database hstep, hcall]
  recorded log := by
    rw [step_of_isEnding database.recorded hstep, (makes_call (.inr hstep) hcall).recorded]

theorem performs_unended (hstep : step.isEnding = true) {interruption : Interruption}
    (hcall : (step.call database).run.run s = (.error interruption, s')) :
    Performs database step s (.error interruption) (database.abandon s') false
      [step.entry, .event .abandon] where
  plain := by rw [step_of_isEnding database hstep, hcall]
  recorded log := by
    rw [step_of_isEnding database.recorded hstep, (makes_call (.inr hstep) hcall).recorded]
    simp [Database.recorded]

theorem performs_drop (database : Database σ) (s : σ) :
    Performs database .drop s (.ok .dropped) (database.abandon s) false [.event .abandon] where
  plain := rfl
  recorded _ := rfl

end

/-! ## Runs -/

theorem run_cons {guard next last : Guard σ} {rest : List Step}
    {answer : Except Interruption Answer} {answers : Answers}
    (hstep : Guard.step database guard step = (answer, next))
    (hrest : run database next rest = (answers, last)) :
    run database guard (step :: rest) = (answer :: answers, last) := by
  simp only [run, hstep, hrest]

/-- Once a guard has ended, steps find it finished and make no calls. -/
theorem run_of_not_isOpen (database : Database σ) (steps : List Step) (s : σ) :
    run database ⟨s, false⟩ steps = (steps.map fun _ => .ok .finished, ⟨s, false⟩) := by
  induction steps with
  | nil => rfl
  | cons step rest ih => exact run_cons rfl ih

/-- Under an open guard steps give answers, and leave a state in which the guard has ended. On a
recorded database they do the same, and add their calls to the log. -/
structure Leads (database : Database σ) (steps : List Step) (s : σ) (answers : Answers) (s' : σ)
    (calls : List LogEntry) : Prop where
  plain : run database ⟨s, true⟩ steps = (answers, ⟨s', false⟩)
  recorded : ∀ log, run database.recorded ⟨(s, log), true⟩ steps =
    (answers, ⟨(s', log ++ calls), false⟩)

theorem leads_nil (database : Database σ) (s : σ) :
    Leads database [] s [] (database.abandon s) [.event .abandon] where
  plain := rfl
  recorded _ := rfl

section

variable {answer : Except Interruption Answer} {answers : Answers} {s₁ s₂ : σ}
  {calls others : List LogEntry}

theorem Performs.cons {rest : List Step} (h : Performs database step s answer s₁ true calls)
    (hrest : Leads database rest s₁ answers s₂ others) :
    Leads database (step :: rest) s (answer :: answers) s₂ (calls ++ others) where
  plain := run_cons h.plain hrest.plain
  recorded log := by
    rw [← List.append_assoc]
    exact run_cons (h.recorded log) (hrest.recorded _)

theorem Performs.last (h : Performs database step s answer s₁ false calls) (rest : List Step) :
    Leads database (step :: rest) s (answer :: rest.map fun _ => .ok .finished) s₁ calls where
  plain := run_cons h.plain (run_of_not_isOpen database rest s₁)
  recorded log := run_cons (h.recorded log) (run_of_not_isOpen database.recorded rest _)

end

/-- An open guard ends in one of the ways that there are. -/
theorem lasts_run (database : Database σ) (steps : List Step) (s : σ) :
    ∃ answers s' calls, Leads database steps s answers s' calls ∧
      Lasts database steps s answers s' calls := by
  -- by induction on the steps, from the state that the first of them leaves
  induction steps generalizing s with
  | nil => exact ⟨_, _, _, leads_nil database s, .left s⟩
  | cons step rest ih =>
    have hkind : step.isStatement = true ∨ step.isEnding = true ∨ step = .drop := by
      cases step <;> simp [Step.isStatement, Step.isEnding]
    obtain ⟨answer, s₁, hcall⟩ : ∃ answer s₁, (step.call database).run.run s = (answer, s₁) :=
      ⟨_, _, rfl⟩
    rcases hkind with hstep | hstep | rfl
    · by_cases hopen : answer = .error .stalled → step.keepsGuard = true
      · obtain ⟨answers, s₂, calls, hleads, hlasts⟩ := ih s₁
        exact ⟨_, _, _, (performs_statement hstep hcall hopen).cons hleads,
          .statement hstep hcall hopen hlasts⟩
      · obtain ⟨rfl, hkeeps⟩ := Classical.not_imp.1 hopen
        have hkeeps : step.keepsGuard = false := by simpa using hkeeps
        exact ⟨_, _, _, (performs_cancelled hstep hkeeps hcall).last rest,
          .cancelled rest hstep hkeeps hcall⟩
    · cases answer with
      | error interruption =>
        exact ⟨_, _, _, (performs_unended hstep hcall).last rest, .unended rest hstep hcall⟩
      | ok answer => exact ⟨_, _, _, (performs_ended hstep hcall).last rest, .ended rest hstep hcall⟩
    · exact ⟨_, _, _, (performs_drop database s).last rest, .dropped rest s⟩

/-! ## Ends -/

/-- The events of a transaction after its start: one call that ends it, or one or none that does not
before it is abandoned. -/
def endings : List (List Event) :=
  [[.commit], [.rollback], [.abandon], [.commit, .abandon], [.rollback, .abandon]]

theorem Lasts.events {answers : Answers} {calls : List LogEntry}
    (h : Lasts database steps s answers s' calls) :
    calls.filterMap LogEntry.event? ∈ endings := by
  have hstatement : ∀ {step : Step}, step.isStatement = true → ∀ later : List LogEntry,
      (step.entry :: later).filterMap LogEntry.event? = later.filterMap LogEntry.event? := by
    intro step hstep later
    cases step with
    | send request keeps => cases request <;> rfl
    | commit | rollback | drop => cases hstep
  induction h with
  | statement hstep _ _ _ ih =>
    rw [hstatement hstep]
    exact ih
  | cancelled rest hstep _ _ =>
    rw [hstatement hstep]
    decide
  | @ended step _ _ _ rest hstep _ =>
    cases step with
    | commit | rollback => decide
    | send | drop => cases hstep
  | @unended step _ _ _ rest hstep _ =>
    cases step with
    | commit | rollback => decide
    | send | drop => cases hstep
  | dropped => decide
  | left => decide

/-- A guard is open if the transaction has started. -/
theorem use_of_start {started : Except Interruption Unit} {answers : Answers} {last : Guard σ}
    (hstart : database.start.run.run s = (started, s'))
    (hrun : run database ⟨s', started.isOk⟩ steps = (answers, last)) :
    use database s steps = (started, answers, last) := by
  have hguard : start database s = (started, ⟨s', started.isOk⟩) := by
    rw [start, hstart]
    cases started <;> rfl
  simp only [use, hguard, hrun]

/-- Every use of a guard starts a transaction and ends it once: by a commit or a rollback that succeeds,
or by abandoning it, after a commit or a rollback that does not. If the transaction does not start,
nothing more is called. -/
theorem uses_use (database : Database σ) (steps : List Step) (s : σ) :
    ∃ started answers s' calls, use database s steps = (started, answers, ⟨s', false⟩) ∧
      (∀ log, use database.recorded (s, log) steps = (started, answers, ⟨(s', log ++ calls), false⟩)) ∧
      Uses database steps s started answers s' calls ∧
      ∃ ending, calls.filterMap LogEntry.event? = .start :: ending ∧
        if started.isOk then ending ∈ endings else ending = [] := by
  obtain ⟨started, s₁, hstart⟩ : ∃ started s₁, database.start.run.run s = (started, s₁) :=
    ⟨_, _, rfl⟩
  have hrecorded := (makes_recorded hstart (.event .start)).recorded
  cases started with
  | error interruption =>
    refine ⟨_, _, s₁, _, use_of_start hstart (run_of_not_isOpen database steps s₁), fun log => ?_,
      .unstarted hstart, [], rfl, rfl⟩
    exact use_of_start (hrecorded log) (run_of_not_isOpen database.recorded steps _)
  | ok _ =>
    obtain ⟨answers, s₂, calls, hleads, hlasts⟩ := lasts_run database steps s₁
    refine ⟨_, answers, s₂, _, use_of_start hstart hleads.plain, fun log => ?_,
      .started hstart hlasts, _, rfl, hlasts.events⟩
    rw [List.append_cons]
    exact use_of_start (hrecorded log) (hleads.recorded _)

/-- A commit that fails is followed by an abandoned transaction, and by nothing for later steps. -/
example : (use Script.database { failing := ["commit"] }
    [.execute "DELETE FROM \"book\"" [], .commit, .rollback]).2.2.state.log =
      [.event .start, .execute "DELETE FROM \"book\"" [], .event .commit, .event .abandon] := by
  decide

/-- Whoever gives up a statement and keeps the guard can still commit. -/
example : (use Script.database { stallOn := some "DELETE" }
    [.send (.execute "DELETE FROM \"book\"" []) true, .commit]).2.2.state.log =
      [.event .start, .execute "DELETE FROM \"book\"" [], .event .commit] := by
  decide

end Guard

end EntitySql
