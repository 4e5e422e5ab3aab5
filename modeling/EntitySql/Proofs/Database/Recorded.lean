import EntitySql.Database.Scripted
import EntitySql.Database.Transaction
import EntitySql.Proofs.Compile.Run

/-!
# Recorded databases

A database with a log of the calls on it, and what a computation calls.

* `Database.recorded` logs every call before it is made, whatever comes of it.
* `Makes` says what a computation answers, which state it leaves and which calls it makes. It is taken
  apart along sequences (`Makes.bind`, `Makes.bind_error`) and handlers (`Makes.handled`,
  `Makes.handled_error`).
* `makes_recorded` is about one call on a recorded database, `makes_answer` about one whose reply is
  turned into an answer.
* `makes_finish` and `makes_finish_error` are what ending a transaction calls.
-/

namespace EntitySql

set_option autoImplicit false

variable {σ α β : Type}

/-- A call that is logged before it is made. -/
def Call.recorded (entry : LogEntry) (call : Call σ α) : Call (σ × List LogEntry) α :=
  ExceptT.mk <| modifyGet fun (s, log) =>
    let (answer, s') := call.run.run s
    (answer, (s', log ++ [entry]))

/-- A database with a log of the calls on it. -/
def Database.recorded (database : Database σ) : Database (σ × List LogEntry) where
  connect url := (database.connect url).recorded (.connect url)
  query sql params := (database.query sql params).recorded (.query sql params)
  execute sql params := (database.execute sql params).recorded (.execute sql params)
  batch sql := (database.batch sql).recorded (.batch sql)
  start := database.start.recorded (.event .start)
  commit := database.commit.recorded (.event .commit)
  rollback := database.rollback.recorded (.event .rollback)
  abandon s := (database.abandon s.1, s.2 ++ [.event .abandon])
  close := database.close.recorded (.event .close)

/-- From a state a computation gives an answer and leaves a state. On a recorded database it does the
same, and adds its calls to the log. -/
structure Makes (plain : Call σ α) (recorded : Call (σ × List LogEntry) α) (s : σ)
    (answer : Except Interruption α) (s' : σ) (calls : List LogEntry) : Prop where
  plain : plain.run.run s = (answer, s')
  recorded : ∀ log, recorded.run.run (s, log) = (answer, (s', log ++ calls))

theorem makes_pure (a : α) (s : σ) : Makes (pure a) (pure a) s (.ok a) s [] where
  plain := rfl
  recorded log := by
    rw [List.append_nil]
    rfl

theorem makes_throw (interruption : Interruption) (s : σ) :
    Makes (throw interruption : Call σ α) (throw interruption) s (.error interruption) s [] where
  plain := rfl
  recorded log := by
    rw [List.append_nil]
    rfl

theorem makes_ofResult {result : Result α} {a : α} (h : result = .ok a) (s : σ) :
    Makes (Call.ofResult result) (Call.ofResult result) s (.ok a) s [] := by
  subst h
  exact makes_pure a s

theorem makes_ofResult_error {result : Result α} {fault : Fault} (h : result = .error fault) (s : σ) :
    Makes (Call.ofResult result) (Call.ofResult result) s (.error (.fault fault)) s [] := by
  subst h
  exact makes_throw (.fault fault) s

theorem makes_abandon (database : Database σ) (interruption : Interruption) (s : σ) :
    Makes (do modify database.abandon; throw interruption : Call σ α)
      (do modify database.recorded.abandon; throw interruption) s (.error interruption)
      (database.abandon s) [.event .abandon] where
  plain := rfl
  recorded _ := rfl

theorem makes_recorded {call : Call σ α} {s s' : σ} {answer : Except Interruption α}
    (h : call.run.run s = (answer, s')) (entry : LogEntry) :
    Makes call (call.recorded entry) s answer s' [entry] where
  plain := h
  recorded log := by
    change (let (answer, s') := call.run.run s; (answer, (s', log ++ [entry]))) = _
    rw [h]

section

variable {x : Call σ α} {x' : Call (σ × List LogEntry) α} {s s₁ s₂ : σ} {calls calls' : List LogEntry}

theorem Makes.bind {f : α → Call σ β} {f' : α → Call (σ × List LogEntry) β} {a : α}
    {answer : Except Interruption β} (h : Makes x x' s (.ok a) s₁ calls)
    (h' : Makes (f a) (f' a) s₁ answer s₂ calls') :
    Makes (x >>= f) (x' >>= f') s answer s₂ (calls ++ calls') where
  plain := by
    rw [run_bind, h.plain]
    exact h'.plain
  recorded log := by
    rw [run_bind, h.recorded, ← List.append_assoc]
    exact h'.recorded (log ++ calls)

theorem Makes.bind_error {f : α → Call σ β} {f' : α → Call (σ × List LogEntry) β}
    {interruption : Interruption} (h : Makes x x' s (.error interruption) s₁ calls) :
    Makes (x >>= f) (x' >>= f') s (.error interruption) s₁ calls where
  plain := by
    rw [run_bind, h.plain]
  recorded log := by
    rw [run_bind, h.recorded]

theorem Makes.map {answer : Except Interruption α} (f : α → β) (h : Makes x x' s answer s₁ calls) :
    Makes (do return f (← x)) (do return f (← x')) s (answer.map f) s₁ calls := by
  cases answer with
  | ok a =>
    have hmap : Makes (do return f (← x)) (do return f (← x')) s (.ok (f a)) s₁ (calls ++ []) :=
      h.bind (makes_pure (f a) s₁)
    rwa [List.append_nil] at hmap
  | error interruption => exact h.bind_error

/-- A call that is answered by its reply. -/
theorem makes_answer (call : Call σ α) (entry : LogEntry) (answer : α → β) (s : σ) :
    Makes (do return answer (← call)) (do return answer (← call.recorded entry)) s
      ((call.run.run s).1.map answer) (call.run.run s).2 [entry] := by
  have hcall : call.run.run s = ((call.run.run s).1, (call.run.run s).2) := rfl
  exact (makes_recorded hcall entry).map answer

theorem run_tryCatch {τ : Type} (y : Call τ α) (handler : Interruption → Call τ α) (t : τ) :
    (tryCatch y handler).run.run t = match y.run.run t with
      | (.ok a, t₁) => (.ok a, t₁)
      | (.error interruption, t₁) => (handler interruption).run.run t₁ := by
  rw [ExceptT.run_tryCatch, StateT.run_bind]
  obtain ⟨answer, t₁⟩ := y.run.run t
  cases answer <;> rfl

theorem Makes.handled {handler : Interruption → Call σ α}
    {handler' : Interruption → Call (σ × List LogEntry) α} {a : α}
    (h : Makes x x' s (.ok a) s₁ calls) :
    Makes (tryCatch x handler) (tryCatch x' handler') s (.ok a) s₁ calls where
  plain := by
    rw [run_tryCatch, h.plain]
  recorded log := by
    rw [run_tryCatch, h.recorded]

theorem Makes.handled_error {handler : Interruption → Call σ α}
    {handler' : Interruption → Call (σ × List LogEntry) α} {interruption : Interruption}
    {answer : Except Interruption α} (h : Makes x x' s (.error interruption) s₁ calls)
    (h' : Makes (handler interruption) (handler' interruption) s₁ answer s₂ calls') :
    Makes (tryCatch x handler) (tryCatch x' handler') s answer s₂ (calls ++ calls') where
  plain := by
    rw [run_tryCatch, h.plain]
    exact h'.plain
  recorded log := by
    rw [run_tryCatch, h.recorded, ← List.append_assoc]
    exact h'.recorded (log ++ calls)

end

theorem makes_finish (database : Database σ) {call : Call σ Unit} {s s' : σ}
    (h : call.run.run s = (.ok (), s')) (entry : LogEntry) :
    Makes (database.finish call) (database.recorded.finish (call.recorded entry)) s (.ok ()) s'
      [entry] :=
  (makes_recorded h entry).handled

/-- A transaction that cannot be ended by a call is abandoned. -/
theorem makes_finish_error (database : Database σ) {call : Call σ Unit} {s s' : σ}
    {interruption : Interruption} (h : call.run.run s = (.error interruption, s')) (entry : LogEntry) :
    Makes (database.finish call) (database.recorded.finish (call.recorded entry)) s
      (.error interruption) (database.abandon s') [entry, .event .abandon] :=
  (makes_recorded h entry).handled_error (makes_abandon database interruption s')

end EntitySql
