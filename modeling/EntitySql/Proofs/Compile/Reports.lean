import EntitySql.Proofs.Compile.Run
import EntitySql.Proofs.Result

/-!
# Faults of computations

Which fault a computation fails with, when it is known beforehand what is wrong.

* `Reports x fault? P` says that a computation fails with a fault, or gives something with a property if
  there is no fault. `Result.Reports` says this of a result.
* `Reports.bind` puts it together step by step: the fault of a sequence is the first fault of its parts.
* `Reports.eq_error_iff`, `Reports.succeeds_iff` and `Reports.of_yields` say what it comes to for a run.
-/

namespace EntitySql

set_option autoImplicit false

variable {σ α β : Type}

/-- The result is the fault, or something with the property if there is none. -/
def Result.Reports (result : Result α) (fault? : Option Fault) (P : α → Prop) : Prop :=
  match fault? with
  | none => ∃ a, result = .ok a ∧ P a
  | some fault => result = .error fault

/-- From every state, the computation fails with the fault, or gives something with the property if
there is none. -/
def Reports (x : ExceptT Fault (StateM σ) α) (fault? : Option Fault) (P : α → Prop) : Prop :=
  ∀ s, Result.Reports (x.run.run s).1 fault? P

namespace Result.Reports

theorem mono {result : Result α} {fault? : Option Fault} {P Q : α → Prop}
    (h : result.Reports fault? P) (hPQ : ∀ a, P a → Q a) : result.Reports fault? Q := by
  cases fault? with
  | none =>
    obtain ⟨a, rfl, ha⟩ := h
    exact ⟨a, rfl, hPQ a ha⟩
  | some fault => exact h

theorem bind {x : Result α} {f : α → Result β} {fault? later? : Option Fault} {P : α → Prop}
    {Q : β → Prop} (hx : x.Reports fault? P) (hf : ∀ a, P a → (f a).Reports later? Q) :
    (x >>= f).Reports (fault?.or later?) Q := by
  cases fault? with
  | none =>
    obtain ⟨a, rfl, ha⟩ := hx
    exact hf a ha
  | some fault =>
    obtain rfl : x = .error fault := hx
    rfl

theorem mapM {f : α → Result β} {fault? : α → Option Fault} {P : β → Prop}
    (hf : ∀ a, (f a).Reports (fault? a) P) (as : List α) :
    (as.mapM f).Reports (as.findSome? fault?) fun bs => ∀ b ∈ bs, P b := by
  induction as with
  | nil => exact ⟨[], rfl, List.forall_mem_nil P⟩
  | cons a as ih =>
    have hfault : (a :: as).findSome? fault? = (fault? a).or (as.findSome? fault?) := by
      rw [List.findSome?_cons]
      cases fault? a <;> rfl
    rw [List.mapM_cons, hfault]
    refine (hf a).bind fun b hb => ?_
    rw [← Option.or_none (o := as.findSome? fault?)]
    exact ih.bind fun bs hbs => ⟨b :: bs, rfl, List.forall_mem_cons.2 ⟨hb, hbs⟩⟩

end Result.Reports

namespace Reports

variable {x : ExceptT Fault (StateM σ) α} {fault? : Option Fault} {P : α → Prop}

theorem pure {a : α} (h : P a) : Reports (Pure.pure a : ExceptT Fault (StateM σ) α) none P :=
  fun _ => ⟨a, rfl, h⟩

theorem throw (fault : Fault) (P : α → Prop) :
    Reports (throw fault : ExceptT Fault (StateM σ) α) (some fault) P :=
  fun _ => rfl

theorem ofExcept {result : Result α} (h : result.Reports fault? P) :
    Reports (MonadExcept.ofExcept result : ExceptT Fault (StateM σ) α) fault? P := by
  cases result with
  | ok a => exact fun _ => h
  | error fault => exact fun _ => h

theorem bind {f : α → ExceptT Fault (StateM σ) β} {later? : Option Fault} {Q : β → Prop}
    (hx : Reports x fault? P) (hf : ∀ a, P a → Reports (f a) later? Q) :
    Reports (x >>= f) (fault?.or later?) Q := by
  intro s
  have hfirst := hx s
  rw [run_bind]
  generalize x.run.run s = run at hfirst
  obtain ⟨result, s₁⟩ := run
  cases fault? with
  | none =>
    obtain ⟨a, rfl, ha⟩ := hfirst
    exact hf a ha s₁
  | some fault =>
    obtain rfl : result = .error fault := hfirst
    rfl

theorem map {f : α → β} {Q : β → Prop} (hx : Reports x fault? P) (hf : ∀ a, P a → Q (f a)) :
    Reports (do return f (← x)) fault? Q := by
  rw [← Option.or_none (o := fault?)]
  exact hx.bind fun a ha => .pure (hf a ha)

/-- Before the rest, a result that is no fault and a step that cannot fail do not matter. -/
theorem ofExcept_bind {result : Result α} {f : α → ExceptT Fault (StateM σ) β} {Q : β → Prop}
    (hresult : ∃ a, result = .ok a) (hf : ∀ a, Reports (f a) fault? Q) :
    Reports (MonadExcept.ofExcept result >>= f) fault? Q := by
  obtain ⟨a, rfl⟩ := hresult
  exact hf a

theorem modifyGet_bind {step : σ → α × σ} {f : α → ExceptT Fault (StateM σ) β} {Q : β → Prop}
    (hf : ∀ a, Reports (f a) fault? Q) : Reports (modifyGet step >>= f) fault? Q :=
  fun s => hf (step s).1 (step s).2

theorem of_yields (h : Reports x fault? P) {s s' : σ} {a : α} (hyields : Yields x s a s') : P a := by
  have hs := h s
  rw [hyields] at hs
  cases fault? with
  | none =>
    obtain ⟨_, heq, ha⟩ := hs
    cases heq
    exact ha
  | some fault => cases hs

theorem eq_error_iff (h : Reports x fault? P) (s : σ) (fault : Fault) :
    (x.run.run s).1 = .error fault ↔ fault? = some fault := by
  have hs := h s
  cases fault? with
  | none =>
    obtain ⟨a, ha, -⟩ := hs
    rw [ha]
    exact iff_of_false nofun nofun
  | some first =>
    rw [show (x.run.run s).1 = .error first from hs, Except.error.injEq, Option.some.injEq]

theorem succeeds_iff (h : Reports x fault? P) (s : σ) : Succeeds x s ↔ fault? = none := by
  simp only [succeeds_iff_ne_error, ne_eq, h.eq_error_iff s, Option.eq_none_iff_forall_ne_some]

end Reports

end EntitySql
