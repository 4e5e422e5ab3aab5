import EntitySql.Sql.Query
import Mathlib.Data.List.Forall2

/-!
# Evaluations that may fail

Reading a name in a statement fails when nothing has the name and when several things have it.

* `Eval` is a computation that may fail in this way.
* `only` picks the one candidate for a name.
* `gather` joins the lists that a computation gives for the elements of a list.
* `Gives x P` says that `x` gives a value with `P`, unless a name in it is ambiguous.
-/

namespace EntitySql

set_option autoImplicit false

/-- Why an evaluation fails. -/
inductive EvalFault where
  /-- Several columns have the name, or a column and a source. -/
  | ambiguous (name : String)
  | missing (name : String)
  /-- A value of one kind stands where another kind is needed. -/
  | illTyped
deriving DecidableEq, Repr

abbrev Eval := Except EvalFault

variable {α β : Type}

/-- The one candidate for a name. -/
def only (name : String) : List α → Eval α
  | [] => .error (.missing name)
  | [candidate] => .ok candidate
  | _ :: _ :: _ => .error (.ambiguous name)

/-- Joins the lists that a computation gives for the elements of a list, in order. -/
def gather (f : α → Eval (List β)) : List α → Eval (List β)
  | [] => .ok []
  | a :: rest => do
    let first ← f a
    return first ++ (← gather f rest)

/-- The computation gives a value with the property, unless a name in it is ambiguous. -/
def Gives (x : Eval α) (P : α → Prop) : Prop :=
  match x with
  | .ok a => P a
  | .error fault => ∃ name, fault = .ambiguous name

/-! ## Composing -/

theorem gives_ok {a : α} {P : α → Prop} (h : P a) : Gives (.ok a) P := h

theorem gives_of_eq {x : Eval α} {a : α} {P : α → Prop} (hx : x = .ok a) (h : P a) :
    Gives x P := by
  rw [hx]
  exact h

theorem Gives.mono {x : Eval α} {P Q : α → Prop} (h : Gives x P) (hPQ : ∀ a, P a → Q a) :
    Gives x Q := by
  cases x with
  | ok a => exact hPQ a h
  | error fault => exact h

theorem Gives.bind {x : Eval α} {f : α → Eval β} {P : α → Prop} {Q : β → Prop} (h : Gives x P)
    (hf : ∀ a, P a → Gives (f a) Q) : Gives (x >>= f) Q := by
  cases x with
  | ok a => exact hf a h
  | error fault => exact h

theorem Gives.map {x : Eval α} {f : α → β} {P : α → Prop} {Q : β → Prop} (h : Gives x P)
    (hf : ∀ a, P a → Q (f a)) : Gives (f <$> x) Q := by
  cases x with
  | ok a => exact hf a h
  | error fault => exact h

/-- A value that has each of several properties has them all. -/
theorem Gives.all {ι : Type} {x : Eval α} {s : ι → Prop} {P : ι → α → Prop} {i : ι} (hi : s i)
    (h : ∀ i, s i → Gives x (P i)) : Gives x fun a => ∀ i, s i → P i a := by
  cases x with
  | ok a => exact h
  | error fault => exact h i hi

/-- A value, or an ambiguous name. -/
theorem Gives.cases {x : Eval α} {P : α → Prop} (h : Gives x P) :
    (∃ name, x = .error (.ambiguous name)) ∨ ∃ a, x = .ok a ∧ P a := by
  cases x with
  | ok a => exact .inr ⟨a, rfl, h⟩
  | error fault =>
    obtain ⟨name, rfl⟩ := h
    exact .inl ⟨name, rfl⟩

/-- A candidate is picked unless there are others. -/
theorem gives_only {name : String} {candidates : List α} {a : α} (h : a ∈ candidates) :
    Gives (only name candidates) (· = a) := by
  cases candidates with
  | nil => exact absurd h List.not_mem_nil
  | cons candidate rest =>
    cases rest with
    | nil => exact (List.mem_singleton.1 h).symm
    | cons _ _ => exact ⟨name, rfl⟩

/-! ## Gathering -/

theorem gather_ok {f : α → Eval (List β)} {g : α → List β} {l : List α}
    (h : ∀ a ∈ l, f a = .ok (g a)) : gather f l = .ok (l.flatMap g) := by
  induction l with
  | nil => rfl
  | cons a rest ih =>
    have hrest := ih fun b hb => h b (List.mem_cons_of_mem a hb)
    rw [gather, h a (List.mem_cons_self ..), hrest, List.flatMap_cons]
    rfl

theorem gather_singleton (f : α → Eval (List β)) (a : α) : gather f [a] = f a := by
  rw [gather, gather]
  cases f a with
  | ok bs => exact congrArg Except.ok (List.append_nil bs)
  | error fault => rfl

theorem gather_map {γ : Type} (f : β → Eval (List γ)) (g : α → β) (l : List α) :
    gather f (l.map g) = gather (fun a => f (g a)) l := by
  induction l with
  | nil => rfl
  | cons a rest ih => rw [List.map_cons, gather, gather, ih]

/-- Gathering one element for each that is kept, and none for the others. -/
theorem gives_gather_filter {f : α → Eval (List β)} {keep : α → Bool} {R : α → β → Prop} {l : List α}
    (h : ∀ a ∈ l, Gives (f a) fun bs => if keep a then ∃ b, bs = [b] ∧ R a b else bs = []) :
    Gives (gather f l) fun bs => List.Forall₂ R (l.filter keep) bs := by
  induction l with
  | nil => exact List.Forall₂.nil
  | cons a rest ih =>
    have hrest := ih fun c hc => h c (List.mem_cons_of_mem a hc)
    rw [gather]
    refine (h a (List.mem_cons_self ..)).bind fun first hfirst => hrest.bind fun bs hbs => ?_
    cases hkeep : keep a with
    | true =>
      rw [if_pos hkeep] at hfirst
      obtain ⟨b, rfl, hb⟩ := hfirst
      rw [List.filter_cons_of_pos hkeep]
      exact hbs.cons hb
    | false =>
      have hdrop : ¬ keep a = true := by simp [hkeep]
      rw [if_neg hdrop] at hfirst
      obtain rfl := hfirst
      rw [List.filter_cons_of_neg hdrop]
      exact hbs

/-- Gathering one element for each of a list that is known by what it is related to. -/
theorem gives_gather_forall₂ {γ : Type} {f : β → Eval (List γ)} {S : α → β → Prop}
    {R : α → γ → Prop} {as : List α} {bs : List β} (hS : List.Forall₂ S as bs)
    (h : ∀ a b, S a b → Gives (f b) fun cs => ∃ c, cs = [c] ∧ R a c) :
    Gives (gather f bs) fun cs => List.Forall₂ R as cs := by
  induction hS with
  | nil => exact List.Forall₂.nil
  | cons hfirst _ ih =>
    rw [gather]
    refine (h _ _ hfirst).bind ?_
    rintro _ ⟨c, rfl, hc⟩
    exact ih.bind fun cs hcs => .cons hc hcs

end EntitySql
