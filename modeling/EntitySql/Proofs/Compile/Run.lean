import EntitySql.Compile.Filter
import Mathlib.Order.Defs.PartialOrder

/-!
# Runs of compilations

What a computation on a state that succeeds comes to, step by step, and which aliases a compilation
can have taken.

* `Yields x s a s'` says that the computation gives `a` and takes the state from `s` to `s'`: the
  aliases of a compilation, the values bound so far.
* `yields_bind` and its like take a run apart.
* `Succeeds x s` says that the computation gives something from `s`, which is to say that it does not
  fail (`succeeds_iff_ne_error`).
* Aliases are ordered by how many have been taken under each prefix; those of one prefix differ by
  their numbers (`Aliases.name_injective`), those of two prefixes by their first letter
  (`Aliases.name_ne_name`).
-/

namespace EntitySql

set_option autoImplicit false

/-! ## Aliases -/

namespace Aliases

theorem name_injective {stem : String} {m n : Nat} (h : name stem m = name stem n) : m = n := by
  have htext := congrArg String.toList h
  simp only [name, String.toList_append, Nat.toString_eq_ofList_toDigits,
    String.toList_ofList] at htext
  have hdigits := List.append_cancel_left htext
  rw [← Nat.ofDigitChars_ten_toDigits (n := m), hdigits, Nat.ofDigitChars_ten_toDigits]

/-- Aliases of prefixes that begin with different letters are different. -/
theorem name_ne_name {stem other : String} {c d : Char} (hstem : stem.toList.head? = some c)
    (hother : other.toList.head? = some d) (h : c ≠ d) (m n : Nat) :
    name stem m ≠ name other n := by
  intro heq
  have hhead := congrArg (fun text => text.toList.head?) heq
  simp only [name, String.toList_append, List.head?_append, hstem, hother, Option.some_or,
    Option.some.injEq] at hhead
  exact h hhead

/-- Text that begins with another letter than a prefix is none of its aliases. -/
theorem ne_name {stem text : String} (h : text.toList.head? ≠ (stem ++ "_").toList.head?)
    (number : Nat) : text ≠ name stem number := by
  rintro rfl
  refine h ?_
  simp only [name, String.toList_append, List.head?_append]
  cases stem.toList.head? <;> rfl

instance : Preorder Aliases where
  le s s' := ∀ stem, s.count stem ≤ s'.count stem
  le_refl s stem := Nat.le_refl _
  le_trans s s' s'' h h' stem := Nat.le_trans (h stem) (h' stem)

theorem count_next (stem other : String) (s : Aliases) :
    (next stem s).2.count other = if stem = other then s.count stem + 1 else s.count other := by
  simp only [next, count, Assoc.get?_insert]
  split <;> rfl

theorem le_next (stem : String) (s : Aliases) : s ≤ (next stem s).2 := by
  intro other
  rw [count_next]
  split
  · next h => rw [h]; omega
  · exact Nat.le_refl _

theorem count_lt_next (stem : String) (s : Aliases) :
    s.count stem < (next stem s).2.count stem := by
  rw [count_next, if_pos rfl]
  omega

/-- The name is none that the prefix will give. -/
def Avoids (s : Aliases) (stem label : String) : Prop :=
  ∀ number, s.count stem ≤ number → label ≠ name stem number

theorem Avoids.mono {s s' : Aliases} {stem label : String} (h : s.Avoids stem label)
    (hle : s ≤ s') : s'.Avoids stem label := by
  intro number hnumber
  exact h number (Nat.le_trans (hle stem) hnumber)

/-- An alias that has been taken is not given again. -/
theorem avoids_next (stem : String) (s : Aliases) :
    (next stem s).2.Avoids stem (name stem (s.count stem)) := by
  intro number hnumber heq
  have hcount := count_lt_next stem s
  have hnumber' := name_injective heq
  omega

end Aliases

/-! ## Successful runs -/

section

variable {σ α β : Type}

/-- The computation gives `a`, and takes the state from `s` to `s'`. -/
def Yields (x : ExceptT Fault (StateM σ) α) (s : σ) (a : α) (s' : σ) : Prop :=
  x.run.run s = (.ok a, s')

theorem yields_pure {a b : α} {s s' : σ} :
    Yields (pure a) s b s' ↔ b = a ∧ s' = s := by
  change ((.ok a : Except Fault α), s) = (.ok b, s') ↔ _
  rw [Prod.mk.injEq, Except.ok.injEq, eq_comm, eq_comm (a := s)]

theorem run_bind {ε : Type} (x : ExceptT ε (StateM σ) α) (f : α → ExceptT ε (StateM σ) β) (s : σ) :
    (x >>= f).run.run s = match x.run.run s with
      | (.ok a, s₁) => (f a).run.run s₁
      | (.error fault, s₁) => (.error fault, s₁) := by
  simp only [ExceptT.run_bind, StateT.run_bind]
  obtain ⟨result, s₁⟩ := x.run.run s
  cases result <;> rfl

theorem yields_bind {x : ExceptT Fault (StateM σ) α} {f : α → ExceptT Fault (StateM σ) β}
    {s s' : σ} {b : β} :
    Yields (x >>= f) s b s' ↔ ∃ a s₁, Yields x s a s₁ ∧ Yields (f a) s₁ b s' := by
  simp only [Yields, run_bind]
  obtain ⟨result, s₁⟩ := x.run.run s
  cases result with
  | ok a =>
    constructor
    · intro h
      exact ⟨a, s₁, rfl, h⟩
    · rintro ⟨a', s₁', heq, h⟩
      cases heq
      exact h
  | error fault =>
    constructor
    · intro h
      cases h
    · rintro ⟨a', s₁', heq, h⟩
      cases heq

theorem fst_eq_ok {x : ExceptT Fault (StateM σ) α} {s : σ} {a : α} :
    (x.run.run s).1 = .ok a ↔ ∃ s', Yields x s a s' := by
  constructor
  · intro h
    exact ⟨(x.run.run s).2, Prod.ext h rfl⟩
  · rintro ⟨s', h⟩
    rw [h]

theorem not_yields_throw {fault : Fault} {s s' : σ} {a : α} :
    ¬ Yields (throw fault) s a s' := by
  intro h
  cases h

theorem yields_ofExcept {result : Result α} {s s' : σ} {a : α} :
    Yields (MonadExcept.ofExcept result) s a s' ↔ result = .ok a ∧ s' = s := by
  cases result with
  | ok b =>
    change Yields (pure b) s a s' ↔ _
    rw [yields_pure, Except.ok.injEq, eq_comm]
  | error fault =>
    constructor
    · intro h
      exact absurd h not_yields_throw
    · rintro ⟨h, -⟩
      cases h

/-- From the state, the computation gives something. -/
def Succeeds (x : ExceptT Fault (StateM σ) α) (s : σ) : Prop :=
  ∃ a s', Yields x s a s'

theorem succeeds_iff_ne_error {x : ExceptT Fault (StateM σ) α} {s : σ} :
    Succeeds x s ↔ ∀ fault, (x.run.run s).1 ≠ .error fault := by
  rw [Succeeds, ← exists_congr fun _ => fst_eq_ok]
  cases (x.run.run s).1 with
  | ok a => simp
  | error fault => simp

end

/-! ## Successful compilations -/

namespace Compile

theorem yields_ofResult {α : Type} {result : Result α} {s s' : Aliases} {a : α} :
    Yields (ofResult result) s a s' ↔ result = .ok a ∧ s' = s :=
  yields_ofExcept

theorem yields_fresh {stem label : String} {s s' : Aliases} :
    Yields (fresh stem) s label s' ↔
      label = Aliases.name stem (s.count stem) ∧ s' = (Aliases.next stem s).2 := by
  change ((.ok (Aliases.next stem s).1 : Except Fault String), (Aliases.next stem s).2) =
    (.ok label, s') ↔ _
  rw [Prod.mk.injEq, Except.ok.injEq]
  exact and_congr eq_comm eq_comm

end Compile

/-- A filter on a table is compiled for the source given, or for the name of the table. -/
theorem Filter.yields_compileOn {schema : Schema} {naming : Naming} {entity : String}
    {source : Option String} {filter : Filter} {s s' : Aliases} {condition : Condition}
    (h : Yields (filter.compileOn schema naming entity source) s condition s') :
    ∃ label, (∀ table, naming.table entity = .ok table → label = source.getD table) ∧
      Yields (filter.compile schema naming entity label) s condition s' := by
  unfold compileOn at h
  cases source with
  | some given =>
    obtain ⟨label, s₁, hlabel, hcompile⟩ := yields_bind.1 h
    obtain ⟨rfl, rfl⟩ := yields_pure.1 hlabel
    exact ⟨label, fun table _ => rfl, hcompile⟩
  | none =>
    obtain ⟨label, s₁, hlabel, hcompile⟩ := yields_bind.1 h
    obtain ⟨htable, rfl⟩ := Compile.yields_ofResult.1 hlabel
    refine ⟨label, fun table hfound => ?_, hcompile⟩
    rw [htable] at hfound
    exact Except.ok.inj hfound

end EntitySql
