import EntitySql.Fault
import Mathlib.Data.List.Forall2

/-!
# Successful computations

When computations that may fail succeed, step by step.

* `bind_eq_ok` takes a sequence apart, `mapM_eq_ok` and `mapM_eq_map` the same computation over a list;
  `bind_eq_map`, `bind_eq_map_bind` and `mapM_eq_map_mapM` compare two of them step by step.
  `exists_of_mapM_eq_error` finds the first failure.
* `exists_of_mem_right`, `exists_of_mem_left` and `nodup_of_forall₂` are about the lists that it
  relates, `forall₂_comp` about two such steps.
* `foldlM_reaches` runs a fold whose steps succeed, and collects what each of them brings about;
  `foldlM_keeps` says what a fold leaves that did succeed, `foldlM_eq_ok` what it has folded, and
  `exists_of_foldlM_eq_error` finds the first failure.
* `toOption_eq_some`, `decoded_eq_ok`, `decoded_mapM` and `mapM_eq_some` are about values that may not
  decode.
-/

namespace EntitySql

set_option autoImplicit false

variable {ε α β γ : Type}

theorem bind_eq_ok {x : Except ε α} {f : α → Except ε β} {b : β} :
    x >>= f = .ok b ↔ ∃ a, x = .ok a ∧ f a = .ok b := by
  cases x with
  | ok a =>
    constructor
    · intro h
      exact ⟨a, rfl, h⟩
    · rintro ⟨_, ha, h⟩
      cases ha
      exact h
  | error fault =>
    constructor
    · intro h
      cases h
    · rintro ⟨_, ha, _⟩
      cases ha

/-- Sequences whose parts are related by functions are so related. -/
theorem bind_eq_map {α' β' : Type} {x : Except ε α} {y : Except ε α'} {f : α → Except ε β}
    {f' : α' → Except ε β'} {g : α → α'} {k : β → β'} (hy : y = x.map g)
    (hf : ∀ a, f' (g a) = (f a).map k) : y >>= f' = (x >>= f).map k := by
  rw [hy]
  cases x with
  | ok a => exact hf a
  | error fault => rfl

/-- A sequence whose last steps are changed. -/
theorem bind_eq_map_bind {β' : Type} {x : Except ε α} {f : α → Except ε β} {f' : α → Except ε β'}
    {k : β → β'} (hf : ∀ a, f' a = (f a).map k) : x >>= f' = (x >>= f).map k :=
  bind_eq_map (congrFun Except.map_id x).symm hf

theorem pure_eq_ok {a b : α} : (pure a : Except ε α) = .ok b ↔ a = b := by
  rw [pure, Applicative.toPure]
  exact Except.ok.injEq a b ▸ Iff.rfl

@[simp] theorem throw_ne_ok {fault : ε} {a : α} : ¬ (throw fault : Except ε α) = .ok a := by
  intro h
  cases h

theorem mapM_eq_ok {f : α → Except ε β} {as : List α} {bs : List β} :
    as.mapM f = .ok bs ↔ List.Forall₂ (fun a b => f a = .ok b) as bs := by
  induction as generalizing bs with
  | nil =>
    rw [List.mapM_nil, pure_eq_ok, List.forall₂_nil_left_iff, eq_comm]
  | cons a as ih =>
    rw [List.mapM_cons, bind_eq_ok]
    constructor
    · rintro ⟨b, hb, h⟩
      obtain ⟨rest, hrest, h⟩ := bind_eq_ok.1 h
      obtain rfl := pure_eq_ok.1 h
      exact (ih.1 hrest).cons hb
    · intro h
      cases h with
      | cons hb hrest => exact ⟨_, hb, bind_eq_ok.2 ⟨_, ih.2 hrest, rfl⟩⟩

theorem exists_mapM_eq_ok_iff {f : α → Except ε β} {as : List α} :
    (∃ bs, as.mapM f = .ok bs) ↔ ∀ a ∈ as, ∃ b, f a = .ok b := by
  induction as with
  | nil => exact iff_of_true ⟨[], rfl⟩ (List.forall_mem_nil _)
  | cons a rest ih =>
    rw [List.forall_mem_cons, ← ih, List.mapM_cons]
    constructor
    · rintro ⟨bs, hbs⟩
      obtain ⟨b, hb, hbs⟩ := bind_eq_ok.1 hbs
      obtain ⟨others, hothers, -⟩ := bind_eq_ok.1 hbs
      exact ⟨⟨b, hb⟩, others, hothers⟩
    · rintro ⟨⟨b, hb⟩, others, hothers⟩
      exact ⟨b :: others, bind_eq_ok.2 ⟨b, hb, bind_eq_ok.2 ⟨others, hothers, rfl⟩⟩⟩

/-- What fails over a list fails at its first element that fails. -/
theorem exists_of_mapM_eq_error {f : α → Except ε β} {as : List α} {fault : ε}
    (h : as.mapM f = .error fault) :
    ∃ done a rest, as = done ++ a :: rest ∧ (∀ a' ∈ done, ∃ b, f a' = .ok b) ∧
      f a = .error fault := by
  induction as with
  | nil => cases h
  | cons a as ih =>
    rw [List.mapM_cons] at h
    cases hfirst : f a with
    | error other =>
      rw [hfirst] at h
      cases h
      exact ⟨[], a, as, rfl, fun a' hmem => absurd hmem List.not_mem_nil, hfirst⟩
    | ok b =>
      cases hrest : as.mapM f with
      | ok bs =>
        rw [hfirst, hrest] at h
        cases h
      | error other =>
        rw [hfirst, hrest] at h
        cases h
        obtain ⟨done, a', rest, rfl, hdone, hfault⟩ := ih hrest
        exact ⟨a :: done, a', rest, rfl, List.forall_mem_cons.2 ⟨⟨b, hfirst⟩, hdone⟩, hfault⟩

theorem exists_of_mem_right {α β : Type} {R : α → β → Prop} {as : List α} {bs : List β}
    (h : List.Forall₂ R as bs) {b : β} (hb : b ∈ bs) : ∃ a ∈ as, R a b := by
  induction h with
  | nil => exact absurd hb List.not_mem_nil
  | cons hR _ ih =>
    rcases List.mem_cons.1 hb with rfl | hmem
    · exact ⟨_, List.mem_cons_self .., hR⟩
    · obtain ⟨a, ha, hab⟩ := ih hmem
      exact ⟨a, List.mem_cons_of_mem _ ha, hab⟩

theorem exists_of_mem_left {α β : Type} {R : α → β → Prop} {as : List α} {bs : List β}
    (h : List.Forall₂ R as bs) {a : α} (ha : a ∈ as) : ∃ b ∈ bs, R a b :=
  exists_of_mem_right h.flip ha

theorem forall₂_comp {R : α → β → Prop} {S : β → γ → Prop} {T : α → γ → Prop} {as : List α}
    {bs : List β} {cs : List γ} (h : List.Forall₂ R as bs) (h' : List.Forall₂ S bs cs)
    (hcomp : ∀ a b c, R a b → S b c → T a c) : List.Forall₂ T as cs := by
  induction h generalizing cs with
  | nil =>
    cases h'
    exact .nil
  | cons hab _ ih =>
    cases h' with
    | cons hbc hrest => exact .cons (hcomp _ _ _ hab hbc) (ih hrest)

theorem mapM_eq_map {f : α → Except ε β} {g : α → β} {as : List α}
    (h : ∀ a ∈ as, f a = .ok (g a)) : as.mapM f = .ok (as.map g) := by
  rw [mapM_eq_ok, List.forall₂_map_right_iff, List.forall₂_same]
  exact h

/-- A list of results that are those of another computation, changed one by one. -/
theorem mapM_eq_map_mapM {f : α → Except ε β} {f' : α → Except ε γ} {g : β → γ}
    (h : ∀ a, f' a = (f a).map g) (as : List α) : as.mapM f' = (as.mapM f).map (List.map g) := by
  induction as with
  | nil => rfl
  | cons a as ih =>
    rw [List.mapM_cons, List.mapM_cons]
    exact bind_eq_map (h a) fun b => bind_eq_map ih fun bs => rfl

/-- What is related to distinct things is distinct, if nothing is related to two of them. -/
theorem nodup_of_forall₂ {α β : Type} {R : α → β → Prop} {as : List α} {bs : List β}
    (h : List.Forall₂ R as bs) (hunique : ∀ a a' b, R a b → R a' b → a = a') (has : as.Nodup) :
    bs.Nodup := by
  induction h with
  | nil => exact List.nodup_nil
  | @cons a b as bs hab hrest ih =>
    obtain ⟨hfresh, has⟩ := List.nodup_cons.1 has
    refine List.nodup_cons.2 ⟨fun hb => ?_, ih has⟩
    obtain ⟨a', ha', hab'⟩ := exists_of_mem_right hrest hb
    exact hfresh (hunique a a' b hab hab' ▸ ha')

/-- A fold whose steps succeed and keep `P` succeeds. If the step of an element brings about the
element's `Q` and keeps that of all others, the fold brings about all of them. -/
theorem foldlM_reaches {f : β → α → Except ε β} {P : β → Prop} {Q : α → β → Prop} {as : List α}
    {b : β} (hb : P b) (hstep : ∀ c, ∀ a ∈ as, P c →
      ∃ c', f c a = .ok c' ∧ P c' ∧ Q a c' ∧ ∀ a', Q a' c → Q a' c') :
    ∃ b', as.foldlM f b = .ok b' ∧ P b' ∧ (∀ a ∈ as, Q a b') ∧ ∀ a', Q a' b → Q a' b' := by
  induction as generalizing b with
  | nil =>
    refine ⟨b, ?_, hb, fun a ha => absurd ha List.not_mem_nil, fun a' h => h⟩
    rw [List.foldlM_nil]
    rfl
  | cons a as ih =>
    obtain ⟨c, hc, hPc, hQc, hkept⟩ := hstep b a (List.mem_cons_self ..) hb
    obtain ⟨b', hb', hPb', hQb', hkept'⟩ :=
      ih hPc fun d a' ha' => hstep d a' (List.mem_cons_of_mem a ha')
    refine ⟨b', ?_, hPb', ?_, fun a' h => hkept' a' (hkept a' h)⟩
    · rw [List.foldlM_cons]
      exact bind_eq_ok.2 ⟨c, hc, hb'⟩
    · exact List.forall_mem_cons.2 ⟨hkept' a hQc, hQb'⟩

/-- What each step keeps, if it succeeds, a fold keeps that succeeds. -/
theorem foldlM_keeps {f : β → α → Except ε β} {P : β → Prop} {as : List α} {b b' : β}
    (hstep : ∀ c, ∀ a ∈ as, ∀ c', f c a = .ok c' → P c → P c') (h : as.foldlM f b = .ok b')
    (hb : P b) : P b' := by
  induction as generalizing b with
  | nil =>
    obtain rfl := pure_eq_ok.1 h
    exact hb
  | cons a as ih =>
    rw [List.foldlM_cons] at h
    obtain ⟨c, hc, hrest⟩ := bind_eq_ok.1 h
    have hPc := hstep b a (List.mem_cons_self ..) c hc hb
    exact ih (fun d a' ha' => hstep d a' (List.mem_cons_of_mem a ha')) hrest hPc

/-- A fold whose steps first read an element succeeds if all elements can be read, and folds what is
read. -/
theorem foldlM_eq_ok {f : β → α → Except ε β} {R : α → γ → Prop} {g : β → γ → β}
    (hstep : ∀ b a b', f b a = .ok b' ↔ ∃ c, R a c ∧ b' = g b c) {as : List α} {b b' : β} :
    as.foldlM f b = .ok b' ↔ ∃ cs, List.Forall₂ R as cs ∧ b' = cs.foldl g b := by
  induction as generalizing b with
  | nil =>
    simp only [List.foldlM_nil, pure_eq_ok, List.forall₂_nil_left_iff, exists_eq_left, List.foldl_nil]
    exact eq_comm
  | cons a as ih =>
    simp only [List.foldlM_cons, bind_eq_ok, hstep, ih, List.forall₂_cons_left_iff]
    constructor
    · rintro ⟨_, ⟨c, hc, rfl⟩, cs, hcs, rfl⟩
      exact ⟨c :: cs, ⟨c, cs, hc, hcs, rfl⟩, rfl⟩
    · rintro ⟨_, ⟨c, cs, hc, hcs, rfl⟩, rfl⟩
      exact ⟨_, ⟨c, hc, rfl⟩, cs, hcs, rfl⟩

/-- A fold that fails does so at the first element whose step fails. -/
theorem exists_of_foldlM_eq_error {f : β → α → Except ε β} {as : List α} {b : β} {fault : ε}
    (h : as.foldlM f b = .error fault) :
    ∃ done a rest c, as = done ++ a :: rest ∧ done.foldlM f b = .ok c ∧ f c a = .error fault := by
  induction as generalizing b with
  | nil => cases h
  | cons a as ih =>
    rw [List.foldlM_cons] at h
    cases hfirst : f b a with
    | error other =>
      rw [hfirst] at h
      cases h
      exact ⟨[], a, as, b, rfl, rfl, hfirst⟩
    | ok b₁ =>
      rw [hfirst] at h
      obtain ⟨done, a', rest, c, rfl, hdone, hfault⟩ := ih h
      refine ⟨a :: done, a', rest, c, rfl, ?_, hfault⟩
      rw [List.foldlM_cons]
      exact bind_eq_ok.2 ⟨b₁, hfirst, hdone⟩

/-! ## Decoded values -/

theorem toOption_eq_some {result : Except ε α} {a : α} : result.toOption = some a ↔ result = .ok a := by
  cases result with
  | error fault => exact iff_of_false nofun nofun
  | ok b => simp [Except.toOption]

theorem decoded_eq_ok {value : Option α} {a : α} : Result.decoded value = .ok a ↔ value = some a := by
  cases value with
  | none => simp [Result.decoded]
  | some b => simp [Result.decoded]

theorem eq_undecodable_of_decoded {value : Option α} {fault : Fault}
    (h : Result.decoded value = .error fault) : fault = .undecodable := by
  cases value with
  | none => exact (Except.error.inj h).symm
  | some a => cases h

theorem decoded_mapM (f : α → Option β) (as : List α) :
    Result.decoded (as.mapM f) = as.mapM fun a => Result.decoded (f a) := by
  induction as with
  | nil => rfl
  | cons a as ih =>
    rw [List.mapM_cons, List.mapM_cons, ← ih]
    cases f a with
    | none => rfl
    | some b => cases as.mapM f <;> rfl

theorem mapM_eq_some {f : α → Option β} {as : List α} {bs : List β} :
    as.mapM f = some bs ↔ List.Forall₂ (fun a b => f a = some b) as bs := by
  rw [← decoded_eq_ok, decoded_mapM, mapM_eq_ok]
  simp only [decoded_eq_ok]

end EntitySql
