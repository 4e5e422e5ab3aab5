import EntitySql.Proofs.Relational.Documents
import Mathlib.Data.List.Sort

/-!
# Rows in order

What an engine does when rows are asked for in an order.

* `Direction.Precedes` orders two values as the engine compares them, absent ones last, and
  `Engine.Precedes` orders lists of values by the first that differ.
* `Engine.Ranks` says that the engine lists no row behind one that it precedes. Rows neither of
  which precedes the other are listed in any order.
* `Engine.sorting` is an engine that sorts rows by insertion. It ranks them if its comparisons order
  the values (`Engine.ranks_sorting`), and leaves them as they are when it is asked for no order
  (`Engine.delivery_sorting`).
-/

namespace EntitySql

set_option autoImplicit false

variable {V α : Type}

/-- Whether a value comes strictly before another one. Absent values come last. -/
def Direction.Precedes (engine : Engine V) : Direction → V → V → Prop
  | .asc, v, w => v ≠ engine.null ∧ (w = engine.null ∨ engine.compare .lt v [w] = .holds)
  | .desc, v, w => v ≠ engine.null ∧ (w = engine.null ∨ engine.compare .lt w [v] = .holds)

/-- Whether values come strictly before others, by the first direction in which one of the two
precedes the other. Values that are missing are absent. -/
def Engine.Precedes (engine : Engine V) : List Direction → List V → List V → Prop
  | [], _, _ => False
  | direction :: directions, values, others =>
    let v := values.headD engine.null
    let w := others.headD engine.null
    direction.Precedes engine v w ∨ (¬ direction.Precedes engine w v ∧
      engine.Precedes directions values.tail others.tail)

/-- The engine lists rows so that none stands behind one that it precedes. -/
def Engine.Ranks (engine : Engine V) : Prop :=
  ∀ {α : Type} (directions : List Direction) (rows : List (List V × α)),
    (engine.arrange directions rows).Pairwise fun row other =>
      ¬ engine.Precedes directions other.1 row.1

/-- What is sorted by values that belong to the elements of a list is what belongs to the elements
in such an order. -/
theorem Engine.Ranks.sorted {engine : Engine V} (h : engine.Ranks) {β : Type}
    (order : List SortItem) {R : α → β → Prop} {values : α → List V} {elements : List α}
    {pairs : List (List V × β)}
    (hpairs : List.Forall₂ (fun a pair => pair.1 = values a ∧ R a pair.2) elements pairs) :
    ∃ sorted : List α, sorted.Perm elements ∧
      (sorted.Pairwise fun a b =>
        ¬ engine.Precedes (order.map SortItem.direction) (values b) (values a)) ∧
          List.Forall₂ R sorted (engine.sorted order pairs) := by
  obtain ⟨sorted, hsorted, harranged⟩ :=
    exists_perm_of_forall₂ hpairs (engine.arrange_perm (order.map SortItem.direction) pairs)
  refine ⟨sorted, hsorted, ?_, List.forall₂_map_right_iff.2 (harranged.imp fun a pair h => h.2)⟩
  have hvalues : sorted.map values =
      (engine.arrange (order.map SortItem.direction) pairs).map Prod.fst := by
    rw [← List.forall₂_eq_eq_eq, List.forall₂_map_left_iff, List.forall₂_map_right_iff]
    exact harranged.imp fun a pair h => h.1.symm
  rw [← List.pairwise_map (R := fun (v w : List V) =>
    ¬ engine.Precedes (order.map SortItem.direction) w v), hvalues, List.pairwise_map]
  exact h _ _

/-! ## An engine that sorts -/

/-- Comparisons that order the values: what is strictly less is not greater, and any value is greater
than the lesser of the two or less than the greater. -/
structure Engine.Orders (engine : Engine V) : Prop where
  asymm : ∀ v w, engine.compare .lt v [w] = .holds → engine.compare .lt w [v] ≠ .holds
  split : ∀ u v w, v ≠ engine.null → engine.compare .lt u [w] = .holds →
    engine.compare .lt u [v] = .holds ∨ engine.compare .lt v [w] = .holds

theorem Direction.Precedes.asymm {engine : Engine V} (h : engine.Orders) {direction : Direction}
    {v w : V} (hprecedes : direction.Precedes engine v w) : ¬ direction.Precedes engine w v := by
  rintro hback
  cases direction with
  | asc =>
    obtain ⟨hv, hw | hless⟩ := hprecedes
    · exact hback.1 hw
    · exact hback.2.elim hv (h.asymm v w hless)
  | desc =>
    obtain ⟨hv, hw | hless⟩ := hprecedes
    · exact hback.1 hw
    · exact hback.2.elim hv (h.asymm w v hless)

theorem Direction.Precedes.split {engine : Engine V} (h : engine.Orders) {direction : Direction}
    {u w : V} (hprecedes : direction.Precedes engine u w) (v : V) :
    direction.Precedes engine u v ∨ direction.Precedes engine v w := by
  by_cases hv : v = engine.null
  · left
    cases direction with
    | asc => exact ⟨hprecedes.1, .inl hv⟩
    | desc => exact ⟨hprecedes.1, .inl hv⟩
  · cases direction with
    | asc =>
      obtain ⟨hu, hw | hless⟩ := hprecedes
      · exact .inr ⟨hv, .inl hw⟩
      · exact (h.split u v w hv hless).imp (fun h => ⟨hu, .inr h⟩) fun h => ⟨hv, .inr h⟩
    | desc =>
      obtain ⟨hu, hw | hless⟩ := hprecedes
      · exact .inr ⟨hv, .inl hw⟩
      · exact (h.split w v u hv hless).symm.imp (fun h => ⟨hu, .inr h⟩) fun h => ⟨hv, .inr h⟩

namespace Engine

variable {engine : Engine V}

theorem Precedes.asymm (h : engine.Orders) {directions : List Direction} {values others : List V}
    (hprecedes : engine.Precedes directions values others) :
    ¬ engine.Precedes directions others values := by
  induction directions generalizing values others with
  | nil => exact hprecedes.elim
  | cons direction directions ih =>
    rintro (hfirst | ⟨hnot, hrest⟩)
    · exact hprecedes.elim (fun hback => hfirst.asymm h hback) fun hback => hback.1 hfirst
    · exact hprecedes.elim hnot fun hback => ih hback.2 hrest

theorem Precedes.split (h : engine.Orders) {directions : List Direction} {values others : List V}
    (hprecedes : engine.Precedes directions values others) (between : List V) :
    engine.Precedes directions values between ∨ engine.Precedes directions between others := by
  induction directions generalizing values others between with
  | nil => exact hprecedes.elim
  | cons direction directions ih =>
    let v := between.headD engine.null
    rcases hprecedes with hfirst | ⟨hnot, hrest⟩
    · exact (hfirst.split h v).imp .inl .inl
    · by_cases hvalues : direction.Precedes engine (values.headD engine.null) v
      · exact .inl (.inl hvalues)
      · by_cases hothers : direction.Precedes engine v (others.headD engine.null)
        · exact .inr (.inl hothers)
        · -- the first value ties with both, so that the rest decides
          refine (ih hrest between.tail).imp (fun hrest => .inr ⟨fun hback => ?_, hrest⟩)
            fun hrest => .inr ⟨fun hback => ?_, hrest⟩
          · exact (hback.split h (others.headD engine.null)).elim hothers hnot
          · exact (hback.split h (values.headD engine.null)).elim hnot hvalues

section

variable [DecidableEq V]

instance : (direction : Direction) → (v w : V) → Decidable (direction.Precedes engine v w)
  | .asc, _, _ => inferInstanceAs (Decidable (_ ∧ _))
  | .desc, _, _ => inferInstanceAs (Decidable (_ ∧ _))

instance decidablePrecedes : (directions : List Direction) → (values others : List V) →
    Decidable (engine.Precedes directions values others)
  | [], _, _ => inferInstanceAs (Decidable False)
  | _ :: directions, values, others =>
    have := decidablePrecedes directions values.tail others.tail
    inferInstanceAs (Decidable (_ ∨ (¬ _ ∧ _)))

/-- The engine with the same comparisons that sorts rows by insertion. -/
def sorting (engine : Engine V) : Engine V where
  __ := engine
  arrange directions rows :=
    rows.insertionSort fun row other => ¬ engine.Precedes directions other.1 row.1
  arrange_perm _ rows := List.perm_insertionSort _ rows

theorem sorting_precedes (directions : List Direction) (values others : List V) :
    engine.sorting.Precedes directions values others ↔
      engine.Precedes directions values others := by
  induction directions generalizing values others with
  | nil => exact Iff.rfl
  | cons direction directions ih => exact or_congr Iff.rfl (and_congr Iff.rfl (ih _ _))

/-- Without directions no row has to move. -/
theorem delivery_sorting {β : Type} (rows : List β) : engine.sorting.delivery rows = rows := by
  have hkept : engine.sorting.arrange [] (rows.map fun row => (([] : List V), row)) =
      rows.map fun row => ([], row) := by
    induction rows with
    | nil => rfl
    | cons row rest ih =>
      refine (congrArg (List.orderedInsert _ _) ih).trans ?_
      cases rest with
      | nil => rfl
      | cons other rest => exact if_pos id
  rw [delivery, sorted, List.map_nil, hkept, List.map_map]
  exact List.map_id _

theorem oblivious_sorting : engine.sorting.Oblivious := by
  intro β γ f rows
  rw [delivery_sorting, delivery_sorting]

theorem ranks_sorting (h : engine.Orders) : engine.sorting.Ranks := by
  intro α directions rows
  let r (row other : List V × α) : Prop := ¬ engine.Precedes directions other.1 row.1
  have htotal : Std.Total r := ⟨fun row other => by
    by_cases hrow : engine.Precedes directions other.1 row.1
    · exact .inr (hrow.asymm h)
    · exact .inl hrow⟩
  have htrans : IsTrans (List V × α) r := ⟨fun row other last hfirst hsecond hback =>
    (hback.split h other.1).elim hsecond hfirst⟩
  refine (List.pairwise_insertionSort r rows).imp fun {row other} hrow hback => ?_
  exact hrow ((sorting_precedes ..).1 hback)

end

end Engine

end EntitySql
