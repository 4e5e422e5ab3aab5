import EntitySql.Proofs.Compile.Labels

/-!
# Aliases taken one after another

What a sequence of requests for aliases is given, whatever the prefixes are: they may contain underscores
and digits, and one may begin or end as another does.

* `Aliases.nextAll` takes an alias of each prefix of a list, in order.
* `Aliases.count_next_add` is one request: what it adds to the count of its prefix, it takes from the
  requests that are left.
* By induction, a sequence counts each prefix as often as it occurs (`Aliases.count_nextAll`), takes no
  alias twice (`Aliases.taken_nextAll`) and numbers its aliases by the requests before them
  (`Aliases.nextAll_eq_mapIdx`). `Aliases.nextAll_distinct` is what this comes to at the start, where
  nothing has been taken.
-/

namespace EntitySql

set_option autoImplicit false

namespace Aliases

/-- Takes an alias of each prefix, one after another. -/
def nextAll (stems : List String) : StateM Aliases (List String) :=
  stems.mapM fun stem => modifyGet (next stem)

theorem run_nextAll_cons (stem : String) (rest : List String) (s : Aliases) :
    (nextAll (stem :: rest)).run s =
      (name stem (s.count stem) :: ((nextAll rest).run (next stem s).2).1,
        ((nextAll rest).run (next stem s).2).2) := by
  rw [nextAll, List.mapM_cons]
  rfl

theorem count_next_add (first stem : String) (rest : List String) (s : Aliases) :
    (next first s).2.count stem + rest.count stem =
      s.count stem + (first :: rest).count stem := by
  by_cases heq : first = stem
  · subst heq
    rw [count_next, if_pos rfl, List.count_cons_self]
    omega
  · rw [count_next, if_neg heq, List.count_cons_of_ne heq]

theorem count_nextAll (stems : List String) (s : Aliases) (stem : String) :
    ((nextAll stems).run s).2.count stem = s.count stem + stems.count stem := by
  induction stems generalizing s with
  | nil => rfl
  | cons first rest ih => rw [run_nextAll_cons, ih, count_next_add]

/-- The aliases of a sequence are taken between its two states, each once. -/
theorem taken_nextAll (stems : List String) (s : Aliases) :
    Taken s ((nextAll stems).run s).2 ((nextAll stems).run s).1 := by
  induction stems generalizing s with
  | nil => exact Taken.nil s
  | cons stem rest ih =>
    rw [run_nextAll_cons]
    exact (Taken.next stem s).append (ih _)

/-- A request is numbered by what has been counted of its prefix at the beginning, and by the requests for
the prefix since. -/
theorem nextAll_eq_mapIdx (stems : List String) (s : Aliases) :
    ((nextAll stems).run s).1 =
      stems.mapIdx fun call stem => name stem (s.count stem + (stems.take call).count stem) := by
  induction stems generalizing s with
  | nil => rfl
  | cons first rest ih =>
    rw [run_nextAll_cons, List.mapIdx_cons, ih]
    -- a later request has the first one before it, which the state after it has counted already
    simp only [List.take_zero, List.count_nil, Nat.add_zero, List.take_succ_cons, count_next_add]

/-- Where nothing has been taken before, the aliases of a sequence are all different, whatever is asked for
and in whatever order. The request for a prefix that comes after `n` others for it is given the prefix, an
underscore and `n`; and in the end each prefix has been counted as often as it was asked for. -/
theorem nextAll_distinct (stems : List String) :
    let taken := (nextAll stems).run {}
    taken.1.Nodup ∧
      taken.1 = stems.mapIdx (fun call stem =>
        stem ++ "_" ++ toString ((stems.take call).count stem)) ∧
      ∀ stem, taken.2.count stem = stems.count stem := by
  intro taken
  have hnew : ∀ stem, ({} : Aliases).count stem = 0 := fun _ => rfl
  refine ⟨(taken_nextAll stems {}).nodup, ?_, fun stem => ?_⟩
  · rw [nextAll_eq_mapIdx]
    simp only [hnew, Nat.zero_add, name]
  · rw [count_nextAll, hnew, Nat.zero_add]

example : ((nextAll ["w", "w_1", "w", "root.base", "w_1", "base"]).run {}).1 =
    ["w_0", "w_1_0", "w_1", "root.base_0", "w_1_1", "base_0"] := by
  decide +kernel

end Aliases

end EntitySql
