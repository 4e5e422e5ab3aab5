/-!
# Three truth values

The logic of conditions over data that may be absent: a comparison with an absent value is neither
true nor false.

* `Truth.and` and `Truth.or` are the connectives, `Truth.all` and `Truth.any` their lists.
* A row is kept when its condition holds; see `Truth.all_eq_holds`.
-/

namespace EntitySql

set_option autoImplicit false

inductive Truth where
  | fails
  | unknown
  | holds
deriving DecidableEq, Repr

namespace Truth

/-- The conjunction: the lower of the two. -/
def and : Truth → Truth → Truth
  | fails, _ => fails
  | unknown, fails => fails
  | unknown, _ => unknown
  | holds, other => other

/-- The disjunction: the higher of the two. -/
def or : Truth → Truth → Truth
  | holds, _ => holds
  | unknown, holds => holds
  | unknown, _ => unknown
  | fails, other => other

def all (truths : List Truth) : Truth :=
  truths.foldr and holds

def any (truths : List Truth) : Truth :=
  truths.foldr or fails

/-- The truth value of a decided statement. -/
def ofBool : Bool → Truth
  | true => holds
  | false => fails

/-! ## Connectives -/

@[simp] theorem holds_and (t : Truth) : holds.and t = t := rfl

@[simp] theorem and_holds (t : Truth) : t.and holds = t := by
  cases t <;> rfl

theorem and_assoc (a b c : Truth) : (a.and b).and c = a.and (b.and c) := by
  cases a <;> cases b <;> cases c <;> rfl

theorem and_eq_holds (a b : Truth) : a.and b = holds ↔ a = holds ∧ b = holds := by
  cases a <;> cases b <;> decide

@[simp] theorem ofBool_eq_holds (b : Bool) : ofBool b = holds ↔ b = true := by
  cases b <;> decide

/-! ## Lists -/

@[simp] theorem all_nil : all [] = holds := rfl

@[simp] theorem all_cons (t : Truth) (ts : List Truth) : all (t :: ts) = t.and (all ts) := rfl

@[simp] theorem any_cons (t : Truth) (ts : List Truth) : any (t :: ts) = t.or (any ts) := rfl

theorem all_append (ts us : List Truth) : all (ts ++ us) = (all ts).and (all us) := by
  induction ts with
  | nil => rfl
  | cons t ts ih => rw [List.cons_append, all_cons, ih, all_cons, and_assoc]

/-- A conjunction holds when all its parts do. -/
theorem all_eq_holds (ts : List Truth) : all ts = holds ↔ ∀ t ∈ ts, t = holds := by
  induction ts with
  | nil => simp
  | cons t ts ih => rw [all_cons, and_eq_holds, ih, List.forall_mem_cons]

end Truth

end EntitySql
