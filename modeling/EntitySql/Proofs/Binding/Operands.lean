import EntitySql.Binding.Basic
import Mathlib.Data.List.Forall2

/-!
# Operands and their values

What becomes of the operands of a request when its values are bound.

* `Filter.operands` and `Selection.operands` list the operands of a request in the order in which they
  are bound.
* `Holds values index value` says that a placeholder stands for a value.
* `Settles x R` says what a binding computation gives, in terms of the values that the statement has in
  the end; `Settles.bind` puts it together step by step.
* `Operand.Bound` relates an operand to what it is bound to. `Operand.settles_bind` says that the binding
  of an operand gives one that it is related to.
-/

namespace EntitySql

set_option autoImplicit false

/-! ## Operands of requests -/

mutual

def Filter.operands : Filter → List Operand
  | { terms, conjuncts, alternatives } =>
    Term.operandsAll terms ++ Filter.operandsAll conjuncts ++ Filter.operandsAll alternatives
termination_by structural filter => filter

def Term.operands : Term → List Operand
  | .predicates _ predicates => predicates.map Predicate.operand
  | .nested _ filter => filter.operands
termination_by structural term => term

def Term.operandsAll : List Term → List Operand
  | [] => []
  | term :: rest => term.operands ++ Term.operandsAll rest
termination_by structural terms => terms

def Filter.operandsAll : List Filter → List Operand
  | [] => []
  | filter :: rest => filter.operands ++ Filter.operandsAll rest
termination_by structural filters => filters

end

def Filter.operandsOf : Option Filter → List Operand
  | none => []
  | some filter => filter.operands

mutual

def Selection.operands : Selection → List Operand
  | { args, manyToOne, oneToMany, .. } =>
    Filter.operandsOf args.filter ++ Selection.operandsAll manyToOne ++
      Selection.operandsAll oneToMany
termination_by structural selection => selection

def Selection.operandsAll : List Selection → List Operand
  | [] => []
  | selection :: rest => selection.operands ++ Selection.operandsAll rest
termination_by structural selections => selections

end

/-- The operand has its values, and no placeholders for them. -/
def Operand.IsLiteral : Operand → Prop
  | .value _ | .list _ | .flag _ => True
  | .param _ | .params _ => False

/-! ## Values of a statement -/

/-- The placeholder stands for the value. -/
def Holds (values : List Json) (index : Nat) (value : Json) : Prop :=
  0 < index ∧ values[index - 1]? = some value

theorem Holds.mono {values others : List Json} {index : Nat} {value : Json}
    (h : Holds values index value) (hkept : values <+: others) : Holds others index value := by
  obtain ⟨rest, rfl⟩ := hkept
  obtain ⟨hpos, hget⟩ := h
  have hlt := (List.getElem?_eq_some_iff.1 hget).1
  exact ⟨hpos, by rw [List.getElem?_append_left hlt, hget]⟩

variable {α β : Type}

/-- The computation keeps what was bound before it, and what it gives is related to the values that
the statement has in the end, whatever is bound later. -/
def Settles (x : Binding α) (R : List Json → α → Prop) : Prop :=
  ∀ before, before.values <+: (x.run before).2.values ∧
    ∀ values, (x.run before).2.values <+: values → R values (x.run before).1

namespace Settles

theorem pure {a : α} {R : List Json → α → Prop} (h : ∀ values, R values a) :
    Settles (Pure.pure a) R :=
  fun _ => ⟨List.prefix_rfl, fun values _ => h values⟩

theorem bind {x : Binding α} {f : α → Binding β} {R : List Json → α → Prop}
    {S : List Json → β → Prop} (hx : Settles x R)
    (hf : ∀ a, Settles (f a) fun values b => R values a → S values b) : Settles (x >>= f) S := by
  intro before
  obtain ⟨hkept, hresult⟩ := hx before
  obtain ⟨hlater, hnext⟩ := hf (x.run before).1 (x.run before).2
  exact ⟨hkept.trans hlater, fun values hvalues =>
    hnext values hvalues (hresult values (hlater.trans hvalues))⟩

end Settles

theorem settles_bindValue (value : Json) :
    Settles (bindValue value) fun values index => Holds values index value := by
  refine fun before => ⟨List.prefix_append .., fun values hvalues => ?_⟩
  have hlast : Holds (before.values ++ [value]) (before.values.length + 1) value :=
    ⟨Nat.succ_pos _, by simp⟩
  exact hlast.mono hvalues

theorem settles_bindValues (given : List Json) :
    Settles (bindValues given) fun values indices =>
      List.Forall₂ (fun value index => Holds values index value) given indices := by
  induction given with
  | nil => exact .pure fun _ => .nil
  | cons value rest ih =>
    exact (settles_bindValue value).bind fun index => ih.bind fun indices =>
      .pure fun values hrest hfirst => .cons hfirst hrest

/-! ## What operands are bound to -/

/-- Values are bound as they are, one placeholder for each; flags and placeholders stay. -/
inductive Operand.Bound (values : List Json) : Operand → Operand → Prop
  | value {value : Json} {index : Nat} (h : Holds values index value) :
    Bound values (.value value) (.param index)
  | list {given : List Json} {indices : List Nat}
    (h : List.Forall₂ (fun value index => Holds values index value) given indices) :
    Bound values (.list given) (.params indices)
  | flag (value : Bool) : Bound values (.flag value) (.flag value)
  | param (index : Nat) : Bound values (.param index) (.param index)
  | params (indices : List Nat) : Bound values (.params indices) (.params indices)

theorem Operand.settles_bind (operand : Operand) :
    Settles operand.bind fun values bound => operand.Bound values bound := by
  cases operand with
  | value value => exact (settles_bindValue value).bind fun _ => .pure fun _ h => .value h
  | list given => exact (settles_bindValues given).bind fun _ => .pure fun _ h => .list h
  | flag value => exact .pure fun _ => .flag value
  | param index => exact .pure fun _ => .param index
  | params indices => exact .pure fun _ => .params indices

end EntitySql
