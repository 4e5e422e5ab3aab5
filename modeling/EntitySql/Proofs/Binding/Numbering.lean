import EntitySql.Proofs.Read.Placeholders

/-!
# Numbering of placeholders

Binding gives the values of a request the numbers that follow those given before, each value its own,
in the order in which the placeholders stand in the bound request. Placeholders that a request already
has stay where they are, among those that are new.

* `Numbers x R` says that a computation binds some values, and relates what it gives to their
  numbers.
* `Interleaves numbers kept all` says that a list is made of two others, each in its order.
* `Filter.numbers_bind` and `Selection.numbers_bind` say where the new placeholders stand.
-/

namespace EntitySql

set_option autoImplicit false

variable {α β : Type}

/-- The computation binds values after those bound before; `R` holds of what it gives and of the
numbers of the values. -/
def Numbers (x : Binding α) (R : α → List Nat → Prop) : Prop :=
  ∀ before, ∃ added, (x.run before).2.values = before.values ++ added ∧
    R (x.run before).1 (List.range' (before.values.length + 1) added.length)

theorem numbers_pure {a : α} {R : α → List Nat → Prop} (h : R a []) : Numbers (pure a) R := by
  intro before
  exact ⟨[], (List.append_nil _).symm, h⟩

theorem Numbers.bind {x : Binding α} {f : α → Binding β} {R : α → List Nat → Prop}
    {S : β → List Nat → Prop} (hx : Numbers x R)
    (hf : ∀ a first, R a first → Numbers (f a) fun b later => S b (first ++ later)) :
    Numbers (x >>= f) S := by
  intro before
  obtain ⟨added, hadded, hR⟩ := hx before
  obtain ⟨more, hmore, hS⟩ := hf _ _ hR (x.run before).2
  refine ⟨added ++ more, ?_, ?_⟩
  · show ((f (x.run before).1).run (x.run before).2).2.values = _
    rw [hmore, hadded, List.append_assoc]
  · have hlength : (x.run before).2.values.length + 1 = before.values.length + 1 + added.length := by
      rw [hadded, List.length_append]
      omega
    rw [hlength, List.range'_append_1, ← List.length_append] at hS
    exact hS

/-- The last list has the items of the first two, those of each in order. -/
inductive Interleaves : List Nat → List Nat → List Nat → Prop
  | nil : Interleaves [] [] []
  | left {number : Nat} {numbers kept all : List Nat} (h : Interleaves numbers kept all) :
      Interleaves (number :: numbers) kept (number :: all)
  | right {number : Nat} {numbers kept all : List Nat} (h : Interleaves numbers kept all) :
      Interleaves numbers (number :: kept) (number :: all)

namespace Interleaves

variable {numbers kept all : List Nat}

theorem all_left (numbers : List Nat) : Interleaves numbers [] numbers := by
  induction numbers with
  | nil => exact .nil
  | cons number rest ih => exact ih.left

theorem all_right (kept : List Nat) : Interleaves [] kept kept := by
  induction kept with
  | nil => exact .nil
  | cons number rest ih => exact ih.right

theorem append {numbers' kept' all' : List Nat} (h : Interleaves numbers kept all)
    (h' : Interleaves numbers' kept' all') :
    Interleaves (numbers ++ numbers') (kept ++ kept') (all ++ all') := by
  induction h with
  | nil => exact h'
  | left _ ih => exact ih.left
  | right _ ih => exact ih.right

theorem eq_left (h : Interleaves numbers [] all) : all = numbers := by
  generalize hkept : ([] : List Nat) = kept at h
  induction h with
  | nil => rfl
  | left _ ih => rw [ih hkept]
  | right => cases hkept

end Interleaves

/-! ## Operands -/

theorem numbers_bindValue (value : Json) :
    Numbers (bindValue value) fun index numbers => numbers = [index] := by
  intro before
  exact ⟨[value], rfl, rfl⟩

theorem numbers_bindValues (values : List Json) :
    Numbers (bindValues values) fun indices numbers => numbers = indices := by
  induction values with
  | nil => exact numbers_pure rfl
  | cons value rest ih =>
    rw [bindValues]
    refine (numbers_bindValue value).bind fun index first hfirst => ?_
    refine ih.bind fun indices later hlater => numbers_pure ?_
    rw [hfirst, hlater, List.append_nil]
    rfl

theorem Operand.numbers_bind (operand : Operand) : Numbers operand.bind fun bound numbers =>
    Interleaves numbers operand.placeholders bound.placeholders := by
  cases operand with
  | value v =>
    refine (numbers_bindValue v).bind fun index first hfirst => numbers_pure ?_
    rw [hfirst]
    exact .all_left _
  | list vs =>
    refine (numbers_bindValues vs).bind fun indices first hfirst => numbers_pure ?_
    rw [hfirst, List.append_nil]
    exact .all_left _
  | flag value => exact numbers_pure .nil
  | param index => exact numbers_pure (.all_right _)
  | params indices => exact numbers_pure (.all_right _)

theorem Predicate.numbers_bindAll (predicates : List Predicate) :
    Numbers (bindAll predicates) fun bound numbers =>
      Interleaves numbers (placeholdersAll predicates) (placeholdersAll bound) := by
  induction predicates with
  | nil => exact numbers_pure .nil
  | cons predicate rest ih =>
    rw [bindAll, placeholdersAll, List.flatMap_cons]
    refine (Operand.numbers_bind _).bind fun operand first hfirst => ?_
    refine ih.bind fun bound later hlater => numbers_pure ?_
    rw [List.append_nil]
    exact hfirst.append hlater

/-! ## Filters -/

namespace Filter

mutual

theorem numbers_bind : (filter : Filter) → Numbers filter.bind fun bound numbers =>
    Interleaves numbers filter.placeholders bound.placeholders
  | { terms, conjuncts, alternatives } => by
    rw [bind, placeholders]
    refine (numbers_bindTerms terms).bind fun boundTerms first hfirst => ?_
    refine (numbers_bindList conjuncts).bind fun boundConjuncts middle hmiddle => ?_
    refine (numbers_bindList alternatives).bind fun options last hlast => numbers_pure ?_
    rw [placeholders, List.append_nil, ← List.append_assoc]
    exact (hfirst.append hmiddle).append hlast

theorem numbers_bindTerm : (term : Term) → Numbers (bindTerm term) fun bound numbers =>
    Interleaves numbers term.placeholders bound.placeholders
  | .predicates name predicates => by
    rw [bindTerm, Term.placeholders]
    refine (Predicate.numbers_bindAll predicates).bind fun bound numbers hbound => numbers_pure ?_
    rw [Term.placeholders, List.append_nil]
    exact hbound
  | .nested name filter => by
    rw [bindTerm, Term.placeholders]
    refine (numbers_bind filter).bind fun bound numbers hbound => numbers_pure ?_
    rw [Term.placeholders, List.append_nil]
    exact hbound

theorem numbers_bindTerms : (terms : List Term) → Numbers (bindTerms terms) fun bound numbers =>
    Interleaves numbers (Term.placeholdersAll terms) (Term.placeholdersAll bound)
  | [] => numbers_pure .nil
  | term :: rest => by
    rw [bindTerms, Term.placeholdersAll]
    refine (numbers_bindTerm term).bind fun bound first hfirst => ?_
    refine (numbers_bindTerms rest).bind fun others later hlater => numbers_pure ?_
    rw [Term.placeholdersAll, List.append_nil]
    exact hfirst.append hlater

theorem numbers_bindList : (filters : List Filter) → Numbers (bindList filters) fun bound numbers =>
    Interleaves numbers (Filter.placeholdersAll filters) (Filter.placeholdersAll bound)
  | [] => numbers_pure .nil
  | filter :: rest => by
    rw [bindList, Filter.placeholdersAll]
    refine (numbers_bind filter).bind fun bound first hfirst => ?_
    refine (numbers_bindList rest).bind fun others later hlater => numbers_pure ?_
    rw [Filter.placeholdersAll, List.append_nil]
    exact hfirst.append hlater

end

theorem numbers_bindOptional (filter : Option Filter) :
    Numbers (bindOptional filter) fun bound numbers =>
      Interleaves numbers (placeholdersOf filter) (placeholdersOf bound) := by
  cases filter with
  | none => exact numbers_pure .nil
  | some filter =>
    refine (numbers_bind filter).bind fun bound numbers hbound => numbers_pure ?_
    rw [List.append_nil]
    exact hbound

end Filter

/-! ## Reads -/

namespace Selection

mutual

theorem numbers_bind : (selection : Selection) → Numbers selection.bind fun bound numbers =>
    Interleaves numbers selection.placeholders bound.placeholders
  | { name, fields, args, manyToOne, oneToMany } => by
    rw [bind, placeholders]
    refine (Filter.numbers_bindOptional args.filter).bind fun filter first hfirst => ?_
    refine (numbers_bindList manyToOne).bind fun ones middle hmiddle => ?_
    refine (numbers_bindList oneToMany).bind fun lists last hlast => numbers_pure ?_
    rw [placeholders, List.append_nil]
    exact hfirst.append (hmiddle.append hlast)

theorem numbers_bindList : (selections : List Selection) →
    Numbers (bindList selections) fun bound numbers =>
      Interleaves numbers (placeholdersAll selections) (placeholdersAll bound)
  | [] => numbers_pure .nil
  | selection :: rest => by
    rw [bindList, placeholdersAll]
    refine (numbers_bind selection).bind fun bound first hfirst => ?_
    refine (numbers_bindList rest).bind fun others later hlater => numbers_pure ?_
    rw [placeholdersAll, List.append_nil]
    exact hfirst.append hlater

end

end Selection

end EntitySql
