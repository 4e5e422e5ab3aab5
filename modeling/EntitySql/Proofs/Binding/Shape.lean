import EntitySql.Proofs.Result
import EntitySql.Binding.Record

/-!
# Shapes of requests

A request without the values it compares with. Binding keeps nothing else: placeholders are numbered
by what was bound before, and no number depends on a value.

* `Filter.shape`, `Selection.shape` and `ReadRequest.shape` put `null` for every value.
* `InStep x y` says that two computations bind equally many values and give the same.
* `Filter.inStep_bind` and `Selection.inStep_bind` bind a request like its shape.
* `Selection.ofRequest_shape` checks a request like its shape.
-/

namespace EntitySql

set_option autoImplicit false

/-! ## Filters -/

/-- The kind of an operand, and for a list how long it is. -/
def Operand.shape : Operand → Operand
  | .value _ => .value .null
  | .list vs => .list (vs.map fun _ => .null)
  | operand => operand

def Predicate.shape (predicate : Predicate) : Predicate :=
  { predicate with operand := predicate.operand.shape }

mutual

/-- A filter with `null` for the values of its operands. -/
def Filter.shape : Filter → Filter
  | { terms, conjuncts, alternatives } =>
    { terms := Term.shapeAll terms
      conjuncts := Filter.shapeAll conjuncts
      alternatives := Filter.shapeAll alternatives }
termination_by structural filter => filter

def Term.shape : Term → Term
  | .predicates name predicates => .predicates name (predicates.map Predicate.shape)
  | .nested name filter => .nested name filter.shape
termination_by structural term => term

def Term.shapeAll : List Term → List Term
  | [] => []
  | term :: rest => term.shape :: Term.shapeAll rest
termination_by structural terms => terms

def Filter.shapeAll : List Filter → List Filter
  | [] => []
  | filter :: rest => filter.shape :: Filter.shapeAll rest
termination_by structural filters => filters

end

/-! ## Reads -/

def ReadArgs.shape (args : ReadArgs) : ReadArgs :=
  { args with filter := args.filter.map Filter.shape }

mutual

/-- A checked read with the shapes of its filters. -/
def Selection.shape : Selection → Selection
  | { name, fields, args, manyToOne, oneToMany } =>
    { name, fields, args := args.shape
      manyToOne := Selection.shapeAll manyToOne
      oneToMany := Selection.shapeAll oneToMany }
termination_by structural selection => selection

def Selection.shapeAll : List Selection → List Selection
  | [] => []
  | selection :: rest => selection.shape :: Selection.shapeAll rest
termination_by structural selections => selections

end

mutual

/-- A read request with the shapes of its filters. -/
def ReadRequest.shape : ReadRequest → ReadRequest
  | { name, items, args } => { name, items := ReadItem.shapeAll items, args := args.shape }
termination_by structural request => request

def ReadItem.shape : ReadItem → ReadItem
  | .bare name => .bare name
  | .node request => .node request.shape
termination_by structural item => item

def ReadItem.shapeAll : List ReadItem → List ReadItem
  | [] => []
  | item :: rest => item.shape :: ReadItem.shapeAll rest
termination_by structural items => items

end

@[simp]
theorem ReadRequest.name_shape (request : ReadRequest) : request.shape.name = request.name := by
  cases request
  rfl

/-! ## Computations in step -/

variable {α β : Type}

/-- After equally many values, the computations give the same and have bound equally many values. -/
def InStep (x y : Binding α) : Prop :=
  ∀ s s' : Bindings, s.values.length = s'.values.length →
    (x.run s).1 = (y.run s').1 ∧ (x.run s).2.values.length = (y.run s').2.values.length

theorem inStep_pure (a : α) : InStep (pure a) (pure a) := by
  intro s s' hlength
  exact ⟨rfl, hlength⟩

theorem InStep.bind {x y : Binding α} {f g : α → Binding β} (hxy : InStep x y)
    (hfg : ∀ a, InStep (f a) (g a)) : InStep (x >>= f) (y >>= g) := by
  intro s s' hlength
  obtain ⟨hresult, hlater⟩ := hxy s s' hlength
  have hnext := hfg (x.run s).1 (x.run s).2 (y.run s').2 hlater
  rw [hresult] at hnext
  show ((f (x.run s).1).run (x.run s).2).1 = ((g (y.run s').1).run (y.run s').2).1 ∧
    ((f (x.run s).1).run (x.run s).2).2.values.length =
      ((g (y.run s').1).run (y.run s').2).2.values.length
  rw [hresult]
  exact hnext

theorem inStep_bindValue (value other : Json) : InStep (bindValue value) (bindValue other) := by
  intro s s' hlength
  refine ⟨congrArg (· + 1) hlength, ?_⟩
  show (s.values ++ [value]).length = (s'.values ++ [other]).length
  rw [List.length_append, List.length_append, hlength]
  rfl

theorem inStep_bindValues (values : List Json) :
    InStep (bindValues values) (bindValues (values.map fun _ => .null)) := by
  induction values with
  | nil => exact inStep_pure _
  | cons value rest ih =>
    rw [List.map_cons, bindValues, bindValues]
    apply (inStep_bindValue value .null).bind
    intro index
    apply ih.bind
    intro indices
    exact inStep_pure _

theorem Operand.inStep_bind (operand : Operand) : InStep operand.bind operand.shape.bind := by
  cases operand with
  | value v =>
    apply (inStep_bindValue v .null).bind
    intro index
    exact inStep_pure _
  | list vs =>
    apply (inStep_bindValues vs).bind
    intro indices
    exact inStep_pure _
  | flag value => exact inStep_pure _
  | param index => exact inStep_pure _
  | params indices => exact inStep_pure _

theorem Predicate.inStep_bindAll (predicates : List Predicate) :
    InStep (bindAll predicates) (bindAll (predicates.map Predicate.shape)) := by
  induction predicates with
  | nil => exact inStep_pure _
  | cons predicate rest ih =>
    rw [List.map_cons, Predicate.shape, bindAll, bindAll]
    apply (Operand.inStep_bind predicate.operand).bind
    intro operand
    apply ih.bind
    intro bound
    exact inStep_pure _

namespace Filter

mutual

theorem inStep_bind : (filter : Filter) → InStep filter.bind filter.shape.bind
  | { terms, conjuncts, alternatives } => by
    rw [shape, bind, bind]
    apply (inStep_bindTerms terms).bind
    intro boundTerms
    apply (inStep_bindList conjuncts).bind
    intro boundConjuncts
    apply (inStep_bindList alternatives).bind
    intro options
    exact inStep_pure _

theorem inStep_bindTerm : (term : Term) → InStep (bindTerm term) (bindTerm term.shape)
  | .predicates name predicates => by
    rw [Term.shape, bindTerm, bindTerm]
    apply (Predicate.inStep_bindAll predicates).bind
    intro bound
    exact inStep_pure _
  | .nested name filter => by
    rw [Term.shape, bindTerm, bindTerm]
    apply (inStep_bind filter).bind
    intro bound
    exact inStep_pure _

theorem inStep_bindTerms : (terms : List Term) →
    InStep (bindTerms terms) (bindTerms (Term.shapeAll terms))
  | [] => inStep_pure _
  | term :: rest => by
    rw [Term.shapeAll, bindTerms, bindTerms]
    apply (inStep_bindTerm term).bind
    intro bound
    apply (inStep_bindTerms rest).bind
    intro others
    exact inStep_pure _

theorem inStep_bindList : (filters : List Filter) →
    InStep (bindList filters) (bindList (Filter.shapeAll filters))
  | [] => inStep_pure _
  | filter :: rest => by
    rw [Filter.shapeAll, bindList, bindList]
    apply (inStep_bind filter).bind
    intro bound
    apply (inStep_bindList rest).bind
    intro others
    exact inStep_pure _

end

theorem inStep_bindOptional (filter : Option Filter) :
    InStep (bindOptional filter) (bindOptional (filter.map shape)) := by
  cases filter with
  | none => exact inStep_pure _
  | some filter =>
    apply (inStep_bind filter).bind
    intro bound
    exact inStep_pure _

/-- Filters of one shape bind to the same filter. -/
theorem bindOptional_eq_of_shape {filter other : Option Filter}
    (h : filter.map shape = other.map shape) {s s' : Bindings}
    (hlength : s.values.length = s'.values.length) :
    ((bindOptional filter).run s).1 = ((bindOptional other).run s').1 := by
  calc ((bindOptional filter).run s).1
      = ((bindOptional (filter.map shape)).run s).1 := (inStep_bindOptional filter s s rfl).1
    _ = ((bindOptional (other.map shape)).run s).1 := by rw [h]
    _ = ((bindOptional other).run s').1 := (inStep_bindOptional other s' s hlength.symm).1.symm

end Filter

namespace Selection

mutual

theorem inStep_bind : (selection : Selection) → InStep selection.bind selection.shape.bind
  | { name, fields, args, manyToOne, oneToMany } => by
    rw [shape, bind, bind]
    apply (Filter.inStep_bindOptional args.filter).bind
    intro filter
    apply (inStep_bindList manyToOne).bind
    intro boundOnes
    apply (inStep_bindList oneToMany).bind
    intro boundManys
    exact inStep_pure _

theorem inStep_bindList : (selections : List Selection) →
    InStep (bindList selections) (bindList (shapeAll selections))
  | [] => inStep_pure _
  | selection :: rest => by
    rw [shapeAll, bindList, bindList]
    apply (inStep_bind selection).bind
    intro bound
    apply (inStep_bindList rest).bind
    intro others
    exact inStep_pure _

end

/-- Checked reads of one shape bind to the same read. -/
theorem bind_eq_of_shape {selection other : Selection} (h : selection.shape = other.shape) :
    (selection.bind.run {}).1 = (other.bind.run {}).1 := by
  calc (selection.bind.run {}).1
      = (selection.shape.bind.run {}).1 := (inStep_bind selection {} {} rfl).1
    _ = (other.shape.bind.run {}).1 := by rw [h]
    _ = (other.bind.run {}).1 := (inStep_bind other {} {} rfl).1.symm

/-! ## Checking reads -/

theorem shapeAll_append (selections others : List Selection) :
    shapeAll (selections ++ others) = shapeAll selections ++ shapeAll others := by
  induction selections with
  | nil => rfl
  | cons selection rest ih =>
    rw [List.cons_append, shapeAll, shapeAll, ih]
    rfl

theorem shape_withField (selection : Selection) (name : String) :
    (selection.withField name).shape = selection.shape.withField name := by
  cases selection
  rfl

theorem shape_withManyToOne (selection child : Selection) :
    (selection.withManyToOne child).shape = selection.shape.withManyToOne child.shape := by
  cases selection
  simp only [withManyToOne, shape, shapeAll_append, shapeAll]

theorem shape_withOneToMany (selection child : Selection) :
    (selection.withOneToMany child).shape = selection.shape.withOneToMany child.shape := by
  cases selection
  simp only [withOneToMany, shape, shapeAll_append, shapeAll]

mutual

theorem ofRequest_shape (schema : Schema) : (request : ReadRequest) → (entity : String) →
    ofRequest schema entity request.shape = (ofRequest schema entity request).map shape
  | { name, items, args }, entity => by
    rw [ReadRequest.shape, ofRequest, ofRequest]
    exact addItems_shape schema items entity { name := if name = "" then entity else name, args }

theorem addItems_shape (schema : Schema) : (items : List ReadItem) → (entity : String) →
    (before : Selection) → addItems schema entity before.shape (ReadItem.shapeAll items) =
      (addItems schema entity before items).map shape
  | [], entity, before => rfl
  | .bare name :: rest, entity, before => by
    rw [ReadItem.shapeAll, ReadItem.shape, addItems, addItems]
    have hfield := fun field => addItems_shape schema rest entity (before.withField field)
    have hone := addItems_shape schema rest entity (before.withManyToOne { name })
    have hmany := addItems_shape schema rest entity (before.withOneToMany { name })
    simp only [shape_withField] at hfield
    rw [shape_withManyToOne] at hone
    rw [shape_withOneToMany] at hmany
    refine bind_eq_map_bind fun found => ?_
    match found with
    | none => rfl
    | some (.field field) => exact hfield field.name
    | some (.manyToOne relation) => exact hone
    | some (.oneToMany relation) => exact hmany
  | .node request :: rest, entity, before => by
    rw [ReadItem.shapeAll, ReadItem.shape, addItems, addItems, ReadRequest.name_shape]
    have hfield := fun field => addItems_shape schema rest entity (before.withField field)
    have hone := fun child => addItems_shape schema rest entity (before.withManyToOne child)
    have hmany := fun child => addItems_shape schema rest entity (before.withOneToMany child)
    simp only [shape_withField] at hfield
    simp only [shape_withManyToOne] at hone
    simp only [shape_withOneToMany] at hmany
    refine bind_eq_map_bind fun found => ?_
    match found with
    | none => rfl
    | some (.field field) => exact hfield field.name
    | some (.manyToOne relation) =>
      exact bind_eq_map (ofRequest_shape schema request relation.targetEntity) hone
    | some (.oneToMany relation) =>
      exact bind_eq_map (ofRequest_shape schema request relation.targetEntity) hmany

end

/-- Of requests of one shape, one is checked exactly when the other is, and the reads have one
shape. -/
theorem exists_ofRequest_of_shape {schema : Schema} {entity : String} {request other : ReadRequest}
    (h : request.shape = other.shape) {selection : Selection}
    (hselection : ofRequest schema entity request = .ok selection) :
    ∃ second, ofRequest schema entity other = .ok second ∧ selection.shape = second.shape := by
  have hshape := ofRequest_shape schema other entity
  rw [← h, ofRequest_shape schema request entity, hselection] at hshape
  cases hother : ofRequest schema entity other with
  | error fault =>
    rw [hother] at hshape
    cases hshape
  | ok second =>
    rw [hother] at hshape
    exact ⟨second, rfl, Except.ok.inj hshape⟩

end Selection

end EntitySql
