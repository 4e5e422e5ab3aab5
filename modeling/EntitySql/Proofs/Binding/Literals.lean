import EntitySql.Proofs.Binding.Numbering
import EntitySql.Proofs.Binding.Operands
import EntitySql.Proofs.Binding.Records
import EntitySql.Proofs.Filter.Parsed

/-!
# Literals of requests

Which values binding takes from a request, and in which order.

* `Filter.literals`, `Selection.literals` and `Record.literals` list the values that are bound.
* `Appends x literals` says that a computation binds these values after those bound before;
  `Numbers.of_appends` numbers them.
* `Filter.placeholders_of_literals` and `Selection.placeholders_of_literals` say that values are no
  placeholders.
* `Takes s s' placeholders literals` says that values were bound, each under its own placeholder.
  `Record.takes_bind` is about the values of a record.
* `Exhausts` says that what is bound has nothing left to bind. `Filter.exhausts_bind` and
  `Selection.exhausts_bind` are about filters and reads.
-/

namespace EntitySql

set_option autoImplicit false

/-! ## Filters and reads -/

/-- The values of an operand: one, or those of a list. Flags are no values. -/
def Operand.literals : Operand → List Json
  | .value v => [v]
  | .list vs => vs
  | .flag _ | .param _ | .params _ => []

def Filter.literals (filter : Filter) : List Json :=
  filter.operands.flatMap Operand.literals

def Selection.literals (selection : Selection) : List Json :=
  selection.operands.flatMap Operand.literals

variable {α β : Type}

/-- The computation binds the values, after those bound before. -/
def Appends (x : Binding α) (literals : List Json) : Prop :=
  ∀ before, (x.run before).2.values = before.values ++ literals

theorem appends_pure (a : α) : Appends (pure a) [] :=
  fun _ => (List.append_nil _).symm

theorem Appends.bind {x : Binding α} {f : α → Binding β} {first later : List Json}
    (hx : Appends x first) (hf : ∀ a, Appends (f a) later) : Appends (x >>= f) (first ++ later) := by
  intro before
  show ((f (x.run before).1).run (x.run before).2).2.values = _
  rw [hf, hx, List.append_assoc]

/-- What is done with a result binds nothing. -/
theorem Appends.map {x : Binding α} {literals : List Json} (hx : Appends x literals) (f : α → β) :
    Appends (do return f (← x)) literals := by
  rw [← List.append_nil literals]
  exact hx.bind fun a => appends_pure (f a)

/-- The values that a computation is known to bind have the numbers that it is known to use. -/
theorem Numbers.of_appends {x : Binding α} {R : α → List Nat → Prop} {literals : List Json}
    (h : Numbers x R) (hx : Appends x literals) (before : Bindings) :
    R (x.run before).1 (List.range' (before.values.length + 1) literals.length) := by
  obtain ⟨added, hadded, hR⟩ := h before
  obtain rfl := List.append_cancel_left ((hx before).symm.trans hadded)
  exact hR

theorem appends_bindValue (value : Json) : Appends (bindValue value) [value] :=
  fun _ => rfl

theorem appends_bindValues (values : List Json) : Appends (bindValues values) values := by
  induction values with
  | nil => exact appends_pure []
  | cons value rest ih =>
    rw [bindValues]
    exact (appends_bindValue value).bind fun index => ih.map (index :: ·)

theorem Operand.appends_bind (operand : Operand) : Appends operand.bind operand.literals := by
  cases operand with
  | value value => exact (appends_bindValue value).map _
  | list values => exact (appends_bindValues values).map _
  | flag value => exact appends_pure _
  | param index => exact appends_pure _
  | params indices => exact appends_pure _

theorem Predicate.appends_bindAll (predicates : List Predicate) : Appends (bindAll predicates)
    ((predicates.map Predicate.operand).flatMap Operand.literals) := by
  induction predicates with
  | nil => exact appends_pure []
  | cons predicate rest ih =>
    rw [bindAll, List.map_cons, List.flatMap_cons]
    exact predicate.operand.appends_bind.bind fun _ => ih.map _

namespace Filter

mutual

theorem appends_bind : (filter : Filter) → Appends filter.bind filter.literals
  | { terms, conjuncts, alternatives } => by
    rw [bind, literals, operands, List.flatMap_append, List.flatMap_append, List.append_assoc]
    exact (appends_bindTerms terms).bind fun _ => (appends_bindList conjuncts).bind fun _ =>
      (appends_bindList alternatives).map _

theorem appends_bindTerm : (term : Term) →
    Appends (bindTerm term) (term.operands.flatMap Operand.literals)
  | .predicates name predicates => by
    rw [bindTerm, Term.operands]
    exact (Predicate.appends_bindAll predicates).map _
  | .nested name filter => by
    rw [bindTerm, Term.operands]
    exact (appends_bind filter).map _

theorem appends_bindTerms : (terms : List Term) →
    Appends (bindTerms terms) ((Term.operandsAll terms).flatMap Operand.literals)
  | [] => appends_pure []
  | term :: rest => by
    rw [bindTerms, Term.operandsAll, List.flatMap_append]
    exact (appends_bindTerm term).bind fun _ => (appends_bindTerms rest).map _

theorem appends_bindList : (filters : List Filter) →
    Appends (bindList filters) ((Filter.operandsAll filters).flatMap Operand.literals)
  | [] => appends_pure []
  | filter :: rest => by
    rw [bindList, Filter.operandsAll, List.flatMap_append]
    exact (appends_bind filter).bind fun _ => (appends_bindList rest).map _

end

theorem appends_bindOptional (filter : Option Filter) :
    Appends (bindOptional filter) ((operandsOf filter).flatMap Operand.literals) := by
  cases filter with
  | none => exact appends_pure none
  | some filter => exact (appends_bind filter).map _

end Filter

namespace Selection

mutual

theorem appends_bind : (selection : Selection) → Appends selection.bind selection.literals
  | { name, fields, args, manyToOne, oneToMany } => by
    rw [bind, literals, operands, List.flatMap_append, List.flatMap_append, List.append_assoc]
    exact (Filter.appends_bindOptional args.filter).bind fun _ =>
      (appends_bindList manyToOne).bind fun _ => (appends_bindList oneToMany).map _

theorem appends_bindList : (selections : List Selection) →
    Appends (bindList selections) ((operandsAll selections).flatMap Operand.literals)
  | [] => appends_pure []
  | selection :: rest => by
    rw [bindList, operandsAll, List.flatMap_append]
    exact (appends_bind selection).bind fun _ => (appends_bindList rest).map _

end

end Selection

/-! ## Binding again -/

/-- What the computation gives has nothing left to bind. -/
def Exhausts (rebind : α → Binding α) (x : Binding α) : Prop :=
  Settles x fun _ bound => rebind bound = pure bound

theorem Operand.exhausts_bind (operand : Operand) : Exhausts Operand.bind operand.bind := by
  cases operand with
  | value value => exact (settles_bindValue value).bind fun index => .pure fun _ _ => rfl
  | list values => exact (settles_bindValues values).bind fun indices => .pure fun _ _ => rfl
  | flag value => exact .pure fun _ => rfl
  | param index => exact .pure fun _ => rfl
  | params indices => exact .pure fun _ => rfl

theorem Predicate.exhausts_bindAll (predicates : List Predicate) :
    Exhausts bindAll (bindAll predicates) := by
  induction predicates with
  | nil => exact .pure fun _ => rfl
  | cons predicate rest ih =>
    rw [bindAll]
    refine predicate.operand.exhausts_bind.bind fun operand => ih.bind fun bound => ?_
    refine .pure fun _ hbound hoperand => ?_
    rw [bindAll, hoperand, hbound, pure_bind, pure_bind]

namespace Filter

mutual

theorem exhausts_bind : (filter : Filter) → Exhausts bind filter.bind
  | { terms, conjuncts, alternatives } => by
    rw [bind]
    refine (exhausts_bindTerms terms).bind fun boundTerms => ?_
    refine (exhausts_bindList conjuncts).bind fun boundConjuncts => ?_
    refine (exhausts_bindList alternatives).bind fun options => ?_
    refine .pure fun _ hoptions hconjuncts hterms => ?_
    rw [bind, hterms, hconjuncts, hoptions, pure_bind, pure_bind, pure_bind]

theorem exhausts_bindTerm : (term : Term) → Exhausts bindTerm (bindTerm term)
  | .predicates name predicates => by
    rw [bindTerm]
    refine (Predicate.exhausts_bindAll predicates).bind fun bound => .pure fun _ hbound => ?_
    rw [bindTerm, hbound, pure_bind]
  | .nested name filter => by
    rw [bindTerm]
    refine (exhausts_bind filter).bind fun bound => .pure fun _ hbound => ?_
    rw [bindTerm, hbound, pure_bind]

theorem exhausts_bindTerms : (terms : List Term) → Exhausts bindTerms (bindTerms terms)
  | [] => .pure fun _ => rfl
  | term :: rest => by
    rw [bindTerms]
    refine (exhausts_bindTerm term).bind fun bound => (exhausts_bindTerms rest).bind fun others => ?_
    refine .pure fun _ hothers hbound => ?_
    rw [bindTerms, hbound, hothers, pure_bind, pure_bind]

theorem exhausts_bindList : (filters : List Filter) → Exhausts bindList (bindList filters)
  | [] => .pure fun _ => rfl
  | filter :: rest => by
    rw [bindList]
    refine (exhausts_bind filter).bind fun bound => (exhausts_bindList rest).bind fun others => ?_
    refine .pure fun _ hothers hbound => ?_
    rw [bindList, hbound, hothers, pure_bind, pure_bind]

end

theorem exhausts_bindOptional (filter : Option Filter) :
    Exhausts bindOptional (bindOptional filter) := by
  cases filter with
  | none => exact .pure fun _ => rfl
  | some filter =>
    refine (exhausts_bind filter).bind fun bound => .pure fun _ hbound => ?_
    rw [bindOptional, hbound, pure_bind]

end Filter

namespace Selection

mutual

theorem exhausts_bind : (selection : Selection) → Exhausts bind selection.bind
  | { name, fields, args, manyToOne, oneToMany } => by
    rw [bind]
    refine (Filter.exhausts_bindOptional args.filter).bind fun filter => ?_
    refine (exhausts_bindList manyToOne).bind fun ones => ?_
    refine (exhausts_bindList oneToMany).bind fun lists => ?_
    refine .pure fun _ hlists hones hfilter => ?_
    rw [bind, hfilter, hones, hlists, pure_bind, pure_bind, pure_bind]

theorem exhausts_bindList : (selections : List Selection) → Exhausts bindList (bindList selections)
  | [] => .pure fun _ => rfl
  | selection :: rest => by
    rw [bindList]
    refine (exhausts_bind selection).bind fun bound => (exhausts_bindList rest).bind fun others => ?_
    refine .pure fun _ hothers hbound => ?_
    rw [bindList, hbound, hothers, pure_bind, pure_bind]

end

end Selection

/-! ## Requests without placeholders -/

mutual

theorem Filter.placeholders_eq : (filter : Filter) →
    filter.placeholders = Predicate.placeholdersAll filter.predicates
  | { terms, conjuncts, alternatives } => by
    rw [Filter.placeholders, Filter.predicates, Term.placeholdersAll_eq terms,
      Filter.placeholdersAll_eq conjuncts, Filter.placeholdersAll_eq alternatives]
    simp only [Predicate.placeholdersAll, List.flatMap_append]

theorem Term.placeholders_eq : (term : Term) →
    term.placeholders = Predicate.placeholdersAll term.predicatesOf
  | .predicates _ _ => rfl
  | .nested _ filter => Filter.placeholders_eq filter

theorem Term.placeholdersAll_eq : (terms : List Term) →
    Term.placeholdersAll terms = Predicate.placeholdersAll (Term.predicatesAll terms)
  | [] => rfl
  | term :: rest => by
    rw [Term.placeholdersAll, Term.predicatesAll, Term.placeholders_eq term,
      Term.placeholdersAll_eq rest]
    simp only [Predicate.placeholdersAll, List.flatMap_append]

theorem Filter.placeholdersAll_eq : (filters : List Filter) →
    Filter.placeholdersAll filters = Predicate.placeholdersAll (Filter.predicatesAll filters)
  | [] => rfl
  | filter :: rest => by
    rw [Filter.placeholdersAll, Filter.predicatesAll, Filter.placeholders_eq filter,
      Filter.placeholdersAll_eq rest]
    simp only [Predicate.placeholdersAll, List.flatMap_append]

end

theorem Operand.IsLiteral.placeholders {operand : Operand} (h : operand.IsLiteral) :
    operand.placeholders = [] := by
  cases operand with
  | value _ | list _ | flag _ => rfl
  | param _ | params _ => exact h.elim

theorem Filter.placeholders_of_literals {filter : Filter}
    (h : ∀ operand ∈ filter.operands, operand.IsLiteral) : filter.placeholders = [] := by
  rw [Filter.operands_eq_map, List.forall_mem_map] at h
  rw [Filter.placeholders_eq, Predicate.placeholdersAll, List.flatMap_eq_nil_iff]
  exact fun predicate hmem => (h predicate hmem).placeholders

namespace Selection

mutual

theorem placeholders_of_literals : (selection : Selection) →
    (∀ operand ∈ selection.operands, operand.IsLiteral) → selection.placeholders = []
  | { args, manyToOne, oneToMany, .. }, h => by
    rw [operands, List.forall_mem_append, List.forall_mem_append] at h
    have hfilter : Filter.placeholdersOf args.filter = [] := by
      cases hargs : args.filter with
      | none => rfl
      | some filter =>
        rw [hargs] at h
        exact Filter.placeholders_of_literals h.1.1
    rw [placeholders, hfilter, placeholdersAll_of_literals manyToOne h.1.2,
      placeholdersAll_of_literals oneToMany h.2]
    rfl

theorem placeholdersAll_of_literals : (selections : List Selection) →
    (∀ operand ∈ operandsAll selections, operand.IsLiteral) → placeholdersAll selections = []
  | [], _ => rfl
  | selection :: rest, h => by
    rw [operandsAll, List.forall_mem_append] at h
    rw [placeholdersAll, placeholders_of_literals selection h.1, placeholdersAll_of_literals rest h.2]
    rfl

end

end Selection

/-! ## Numbered values -/

/-- From one state to another, the values were bound, and the placeholders are theirs in order. -/
structure Takes (s s' : Bindings) (placeholders : List Nat) (literals : List Json) : Prop where
  values : s'.values = s.values ++ literals
  numbers : placeholders = List.range' (s.values.length + 1) literals.length

namespace Takes

variable {s s₁ s' : Bindings} {first later : List Nat} {literals others : List Json}

theorem nil (s : Bindings) : Takes s s [] [] :=
  ⟨(List.append_nil _).symm, rfl⟩

theorem append (h : Takes s s₁ first literals) (hlater : Takes s₁ s' later others) :
    Takes s s' (first ++ later) (literals ++ others) := by
  refine ⟨by rw [hlater.values, h.values, List.append_assoc], ?_⟩
  have hlength : s₁.values.length + 1 = s.values.length + 1 + literals.length := by
    rw [h.values, List.length_append]
    omega
  rw [h.numbers, hlater.numbers, hlength, List.range'_append_1, List.length_append]

end Takes

theorem Filter.takes_bind {filter : Filter} (h : filter.placeholders = []) (before : Bindings) :
    Takes before (filter.bind.run before).2 (filter.bind.run before).1.placeholders
      filter.literals := by
  have hnumbers := (numbers_bind filter).of_appends (appends_bind filter) before
  rw [h] at hnumbers
  exact ⟨appends_bind filter before, hnumbers.eq_left⟩

theorem Selection.takes_bind {selection : Selection} (h : selection.placeholders = [])
    (before : Bindings) :
    Takes before (selection.bind.run before).2 (selection.bind.run before).1.placeholders
      selection.literals := by
  have hnumbers := (numbers_bind selection).of_appends (appends_bind selection) before
  rw [h] at hnumbers
  exact ⟨appends_bind selection before, hnumbers.eq_left⟩

/-! ## Placeholders of bound records -/

mutual

/-- The placeholders of bound data, in the order of its entries. -/
def BoundValue.placeholders : BoundValue → List Nat
  | .param index => [index]
  | .record entries => BoundRecord.placeholders entries
  | .list records => BoundRecord.placeholdersAll records
termination_by structural datum => datum

def BoundRecord.placeholders : List (String × BoundValue) → List Nat
  | [] => []
  | (_, datum) :: rest => datum.placeholders ++ BoundRecord.placeholders rest
termination_by structural entries => entries

def BoundRecord.placeholdersAll : List (List (String × BoundValue)) → List Nat
  | [] => []
  | record :: rest => BoundRecord.placeholders record ++ BoundRecord.placeholdersAll rest
termination_by structural records => records

end

/-! ## Records -/

/-- The value that the data of a many-to-one is bound by: that of the target field, or `null`. -/
def ManyToOne.literals (relation : ManyToOne) : Json → List Json
  | .null => [.null]
  | .obj members => (Assoc.get? relation.targetField members).toList
  | _ => []

mutual

/-- The values that the data of a record on an entity is bound by, key by key. -/
def Record.literals (schema : Schema) (entity : String) : List (String × Json) → List Json
  | [] => []
  | (name, value) :: rest =>
    (match schema.member? entity name with
      | some (.field field) => [field.parameter value]
      | some (.manyToOne relation) => relation.literals value
      | some (.oneToMany relation) => Record.listLiterals schema relation.targetEntity value
      | none => []) ++ Record.literals schema entity rest
termination_by structural entries => entries

/-- The values of the records of a one-to-many. -/
def Record.listLiterals (schema : Schema) (target : String) : Json → List Json
  | .arr items => Record.itemLiterals schema target items
  | _ => []
termination_by structural value => value

def Record.itemLiterals (schema : Schema) (target : String) : List Json → List Json
  | [] => []
  | .obj members :: rest =>
    Record.literals schema target members ++ Record.itemLiterals schema target rest
  | _ :: rest => Record.itemLiterals schema target rest
termination_by structural items => items

end

variable {schema : Schema}

theorem takes_bindDatum {value : Json} {s s' : Bindings} {datum : BoundValue}
    (h : Yields (bindDatum value) s datum s') : Takes s s' datum.placeholders [value] := by
  obtain ⟨rfl, rfl⟩ := yields_bindDatum.1 h
  exact ⟨rfl, rfl⟩

theorem takes_bindManyToOne {entity name : String} {relation : ManyToOne} {value : Json}
    {s s' : Bindings} {datum : BoundValue}
    (h : Yields (bindManyToOne entity name relation value) s datum s') :
    Takes s s' datum.placeholders (relation.literals value) := by
  unfold bindManyToOne at h
  split at h
  · exact takes_bindDatum h
  · next members =>
    rw [ManyToOne.literals]
    split at h
    · next key hkey =>
      obtain ⟨datum, s₁, hdatum, h⟩ := yields_bind.1 h
      obtain ⟨rfl, rfl⟩ := yields_pure.1 h
      have hentry := (takes_bindDatum hdatum).append (.nil _)
      rw [hkey]
      exact hentry
    · next hkey =>
      obtain ⟨rfl, rfl⟩ := yields_pure.1 h
      rw [hkey]
      exact .nil _
  · exact absurd h not_yields_throw

namespace Record

mutual

/-- A record that is bound took the values of its keys. -/
theorem takes_bind (schema : Schema) : (record : List (String × Json)) →
    ∀ {entity : String} {s s' : Bindings} {bound : BoundRecord},
      Yields (Record.bind schema entity record) s bound s' →
        Takes s s' (BoundRecord.placeholders bound) (Record.literals schema entity record)
  | [], entity, s, s', bound, h => by
    rw [Record.bind] at h
    obtain ⟨rfl, rfl⟩ := yields_pure.1 h
    exact .nil _
  | (name, value) :: rest, entity, s, s', bound, h => by
    obtain ⟨member, hresolve, datum, s₁, later, hdatum, hlater, rfl⟩ := yields_bind_cons.1 h
    rw [Record.literals, BoundRecord.placeholders, Schema.member?_of_resolve hresolve]
    refine Takes.append ?_ (takes_bind schema rest hlater)
    cases member with
    | field field => exact takes_bindDatum hdatum
    | manyToOne relation => exact takes_bindManyToOne hdatum
    | oneToMany relation => exact takes_bindOneToMany schema value hdatum

theorem takes_bindOneToMany (schema : Schema) : (value : Json) →
    ∀ {entity name target : String} {s s' : Bindings} {datum : BoundValue},
      Yields (bindOneToMany schema entity name target value) s datum s' →
        Takes s s' datum.placeholders (listLiterals schema target value)
  | .arr items, entity, name, target, s, s', datum, h => by
    rw [bindOneToMany] at h
    obtain ⟨records, s₁, hrecords, h⟩ := yields_bind.1 h
    obtain ⟨rfl, rfl⟩ := yields_pure.1 h
    rw [listLiterals, BoundValue.placeholders]
    exact takes_bindItems schema items hrecords
  | .null, _, _, _, _, _, _, h => absurd h not_yields_throw
  | .bool _, _, _, _, _, _, _, h => absurd h not_yields_throw
  | .int _, _, _, _, _, _, _, h => absurd h not_yields_throw
  | .double _, _, _, _, _, _, _, h => absurd h not_yields_throw
  | .str _, _, _, _, _, _, _, h => absurd h not_yields_throw
  | .obj _, _, _, _, _, _, _, h => absurd h not_yields_throw

theorem takes_bindItems (schema : Schema) : (items : List Json) →
    ∀ {entity name target : String} {s s' : Bindings} {records : List BoundRecord},
      Yields (bindItems schema entity name target items) s records s' →
        Takes s s' (BoundRecord.placeholdersAll records) (itemLiterals schema target items)
  | [], _, _, _, s, s', records, h => by
    rw [bindItems] at h
    obtain ⟨rfl, rfl⟩ := yields_pure.1 h
    exact .nil _
  | .obj members :: rest, entity, name, target, s, s', records, h => by
    rw [bindItems] at h
    obtain ⟨record, s₁, hrecord, h⟩ := yields_bind.1 h
    obtain ⟨others, s₂, hothers, h⟩ := yields_bind.1 h
    obtain ⟨rfl, rfl⟩ := yields_pure.1 h
    rw [itemLiterals, BoundRecord.placeholdersAll]
    exact (takes_bind schema members hrecord).append (takes_bindItems schema rest hothers)
  | .null :: _, _, _, _, _, _, _, h => absurd h not_yields_throw
  | .bool _ :: _, _, _, _, _, _, _, h => absurd h not_yields_throw
  | .int _ :: _, _, _, _, _, _, _, h => absurd h not_yields_throw
  | .double _ :: _, _, _, _, _, _, _, h => absurd h not_yields_throw
  | .str _ :: _, _, _, _, _, _, _, h => absurd h not_yields_throw
  | .arr _ :: _, _, _, _, _, _, _, h => absurd h not_yields_throw

end

end Record

end EntitySql
