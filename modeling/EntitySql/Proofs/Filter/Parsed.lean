import EntitySql.Proofs.Filter.Suits

/-!
# Filters that are read

What is known of a filter that is read from JSON, before any schema is.

* `Filter.predicates` lists the predicates of a filter at any depth.
* `Predicate.Given` says that a predicate has the operand its operator takes, with its values.
* `Filter.parseTerm_predicates` and `Filter.parseTerm_nested` say how the keys below a name decide what
  is read there.
* `Filter.given_of_parse`: the predicates of a filter that is read are so given.
-/

namespace EntitySql

set_option autoImplicit false

/-! ## Predicates of filters -/

mutual

def Filter.predicates : Filter → List Predicate
  | { terms, conjuncts, alternatives } =>
    Term.predicatesAll terms ++ Filter.predicatesAll conjuncts ++ Filter.predicatesAll alternatives
termination_by structural filter => filter

def Term.predicatesOf : Term → List Predicate
  | .predicates _ predicates => predicates
  | .nested _ filter => filter.predicates
termination_by structural term => term

def Term.predicatesAll : List Term → List Predicate
  | [] => []
  | term :: rest => term.predicatesOf ++ Term.predicatesAll rest
termination_by structural terms => terms

def Filter.predicatesAll : List Filter → List Predicate
  | [] => []
  | filter :: rest => filter.predicates ++ Filter.predicatesAll rest
termination_by structural filters => filters

end

theorem Term.predicatesAll_append (terms others : List Term) :
    predicatesAll (terms ++ others) = predicatesAll terms ++ predicatesAll others := by
  induction terms with
  | nil => rfl
  | cons term rest ih =>
    rw [List.cons_append, predicatesAll, predicatesAll, ih, List.append_assoc]

mutual

theorem Filter.operands_eq_map : (filter : Filter) →
    filter.operands = filter.predicates.map Predicate.operand
  | { terms, conjuncts, alternatives } => by
    rw [Filter.operands, Filter.predicates, List.map_append, List.map_append,
      Term.operandsAll_eq_map terms, Filter.operandsAll_eq_map conjuncts,
      Filter.operandsAll_eq_map alternatives]

theorem Term.operands_eq_map : (term : Term) →
    term.operands = term.predicatesOf.map Predicate.operand
  | .predicates _ _ => rfl
  | .nested _ filter => Filter.operands_eq_map filter

theorem Term.operandsAll_eq_map : (terms : List Term) →
    Term.operandsAll terms = (Term.predicatesAll terms).map Predicate.operand
  | [] => rfl
  | term :: rest => by
    rw [Term.operandsAll, Term.predicatesAll, List.map_append, Term.operands_eq_map term,
      Term.operandsAll_eq_map rest]

theorem Filter.operandsAll_eq_map : (filters : List Filter) →
    Filter.operandsAll filters = (Filter.predicatesAll filters).map Predicate.operand
  | [] => rfl
  | filter :: rest => by
    rw [Filter.operandsAll, Filter.predicatesAll, List.map_append, Filter.operands_eq_map filter,
      Filter.operandsAll_eq_map rest]

end

/-! ## Reading -/

/-- The predicate has an operand of the form that the operator takes, with its values. -/
def Predicate.Given (predicate : Predicate) : Prop :=
  predicate.Suits ∧ predicate.operand.IsLiteral

/-- What operators make of a value: list operators read an array, the null test a truth value, and all
others the value itself. -/
theorem Predicate.cases_of_parse {key : String} {value : Json} {predicate : Predicate}
    (h : Predicate.parse key value = .ok predicate) :
    Operator.parse key = .ok predicate.operator ∧
      ((predicate.operator.takesList = true ∧
          ∃ items, value = .arr items ∧ predicate.operand = .list items) ∨
        (predicate.operator = .isNull ∧
          ∃ flag, value = .bool flag ∧ predicate.operand = .flag flag) ∨
        (predicate.operator ≠ .isNull ∧ predicate.operator.takesList = false ∧
          predicate.operand = .value value)) := by
  obtain ⟨op, hop, h⟩ := bind_eq_ok.1 h
  split at h
  · obtain rfl := pure_eq_ok.1 h
    exact ⟨hop, .inl ⟨rfl, _, rfl, rfl⟩⟩
  · obtain rfl := pure_eq_ok.1 h
    exact ⟨hop, .inl ⟨rfl, _, rfl, rfl⟩⟩
  · exact absurd h throw_ne_ok
  · exact absurd h throw_ne_ok
  · obtain rfl := pure_eq_ok.1 h
    exact ⟨hop, .inr (.inl ⟨rfl, _, rfl, rfl⟩)⟩
  · exact absurd h throw_ne_ok
  · next hone hnone hnull _ _ _ =>
    obtain rfl := pure_eq_ok.1 h
    have hlist : op.takesList = false := by
      cases op with
      | oneOf => exact (hone rfl).elim
      | noneOf => exact (hnone rfl).elim
      | _ => rfl
    exact ⟨hop, .inr (.inr ⟨hnull, hlist, rfl⟩)⟩

theorem Predicate.given_of_parse {key : String} {value : Json} {predicate : Predicate}
    (h : Predicate.parse key value = .ok predicate) : predicate.Given := by
  obtain ⟨-, h⟩ := cases_of_parse h
  unfold Given Suits
  rcases h with ⟨hlist, items, -, hoperand⟩ | ⟨hnull, flag, -, hoperand⟩ | ⟨hnull, hlist, hoperand⟩
  · rw [hoperand]
    exact ⟨hlist, trivial⟩
  · rw [hoperand]
    exact ⟨hnull, trivial⟩
  · rw [hoperand]
    exact ⟨⟨hnull, hlist⟩, trivial⟩

namespace Filter

theorem parseTerm_predicates {name : String} {members : List (String × Json)}
    (h : ∀ member ∈ members, isPredicateKey member.1 = true) :
    parseTerm name (.obj members) =
      (members.mapM fun member => Predicate.parse member.1 member.2).map (.predicates name) := by
  rw [parseTerm, if_pos (List.all_eq_true.2 h)]
  change members.mapM (fun member => Predicate.parse member.1 member.2) >>= _ = _
  cases members.mapM fun member => Predicate.parse member.1 member.2 <;> rfl

theorem parseTerm_nested {name : String} {members : List (String × Json)} {filter : Filter}
    (h : ∃ member ∈ members, isPredicateKey member.1 = false)
    (hfilter : parse (.obj members) = .ok filter) :
    parseTerm name (.obj members) = .ok (.nested name filter) := by
  obtain ⟨member, hmem, hkey⟩ := h
  have hall : ¬ members.all (fun member => isPredicateKey member.1) = true := fun hall =>
    Bool.false_ne_true (hkey.symm.trans (List.all_eq_true.1 hall member hmem))
  rw [parse] at hfilter
  rw [parseTerm, if_neg hall, hfilter]
  rfl

mutual

/-- Whatever stands in a filter, all predicates of it are read with the operands they take. -/
theorem given_of_parse : (value : Json) → ∀ {filter : Filter},
    parse value = .ok filter → ∀ predicate ∈ filter.predicates, predicate.Given
  | .obj members, filter, h => by
    rw [parse] at h
    exact given_of_parseMembers members (fun _ hnone => absurd hnone List.not_mem_nil) h
  | .null, filter, h => by cases h
  | .bool _, filter, h => by cases h
  | .int _, filter, h => by cases h
  | .double _, filter, h => by cases h
  | .str _, filter, h => by cases h
  | .arr _, filter, h => by cases h

theorem given_of_parseMembers : (members : List (String × Json)) → ∀ {read filter : Filter},
    (∀ predicate ∈ read.predicates, predicate.Given) → parseMembers read members = .ok filter →
      ∀ predicate ∈ filter.predicates, predicate.Given
  | [], read, filter, hread, h => by
    rw [parseMembers] at h
    obtain rfl := Except.ok.inj h
    exact hread
  | (key, value) :: rest, read, filter, hread, h => by
    obtain ⟨terms, conjuncts, alternatives⟩ := read
    simp only [predicates, List.forall_mem_append] at hread
    obtain ⟨⟨hterms, hconjuncts⟩, halternatives⟩ := hread
    rw [parseMembers] at h
    split at h
    · obtain ⟨group, hgroup, h⟩ := bind_eq_ok.1 h
      refine given_of_parseMembers rest ?_ h
      simp only [predicates, List.forall_mem_append]
      exact ⟨⟨hterms, given_of_parseGroup value hgroup⟩, halternatives⟩
    · split at h
      · obtain ⟨group, hgroup, h⟩ := bind_eq_ok.1 h
        refine given_of_parseMembers rest ?_ h
        simp only [predicates, List.forall_mem_append]
        exact ⟨⟨hterms, hconjuncts⟩, given_of_parseGroup value hgroup⟩
      · obtain ⟨term, hterm, h⟩ := bind_eq_ok.1 h
        refine given_of_parseMembers rest ?_ h
        simp only [predicates, Term.predicatesAll_append, Term.predicatesAll, List.append_nil,
          List.forall_mem_append]
        exact ⟨⟨⟨hterms, given_of_parseTerm value hterm⟩, hconjuncts⟩, halternatives⟩

theorem given_of_parseGroup : (value : Json) → ∀ {key : String} {filters : List Filter},
    parseGroup key value = .ok filters → ∀ predicate ∈ predicatesAll filters, predicate.Given
  | .null, key, filters, h => by
    rw [parseGroup] at h
    obtain rfl := Except.ok.inj h
    exact fun _ hnone => absurd hnone List.not_mem_nil
  | .arr items, key, filters, h => by
    rw [parseGroup] at h
    exact given_of_parseItems items h
  | .bool _, key, filters, h => by cases h
  | .int _, key, filters, h => by cases h
  | .double _, key, filters, h => by cases h
  | .str _, key, filters, h => by cases h
  | .obj _, key, filters, h => by cases h

theorem given_of_parseItems : (items : List Json) → ∀ {filters : List Filter},
    parseItems items = .ok filters → ∀ predicate ∈ predicatesAll filters, predicate.Given
  | [], filters, h => by
    rw [parseItems] at h
    obtain rfl := pure_eq_ok.1 h
    exact fun _ hnone => absurd hnone List.not_mem_nil
  | item :: rest, filters, h => by
    rw [parseItems] at h
    obtain ⟨filter, hfilter, h⟩ := bind_eq_ok.1 h
    obtain ⟨others, hothers, h⟩ := bind_eq_ok.1 h
    obtain rfl := pure_eq_ok.1 h
    rw [predicatesAll, List.forall_mem_append]
    exact ⟨given_of_parse item hfilter, given_of_parseItems rest hothers⟩

theorem given_of_parseTerm : (value : Json) → ∀ {key : String} {term : Term},
    parseTerm key value = .ok term → ∀ predicate ∈ term.predicatesOf, predicate.Given
  | .obj members, key, term, h => by
    rw [parseTerm] at h
    split at h
    · obtain ⟨predicates, hpredicates, h⟩ := bind_eq_ok.1 h
      obtain rfl := pure_eq_ok.1 h
      intro predicate hmem
      obtain ⟨member, -, hmember⟩ := exists_of_mem_right (mapM_eq_ok.1 hpredicates) hmem
      exact Predicate.given_of_parse hmember
    · obtain ⟨filter, hfilter, h⟩ := bind_eq_ok.1 h
      obtain rfl := pure_eq_ok.1 h
      exact given_of_parseMembers members (fun _ hnone => absurd hnone List.not_mem_nil) hfilter
  | .null, key, term, h => by cases h
  | .bool _, key, term, h => by cases h
  | .int _, key, term, h => by cases h
  | .double _, key, term, h => by cases h
  | .str _, key, term, h => by cases h
  | .arr _, key, term, h => by cases h

end

end Filter

end EntitySql
