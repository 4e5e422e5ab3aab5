import EntitySql.Proofs.Binding.Literals
import EntitySql.Proofs.Filter.Parsed
import EntitySql.Proofs.Operation.Placeholders

/-!
# Operations that are read

An operation that is read from JSON has values only: none of its operands is a placeholder, so that
all placeholders of its statement are those of the planning.

* `Filter.placeholders_parse` is about filters, `ReadRequest.placeholders_ofJson?` about reads.
* `Operation.parsed_of_ofJson?` says what the parts of an operation are read from,
  `Operation.placeholders_ofJson?` follows.
-/

namespace EntitySql

set_option autoImplicit false

open Json

/-! ## Filters -/

theorem Filter.placeholders_parse {value : Json} {filter : Filter} (h : parse value = .ok filter) :
    filter.placeholders = [] := by
  rw [placeholders_eq, Predicate.placeholdersAll, List.flatMap_eq_nil_iff]
  intro predicate hmem
  exact (given_of_parse value h predicate hmem).2.placeholders

/-- A filter that may be left out has no placeholders either. -/
theorem Filter.placeholdersOf_eq_nil {filter : Option Filter}
    (h : ∀ given ∈ filter, ∃ value, ofJson? value = some given) : placeholdersOf filter = [] := by
  cases filter with
  | none => rfl
  | some filter =>
    obtain ⟨value, hvalue⟩ := h filter rfl
    exact placeholders_parse (toOption_eq_some.1 hvalue)

/-! ## Reads -/

theorem ReadArgs.placeholders_ofJson? {value : Json} {args : ReadArgs}
    (h : ReadArgs.ofJson? value = some args) : Filter.placeholdersOf args.filter = [] := by
  obtain ⟨members, -, h⟩ := Option.bind_eq_some_iff.1 h
  obtain ⟨filter, hfilter, h⟩ := Option.bind_eq_some_iff.1 h
  obtain ⟨order, -, h⟩ := Option.bind_eq_some_iff.1 h
  obtain ⟨limit, -, h⟩ := Option.bind_eq_some_iff.1 h
  obtain ⟨offset, -, h⟩ := Option.bind_eq_some_iff.1 h
  obtain rfl := Option.some.inj h
  exact Filter.placeholdersOf_eq_nil (Json.optional_eq_some hfilter)

theorem ReadRequest.placeholders_ofJson? {value : Json} {request : ReadRequest}
    (h : ReadRequest.ofJson? value = some request) : request.placeholders = [] :=
  request.placeholders_eq_nil.2 (each_ofJson? (fun _ _ => ReadArgs.placeholders_ofJson?) h)

/-! ## Operations -/

namespace Operation

/-- The read or the filter of the operation is read from JSON. -/
def Parsed : Operation → Prop
  | select _ request _ => ∃ value, ReadRequest.ofJson? value = some request
  | insert .. | insertMany .. => True
  | aggregate _ _ _ filter | update _ _ filter | delete _ filter =>
    ∀ given ∈ filter, ∃ value, Filter.ofJson? value = some given

theorem parsed_of_ofMembers? {type : String} {members : Assoc Json} {operation : Operation}
    (h : ofMembers? type members = some operation) : operation.Parsed := by
  obtain ⟨entity, -, h⟩ := Option.bind_eq_some_iff.1 h
  split at h
  · obtain ⟨request, hrequest, h⟩ := Option.bind_eq_some_iff.1 h
    obtain ⟨one, -, h⟩ := Option.bind_eq_some_iff.1 h
    obtain rfl := Option.some.inj h
    obtain ⟨tree, -, hread⟩ := Option.bind_eq_some_iff.1 hrequest
    exact ⟨tree, hread⟩
  · obtain ⟨function, -, h⟩ := Option.bind_eq_some_iff.1 h
    obtain ⟨target, -, h⟩ := Option.bind_eq_some_iff.1 h
    obtain ⟨filter, hfilter, h⟩ := Option.bind_eq_some_iff.1 h
    obtain rfl := Option.some.inj h
    exact Json.optional_eq_some hfilter
  · obtain ⟨data, -, h⟩ := Option.bind_eq_some_iff.1 h
    obtain rfl := Option.some.inj h
    trivial
  · obtain ⟨data, -, h⟩ := Option.bind_eq_some_iff.1 h
    obtain rfl := Option.some.inj h
    trivial
  · obtain ⟨data, -, h⟩ := Option.bind_eq_some_iff.1 h
    obtain ⟨filter, hfilter, h⟩ := Option.bind_eq_some_iff.1 h
    obtain rfl := Option.some.inj h
    exact Json.optional_eq_some hfilter
  · obtain ⟨filter, hfilter, h⟩ := Option.bind_eq_some_iff.1 h
    obtain rfl := Option.some.inj h
    exact Json.optional_eq_some hfilter
  · cases h

theorem parsed_of_ofJson? {value : Json} {operation : Operation}
    (h : ofJson? value = some operation) : operation.Parsed := by
  obtain ⟨⟨type, content⟩, -, h⟩ := Option.bind_eq_some_iff.1 h
  obtain ⟨keys, -, h⟩ := Option.bind_eq_some_iff.1 h
  obtain ⟨members, -, h⟩ := Option.bind_eq_some_iff.1 h
  exact parsed_of_ofMembers? h

theorem placeholders_ofJson? {value : Json} {operation : Operation}
    (h : ofJson? value = some operation) : operation.placeholders = [] := by
  have hparsed := parsed_of_ofJson? h
  cases operation with
  | select entity request one =>
    obtain ⟨tree, hread⟩ := hparsed
    exact ReadRequest.placeholders_ofJson? hread
  | insert | insertMany => rfl
  | aggregate | update | delete => exact Filter.placeholdersOf_eq_nil hparsed

end Operation

end EntitySql
