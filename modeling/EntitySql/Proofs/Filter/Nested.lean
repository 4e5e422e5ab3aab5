import EntitySql.Proofs.Filter.Faults
import EntitySql.Proofs.Filter.Parsed
import EntitySql.Proofs.Relational.Stored

/-!
# Filters below relations

A filter on the target of a relation, put under the name of the relation. What stands under a name is
read before any schema is known, by the spelling of its keys, while the schema decides what it is
compiled to.

* `Filter.IsNested` says when the spelling and the schema agree.
* `Filter.Composed` is the condition that a joined row exists which satisfies what the filter by itself
  is compiled to.
* `Filter.composes`: put under a relation, a filter on its target is compiled to this condition if the
  two agree, and is refused otherwise.
-/

namespace EntitySql

set_option autoImplicit false

open Compile

variable {schema : Schema} {naming : Naming}

/-! ## Reading -/

namespace Filter

/-- The name and the keys are spelled as those of a relation with a nested filter: the name is not that
of a group, and not all keys are those of predicates, unless there are none. -/
def IsNested (name : String) : Json → Prop
  | .obj members => name ≠ "_and" ∧ name ≠ "_or" ∧
    (members = [] ∨ ∃ member ∈ members, isPredicateKey member.1 = false)
  | _ => False

theorem parse_singleton {name : String} {value : Json} (hand : name ≠ "_and") (hor : name ≠ "_or") :
    parse (.obj [(name, value)]) = (parseTerm name value).map fun term => { terms := [term] } := by
  rw [parse, parseMembers, if_neg hand, if_neg hor]
  cases parseTerm name value <;> rfl

/-- Members do not stand under the name of a group. -/
theorem parse_group_ne_ok {name : String} (members : List (String × Json))
    (hname : name = "_and" ∨ name = "_or") (filter : Filter) :
    parse (.obj [(name, .obj members)]) ≠ .ok filter := by
  rcases hname with rfl | rfl
  · rw [parse, parseMembers, if_pos rfl]
    exact throw_ne_ok
  · rw [parse, parseMembers, if_neg (by decide), if_pos rfl]
    exact throw_ne_ok

end Filter

/-! ## Relations -/

section

variable {entity name target : String}

/-- What leads somewhere is a relation. -/
theorem Schema.relation_of_target? (h : schema.target? entity name = some target) :
    (∃ relation, schema.resolve entity name = .ok (some (.manyToOne relation)) ∧
      schema.manyToOne? entity name = some relation ∧ relation.name = name ∧
        relation.targetEntity = target) ∨
    ∃ relation, schema.resolve entity name = .ok (some (.oneToMany relation)) ∧
      schema.oneToMany? entity name = some relation ∧ relation.name = name ∧
        relation.targetEntity = target := by
  cases hmember : schema.member? entity name with
  | none =>
    rw [target?, hmember] at h
    cases h
  | some member =>
    have hresolve := resolve_of_member? hmember
    rw [target?, hmember] at h
    rcases found_of_resolve hresolve with ⟨field, rfl, -⟩ | ⟨relation, rfl, hrelation⟩ |
      ⟨relation, rfl, hrelation⟩
    · cases h
    · obtain ⟨_, _, _, _, hname⟩ := manyToOne?_eq_some hrelation
      exact .inl ⟨relation, hresolve, hrelation, hname, Option.some.inj h⟩
    · obtain ⟨_, _, _, _, hname⟩ := oneToMany?_eq_some hrelation
      exact .inr ⟨relation, hresolve, hrelation, hname, Option.some.inj h⟩

theorem Schema.declares_of_target? (h : schema.target? entity name = some target) :
    schema.Declares entity := by
  rcases relation_of_target? h with ⟨relation, -, hrelation, -⟩ | ⟨relation, -, hrelation, -⟩
  · obtain ⟨owner, howner, hname, -⟩ := manyToOne?_eq_some hrelation
    exact ⟨owner, howner, hname⟩
  · obtain ⟨owner, howner, hname, -⟩ := oneToMany?_eq_some hrelation
    exact ⟨owner, howner, hname⟩

theorem Naming.Covers.reaches (h : naming.Covers schema)
    (htarget : schema.target? entity name = some target) :
    naming.Reaches schema entity name target := by
  rcases Schema.relation_of_target? htarget with ⟨relation, -, hrelation, rfl, rfl⟩ |
    ⟨relation, -, hrelation, rfl, rfl⟩
  · exact h.manyToOne _ _ relation hrelation
  · exact h.oneToMany _ _ relation hrelation

/-- The rows of a declared entity have a label, whether they are known as a source or by their table. -/
theorem Naming.Covers.exists_label (h : naming.Covers schema) (hentity : schema.Declares entity)
    (source : Option String) :
    ∃ label, (source.map .ok).getD (naming.table entity) = .ok label := by
  cases source with
  | some given => exact ⟨given, rfl⟩
  | none => exact h.table entity hentity

/-- A relation does not take predicates. -/
theorem Term.suits_predicates_iff (htarget : schema.target? entity name = some target)
    {predicates : List Predicate} :
    (Term.predicates name predicates).Suits schema entity ↔ predicates = [] := by
  rw [Term.Suits]
  rcases Schema.relation_of_target? htarget with ⟨relation, hresolve, -⟩ | ⟨relation, hresolve, -⟩
  · rw [Schema.member?_of_resolve hresolve]
  · rw [Schema.member?_of_resolve hresolve]

/-! ## Compiling -/

theorem Filter.compileTerm_nested (htarget : schema.target? entity name = some target)
    (source : String) (filter : Filter) :
    compileTerm schema naming entity source (.nested name filter) =
      do return [← compileExists naming entity source name target fun joined =>
        filter.compile schema naming target joined] := by
  rcases Schema.relation_of_target? htarget with ⟨relation, hresolve, -, rfl, rfl⟩ |
    ⟨relation, hresolve, -, rfl, rfl⟩
  · rw [compileTerm, hresolve]
    rfl
  · rw [compileTerm, hresolve]
    rfl

/-- Without predicates, it is as if the filter were nested. -/
theorem Filter.compileTerm_predicates_nil (htarget : schema.target? entity name = some target)
    (source : String) :
    compileTerm schema naming entity source (.predicates name []) =
      compileTerm schema naming entity source (.nested name {}) := by
  rw [compileTerm_nested htarget]
  rcases Schema.relation_of_target? htarget with ⟨relation, hresolve, -, rfl, rfl⟩ |
    ⟨relation, hresolve, -, rfl, rfl⟩
  · rw [compileTerm, hresolve]
    rfl
  · rw [compileTerm, hresolve]
    rfl

theorem yields_compileExists {source : String} {inner : String → Compile Condition} {s s' : Aliases}
    {condition : Condition} :
    Yields (compileExists naming entity source name target inner) s condition s' ↔
      ∃ link table within, naming.link entity name = .ok link ∧ naming.table target = .ok table ∧
        Yields (inner (Aliases.name "w" (s.count "w"))) (Aliases.next "w" s).2 within s' ∧
        condition = .exists (joinedRows table (Aliases.name "w" (s.count "w")) link.toColumn
          (.column source link.fromColumn) within) := by
  simp only [compileExists, yields_bind, yields_ofResult, yields_fresh, yields_pure]
  constructor
  · rintro ⟨link, _, ⟨hlink, rfl⟩, table, _, ⟨htable, rfl⟩, _, _, ⟨rfl, rfl⟩, within, _, hwithin, rfl,
      rfl⟩
    exact ⟨link, table, within, hlink, htable, hwithin, rfl⟩
  · rintro ⟨link, table, within, hlink, htable, hwithin, rfl⟩
    exact ⟨link, _, ⟨hlink, rfl⟩, table, _, ⟨htable, rfl⟩, _, _, ⟨rfl, rfl⟩, within, _, hwithin, rfl,
      rfl⟩

namespace Filter

theorem compile_singleton (term : Term) (source : String) :
    compile schema naming entity source { terms := [term] } =
      do return .all (← compileTerm schema naming entity source term) := by
  simp [compile, compileTerms, compileList]

/-- A filter of one term asks for just what the term asks for. -/
theorem yields_compileOn_singleton {term : Term} {source : Option String} {s s' : Aliases}
    {condition : Condition} :
    Yields (compileOn schema naming entity source { terms := [term] }) s condition s' ↔
      ∃ label conditions, (source.map .ok).getD (naming.table entity) = .ok label ∧
        Yields (compileTerm schema naming entity label term) s conditions s' ∧
        condition = .all conditions := by
  cases source with
  | some given =>
    simp only [compileOn, compile_singleton, yields_bind, yields_pure]
    constructor
    · rintro ⟨label, _, ⟨rfl, rfl⟩, conditions, _, hconditions, rfl, rfl⟩
      exact ⟨label, conditions, rfl, hconditions, rfl⟩
    · rintro ⟨label, conditions, hlabel, hconditions, rfl⟩
      exact ⟨label, s, ⟨(Except.ok.inj hlabel).symm, rfl⟩, conditions, s', hconditions, rfl, rfl⟩
  | none =>
    simp only [compileOn, compile_singleton, yields_bind, yields_pure, yields_ofResult]
    constructor
    · rintro ⟨label, _, ⟨htable, rfl⟩, conditions, _, hconditions, rfl, rfl⟩
      exact ⟨label, conditions, htable, hconditions, rfl⟩
    · rintro ⟨label, conditions, hlabel, hconditions, rfl⟩
      exact ⟨label, s, ⟨hlabel, rfl⟩, conditions, s', hconditions, rfl, rfl⟩

/-- The condition on the rows of a source that some row of the target of a relation is joined to them,
under an alias taken for it, and satisfies what the filter by itself is compiled to there. -/
inductive Composed (schema : Schema) (naming : Naming) (entity name target : String)
    (filter : Filter) (source : Option String) (s : Aliases) : Condition → Aliases → Prop
  | intro {label table : String} {link : Link} {within : Condition} {s' : Aliases}
      (hlabel : (source.map .ok).getD (naming.table entity) = .ok label)
      (hlink : naming.link entity name = .ok link) (htable : naming.table target = .ok table)
      (hwithin : Yields (filter.compileOn schema naming target
        (some (Aliases.name "w" (s.count "w")))) (Aliases.next "w" s).2 within s') :
      Composed schema naming entity name target filter source s
        (.all [.exists (joinedRows table (Aliases.name "w" (s.count "w")) link.toColumn
          (.column label link.fromColumn) within)]) s'

/-- A term that is compiled like a nested filter is compiled, if the filter is. -/
theorem composed_of_compileTerm (h : naming.Covers schema)
    (htarget : schema.target? entity name = some target) {term : Term} {filter : Filter}
    (hterm : ∀ label, compileTerm schema naming entity label term =
      compileTerm schema naming entity label (.nested name filter))
    (hsuits : filter.Suits schema target) (source : Option String) (s : Aliases) :
    ∃ condition s', Yields (compileOn schema naming entity source { terms := [term] }) s condition s' ∧
      Composed schema naming entity name target filter source s condition s' := by
  obtain ⟨⟨link, hlink⟩, hdeclared⟩ := h.reaches htarget
  obtain ⟨table, htable⟩ := h.table target hdeclared
  obtain ⟨label, hlabel⟩ := h.exists_label (Schema.declares_of_target? htarget) source
  let joined := Aliases.name "w" (s.count "w")
  obtain ⟨within, s', hwithin⟩ :=
    (succeeds_compile h hdeclared filter joined (Aliases.next "w" s).2).2 hsuits
  refine ⟨_, s', yields_compileOn_singleton.2 ⟨label, _, hlabel, ?_, rfl⟩,
    .intro hlabel hlink htable hwithin⟩
  rw [hterm label, compileTerm_nested htarget, yields_bind]
  exact ⟨_, s', yields_compileExists.2 ⟨link, table, within, hlink, htable, hwithin, rfl⟩,
    yields_pure.2 ⟨rfl, rfl⟩⟩

/-- Spelled as a nested filter, a filter on the target is read as one. -/
theorem exists_composed (h : naming.Covers schema)
    (htarget : schema.target? entity name = some target) {value : Json} {filter : Filter}
    (hfilter : parse value = .ok filter) (hsuits : filter.Suits schema target)
    (hnested : IsNested name value) : ∃ outer, parse (.obj [(name, value)]) = .ok outer ∧
      ∀ source s, ∃ condition s',
        Yields (outer.compileOn schema naming entity source) s condition s' ∧
          Composed schema naming entity name target filter source s condition s' := by
  cases value with
  | obj members =>
    obtain ⟨hand, hor, rfl | hkeys⟩ := hnested
    · -- without keys it is read as no predicates, which are compiled like an empty filter
      obtain rfl := Except.ok.inj hfilter
      have hterm : parseTerm name (.obj []) = .ok (.predicates name []) := rfl
      refine ⟨{ terms := [.predicates name []] }, ?_, composed_of_compileTerm h htarget
        (fun label => compileTerm_predicates_nil htarget label) hsuits⟩
      rw [parse_singleton hand hor, hterm]
      rfl
    · refine ⟨{ terms := [.nested name filter] }, ?_,
        composed_of_compileTerm h htarget (fun _ => rfl) hsuits⟩
      rw [parse_singleton hand hor, parseTerm_nested hkeys hfilter]
      rfl
  | _ => exact hnested.elim

/-- Spelled in any other way, it is read as a group or as predicates, which a relation does not take. -/
theorem not_suits_of_not_isNested (htarget : schema.target? entity name = some target)
    {value : Json} {filter outer : Filter} (hfilter : parse value = .ok filter)
    (hnested : ¬ IsNested name value) (houter : parse (.obj [(name, value)]) = .ok outer) :
    ¬ outer.Suits schema entity := by
  cases value with
  | obj members =>
    by_cases hgroup : name = "_and" ∨ name = "_or"
    · exact absurd houter (parse_group_ne_ok members hgroup outer)
    obtain ⟨hand, hor⟩ := not_or.1 hgroup
    have hkeys : members ≠ [] ∧ ∀ member ∈ members, isPredicateKey member.1 = true := by
      simp only [IsNested, hand, hor, ne_eq, not_false_eq_true, true_and, not_or, not_exists, not_and,
        Bool.not_eq_false] at hnested
      exact hnested
    rw [parse_singleton hand hor, parseTerm_predicates hkeys.2] at houter
    cases hmap : members.mapM fun member => Predicate.parse member.1 member.2 with
    | error fault =>
      rw [hmap] at houter
      cases houter
    | ok predicates =>
      rw [hmap] at houter
      obtain rfl := Except.ok.inj houter
      -- every key is read as a predicate, so there is at least one
      have hsome : predicates ≠ [] := by
        rintro rfl
        exact hkeys.1 (List.forall₂_nil_right_iff.1 (mapM_eq_ok.1 hmap))
      rintro ⟨⟨hterm, -⟩, -⟩
      exact hsome ((Term.suits_predicates_iff htarget).1 hterm)
  | _ => cases hfilter

/-- A filter that is compiled on the target of a relation is compiled below the relation too, to the
condition that a joined row exists for which it holds, if it is spelled as a nested filter. Spelled in
any other way it is refused. -/
theorem composes {entities : List Entity} {overrides : Assoc String}
    (hschema : Schema.ofEntities entities = .ok schema)
    (hnaming : Naming.ofSchema overrides schema = .ok naming)
    (htarget : schema.target? entity name = some target) {value : Json} {filter : Filter}
    (hfilter : parse value = .ok filter) {source : Option String} {s : Aliases}
    (hcompiles : Succeeds (filter.compileOn schema naming target source) s) :
    (IsNested name value → ∃ outer, parse (.obj [(name, value)]) = .ok outer ∧
      ∀ source s, ∃ condition s',
        Yields (outer.compileOn schema naming entity source) s condition s' ∧
          Composed schema naming entity name target filter source s condition s') ∧
    (¬ IsNested name value → ∀ outer, parse (.obj [(name, value)]) = .ok outer →
      ∀ source s, ¬ Succeeds (outer.compileOn schema naming entity source) s) := by
  obtain ⟨rfl, hwellFormed⟩ := Schema.ofEntities_eq_ok.1 hschema
  have hcovers := Naming.covers_of_follows hwellFormed
    (Naming.follows_of_ofSchema hwellFormed hnaming)
  have hsuits := (succeeds_compileOn hcovers (hcovers.reaches htarget).declared filter source s).1
    hcompiles
  refine ⟨exists_composed hcovers htarget hfilter hsuits, fun hnested outer houter source s => ?_⟩
  rw [succeeds_compileOn hcovers (Schema.declares_of_target? htarget)]
  exact not_suits_of_not_isNested htarget hfilter hnested houter

end Filter

end

/-! ## The library -/

def Library.titledEmma : Json :=
  .obj [("title", .obj [("_eq", .str "Emma")])]

/-- Authors of books with a title, by the filter on books. -/
theorem Filter.composes_titledEmma : ∃ filter outer condition s',
    parse Library.titledEmma = .ok filter ∧
      parse (.obj [("books", Library.titledEmma)]) = .ok outer ∧
      Yields (outer.compileOn Library.schema Library.naming "Author" none) {} condition s' ∧
      Composed Library.schema Library.naming "Author" "books" "Book" filter none {} condition s' := by
  obtain ⟨filter, hfilter⟩ : ∃ filter, parse Library.titledEmma = .ok filter := ⟨_, rfl⟩
  have hcompiles : Succeeds (filter.compileOn Library.schema Library.naming "Book" none) {} := by
    obtain rfl := Except.ok.inj hfilter
    exact ⟨_, _, rfl⟩
  have htarget : Library.schema.target? "Author" "books" = some "Book" := rfl
  obtain ⟨hnested, -⟩ := composes Library.ofEntities_entities Library.ofSchema_schema htarget hfilter
    hcompiles
  obtain ⟨outer, houter, hcomposed⟩ :=
    hnested ⟨by decide, by decide, .inr ⟨_, List.mem_singleton.2 rfl, by decide⟩⟩
  obtain ⟨condition, s', hyields, hcondition⟩ := hcomposed none {}
  exact ⟨filter, outer, condition, s', hfilter, houter, hyields, hcondition⟩

/-- Books with a field whose name begins like that of an operator. -/
def Library.rankedEntities : List Entity := [
  { name := "Author"
    fields := [⟨"id", .integer, {}, { primary := true }⟩]
    oneToMany := [⟨"books", "Book", "writer"⟩] },
  { name := "Book"
    fields := [⟨"id", .integer, {}, { primary := true }⟩, ⟨"_rank", .integer, {}, {}⟩]
    manyToOne := [⟨"writer", "Author", "id", {}⟩] }]

def Library.rankedNaming : Naming := ⟨[
  ("Author", {
    table := "author"
    columns := [("id", "id")]
    links := [("books", Library.writerLink.reversed)] }),
  ("Book", {
    table := "book"
    columns := [("id", "id"), ("_rank", "rank")]
    links := [("writer", Library.writerLink)] })]⟩

def Library.rankedFirst : Json :=
  .obj [("_rank", .obj [("_eq", .int 1)])]

/-- Books can be asked for their rank, but not as the books of an author. -/
theorem Filter.parse_below_rankedFirst :
    Schema.ofEntities Library.rankedEntities = .ok ⟨Library.rankedEntities⟩ ∧
      Naming.ofSchema [] ⟨Library.rankedEntities⟩ = .ok Library.rankedNaming ∧
      Schema.target? ⟨Library.rankedEntities⟩ "Author" "books" = some "Book" ∧
      (∃ filter, parse Library.rankedFirst = .ok filter ∧
        Succeeds (filter.compileOn ⟨Library.rankedEntities⟩ Library.rankedNaming "Book" none) {}) ∧
      parse (.obj [("books", Library.rankedFirst)]) = .error (.operator (.unknown "_rank")) :=
  ⟨by decide +kernel, by decide +kernel, rfl, ⟨_, rfl, _, _, rfl⟩, rfl⟩

end EntitySql
