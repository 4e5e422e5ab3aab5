import EntitySql.Proofs.Naming.Found

/-!
# Filters find their names

Whatever a filter is about, the schema is asked for it before the naming is: compiling a filter fails
for many reasons, but for no want of a physical name.

* `Predicate.findsNames_compileAll` is about predicates on a field, `findsNames_compileExists` about
  relations.
* `Filter.findsNames_compile` is about filters, at any depth of their relations.
-/

namespace EntitySql

set_option autoImplicit false

open Compile

variable {schema : Schema} {naming : Naming} {entity source : String}

/-- A predicate on a column fails for its operand only. -/
theorem Predicate.findsNames_compile (left : Expr) (type : SqlType) (predicate : Predicate) :
    Result.FindsNames (predicate.compile left type) := by
  obtain ⟨operator, operand⟩ := predicate
  unfold compile
  dsimp only
  split_ifs
  all_goals
    split
    all_goals first | exact .ok _ | exact .error nofun

theorem Predicate.findsNames_compileAll {field : Field} (predicates : List Predicate)
    (hcolumn : ∃ column, naming.column entity field.name = .ok column) :
    Result.FindsNames (compileAll naming entity source field predicates) :=
  (Result.FindsNames.of_eq_ok hcolumn).bind fun _ _ =>
    .mapM fun predicate _ => predicate.findsNames_compile _ _

theorem findsNames_compileExists (h : naming.Covers schema) {relation target : String}
    (hreaches : naming.Reaches schema entity relation target) {inner : String → Compile Condition}
    (hinner : ∀ joined, FindsNames (inner joined)) :
    FindsNames (compileExists naming entity source relation target inner) := by
  have hlink := Result.FindsNames.of_eq_ok hreaches.link
  have htable := Result.FindsNames.of_eq_ok (h.table target hreaches.declared)
  exact .ofResult_bind hlink fun _ _ => .ofResult_bind htable fun _ _ =>
    (FindsNames.modifyGet _).bind fun joined _ _ _ => (hinner joined).map _

namespace Filter

theorem findsNames_compileOnRelation (h : naming.Covers schema) {relation target : String}
    (hreaches : naming.Reaches schema entity relation target) (predicates : List Predicate) :
    FindsNames (compileOnRelation naming entity source relation target predicates) := by
  cases predicates with
  | cons predicate rest => exact .throw nofun
  | nil => exact (findsNames_compileExists h hreaches fun _ => .pure _).map _

theorem findsNames_compileOnField (field : Field) (filter : Filter) :
    Result.FindsNames (compileOnField entity field filter) := by
  unfold compileOnField
  split
  · exact .error nofun
  · exact .ok _

mutual

theorem findsNames_compile (h : naming.Covers schema) : (filter : Filter) →
    ∀ entity source, FindsNames (filter.compile schema naming entity source)
  | { terms, conjuncts, alternatives }, entity, source => by
    rw [compile]
    exact (findsNames_compileTerms h terms entity source).bind fun _ _ _ _ =>
      (findsNames_compileList h conjuncts entity source).bind fun _ _ _ _ =>
        (findsNames_compileList h alternatives entity source).map _

/-- The schema resolves the name of a term; what it finds has its names. -/
theorem findsNames_compileTerm (h : naming.Covers schema) : (term : Term) →
    ∀ entity source, FindsNames (compileTerm schema naming entity source term)
  | .predicates name predicates, entity, source => by
    rw [compileTerm]
    refine .ofResult_bind (schema.findsNames_resolve entity name) fun found hfound => ?_
    cases found with
    | none => exact .throw nofun
    | some member =>
      rcases Schema.found_of_resolve hfound with ⟨field, rfl, hfield⟩ | ⟨relation, rfl, hrelation⟩ |
        ⟨relation, rfl, hrelation⟩
      · exact .ofExcept (Predicate.findsNames_compileAll predicates (h.column _ _ _ hfield))
      · exact findsNames_compileOnRelation h (h.manyToOne _ _ _ hrelation) predicates
      · exact findsNames_compileOnRelation h (h.oneToMany _ _ _ hrelation) predicates
  | .nested name filter, entity, source => by
    rw [compileTerm]
    refine .ofResult_bind (schema.findsNames_resolve entity name) fun found hfound => ?_
    cases found with
    | none => exact .throw nofun
    | some member =>
      rcases Schema.found_of_resolve hfound with ⟨field, rfl, hfield⟩ | ⟨relation, rfl, hrelation⟩ |
        ⟨relation, rfl, hrelation⟩
      · exact .ofExcept (findsNames_compileOnField field filter)
      · exact (findsNames_compileExists h (h.manyToOne _ _ _ hrelation) fun joined =>
          findsNames_compile h filter _ joined).map _
      · exact (findsNames_compileExists h (h.oneToMany _ _ _ hrelation) fun joined =>
          findsNames_compile h filter _ joined).map _

theorem findsNames_compileTerms (h : naming.Covers schema) : (terms : List Term) →
    ∀ entity source, FindsNames (compileTerms schema naming entity source terms)
  | [], _, _ => .pure _
  | term :: rest, entity, source => by
    rw [compileTerms]
    exact (findsNames_compileTerm h term entity source).bind fun _ _ _ _ =>
      (findsNames_compileTerms h rest entity source).map _

theorem findsNames_compileList (h : naming.Covers schema) : (filters : List Filter) →
    ∀ entity source, FindsNames (compileList schema naming entity source filters)
  | [], _, _ => .pure _
  | filter :: rest, entity, source => by
    rw [compileList]
    exact (findsNames_compile h filter entity source).bind fun _ _ _ _ =>
      (findsNames_compileList h rest entity source).map _

end

end Filter

end EntitySql
