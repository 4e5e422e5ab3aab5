import EntitySql.Proofs.Compile.Inline
import EntitySql.Proofs.Filter.Faults
import EntitySql.Proofs.Filter.Parsed

/-!
# Filters that a schema accepts

A filter that is read from JSON has the operands that its operators take, so that it is refused for its
names and for the places of its predicates only, before its values are bound and after.

* `Question.Correct` says when the schema has an answer to a question, `Question.Refused` what the fault
  is if it has none.
* `Filter.accepts_iff_correct`: a filter is compiled to a sound condition if all its questions are
  correct, and otherwise fails at the first that is not. It never fails for an operand.
-/

namespace EntitySql

set_option autoImplicit false

/-! ## Answers of a schema -/

namespace Question

/-- A field has predicates, or a filter that asks for nothing. A relation has a filter, whose own terms
are questions to its target, or no predicates. -/
def Correct (schema : Schema) : Question → Prop
  | ⟨entity, .predicates name predicates⟩ =>
    match schema.member? entity name with
    | some (.field _) => True
    | some (.manyToOne _) | some (.oneToMany _) => predicates = []
    | none => False
  | ⟨entity, .nested name filter⟩ =>
    match schema.member? entity name with
    | some (.field _) => filter.isEmpty
    | some (.manyToOne _) | some (.oneToMany _) => True
    | none => False

/-- The fault of a question that is refused: a name that refers to nothing, a filter on a field that asks
for something, by its first key, and predicates on a relation, by the first of them. -/
inductive Refused (schema : Schema) : Question → Fault → Prop
  | unknown {entity : String} {term : Term} (hname : schema.member? entity term.name = none) :
    Refused schema ⟨entity, term⟩ (.name (.member entity term.name))
  | onField {entity name key : String} {filter : Filter} {field : Field}
    (hfield : schema.member? entity name = some (.field field)) (hkey : filter.firstKey? = some key) :
    Refused schema ⟨entity, .nested name filter⟩ (.operator (.onField entity name key))
  | onRelation {entity name target : String} {predicate : Predicate} {rest : List Predicate}
    (htarget : schema.target? entity name = some target) :
    Refused schema ⟨entity, .predicates name (predicate :: rest)⟩
      (.filter (.onRelation entity name predicate.operator))

variable {schema : Schema}

theorem fault?_eq_none_iff {question : Question}
    (hsuits : ∀ predicate ∈ question.term.predicatesOf, predicate.Suits) :
    question.fault? schema = none ↔ question.Correct schema := by
  obtain ⟨entity, term⟩ := question
  cases term with
  | predicates name predicates =>
    rw [fault?, Correct]
    cases schema.member? entity name with
    | none => exact iff_of_false (Option.some_ne_none _) not_false
    | some member =>
      cases member with
      | field field =>
        refine iff_of_true (List.findSome?_eq_none_iff.2 fun predicate hmem => ?_) trivial
        exact Predicate.fault?_eq_none.2 (hsuits predicate hmem)
      | manyToOne relation => simp
      | oneToMany relation => simp
  | nested name filter =>
    rw [fault?, Correct]
    cases schema.member? entity name with
    | none => exact iff_of_false (Option.some_ne_none _) not_false
    | some member =>
      cases member with
      | field field => exact Option.map_eq_none_iff.trans Filter.firstKey?_eq_none
      | manyToOne relation => exact iff_of_true rfl trivial
      | oneToMany relation => exact iff_of_true rfl trivial

/-- Predicates that have what they take are refused for their place only. -/
theorem refused_of_predicates {entity name : String} {predicates : List Predicate}
    (hsuits : ∀ predicate ∈ predicates, predicate.Suits) {fault : Fault}
    (h : fault? schema ⟨entity, .predicates name predicates⟩ = some fault) :
    Refused schema ⟨entity, .predicates name predicates⟩ fault := by
  have hrelation : ∀ target, schema.target? entity name = some target →
      predicates.head?.map (fun predicate => Fault.filter (.onRelation entity name predicate.operator)) =
        some fault → Refused schema ⟨entity, .predicates name predicates⟩ fault := by
    intro target htarget hfault
    cases predicates with
    | nil => cases hfault
    | cons predicate rest =>
      obtain rfl := Option.some.inj hfault
      exact .onRelation htarget
  rw [fault?] at h
  cases hmember : schema.member? entity name with
  | none =>
    rw [hmember] at h
    obtain rfl := Option.some.inj h
    exact .unknown hmember
  | some member =>
    rw [hmember] at h
    rw [Schema.target?, hmember] at hrelation
    cases member with
    | field field =>
      obtain ⟨predicate, hmem, hfault⟩ := List.exists_of_findSome?_eq_some h
      rw [Predicate.fault?_eq_none.2 (hsuits predicate hmem)] at hfault
      cases hfault
    | manyToOne relation => exact hrelation _ rfl h
    | oneToMany relation => exact hrelation _ rfl h

theorem refused_of_nested {entity name : String} {filter : Filter} {fault : Fault}
    (h : fault? schema ⟨entity, .nested name filter⟩ = some fault) :
    Refused schema ⟨entity, .nested name filter⟩ fault := by
  rw [fault?] at h
  cases hmember : schema.member? entity name with
  | none =>
    rw [hmember] at h
    obtain rfl := Option.some.inj h
    exact .unknown hmember
  | some member =>
    rw [hmember] at h
    cases member with
    | field field =>
      obtain ⟨key, hkey, rfl⟩ := Option.map_eq_some_iff.1 h
      exact .onField hmember hkey
    | manyToOne relation => cases h
    | oneToMany relation => cases h

theorem Refused.fault? {question : Question} {fault : Fault} (h : question.Refused schema fault) :
    question.fault? schema = some fault := by
  cases h with
  | @unknown entity term hname =>
    cases term with
    | predicates name predicates =>
      rw [Question.fault?, show schema.member? entity name = none from hname]
      rfl
    | nested name filter =>
      rw [Question.fault?, show schema.member? entity name = none from hname]
      rfl
  | onField hfield hkey =>
    rw [Question.fault?, hfield]
    exact Option.map_eq_some_iff.2 ⟨_, hkey, rfl⟩
  | @onRelation entity name target predicate rest htarget =>
    rw [Question.fault?]
    rw [Schema.target?] at htarget
    split at htarget
    · next hmember => rw [hmember]; rfl
    · next hmember => rw [hmember]; rfl
    · cases htarget

theorem fault?_eq_some_iff {question : Question}
    (hsuits : ∀ predicate ∈ question.term.predicatesOf, predicate.Suits) {fault : Fault} :
    question.fault? schema = some fault ↔ question.Refused schema fault := by
  refine ⟨fun h => ?_, Refused.fault?⟩
  obtain ⟨entity, term⟩ := question
  cases term with
  | predicates name predicates => exact refused_of_predicates hsuits h
  | nested name filter => exact refused_of_nested h

section

variable {questions : List Question}
  (hsuits : ∀ question ∈ questions, ∀ predicate ∈ question.term.predicatesOf, predicate.Suits)
include hsuits

theorem firstFault?_eq_none_iff :
    firstFault? schema questions = none ↔ ∀ question ∈ questions, question.Correct schema :=
  List.findSome?_eq_none_iff.trans
    (forall₂_congr fun question hmem => fault?_eq_none_iff (hsuits question hmem))

theorem firstFault?_eq_some_iff {fault : Fault} :
    firstFault? schema questions = some fault ↔
      ∃ done question rest, questions = done ++ question :: rest ∧
        (∀ earlier ∈ done, earlier.Correct schema) ∧ question.Refused schema fault := by
  rw [firstFault?, List.findSome?_eq_some_iff]
  refine exists_congr fun done => exists_congr fun question => exists_congr fun rest =>
    and_congr_right fun hquestions => ?_
  rw [hquestions, List.forall_mem_append, List.forall_mem_cons] at hsuits
  obtain ⟨hdone, hquestion, -⟩ := hsuits
  rw [and_comm]
  exact and_congr (forall₂_congr fun earlier hmem => fault?_eq_none_iff (hdone earlier hmem))
    (fault?_eq_some_iff hquestion)

end

end Question

variable {schema : Schema}

/-! ## Predicates that are asked -/

mutual

/-- What stands in a question stands in the filter. -/
theorem Filter.predicates_of_question : (filter : Filter) → ∀ {entity question},
    question ∈ filter.questions schema entity → question.term.predicatesOf ⊆ filter.predicates
  | { terms, conjuncts, alternatives }, entity, question, h => by
    rw [Filter.questions, List.mem_append, List.mem_append] at h
    rw [Filter.predicates]
    rcases h with (h | h) | h
    · exact fun _ hmem => List.mem_append_left _
        (List.mem_append_left _ (Term.predicatesAll_of_question terms h hmem))
    · exact fun _ hmem => List.mem_append_left _
        (List.mem_append_right _ (Filter.predicatesAll_of_question conjuncts h hmem))
    · exact fun _ hmem => List.mem_append_right _
        (Filter.predicatesAll_of_question alternatives h hmem)

theorem Term.predicates_of_question : (term : Term) → ∀ {entity question},
    question ∈ term.questions schema entity → question.term.predicatesOf ⊆ term.predicatesOf
  | .predicates name predicates, entity, question, h => by
    obtain rfl := List.mem_singleton.1 h
    exact List.Subset.refl _
  | .nested name filter, entity, question, h => by
    rw [Term.questions] at h
    rcases List.mem_cons.1 h with rfl | h
    · exact List.Subset.refl _
    · cases htarget : schema.target? entity name with
      | none =>
        rw [htarget] at h
        exact absurd h List.not_mem_nil
      | some target =>
        rw [htarget] at h
        exact Filter.predicates_of_question filter h

theorem Term.predicatesAll_of_question : (terms : List Term) → ∀ {entity question},
    question ∈ Term.questionsAll schema entity terms →
      question.term.predicatesOf ⊆ Term.predicatesAll terms
  | [], _, _, h => absurd h List.not_mem_nil
  | term :: rest, entity, question, h => by
    rw [Term.predicatesAll]
    rcases List.mem_append.1 h with h | h
    · exact fun _ hmem => List.mem_append_left _ (Term.predicates_of_question term h hmem)
    · exact fun _ hmem => List.mem_append_right _ (Term.predicatesAll_of_question rest h hmem)

theorem Filter.predicatesAll_of_question : (filters : List Filter) → ∀ {entity question},
    question ∈ Filter.questionsAll schema entity filters →
      question.term.predicatesOf ⊆ Filter.predicatesAll filters
  | [], _, _, h => absurd h List.not_mem_nil
  | filter :: rest, entity, question, h => by
    rw [Filter.predicatesAll]
    rcases List.mem_append.1 h with h | h
    · exact fun _ hmem => List.mem_append_left _ (Filter.predicates_of_question filter h hmem)
    · exact fun _ hmem => List.mem_append_right _ (Filter.predicatesAll_of_question rest h hmem)

end

/-! ## Filters that are compiled -/

namespace Filter

variable {naming : Naming} {entity : String}

/-- Binding the values of a filter changes nothing about what is wrong with it. -/
theorem compileOn_bind_eq_error_iff {filter : Filter}
    (hliteral : ∀ operand ∈ filter.operands, operand.IsLiteral) (before : Bindings)
    (source : Option String) (s : Aliases) (fault : Fault) :
    (((filter.bind.run before).1.compileOn schema naming entity source).run.run s).1 = .error fault ↔
      ((filter.compileOn schema naming entity source).run.run s).1 = .error fault := by
  conv_rhs => rw [← inline_bind hliteral before, compileOn_inline, run_map]
  cases (((filter.bind.run before).1.compileOn schema naming entity source).run.run s).1 with
  | ok condition => exact iff_of_false nofun nofun
  | error other => exact Iff.rfl

/-- A filter that is read from JSON is compiled, before its values are bound or after, just when the
schema has an answer to all its questions. The condition is sound then; otherwise the fault is that of
the first question without an answer. Faults for operands are out of reach, since reading has left none
that an operator does not take. -/
theorem accepts_iff_correct {entities : List Entity} {overrides : Assoc String}
    (hschema : Schema.ofEntities entities = .ok schema)
    (hnaming : Naming.ofSchema overrides schema = .ok naming) (hentity : schema.Declares entity)
    {value : Json} {filter : Filter} (hfilter : parse value = .ok filter) (before : Bindings)
    {prepared : Filter} (hprepared : prepared = filter ∨ prepared = (filter.bind.run before).1)
    (source : Option String) (s : Aliases) :
    (Succeeds (prepared.compileOn schema naming entity source) s ↔
      ∀ question ∈ filter.questions schema entity, question.Correct schema) ∧
    (∀ condition s', Yields (prepared.compileOn schema naming entity source) s condition s' →
      condition.Sound) ∧
    (∀ fault, ((prepared.compileOn schema naming entity source).run.run s).1 = .error fault ↔
      ∃ done question rest, filter.questions schema entity = done ++ question :: rest ∧
        (∀ earlier ∈ done, earlier.Correct schema) ∧ question.Refused schema fault) ∧
    ∀ op, ∀ cause ∈ [FilterFault.operand op, .singleExpected op],
      ((prepared.compileOn schema naming entity source).run.run s).1 ≠ .error (.filter cause) := by
  obtain ⟨rfl, hwellFormed⟩ := Schema.ofEntities_eq_ok.1 hschema
  have hcovers := Naming.covers_of_follows hwellFormed
    (Naming.follows_of_ofSchema hwellFormed hnaming)
  have hgiven := given_of_parse value hfilter
  have hsuits : ∀ question ∈ filter.questions ⟨entities⟩ entity,
      ∀ predicate ∈ question.term.predicatesOf, predicate.Suits :=
    fun question hmem predicate hpredicate =>
      (hgiven predicate (predicates_of_question filter hmem hpredicate)).1
  have hliteral : ∀ operand ∈ filter.operands, operand.IsLiteral := by
    rw [operands_eq_map, List.forall_mem_map]
    exact fun predicate hmem => (hgiven predicate hmem).2
  -- what is wrong with the filter is wrong with it after its values are bound
  have herror : ∀ fault,
      ((prepared.compileOn ⟨entities⟩ naming entity source).run.run s).1 = .error fault ↔
        Question.firstFault? ⟨entities⟩ (filter.questions ⟨entities⟩ entity) = some fault := by
    intro fault
    rw [← (reports_compileOn hcovers hentity filter source).eq_error_iff s]
    rcases hprepared with rfl | rfl
    · exact Iff.rfl
    · exact compileOn_bind_eq_error_iff hliteral before source s fault
  refine ⟨?_, fun condition s' hyields => ?_, fun fault => ?_, fun op cause hcause hfault => ?_⟩
  · simp only [succeeds_iff_ne_error, ne_eq, herror, ← Option.eq_none_iff_forall_ne_some]
    exact Question.firstFault?_eq_none_iff hsuits
  · exact (reports_compileOn hcovers hentity prepared source).of_yields hyields
  · exact (herror fault).trans (Question.firstFault?_eq_some_iff hsuits)
  · obtain ⟨_, _, _, -, -, hquestion⟩ :=
      (Question.firstFault?_eq_some_iff hsuits).1 ((herror _).1 hfault)
    cases hquestion with
    | onRelation _ => simp at hcause

end Filter

/-! ## The library -/

/-- Books by one of no authors. -/
def Library.writtenByNobody : Json :=
  .obj [("writer", .obj [("fullName", .obj [("_in", .arr [])])])]

/-- Books without an author, asked for as if the author were a field. -/
def Library.writerIsNull : Json :=
  .obj [("writer", .obj [("_isnull", .bool true)])]

theorem Filter.accepts_iff_correct_library :
    (∃ filter condition s', parse Library.writtenByNobody = .ok filter ∧
      Yields ((filter.bind.run {}).1.compileOn Library.schema Library.naming "Book" none) {} condition s' ∧
        condition.Sound) ∧
    ∃ filter, parse Library.writerIsNull = .ok filter ∧
      ((filter.compileOn Library.schema Library.naming "Book" none).run.run {}).1 =
        .error (.filter (.onRelation "Book" "writer" .isNull)) := by
  have hbook : Library.schema.Declares "Book" := ⟨_, List.mem_cons_of_mem _ (List.mem_cons_self ..), rfl⟩
  constructor
  · obtain ⟨filter, hfilter⟩ : ∃ filter, parse Library.writtenByNobody = .ok filter := ⟨_, rfl⟩
    obtain ⟨haccepts, hsound, -⟩ := accepts_iff_correct Library.ofEntities_entities
      Library.ofSchema_schema hbook hfilter {} (.inr rfl) none {}
    obtain ⟨condition, s', hyields⟩ := haccepts.2 (by
      obtain rfl := Except.ok.inj hfilter
      exact List.forall_mem_cons.2 ⟨trivial, List.forall_mem_cons.2 ⟨trivial, List.forall_mem_nil _⟩⟩)
    exact ⟨filter, condition, s', hfilter, hyields, hsound condition s' hyields⟩
  · obtain ⟨filter, hfilter⟩ : ∃ filter, parse Library.writerIsNull = .ok filter := ⟨_, rfl⟩
    obtain ⟨-, -, hrefuses, -⟩ := accepts_iff_correct Library.ofEntities_entities
      Library.ofSchema_schema hbook hfilter {} (.inl rfl) none {}
    refine ⟨filter, hfilter, (hrefuses _).2 ?_⟩
    obtain rfl := Except.ok.inj hfilter
    exact ⟨[], _, [], rfl, List.forall_mem_nil _, .onRelation rfl⟩

end EntitySql
