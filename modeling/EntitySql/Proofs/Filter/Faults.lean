import EntitySql.Proofs.Binding.Arrivals
import EntitySql.Proofs.Compile.Reports
import EntitySql.Proofs.Filter.Conditions
import EntitySql.Proofs.Filter.Suits
import EntitySql.Proofs.Naming.Found

/-!
# What is wrong with a filter

Compiling a filter puts one question to the schema for each of its terms, and fails at the first that
has no answer.

* `Filter.questions` lists the terms of a filter at every depth, each with the entity that it is asked
  of; `Question.fault?` is what is wrong with one of them.
* `Condition.Sound` is about conditions in which no comparison lacks its operand, no membership test its
  values and no disjunction its alternatives.
* `Filter.reports_compile`: a filter is compiled to a sound condition, or fails with what is wrong with
  the first of its questions.
* `Filter.succeeds_compile`: so just the filters that suit an entity are compiled.
-/

namespace EntitySql

set_option autoImplicit false

open Compile

/-! ## Questions -/

/-- A term of a filter, asked of an entity. -/
structure Question where
  entity : String
  term : Term

variable (schema : Schema)

mutual

/-- What a filter on the entity asks, in order. -/
def Filter.questions (entity : String) : Filter → List Question
  | { terms, conjuncts, alternatives } =>
    Term.questionsAll entity terms ++ Filter.questionsAll entity conjuncts ++
      Filter.questionsAll entity alternatives
termination_by structural filter => filter

/-- A filter on a relation asks the target of the relation. -/
def Term.questions (entity : String) : Term → List Question
  | .predicates name predicates => [⟨entity, .predicates name predicates⟩]
  | .nested name filter => ⟨entity, .nested name filter⟩ ::
    match schema.target? entity name with
    | some target => filter.questions target
    | none => []
termination_by structural term => term

def Term.questionsAll (entity : String) : List Term → List Question
  | [] => []
  | term :: rest => term.questions entity ++ Term.questionsAll entity rest
termination_by structural terms => terms

def Filter.questionsAll (entity : String) : List Filter → List Question
  | [] => []
  | filter :: rest => filter.questions entity ++ Filter.questionsAll entity rest
termination_by structural filters => filters

end

instance (op : Operator) (operand : Operand) : Decidable (op.Takes operand) :=
  match operand with
  | .flag _ => inferInstanceAs (Decidable (op = .isNull))
  | .list _ | .params _ => inferInstanceAs (Decidable (op.takesList = true))
  | .value _ | .param _ => inferInstanceAs (Decidable (op ≠ .isNull ∧ op.takesList = false))

/-- What is wrong with a predicate on a field: its operator does not take its operand. -/
def Predicate.fault? : Predicate → Option Fault
  | ⟨op, operand⟩ =>
    if op.Takes operand then none
    else if op = .isNull ∨ op.takesList then some (.filter (.operand op))
    else some (.filter (.singleExpected op))

/-- What is wrong with a term itself, whatever is wrong with a filter in it. -/
def Question.fault? : Question → Option Fault
  | ⟨entity, .predicates name predicates⟩ =>
    match schema.member? entity name with
    | some (.field _) => predicates.findSome? Predicate.fault?
    | some (.manyToOne _) | some (.oneToMany _) =>
      predicates.head?.map fun predicate => .filter (.onRelation entity name predicate.operator)
    | none => some (.name (.member entity name))
  | ⟨entity, .nested name filter⟩ =>
    match schema.member? entity name with
    | some (.field _) => filter.firstKey?.map fun key => .operator (.onField entity name key)
    | some (.manyToOne _) | some (.oneToMany _) => none
    | none => some (.name (.member entity name))

/-- The first thing that is wrong with what is asked. -/
def Question.firstFault? (questions : List Question) : Option Fault :=
  questions.findSome? (Question.fault? schema)

theorem Question.firstFault?_cons (question : Question) (rest : List Question) :
    firstFault? schema (question :: rest) =
      (question.fault? schema).or (firstFault? schema rest) := by
  rw [firstFault?, List.findSome?_cons]
  cases question.fault? schema <;> rfl

theorem Question.firstFault?_append (questions others : List Question) :
    firstFault? schema (questions ++ others) =
      (firstFault? schema questions).or (firstFault? schema others) :=
  List.findSome?_append

/-! ## Sound conditions -/

/-- What a comparison has on its right: nothing in a null test, values in a membership test, of which
there is at least one, and a value in any other. -/
def Comparison.Takes : Comparison → Option Expr → Prop
  | .isNull, right | .isNotNull, right => right = none
  | .isIn, right | .notIn, right =>
    ∃ items, right = some (.tuple items) ∧ items ≠ [] ∧ ∀ item ∈ items, item.IsValue
  | _, right => ∃ expr, right = some expr ∧ expr.IsValue

/-- Comparisons of columns with what they take, conjunctions, disjunctions of at least one condition,
and joined rows with a condition. -/
inductive Condition.Sound : Condition → Prop
  | literal (value : Bool) : Sound (.literal value)
  | compare {source column : String} {op : Comparison} {right : Option Expr} (h : op.Takes right) :
    Sound (.compare (.column source column) op right)
  | all {conditions : List Condition} (each : ∀ condition ∈ conditions, Sound condition) :
    Sound (.all conditions)
  | any {conditions : List Condition} (some : conditions ≠ [])
    (each : ∀ condition ∈ conditions, Sound condition) : Sound (.any conditions)
  | exists {table label column source outer : String} {condition : Condition}
    (inner : Sound condition) :
    Sound (.exists (joinedRows table label column (.column source outer) condition))

variable {schema} {naming : Naming} {entity source : String}

/-! ## Predicates -/

namespace Predicate

theorem fault?_eq_none {predicate : Predicate} : predicate.fault? = none ↔ predicate.Suits := by
  obtain ⟨op, operand⟩ := predicate
  dsimp only [fault?, Suits]
  split_ifs with htakes
  · exact iff_of_true rfl htakes
  · exact iff_of_false nofun htakes
  · exact iff_of_false nofun htakes

theorem sound_membership {source column : String} {op : Operator} (hop : op.takesList = true)
    {items : List Expr} (hitems : ∀ item ∈ items, item.IsValue) :
    (membership (.column source column) op items).Sound := by
  unfold membership
  split
  · exact .literal _
  · next hsome =>
    have htuple : ∃ others, some (Expr.tuple items) = some (.tuple others) ∧ others ≠ [] ∧
        ∀ item ∈ others, item.IsValue := ⟨items, rfl, mt List.isEmpty_iff.2 hsome, hitems⟩
    cases op with
    | oneOf | noneOf => exact .compare htuple
    | _ => cases hop

/-- A predicate fails if its operator does not take its operand, whatever column it is about. -/
theorem reports_compile (source column : String) (type : SqlType) (predicate : Predicate) :
    Result.Reports (predicate.compile (.column source column) type) predicate.fault?
      Condition.Sound := by
  obtain ⟨op, operand⟩ := predicate
  cases operand with
  | flag value =>
    cases op with
    | isNull => cases value <;> exact ⟨_, rfl, .compare rfl⟩
    | _ => rfl
  | list values =>
    have hvalues : ∀ item ∈ values.map Expr.literal, item.IsValue :=
      List.forall_mem_map.2 fun value _ => .inl ⟨value, rfl⟩
    cases op with
    | oneOf | noneOf => exact ⟨_, rfl, sound_membership rfl hvalues⟩
    | _ => rfl
  | params indices =>
    have hvalues : ∀ item ∈ indices.map (Expr.typedParam · type), item.IsValue :=
      List.forall_mem_map.2 fun index _ => .inr ⟨index, type, rfl⟩
    cases op with
    | oneOf | noneOf => exact ⟨_, rfl, sound_membership rfl hvalues⟩
    | _ => rfl
  | value value =>
    cases op with
    | isNull | oneOf | noneOf => rfl
    | _ => exact ⟨_, rfl, .compare ⟨_, rfl, .inl ⟨value, rfl⟩⟩⟩
  | param index =>
    cases op with
    | isNull | oneOf | noneOf => rfl
    | _ => exact ⟨_, rfl, .compare ⟨_, rfl, .inr ⟨index, type, rfl⟩⟩⟩

theorem exists_compile_iff (left : Expr) (type : SqlType) (predicate : Predicate) :
    (∃ condition, predicate.compile left type = .ok condition) ↔ predicate.Suits := by
  obtain ⟨op, operand⟩ := predicate
  cases operand with
  | flag value =>
    cases value <;> cases op <;> simp [compile, Suits, Operator.Takes, Operator.takesList]
  | _ => cases op <;> simp [compile, Suits, Operator.Takes, Operator.takesList]

theorem reports_compileAll {field : Field} (predicates : List Predicate)
    (hcolumn : ∃ column, naming.column entity field.name = .ok column) :
    Result.Reports (compileAll naming entity source field predicates)
      (predicates.findSome? fault?) fun conditions => ∀ condition ∈ conditions, condition.Sound := by
  obtain ⟨column, hcolumn⟩ := hcolumn
  rw [compileAll, hcolumn]
  exact .mapM (reports_compile source column field.sqlType) predicates

end Predicate

/-! ## Members -/

theorem Schema.resolve_of_declares (h : schema.Declares entity) (name : String) :
    schema.resolve entity name = .ok (schema.member? entity name) := by
  obtain ⟨owner, howner, hname⟩ := h
  have hfound : (schema.entity? entity).isSome := List.find?_isSome.2 ⟨owner, howner, by simpa⟩
  obtain ⟨found, hfound⟩ := Option.isSome_iff_exists.1 hfound
  rw [resolve, entity_eq_ok.2 hfound, member?, hfound]
  rfl

/-- What stands under a name has this name, and all physical names that it needs. -/
theorem Schema.covered_of_member? (h : naming.Covers schema) {name : String} {member : Member}
    (hmember : schema.member? entity name = some member) :
    (∃ field, member = .field field ∧ field.name = name ∧
      ∃ column, naming.column entity field.name = .ok column) ∨
    (∃ relation, member = .manyToOne relation ∧ relation.name = name ∧
      naming.Reaches schema entity relation.name relation.targetEntity) ∨
    ∃ relation, member = .oneToMany relation ∧ relation.name = name ∧
      naming.Reaches schema entity relation.name relation.targetEntity := by
  rcases found_of_resolve (resolve_of_member? hmember) with ⟨field, rfl, hfield⟩ |
    ⟨relation, rfl, hrelation⟩ | ⟨relation, rfl, hrelation⟩
  · obtain ⟨_, _, _, _, hname⟩ := field?_eq_some hfield
    exact .inl ⟨field, rfl, hname, h.column _ _ field hfield⟩
  · obtain ⟨_, _, _, _, hname⟩ := manyToOne?_eq_some hrelation
    exact .inr (.inl ⟨relation, rfl, hname, h.manyToOne _ _ relation hrelation⟩)
  · obtain ⟨_, _, _, _, hname⟩ := oneToMany?_eq_some hrelation
    exact .inr (.inr ⟨relation, rfl, hname, h.oneToMany _ _ relation hrelation⟩)

theorem reports_compileExists (h : naming.Covers schema) {relation target : String}
    (hreaches : naming.Reaches schema entity relation target) {inner : String → Compile Condition}
    {fault? : Option Fault} (hinner : ∀ joined, Reports (inner joined) fault? Condition.Sound) :
    Reports (do return [← compileExists naming entity source relation target inner]) fault?
      fun conditions => ∀ condition ∈ conditions, condition.Sound := by
  have hexists : Reports (compileExists naming entity source relation target inner) fault?
      Condition.Sound :=
    .ofExcept_bind hreaches.link fun _ => .ofExcept_bind (h.table target hreaches.declared) fun _ =>
      .modifyGet_bind fun joined => (hinner joined).map fun _ hsound => .exists hsound
  exact hexists.map fun _ hsound => List.forall_mem_singleton.2 hsound

namespace Filter

theorem reports_compileOnRelation (h : naming.Covers schema) {relation target : String}
    (hreaches : naming.Reaches schema entity relation target) (predicates : List Predicate) :
    Reports (compileOnRelation naming entity source relation target predicates)
      (predicates.head?.map fun predicate => .filter (.onRelation entity relation predicate.operator))
      fun conditions => ∀ condition ∈ conditions, condition.Sound := by
  cases predicates with
  | nil => exact reports_compileExists h hreaches fun _ => .pure (.all (List.forall_mem_nil _))
  | cons predicate rest => exact .throw _ _

theorem reports_compileOnField (field : Field) (filter : Filter) :
    Result.Reports (compileOnField entity field filter)
      (filter.firstKey?.map fun key => .operator (.onField entity field.name key))
      fun conditions => ∀ condition ∈ conditions, condition.Sound := by
  unfold compileOnField
  cases filter.firstKey? with
  | none => exact ⟨[], rfl, List.forall_mem_nil _⟩
  | some key => rfl

mutual

theorem reports_compile (h : naming.Covers schema) : (filter : Filter) →
    ∀ entity source, schema.Declares entity → Reports (filter.compile schema naming entity source)
      (Question.firstFault? schema (filter.questions schema entity)) Condition.Sound
  | { terms, conjuncts, alternatives }, entity, source, hentity => by
    rw [compile, questions, Question.firstFault?_append, Question.firstFault?_append, Option.or_assoc]
    refine (reports_compileTerms h terms entity source hentity).bind fun termConditions hterms => ?_
    refine (reports_compileList h conjuncts entity source hentity).bind fun conditions hconditions => ?_
    refine (reports_compileList h alternatives entity source hentity).map fun options hoptions => ?_
    refine .all (List.forall_mem_append.2 ⟨List.forall_mem_append.2 ⟨hterms, hconditions.2⟩, ?_⟩)
    cases alternatives with
    | nil => exact List.forall_mem_nil _
    | cons alternative rest =>
      refine List.forall_mem_singleton.2 (.any ?_ hoptions.2)
      rintro rfl
      cases hoptions.1

theorem reports_compileTerm (h : naming.Covers schema) : (term : Term) →
    ∀ entity source, schema.Declares entity → Reports (compileTerm schema naming entity source term)
      (Question.firstFault? schema (term.questions schema entity))
      fun conditions => ∀ condition ∈ conditions, condition.Sound
  | .predicates name predicates, entity, source, hentity => by
    rw [compileTerm, Schema.resolve_of_declares hentity, Term.questions, Question.firstFault?_cons,
      Question.firstFault?, List.findSome?_nil, Option.or_none]
    cases hmember : schema.member? entity name with
    | none =>
      simp only [Question.fault?, hmember]
      exact .throw _ _
    | some member =>
      rcases Schema.covered_of_member? h hmember with ⟨field, rfl, rfl, hcolumn⟩ |
        ⟨relation, rfl, rfl, hreaches⟩ | ⟨relation, rfl, rfl, hreaches⟩
      · simp only [Question.fault?, hmember]
        exact .ofExcept (Predicate.reports_compileAll predicates hcolumn)
      · simp only [Question.fault?, hmember]
        exact reports_compileOnRelation h hreaches predicates
      · simp only [Question.fault?, hmember]
        exact reports_compileOnRelation h hreaches predicates
  | .nested name filter, entity, source, hentity => by
    rw [compileTerm, Schema.resolve_of_declares hentity, Term.questions, Question.firstFault?_cons]
    cases hmember : schema.member? entity name with
    | none =>
      simp only [Question.fault?, hmember]
      exact .throw _ _
    | some member =>
      rcases Schema.covered_of_member? h hmember with ⟨field, rfl, rfl, -⟩ |
        ⟨relation, rfl, rfl, hreaches⟩ | ⟨relation, rfl, rfl, hreaches⟩
      · simp only [Question.fault?, Schema.target?, hmember, Question.firstFault?, List.findSome?_nil,
          Option.or_none]
        exact .ofExcept (reports_compileOnField field filter)
      · simp only [Question.fault?, Schema.target?, hmember, Option.none_or]
        exact reports_compileExists h hreaches fun joined =>
          reports_compile h filter _ joined hreaches.declared
      · simp only [Question.fault?, Schema.target?, hmember, Option.none_or]
        exact reports_compileExists h hreaches fun joined =>
          reports_compile h filter _ joined hreaches.declared

theorem reports_compileTerms (h : naming.Covers schema) : (terms : List Term) →
    ∀ entity source, schema.Declares entity → Reports (compileTerms schema naming entity source terms)
      (Question.firstFault? schema (Term.questionsAll schema entity terms))
      fun conditions => ∀ condition ∈ conditions, condition.Sound
  | [], _, _, _ => .pure (List.forall_mem_nil _)
  | term :: rest, entity, source, hentity => by
    rw [compileTerms, Term.questionsAll, Question.firstFault?_append]
    exact (reports_compileTerm h term entity source hentity).bind fun _ hfirst =>
      (reports_compileTerms h rest entity source hentity).map fun _ hrest =>
        List.forall_mem_append.2 ⟨hfirst, hrest⟩

theorem reports_compileList (h : naming.Covers schema) : (filters : List Filter) →
    ∀ entity source, schema.Declares entity → Reports (compileList schema naming entity source filters)
      (Question.firstFault? schema (questionsAll schema entity filters))
      fun conditions => conditions.length = filters.length ∧ ∀ condition ∈ conditions, condition.Sound
  | [], _, _, _ => .pure ⟨rfl, List.forall_mem_nil _⟩
  | filter :: rest, entity, source, hentity => by
    rw [compileList, questionsAll, Question.firstFault?_append]
    exact (reports_compile h filter entity source hentity).bind fun _ hfirst =>
      (reports_compileList h rest entity source hentity).map fun _ hrest =>
        ⟨congrArg Nat.succ hrest.1, List.forall_mem_cons.2 ⟨hfirst, hrest.2⟩⟩

end

/-- For rows of a declared entity, whether they are known as a source or by their table. -/
theorem reports_compileOn (h : naming.Covers schema) (hentity : schema.Declares entity)
    (filter : Filter) (source : Option String) :
    Reports (filter.compileOn schema naming entity source)
      (Question.firstFault? schema (filter.questions schema entity)) Condition.Sound := by
  unfold compileOn
  cases source with
  | some label => exact reports_compile h filter entity label hentity
  | none =>
    exact .ofExcept_bind (h.table entity hentity) fun _ => reports_compile h filter entity _ hentity

end Filter

/-! ## Filters that suit an entity -/

theorem Question.fault?_predicates_eq_none {name : String} {predicates : List Predicate} :
    fault? schema ⟨entity, .predicates name predicates⟩ = none ↔
      (Term.predicates name predicates).Suits schema entity := by
  rw [fault?, Term.Suits]
  cases schema.member? entity name with
  | none => exact iff_of_false (Option.some_ne_none _) not_false
  | some member =>
    cases member with
    | field field => simp only [List.findSome?_eq_none_iff, Predicate.fault?_eq_none]
    | manyToOne relation => simp
    | oneToMany relation => simp

mutual

/-- Nothing is wrong with a filter just when all that it asks for can be asked. -/
theorem Filter.firstFault?_eq_none : (filter : Filter) → ∀ entity,
    Question.firstFault? schema (filter.questions schema entity) = none ↔ filter.Suits schema entity
  | { terms, conjuncts, alternatives }, entity => by
    simp only [Filter.questions, Question.firstFault?_append, Option.or_eq_none_iff, Filter.Suits,
      and_assoc]
    exact and_congr (Term.firstFault?_all_eq_none terms entity)
      (and_congr (Filter.firstFault?_all_eq_none conjuncts entity)
        (Filter.firstFault?_all_eq_none alternatives entity))

theorem Term.firstFault?_eq_none : (term : Term) → ∀ entity,
    Question.firstFault? schema (term.questions schema entity) = none ↔ term.Suits schema entity
  | .predicates name predicates, entity => by
    rw [Term.questions, Question.firstFault?_cons, Question.firstFault?, List.findSome?_nil,
      Option.or_none]
    exact Question.fault?_predicates_eq_none
  | .nested name filter, entity => by
    rw [Term.questions, Question.firstFault?_cons, Option.or_eq_none_iff, Term.Suits, Schema.target?,
      Question.fault?]
    cases schema.member? entity name with
    | none => exact iff_of_false (fun h => Option.some_ne_none _ h.1) not_false
    | some member =>
      cases member with
      | field field =>
        simp [Question.firstFault?, Filter.firstKey?_eq_none]
      | manyToOne relation =>
        exact (and_iff_right rfl).trans (Filter.firstFault?_eq_none filter relation.targetEntity)
      | oneToMany relation =>
        exact (and_iff_right rfl).trans (Filter.firstFault?_eq_none filter relation.targetEntity)

theorem Term.firstFault?_all_eq_none : (terms : List Term) → ∀ entity,
    Question.firstFault? schema (Term.questionsAll schema entity terms) = none ↔
      Term.AllSuit schema entity terms
  | [], _ => iff_of_true rfl trivial
  | term :: rest, entity => by
    rw [Term.questionsAll, Question.firstFault?_append, Option.or_eq_none_iff, Term.AllSuit]
    exact and_congr (Term.firstFault?_eq_none term entity) (Term.firstFault?_all_eq_none rest entity)

theorem Filter.firstFault?_all_eq_none : (filters : List Filter) → ∀ entity,
    Question.firstFault? schema (Filter.questionsAll schema entity filters) = none ↔
      Filter.AllSuit schema entity filters
  | [], _ => iff_of_true rfl trivial
  | filter :: rest, entity => by
    rw [Filter.questionsAll, Question.firstFault?_append, Option.or_eq_none_iff, Filter.AllSuit]
    exact and_congr (Filter.firstFault?_eq_none filter entity)
      (Filter.firstFault?_all_eq_none rest entity)

end

namespace Filter

/-- Just the filters that suit an entity are compiled, whatever its rows are known as and whichever
aliases are taken. -/
theorem succeeds_compile (h : naming.Covers schema) (hentity : schema.Declares entity)
    (filter : Filter) (source : String) (s : Aliases) :
    Succeeds (filter.compile schema naming entity source) s ↔ filter.Suits schema entity :=
  ((reports_compile h filter entity source hentity).succeeds_iff s).trans
    (filter.firstFault?_eq_none entity)

theorem succeeds_compileOn (h : naming.Covers schema) (hentity : schema.Declares entity)
    (filter : Filter) (source : Option String) (s : Aliases) :
    Succeeds (filter.compileOn schema naming entity source) s ↔ filter.Suits schema entity :=
  ((reports_compileOn h hentity filter source).succeeds_iff s).trans
    (filter.firstFault?_eq_none entity)

end Filter

end EntitySql
