import EntitySql.Proofs.Filter.Nested
import EntitySql.Proofs.Filter.Soundness

/-!
# Casts of texts

A placeholder is cast to the type of the column that it is compared with. A type with a length cuts
longer texts, so that a filter may say less or more when its values are bound than as it was given.

* `Engine.ComparesTexts` says how an engine compares and casts texts.
* `TextTest` is a filter on one field that tests for texts; `TextTest.truth` is what it says about a
  value.
* `TextTest.casts`: bound, a test of a field with a length says what it would say if its operands were
  cut. It is true of the same rows as before just if cutting an operand gives an operand.
-/

namespace EntitySql

set_option autoImplicit false

variable {V : Type}

/-! ## Texts -/

/-- The first characters of a text. -/
def cutText (length : Nat) (text : String) : String :=
  String.ofList (text.toList.take length)

theorem length_cutText (length : Nat) (text : String) : (cutText length text).length ≤ length := by
  rw [cutText, String.length_ofList]
  exact List.length_take_le length text.toList

theorem cutText_eq_self_iff {length : Nat} {text : String} :
    cutText length text = text ↔ text.length ≤ length := by
  constructor
  · intro h
    rw [← h]
    exact length_cutText length text
  · intro h
    rw [cutText, List.take_of_length_le (by rwa [String.length_toList]), String.ofList_toList]

/-- The value of a text, or the absent one. -/
def Engine.text (engine : Engine V) : Option String → V
  | none => engine.null
  | some text => engine.literal (.str text)

/-- Texts are compared as they are, and an absent value with nothing. A cast to a type with a length cuts
the text. -/
structure Engine.ComparesTexts (engine : Engine V) : Prop where
  cast : ∀ text length, engine.cast (engine.text (some text)) ⟨"varchar", [length], false⟩ =
    engine.text (some (cutText length text))
  eq : ∀ text other, engine.compare .eq (engine.text (some text)) [engine.text (some other)] =
    .ofBool (text = other)
  ne : ∀ text other, engine.compare .ne (engine.text (some text)) [engine.text (some other)] =
    .ofBool (text ≠ other)
  isIn : ∀ text (others : List String), engine.compare .isIn (engine.text (some text))
    (others.map fun other => engine.text (some other)) = .ofBool (text ∈ others)
  notIn : ∀ text (others : List String), engine.compare .notIn (engine.text (some text))
    (others.map fun other => engine.text (some other)) = .ofBool (text ∉ others)
  absent : ∀ op values, op.isNullTest = false → engine.compare op engine.null values = .unknown

/-! ## Tests -/

/-- A test of a field for texts. -/
inductive TextTest where
  | eq (operand : String)
  | neq (operand : String)
  | oneOf (operands : List String)
  | noneOf (operands : List String)

namespace TextTest

def operands : TextTest → List String
  | eq operand | neq operand => [operand]
  | oneOf operands | noneOf operands => operands

def predicate : TextTest → Predicate
  | eq operand => ⟨.eq, .value (.str operand)⟩
  | neq operand => ⟨.neq, .value (.str operand)⟩
  | oneOf operands => ⟨.oneOf, .list (operands.map .str)⟩
  | noneOf operands => ⟨.noneOf, .list (operands.map .str)⟩

/-- The test of a field, as a filter. -/
def filter (test : TextTest) (name : String) : Filter where
  terms := [.predicates name [test.predicate]]

/-- The test for the first characters of the operands. -/
def cut (length : Nat) : TextTest → TextTest
  | eq operand => eq (cutText length operand)
  | neq operand => neq (cutText length operand)
  | oneOf operands => oneOf (operands.map (cutText length))
  | noneOf operands => noneOf (operands.map (cutText length))

/-- Whether the test is for any of the operands. -/
def isPositive : TextTest → Bool
  | eq _ | oneOf _ => true
  | neq _ | noneOf _ => false

/-- What the test says about a value, which may be absent. Nothing is among no operands. -/
def truth : TextTest → Option String → Truth
  | oneOf [], _ => .fails
  | noneOf [], _ => .holds
  | _, none => .unknown
  | eq operand, some text => .ofBool (text = operand)
  | neq operand, some text => .ofBool (text ≠ operand)
  | oneOf operands, some text => .ofBool (text ∈ operands)
  | noneOf operands, some text => .ofBool (text ∉ operands)

/-! ## Cut operands -/

theorem suits_predicate (test : TextTest) : test.predicate.Suits := by
  cases test <;> simp [predicate, Predicate.Suits, Operator.Takes, Operator.takesList]

theorem operands_cut (test : TextTest) (length : Nat) :
    (test.cut length).operands = test.operands.map (cutText length) := by
  cases test <;> rfl

theorem truth_some_eq_holds_iff (test : TextTest) (text : String) :
    test.truth (some text) = .holds ↔ (text ∈ test.operands ↔ test.isPositive = true) := by
  cases test with
  | eq operand => simp [truth, operands, isPositive]
  | neq operand => simp [truth, operands, isPositive]
  | oneOf operands => cases operands <;> simp [truth, TextTest.operands, isPositive]
  | noneOf operands => cases operands <;> simp [truth, TextTest.operands, isPositive]

/-- Cut or not, a test says the same about an absent value. -/
theorem truth_cut_none (test : TextTest) (length : Nat) :
    (test.cut length).truth none = test.truth none := by
  cases test with
  | eq operand => rfl
  | neq operand => rfl
  | oneOf operands => cases operands <;> rfl
  | noneOf operands => cases operands <;> rfl

/-- A test with cut operands is true of the same values that fit as the test, just if every cut operand
is an operand. -/
theorem truth_cut_iff (test : TextTest) (length : Nat) :
    (∀ value : Option String, (∀ text ∈ value, text.length ≤ length) →
      ((test.cut length).truth value = .holds ↔ test.truth value = .holds)) ↔
        ∀ operand ∈ test.operands, cutText length operand ∈ test.operands := by
  have hpositive : (test.cut length).isPositive = test.isPositive := by
    cases test <;> rfl
  have hsign : ∀ {P Q : Prop} {sign : Bool},
      ((P ↔ sign = true) ↔ (Q ↔ sign = true)) ↔ (P ↔ Q) := by
    intro P Q sign
    cases sign <;> simp [not_iff_not]
  have hsame : ∀ text, ((test.cut length).truth (some text) = .holds ↔
      test.truth (some text) = .holds) ↔
        (text ∈ test.operands.map (cutText length) ↔ text ∈ test.operands) := by
    intro text
    rw [truth_some_eq_holds_iff, truth_some_eq_holds_iff, operands_cut, hpositive]
    exact hsign
  constructor
  · intro h operand hoperand
    have hcut := (hsame (cutText length operand)).1 (h _ fun text htext => by
      obtain rfl := Option.mem_some_iff.1 htext
      exact length_cutText length operand)
    exact hcut.1 (List.mem_map_of_mem hoperand)
  · intro h value hfits
    cases value with
    | none => rw [truth_cut_none]
    | some text =>
      refine (hsame text).2 ⟨fun hmem => ?_, fun hmem => ?_⟩
      · obtain ⟨operand, hoperand, rfl⟩ := List.mem_map.1 hmem
        exact h operand hoperand
      · exact List.mem_map.2 ⟨text, hmem, cutText_eq_self_iff.2 (hfits text rfl)⟩

end TextTest

/-! ## Compared values -/

/-- What a predicate says depends on the values that its operand stands for. -/
theorem Predicate.meaning_congr {engine : Engine V} {op : Operator} {operand other : Operand}
    {type : SqlType} {v : V} (hop : op ≠ .isNull)
    (h : operand.values engine type = other.values engine type) :
    meaning engine type v ⟨op, operand⟩ = meaning engine type v ⟨op, other⟩ := by
  cases op with
  | isNull => exact absurd rfl hop
  | _ => simp only [meaning, h]

section

variable {engine : Engine V} (h : engine.ComparesTexts)

include h

/-- Compared with its operands as they are, a value passes the test that it is put to. -/
theorem TextTest.meaning_predicate (test : TextTest) (type : SqlType) (value : Option String) :
    test.predicate.meaning engine type (engine.text value) = test.truth value := by
  have hitems : ∀ operands : List String, (operands.map Json.str).map engine.literal =
      operands.map fun operand => engine.text (some operand) := by
    intro operands
    rw [List.map_map]
    rfl
  cases value with
  | none =>
    have habsent := h.absent
    cases test with
    | eq operand => exact habsent _ _ rfl
    | neq operand => exact habsent _ _ rfl
    | oneOf operands =>
      cases operands with
      | nil => rfl
      | cons operand rest => exact habsent _ _ rfl
    | noneOf operands =>
      cases operands with
      | nil => rfl
      | cons operand rest => exact habsent _ _ rfl
  | some text =>
    cases test with
    | eq operand => exact h.eq text operand
    | neq operand => exact h.ne text operand
    | oneOf operands =>
      cases operands with
      | nil => rfl
      | cons operand rest => exact (congrArg _ (hitems (operand :: rest))).trans (h.isIn text _)
    | noneOf operands =>
      cases operands with
      | nil => rfl
      | cons operand rest => exact (congrArg _ (hitems (operand :: rest))).trans (h.notIn text _)

/-- Compared with placeholders for its operands, a value is put to the test with cut operands. -/
theorem TextTest.meaning_bound (test : TextTest) (length : Nat) {values : List Json}
    (hparams : ∀ index value, Holds values index value → engine.param index = engine.literal value)
    {operand : Operand} (hbound : test.predicate.operand.Bound values operand)
    (value : Option String) :
    Predicate.meaning engine ⟨"varchar", [length], false⟩ (engine.text value)
      ⟨test.predicate.operator, operand⟩ = (test.cut length).truth value := by
  have hcast : ∀ index text, Holds values index (.str text) →
      engine.cast (engine.param index) ⟨"varchar", [length], false⟩ =
        engine.literal (.str (cutText length text)) := by
    intro index text hholds
    rw [hparams index _ hholds]
    exact h.cast text length
  have hcasts : ∀ {operands : List String} {indices : List Nat},
      List.Forall₂ (fun value index => Holds values index value) (operands.map .str) indices →
        (indices.map fun index => engine.cast (engine.param index) ⟨"varchar", [length], false⟩) =
          ((operands.map (cutText length)).map Json.str).map engine.literal := by
    intro operands indices hholds
    rw [List.forall₂_map_left_iff] at hholds
    induction hholds with
    | nil => rfl
    | cons hfirst _ ih =>
      rw [List.map_cons, List.map_cons, List.map_cons, List.map_cons, ih, hcast _ _ hfirst]
  rw [← meaning_predicate h (test.cut length) ⟨"varchar", [length], false⟩]
  cases test with
  | eq text =>
    cases hbound with
    | value hholds => exact Predicate.meaning_congr nofun (congrArg (fun v => [v]) (hcast _ _ hholds))
  | neq text =>
    cases hbound with
    | value hholds => exact Predicate.meaning_congr nofun (congrArg (fun v => [v]) (hcast _ _ hholds))
  | oneOf texts =>
    cases hbound with
    | list hholds => exact Predicate.meaning_congr nofun (hcasts hholds)
  | noneOf texts =>
    cases hbound with
    | list hholds => exact Predicate.meaning_congr nofun (hcasts hholds)

end

/-! ## Filters -/

theorem Field.sqlType_of_length {field : Field} {length : UInt32} (hstring : field.type = .string)
    (hlength : field.options.length = some length) :
    field.sqlType = ⟨"varchar", [length.toNat], false⟩ := by
  simp [sqlType, typeArguments, hstring, hlength, FieldType.baseSql, FieldType.isArray]

variable {schema : Schema} {naming : Naming} {entity name : String}

/-- A predicate on a field is compiled for the column of the field. -/
theorem Filter.yields_compileOn_predicate {field : Field}
    (hresolve : schema.resolve entity name = .ok (some (.field field))) {predicate : Predicate}
    {source : Option String} {s s' : Aliases} {condition : Condition} :
    Yields (compileOn schema naming entity source { terms := [.predicates name [predicate]] }) s
      condition s' ↔ ∃ label column comparison,
        (source.map .ok).getD (naming.table entity) = .ok label ∧
        naming.column entity field.name = .ok column ∧
        predicate.compile (.column label column) field.sqlType = .ok comparison ∧
        condition = .all [comparison] ∧ s' = s := by
  have hterm : ∀ label, compileTerm schema naming entity label (.predicates name [predicate]) =
      Compile.ofResult (Predicate.compileAll naming entity label field [predicate]) := by
    intro label
    rw [compileTerm, hresolve]
    rfl
  simp only [yields_compileOn_singleton, hterm, Compile.yields_ofResult]
  constructor
  · rintro ⟨label, conditions, hlabel, ⟨hall, rfl⟩, rfl⟩
    obtain ⟨column, hcolumn, hmap⟩ := bind_eq_ok.1 hall
    obtain ⟨comparison, _, hcomparison, hrest, rfl⟩ :=
      List.forall₂_cons_left_iff.1 (mapM_eq_ok.1 hmap)
    obtain rfl := List.forall₂_nil_left_iff.1 hrest
    exact ⟨label, column, comparison, hlabel, hcolumn, hcomparison, rfl, rfl⟩
  · rintro ⟨label, column, comparison, hlabel, hcolumn, hcomparison, rfl, rfl⟩
    refine ⟨label, [comparison], hlabel, ⟨bind_eq_ok.2 ⟨column, hcolumn, ?_⟩, rfl⟩, rfl⟩
    exact mapM_eq_ok.2 (.cons hcomparison .nil)

/-- A single comparison says of a row what the predicate says of the value in the column. -/
theorem Predicate.eval_singleton {engine : Engine V} {db : Instance V} {scope : Scope V}
    {label column : String} {type : SqlType} {predicate : Predicate} {comparison : Condition} {v : V}
    (h : predicate.compile (.column label column) type = .ok comparison)
    (hcolumn : scope.column label column = .ok (.value v)) :
    (Condition.all [comparison]).eval engine db scope = .ok (predicate.meaning engine type v) := by
  have hleft : (Expr.column label column).eval engine db scope = .ok (.value v) := by
    rw [Expr.eval, hcolumn]
  exact (Condition.mean_singleton (eval_predicate hleft h)).eval_all

/-- Of every row under the label, the condition says whether the value of the column passes the test. -/
def Condition.Tests (engine : Engine V) (label column : String) (test : TextTest)
    (condition : Condition) : Prop :=
  ∀ db scope value, scope.column label column = .ok (.value (engine.text value)) →
    condition.eval engine db scope = .ok (test.truth value)

/-- Both conditions are true of the same rows, if the value of the column has at most the length. -/
def Condition.AgreeUpTo (engine : Engine V) (label column : String) (length : Nat)
    (condition other : Condition) : Prop :=
  ∀ db scope value, scope.column label column = .ok (.value (engine.text value)) →
    (∀ text ∈ value, text.length ≤ length) →
      (condition.eval engine db scope = .ok .holds ↔ other.eval engine db scope = .ok .holds)

theorem Scope.column_single (label column : String) (v : V) :
    Scope.column [[(label, [(column, .value v)])]] label column = .ok (.value v) := by
  rw [Scope.column, Scope.cells_cons_head fun item hitem => absurd hitem List.not_mem_nil]
  change Cells.cell [(column, .value v)] column = _
  rw [Cells.cell, Assoc.valuesOf_head fun item hitem => absurd hitem List.not_mem_nil]
  rfl

theorem Condition.agreeUpTo_iff {engine : Engine V} {label column : String} {test : TextTest}
    {length : Nat} {cast given : Condition}
    (hcast : cast.Tests engine label column (test.cut length))
    (hgiven : given.Tests engine label column test) :
    cast.AgreeUpTo engine label column length given ↔
      ∀ operand ∈ test.operands, cutText length operand ∈ test.operands := by
  rw [← TextTest.truth_cut_iff]
  constructor
  · intro h value hfits
    let db : Instance V := fun _ => ⟨[], [], List.nodup_nil⟩
    have hrow := Scope.column_single label column (engine.text value)
    have hagree := h db _ value hrow hfits
    rw [hcast db _ value hrow, hgiven db _ value hrow, Except.ok.injEq, Except.ok.injEq] at hagree
    exact hagree
  · intro h db scope value hrow hfits
    rw [hcast db scope value hrow, hgiven db scope value hrow, Except.ok.injEq, Except.ok.injEq]
    exact h value hfits

namespace TextTest

/-- A test of a field with a length says of a row whether its value passes it, as it was given; bound,
it says whether the value passes the test with the operands cut to the length. Of rows with values that
fit, both are true of the same just if every cut operand is an operand. -/
theorem casts {entities : List Entity} {overrides : Assoc String}
    (hschema : Schema.ofEntities entities = .ok schema)
    (hnaming : Naming.ofSchema overrides schema = .ok naming) {owner : Entity}
    (howner : owner ∈ entities) {field : Field} (hfield : field ∈ owner.fields)
    (hstring : field.type = .string) {length : UInt32} (hlength : field.options.length = some length)
    (test : TextTest) (source : Option String) (s : Aliases) (before : Bindings)
    {engine : Engine V} (hengine : engine.ComparesTexts) {values : List Json}
    (hvalues : ((test.filter field.name).bind.run before).2.values <+: values)
    (hparams : ∀ index value, Holds values index value →
      engine.param index = engine.literal value) :
    ∃ given cast label column,
      Yields ((test.filter field.name).compileOn schema naming owner.name source) s given s ∧
      Yields (((test.filter field.name).bind.run before).1.compileOn schema naming owner.name source) s
        cast s ∧
      (source.map .ok).getD (naming.table owner.name) = .ok label ∧
      naming.column owner.name field.name = .ok column ∧
      given.Tests engine label column test ∧
      cast.Tests engine label column (test.cut length.toNat) ∧
      (cast.AgreeUpTo engine label column length.toNat given ↔
        ∀ operand ∈ test.operands, cutText length.toNat operand ∈ test.operands) := by
  obtain ⟨rfl, hwellFormed⟩ := Schema.ofEntities_eq_ok.1 hschema
  have hcovers := Naming.covers_of_follows hwellFormed
    (Naming.follows_of_ofSchema hwellFormed hnaming)
  have hresolve : Schema.resolve ⟨entities⟩ owner.name field.name = .ok (some (.field field)) := by
    refine Schema.resolve_of_member? ?_
    rw [hwellFormed.member?_name howner]
    exact (hwellFormed.entity owner howner).member?_field hfield
  obtain ⟨column, hcolumn⟩ := hcovers.column _ _ field (Schema.field?_of_resolve hresolve)
  obtain ⟨label, hlabel⟩ := hcovers.exists_label ⟨owner, howner, rfl⟩ source
  -- binding leaves the operator, and gives placeholders for the operands
  let operand := (test.predicate.operand.bind.run before).1
  have hbound : test.predicate.operand.Bound values operand :=
    (test.predicate.operand.settles_bind before).2 values hvalues
  obtain ⟨given, hgiven⟩ := (Predicate.exists_compile_iff (.column label column) field.sqlType
    test.predicate).2 test.suits_predicate
  obtain ⟨cast, hcast⟩ := (Predicate.exists_compile_iff (.column label column) field.sqlType
    ⟨test.predicate.operator, operand⟩).2
      ((Operator.takes_bound test.predicate.operator hbound).2 test.suits_predicate)
  have hgivenTests : (Condition.all [given]).Tests engine label column test := by
    intro db scope value hrow
    rw [Predicate.eval_singleton hgiven hrow, meaning_predicate hengine]
  have hcastTests : (Condition.all [cast]).Tests engine label column (test.cut length.toNat) := by
    intro db scope value hrow
    rw [Predicate.eval_singleton hcast hrow, Field.sqlType_of_length hstring hlength,
      meaning_bound hengine test _ hparams hbound]
  refine ⟨.all [given], .all [cast], label, column, ?_, ?_, hlabel, hcolumn, hgivenTests, hcastTests,
    Condition.agreeUpTo_iff hcastTests hgivenTests⟩
  · exact (Filter.yields_compileOn_predicate hresolve).2
      ⟨label, column, given, hlabel, hcolumn, hgiven, rfl, rfl⟩
  · exact (Filter.yields_compileOn_predicate hresolve).2
      ⟨label, column, cast, hlabel, hcolumn, hcast, rfl, rfl⟩

end TextTest

/-! ## Tags -/

namespace Library

/-- Tags, with names of three characters. -/
def tagEntities : List Entity := [
  { name := "Tag"
    fields := [⟨"id", .integer, {}, { primary := true }⟩,
      ⟨"name", .string, { length := some 3 }, {}⟩] }]

def tagSchema : Schema := ⟨tagEntities⟩

def tagNaming : Naming := ⟨[("Tag", { table := "tag", columns := [("id", "id"), ("name", "name")] })]⟩

def cutValue (value : Json) (type : SqlType) : Json :=
  match value, type with
  | .str text, ⟨"varchar", [length], false⟩ => .str (cutText length text)
  | value, _ => value

def compareTexts (op : Comparison) (v : Json) (items : List Json) : Truth :=
  if v = .null then .unknown
  else match op with
    | .eq | .isIn => .ofBool (v ∈ items)
    | .ne | .notIn => .ofBool (v ∉ items)
    | _ => .unknown

/-- An engine that compares texts, with values for its parameters. -/
def textEngine (params : List Json) : Engine Json :=
  { engine with
    param := fun index => (params[index - 1]?).getD .null
    cast := cutValue
    compare := compareTexts }

theorem comparesTexts_textEngine (params : List Json) : (textEngine params).ComparesTexts where
  cast text length := rfl
  eq text other := by simp [textEngine, engine, compareTexts, Engine.text]
  ne text other := by simp [textEngine, engine, compareTexts, Engine.text]
  isIn text others := by simp [textEngine, engine, compareTexts, Engine.text]
  notIn text others := by simp [textEngine, engine, compareTexts, Engine.text]
  absent op values hop := by simp [textEngine, engine, compareTexts]

theorem param_textEngine (params : List Json) (index : Nat) (value : Json)
    (h : Holds params index value) :
    (textEngine params).param index = (textEngine params).literal value := by
  simp only [textEngine, h.2, Option.getD_some]
  rfl

theorem ofEntities_tagEntities : Schema.ofEntities tagEntities = .ok tagSchema := by
  decide +kernel

theorem ofSchema_tagSchema : Naming.ofSchema [] tagSchema = .ok tagNaming := by
  decide +kernel

/-- A tag whose name is as long as it may be. -/
def shortTag : Scope Json :=
  [[("tag", [("name", .value (.str "abc"))])]]

end Library

/-- Cut, the longer of two names is the other one, so that tags are found by both as they were. -/
theorem TextTest.casts_abcd_abc : ∃ given cast,
    Yields (((oneOf ["abcd", "abc"]).filter "name").compileOn Library.tagSchema Library.tagNaming "Tag"
      none) {} given {} ∧
    Yields ((((oneOf ["abcd", "abc"]).filter "name").bind.run {}).1.compileOn Library.tagSchema
      Library.tagNaming "Tag" none) {} cast {} ∧
    cast.AgreeUpTo (Library.textEngine [.str "abcd", .str "abc"]) "tag" "name" 3 given := by
  obtain ⟨given, cast, label, column, hgiven, hcast, hlabel, hcolumn, -, -, hagree⟩ :=
    casts Library.ofEntities_tagEntities Library.ofSchema_tagSchema (List.mem_singleton.2 rfl)
      (List.mem_cons_of_mem _ (List.mem_singleton.2 rfl)) rfl rfl (oneOf ["abcd", "abc"]) none {} {}
      (Library.comparesTexts_textEngine _) List.prefix_rfl (Library.param_textEngine _)
  obtain rfl := Except.ok.inj hlabel
  obtain rfl := Except.ok.inj hcolumn
  exact ⟨given, cast, hgiven, hcast, hagree.2 (by decide +kernel)⟩

/-- A tag is found by a longer name than it has, but only if the name is bound. -/
theorem TextTest.cut_abcd :
    Schema.ofEntities Library.tagEntities = .ok Library.tagSchema ∧
      Naming.ofSchema [] Library.tagSchema = .ok Library.tagNaming ∧
      (Library.textEngine [.str "abcd"]).ComparesTexts ∧
      (∀ index value, Holds [.str "abcd"] index value →
        (Library.textEngine [.str "abcd"]).param index =
          (Library.textEngine [.str "abcd"]).literal value) ∧
      Library.shortTag.column "tag" "name" = .ok (.value (.str "abc")) ∧
      ∃ given cast,
        Yields (((eq "abcd").filter "name").compileOn Library.tagSchema Library.tagNaming "Tag" none) {}
          given {} ∧
        Yields ((((eq "abcd").filter "name").bind.run {}).1.compileOn Library.tagSchema
          Library.tagNaming "Tag" none) {} cast {} ∧
        given.eval (Library.textEngine [.str "abcd"]) Library.database Library.shortTag = .ok .fails ∧
        cast.eval (Library.textEngine [.str "abcd"]) Library.database Library.shortTag = .ok .holds :=
  ⟨Library.ofEntities_tagEntities, Library.ofSchema_tagSchema, Library.comparesTexts_textEngine _,
    Library.param_textEngine _, rfl, _, _, rfl, rfl, by decide +kernel, by decide +kernel⟩

end EntitySql
