import EntitySql.Proofs.Binding.Operands
import EntitySql.Proofs.Binding.Records
import EntitySql.Proofs.Schema.WellFormed

/-!
# Ways of a value to a column

A value reaches the column of a field when a record writes it there, when a record refers to a row by
it, and when a filter compares the column with it. Which parameter is bound for the value depends on
the way.

* `Record.settles_bind` says what the entries of a record are bound to, `Filter.settles_comparisons`
  what the operands of a filter are, each with the field that it is compared with.
* `Arrives` says which parameter a value ends in on a `Way`, `arrives_iff` that this is
  `Way.parameter`.
* `Field.parameter_eq_self_iff` says when a written value is bound as it is, `arrivals_alike_iff` that
  only then all ways end alike.
-/

namespace EntitySql

set_option autoImplicit false

/-! ## Records -/

/-- What an entry of a record is bound to: a field to its parameter, a many-to-one to the value of the
field that it refers to. -/
inductive EntryBound (schema : Schema) (entity : String) (values : List Json) :
    String × Json → String × BoundValue → Prop
  | field {name : String} {value : Json} {field : Field} {index : Nat}
      (hmember : schema.resolve entity name = .ok (some (.field field)))
      (hholds : Holds values index (field.parameter value)) :
      EntryBound schema entity values (name, value) (name, .param index)
  | target {name : String} {members : List (String × Json)} {relation : ManyToOne} {key : Json}
      {index : Nat} (hmember : schema.resolve entity name = .ok (some (.manyToOne relation)))
      (hkey : Assoc.get? relation.targetField members = some key) (hholds : Holds values index key) :
      EntryBound schema entity values (name, .obj members)
        (name, .record [(relation.targetField, .param index)])
  | keyless {name : String} {members : List (String × Json)} {relation : ManyToOne}
      (hmember : schema.resolve entity name = .ok (some (.manyToOne relation)))
      (hkey : Assoc.get? relation.targetField members = none) :
      EntryBound schema entity values (name, .obj members) (name, .record [])
  | null {name : String} {relation : ManyToOne} {index : Nat}
      (hmember : schema.resolve entity name = .ok (some (.manyToOne relation)))
      (hholds : Holds values index .null) :
      EntryBound schema entity values (name, .null) (name, .param index)
  | list {name : String} {value : Json} {relation : OneToMany} {datum : BoundValue}
      (hmember : schema.resolve entity name = .ok (some (.oneToMany relation))) :
      EntryBound schema entity values (name, value) (name, datum)

namespace Record

variable {α β : Type}

/-- What `Settles` says, of the results of a computation that may fail. -/
def Settles (x : RecordBinding α) (R : List Json → α → Prop) : Prop :=
  EntitySql.Settles x.run fun values result => ∀ a, result = .ok a → R values a

namespace Settles

theorem pure {a : α} {R : List Json → α → Prop} (h : ∀ values, R values a) :
    Settles (Pure.pure a) R :=
  EntitySql.Settles.pure fun values _ hok => Except.ok.inj hok ▸ h values

theorem throw (fault : Fault) (R : List Json → α → Prop) : Settles (throw fault) R :=
  EntitySql.Settles.pure fun _ _ h => by cases h

theorem ofExcept (result : Result α) :
    Settles (MonadExcept.ofExcept result) fun _ a => result = .ok a := by
  cases result with
  | ok a => exact pure fun _ => rfl
  | error fault => exact throw fault _

theorem bind {x : RecordBinding α} {f : α → RecordBinding β} {R : List Json → α → Prop}
    {S : List Json → β → Prop} (hx : Settles x R)
    (hf : ∀ a, Settles (f a) fun values b => R values a → S values b) : Settles (x >>= f) S := by
  show EntitySql.Settles (x.run >>= ExceptT.bindCont f) _
  refine EntitySql.Settles.bind hx fun result => ?_
  cases result with
  | error fault => exact EntitySql.Settles.pure fun _ _ _ h => by cases h
  | ok a =>
    intro before
    obtain ⟨hkept, hlater⟩ := hf a before
    exact ⟨hkept, fun values hvalues hresult b hb => hlater values hvalues b hb (hresult a rfl)⟩

theorem mono {x : RecordBinding α} {R S : List Json → α → Prop} (hx : Settles x R)
    (h : ∀ values a, R values a → S values a) : Settles x S := by
  intro before
  obtain ⟨hkept, hresult⟩ := hx before
  exact ⟨hkept, fun values hvalues a ha => h values a (hresult values hvalues a ha)⟩

end Settles

theorem settles_bindDatum (value : Json) : Settles (bindDatum value) fun values datum =>
    ∃ index, datum = .param index ∧ Holds values index value := by
  refine Settles.bind (R := fun values index => Holds values index value) ?_ fun index =>
    .pure fun values hindex => ⟨index, rfl, hindex⟩
  intro before
  obtain ⟨hkept, hholds⟩ := settles_bindValue value before
  exact ⟨hkept, fun values hvalues index hindex => Except.ok.inj hindex ▸ hholds values hvalues⟩

theorem settles_bindManyToOne (schema : Schema) (entity name : String) (relation : ManyToOne)
    (value : Json) : Settles (bindManyToOne entity name relation value) fun values datum =>
      schema.resolve entity name = .ok (some (.manyToOne relation)) →
        EntryBound schema entity values (name, value) (name, datum) := by
  unfold bindManyToOne
  split
  · refine (settles_bindDatum .null).mono ?_
    rintro values datum ⟨index, rfl, hholds⟩ hmember
    exact .null hmember hholds
  · next members =>
    split
    · next key hkey =>
      refine (settles_bindDatum key).bind fun datum => .pure fun values => ?_
      rintro ⟨index, rfl, hholds⟩ hmember
      exact .target hmember hkey hholds
    · next hkey => exact .pure fun values hmember => .keyless hmember hkey
  · exact .throw _ _

mutual

theorem settles_bind (schema : Schema) : (record : List (String × Json)) → ∀ entity,
    Settles (bind schema entity record) fun values bound =>
      List.Forall₂ (EntryBound schema entity values) record bound
  | [], _ => .pure fun _ => .nil
  | (name, value) :: rest, entity => by
    rw [bind]
    refine (Settles.ofExcept _).bind fun found => ?_
    have hentry : ∀ {x : RecordBinding BoundValue} {R : List Json → BoundValue → Prop},
        Settles x R → (∀ values datum, R values datum → schema.resolve entity name = .ok found →
          EntryBound schema entity values (name, value) (name, datum)) →
        Settles (do return (name, ← x) :: (← bind schema entity rest)) fun values bound =>
          schema.resolve entity name = .ok found →
            List.Forall₂ (EntryBound schema entity values) ((name, value) :: rest) bound := by
      intro x R hx hR
      refine hx.bind fun datum => (settles_bind schema rest entity).bind fun later => ?_
      exact .pure fun values hlater hdatum hfound => .cons (hR values datum hdatum hfound) hlater
    cases found with
    | none => exact hentry (.throw _ fun _ _ => False) fun _ _ h => h.elim
    | some member =>
      cases member with
      | field field =>
        refine hentry (settles_bindDatum (field.parameter value)) ?_
        rintro values datum ⟨index, rfl, hholds⟩ hmember
        exact .field hmember hholds
      | manyToOne relation =>
        exact hentry (settles_bindManyToOne schema entity name relation value) fun _ _ h => h
      | oneToMany relation =>
        exact hentry (settles_bindOneToMany schema value entity name relation.targetEntity)
          fun _ _ _ hmember => .list hmember

theorem settles_bindOneToMany (schema : Schema) : (value : Json) → ∀ entity name target,
    Settles (bindOneToMany schema entity name target value) fun _ _ => True
  | .arr items, entity, name, target => by
    rw [bindOneToMany]
    exact (settles_bindItems schema items entity name target).bind fun _ =>
      .pure fun _ _ => trivial
  | .null, _, _, _ => .throw _ _
  | .bool _, _, _, _ => .throw _ _
  | .int _, _, _, _ => .throw _ _
  | .double _, _, _, _ => .throw _ _
  | .str _, _, _, _ => .throw _ _
  | .obj _, _, _, _ => .throw _ _

theorem settles_bindItems (schema : Schema) : (items : List Json) → ∀ entity name target,
    Settles (bindItems schema entity name target items) fun _ _ => True
  | [], _, _, _ => .pure fun _ => trivial
  | .obj members :: rest, entity, name, target => by
    rw [bindItems]
    exact (settles_bind schema members target).bind fun _ =>
      (settles_bindItems schema rest entity name target).bind fun _ => .pure fun _ _ _ => trivial
  | .null :: _, _, _, _ => .throw _ _
  | .bool _ :: _, _, _, _ => .throw _ _
  | .int _ :: _, _, _, _ => .throw _ _
  | .double _ :: _, _, _, _ => .throw _ _
  | .str _ :: _, _, _, _ => .throw _ _
  | .arr _ :: _, _, _, _ => .throw _ _

end

end Record

/-! ## Filters -/

/-- The entity that a relation leads to. -/
def Schema.target? (schema : Schema) (entity relation : String) : Option String :=
  match schema.member? entity relation with
  | some (.manyToOne relation) => some relation.targetEntity
  | some (.oneToMany relation) => some relation.targetEntity
  | _ => none

/-- An operand, and what it is compared with. -/
structure Compared where
  entity : String
  name : String
  operand : Operand

mutual

/-- The operands of a filter on an entity, in the order in which they are bound. -/
def Filter.comparisons (schema : Schema) (entity : String) : Filter → List Compared
  | { terms, conjuncts, alternatives } =>
    Term.comparisonsAll schema entity terms ++ Filter.comparisonsAll schema entity conjuncts ++
      Filter.comparisonsAll schema entity alternatives
termination_by structural filter => filter

def Term.comparisons (schema : Schema) (entity : String) : Term → List Compared
  | .predicates name predicates => predicates.map fun predicate => ⟨entity, name, predicate.operand⟩
  | .nested name filter =>
    match schema.target? entity name with
    | some target => filter.comparisons schema target
    | none => []
termination_by structural term => term

def Term.comparisonsAll (schema : Schema) (entity : String) : List Term → List Compared
  | [] => []
  | term :: rest => term.comparisons schema entity ++ Term.comparisonsAll schema entity rest
termination_by structural terms => terms

def Filter.comparisonsAll (schema : Schema) (entity : String) : List Filter → List Compared
  | [] => []
  | filter :: rest => filter.comparisons schema entity ++ Filter.comparisonsAll schema entity rest
termination_by structural filters => filters

end

/-- Compared with the same thing, and bound. -/
structure Compared.Bound (values : List Json) (given bound : Compared) : Prop where
  entity : bound.entity = given.entity
  name : bound.name = given.name
  operand : given.operand.Bound values bound.operand

theorem Predicate.settles_bindAll (entity name : String) (predicates : List Predicate) :
    Settles (bindAll predicates) fun values bound =>
      List.Forall₂ (Compared.Bound values)
        (predicates.map fun predicate => ⟨entity, name, predicate.operand⟩)
        (bound.map fun predicate => ⟨entity, name, predicate.operand⟩) := by
  induction predicates with
  | nil => exact .pure fun _ => .nil
  | cons predicate rest ih =>
    exact (Operand.settles_bind predicate.operand).bind fun operand => ih.bind fun bound =>
      .pure fun values hrest hfirst => .cons ⟨rfl, rfl, hfirst⟩ hrest

namespace Filter

variable (schema : Schema)

mutual

/-- Every operand of a filter is bound, whatever it is compared with. -/
theorem settles_comparisons : (filter : Filter) → ∀ entity, Settles filter.bind fun values bound =>
    List.Forall₂ (Compared.Bound values) (filter.comparisons schema entity)
      (bound.comparisons schema entity)
  | { terms, conjuncts, alternatives }, entity => by
    rw [bind]
    refine (settles_comparisonsOfTerms terms entity).bind fun boundTerms => ?_
    refine (settles_comparisonsAll conjuncts entity).bind fun boundConjuncts => ?_
    refine (settles_comparisonsAll alternatives entity).bind fun options => ?_
    refine .pure fun values halternatives hconjuncts hterms => ?_
    rw [comparisons, comparisons]
    exact List.rel_append (List.rel_append hterms hconjuncts) halternatives

theorem settles_comparisonsOfTerm : (term : Term) → ∀ entity,
    Settles (bindTerm term) fun values bound => List.Forall₂ (Compared.Bound values)
      (term.comparisons schema entity) (bound.comparisons schema entity)
  | .predicates name predicates, entity => by
    rw [bindTerm]
    refine (Predicate.settles_bindAll entity name predicates).bind fun bound => ?_
    exact .pure fun values hbound => hbound
  | .nested name filter, entity => by
    rw [bindTerm]
    have hnested := fun target => settles_comparisons filter target
    cases htarget : schema.target? entity name with
    | none =>
      refine (hnested entity).bind fun bound => .pure fun values _ => ?_
      rw [Term.comparisons, Term.comparisons, htarget]
      exact .nil
    | some target =>
      refine (hnested target).bind fun bound => .pure fun values hbound => ?_
      rw [Term.comparisons, Term.comparisons, htarget]
      exact hbound

theorem settles_comparisonsOfTerms : (terms : List Term) → ∀ entity,
    Settles (bindTerms terms) fun values bound => List.Forall₂ (Compared.Bound values)
      (Term.comparisonsAll schema entity terms) (Term.comparisonsAll schema entity bound)
  | [], _ => .pure fun _ => .nil
  | term :: rest, entity => by
    rw [bindTerms]
    refine (settles_comparisonsOfTerm term entity).bind fun bound => ?_
    refine (settles_comparisonsOfTerms rest entity).bind fun others => ?_
    exact .pure fun values hrest hfirst => List.rel_append hfirst hrest

theorem settles_comparisonsAll : (filters : List Filter) → ∀ entity,
    Settles (bindList filters) fun values bound => List.Forall₂ (Compared.Bound values)
      (comparisonsAll schema entity filters) (comparisonsAll schema entity bound)
  | [], _ => .pure fun _ => .nil
  | filter :: rest, entity => by
    rw [bindList]
    refine (settles_comparisons filter entity).bind fun bound => ?_
    refine (settles_comparisonsAll rest entity).bind fun others => ?_
    exact .pure fun values hrest hfirst => List.rel_append hfirst hrest

end

end Filter

/-! ## Texts of documents -/

theorem Json.length_le_escaped (text : List Char) : text.length ≤ (text.flatMap escape).length := by
  induction text with
  | nil => exact Nat.le_refl _
  | cons c rest ih =>
    have hescape : 1 ≤ (escape c).length := by
      unfold escape
      split_ifs
      all_goals exact Nat.le_add_left 1 _
    rw [List.flatMap_cons, List.length_append, List.length_cons]
    omega

/-- A text in quotes is longer than the text. -/
theorem Json.quoted_ne_self (text : String) : quoted text ≠ text := by
  intro heq
  have hlength := congrArg String.length heq
  simp only [quoted, String.length_append, String.length_ofList] at hlength
  have hescaped := length_le_escaped text.toList
  have hquote : "\"".length = 1 := rfl
  rw [String.length_toList] at hescaped
  omega

/-- A written value is bound as it is unless it is a document. -/
theorem Field.parameter_eq_self_iff (field : Field) (value : Json) :
    field.parameter value = value ↔ (field.type.isDocument = true → value = .null) := by
  unfold Field.parameter
  split_ifs with hnull hdocument
  · exact ⟨fun _ _ => hnull, fun _ => hnull.symm⟩
  · refine ⟨fun heq => ?_, fun h => absurd (h hdocument) hnull⟩
    cases value with
    | str text => exact absurd (Json.str.inj heq) (Json.quoted_ne_self text)
    | null => cases heq
    | bool b => cases heq
    | int n => cases heq
    | double x => cases heq
    | arr items => cases heq
    | obj members => cases heq
  · exact ⟨fun _ h => absurd h hdocument, fun _ => rfl⟩

/-! ## Ways -/

/-- How a value comes to the column of a field. -/
inductive Way where
  /-- A record sets the field. -/
  | written
  /-- A record sets a many-to-one that refers to the field. -/
  | referred
  /-- A filter compares the field. -/
  | compared
deriving DecidableEq

/-- Values can only be referred to where a many-to-one refers to the field. -/
def Way.Open (schema : Schema) (entity name : String) : Way → Prop
  | .referred => ∃ owner relation found, schema.resolve owner relation =
      .ok (some (.manyToOne found)) ∧ found.targetEntity = entity ∧ found.targetField = name
  | .written | .compared => True

/-- The parameter that a value of the field ends in: only written documents become texts. -/
def Way.parameter (field : Field) (value : Json) : Way → Json
  | .written => field.parameter value
  | .referred | .compared => value

/-- On the way, the value ends in the parameter, at some place of some statement: among the entries of
a record, or among the operands of a filter. -/
inductive Arrives (schema : Schema) (entity name : String) (value : Json) : Way → Json → Prop
  | written {earlier later : Record} {before after : Bindings} {bound : BoundRecord} {index : Nat}
      {param : Json}
      (hbind : Yields (Record.bind schema entity (earlier ++ (name, value) :: later)) before bound
        after)
      (hdatum : bound[earlier.length]? = some (name, .param index))
      (hparam : Holds after.values index param) : Arrives schema entity name value .written param
  | referred {owner relation : String} {found : ManyToOne} {members : List (String × Json)}
      {earlier later : Record} {before after : Bindings} {bound : BoundRecord} {index : Nat}
      {param : Json} (hmember : schema.resolve owner relation = .ok (some (.manyToOne found)))
      (hentity : found.targetEntity = entity) (hname : found.targetField = name)
      (hvalue : Assoc.get? name members = some value)
      (hbind : Yields (Record.bind schema owner (earlier ++ (relation, .obj members) :: later))
        before bound after)
      (hdatum : bound[earlier.length]? = some (relation, .record [(name, .param index)]))
      (hparam : Holds after.values index param) : Arrives schema entity name value .referred param
  | compared {root : String} {filter : Filter} {before : Bindings} {place index : Nat} {param : Json}
      (hgiven : (filter.comparisons schema root)[place]? = some ⟨entity, name, .value value⟩)
      (hbound : ((filter.bind.run before).1.comparisons schema root)[place]? =
        some ⟨entity, name, .param index⟩)
      (hparam : Holds (filter.bind.run before).2.values index param) :
      Arrives schema entity name value .compared param

theorem Holds.unique {values : List Json} {index : Nat} {value other : Json}
    (h : Holds values index value) (h' : Holds values index other) : value = other :=
  Option.some.inj (h.2.symm.trans h'.2)

theorem forall₂_getElem? {α β : Type} {R : α → β → Prop} {as : List α} {bs : List β}
    (h : List.Forall₂ R as bs) {i : Nat} {a : α} {b : β} (ha : as[i]? = some a)
    (hb : bs[i]? = some b) : R a b := by
  induction h generalizing i with
  | nil => cases ha
  | cons hfirst _ ih =>
    cases i with
    | zero =>
      cases ha
      cases hb
      exact hfirst
    | succ i => exact ih ha hb

section

variable {schema : Schema} {entity name : String} {field : Field}

/-- The entry of a record that has been bound, at its place. -/
theorem Record.entryBound_of_yields {earlier later : Record} {entry : String × Json}
    {before after : Bindings} {bound : BoundRecord} {datum : String × BoundValue}
    (hbind : Yields (Record.bind schema entity (earlier ++ entry :: later)) before bound after)
    (hdatum : bound[earlier.length]? = some datum) :
    EntryBound schema entity after.values entry datum := by
  obtain ⟨-, hsettles⟩ := settles_bind schema (earlier ++ entry :: later) entity before
  have hstate : ((Record.bind schema entity (earlier ++ entry :: later)).run.run before).2 = after :=
    congrArg Prod.snd hbind
  have hentries := hsettles after.values (hstate ▸ List.prefix_rfl) bound (congrArg Prod.fst hbind)
  exact forall₂_getElem? hentries (by simp) hdatum

theorem Arrives.eq_parameter (hmember : schema.resolve entity name = .ok (some (.field field)))
    {value param : Json} {way : Way} (h : Arrives schema entity name value way param) :
    way.Open schema entity name ∧ param = way.parameter field value := by
  cases h with
  | written hbind hdatum hparam =>
    refine ⟨trivial, ?_⟩
    cases Record.entryBound_of_yields hbind hdatum with
    | field hfound hholds =>
      obtain rfl := Member.field.inj (Option.some.inj (Except.ok.inj (hmember.symm.trans hfound)))
      exact hparam.unique hholds
    | null hfound hholds => cases hmember.symm.trans hfound
    | list hfound => cases hmember.symm.trans hfound
  | referred hrelation hentity hname hvalue hbind hdatum hparam =>
    refine ⟨⟨_, _, _, hrelation, hentity, hname⟩, ?_⟩
    cases Record.entryBound_of_yields hbind hdatum with
    | target hfound hkey hholds =>
      rw [hvalue] at hkey
      obtain rfl := Option.some.inj hkey
      exact hparam.unique hholds
    | list hfound => cases hrelation.symm.trans hfound
  | @compared root filter before place index _ hgiven hbound hparam =>
    refine ⟨trivial, ?_⟩
    have hcomparisons :=
      (Filter.settles_comparisons schema filter root before).2 _ List.prefix_rfl
    cases (forall₂_getElem? hcomparisons hgiven hbound).operand with
    | value hholds => exact hparam.unique hholds

/-- A value arrives on every way that there is. -/
theorem arrives_parameter (hmember : schema.resolve entity name = .ok (some (.field field)))
    (value : Json) {way : Way} (hopen : way.Open schema entity name) :
    Arrives schema entity name value way (way.parameter field value) := by
  have hnothing : ∀ owner before, Yields (Record.bind schema owner []) before [] before :=
    fun _ _ => yields_pure.2 ⟨rfl, rfl⟩
  cases way with
  | written =>
    have hbind : Yields (Record.bind schema entity ([] ++ (name, value) :: [])) {}
        [(name, .param 1)] ⟨[field.parameter value]⟩ :=
      Record.yields_bind_cons.2 ⟨_, hmember, _, _, _, yields_bindDatum.2 ⟨rfl, rfl⟩,
        hnothing _ _, rfl⟩
    exact .written hbind rfl ⟨Nat.one_pos, rfl⟩
  | referred =>
    obtain ⟨owner, relation, found, hrelation, rfl, rfl⟩ := hopen
    have hvalue : Assoc.get? found.targetField [(found.targetField, value)] = some value :=
      if_pos rfl
    have hdatum : Yields (bindMember schema owner relation (.obj [(found.targetField, value)])
        (.manyToOne found)) {} (.record [(found.targetField, .param 1)]) ⟨[value]⟩ := by
      simp only [bindMember, bindManyToOne, hvalue]
      exact yields_bind.2 ⟨_, _, yields_bindDatum.2 ⟨rfl, rfl⟩, yields_pure.2 ⟨rfl, rfl⟩⟩
    have hbind : Yields (Record.bind schema owner
        ([] ++ (relation, .obj [(found.targetField, value)]) :: [])) {}
        [(relation, .record [(found.targetField, .param 1)])] ⟨[value]⟩ :=
      Record.yields_bind_cons.2 ⟨_, hrelation, _, _, _, hdatum, hnothing _ _, rfl⟩
    exact .referred hrelation rfl rfl hvalue hbind rfl ⟨Nat.one_pos, rfl⟩
  | compared =>
    let filter : Filter := { terms := [.predicates name [⟨.eq, .value value⟩]] }
    have hgiven : (filter.comparisons schema entity)[0]? = some ⟨entity, name, .value value⟩ := rfl
    have hbound : ((filter.bind.run {}).1.comparisons schema entity)[0]? =
        some ⟨entity, name, .param 1⟩ := rfl
    exact .compared hgiven hbound ⟨Nat.one_pos, rfl⟩

theorem arrives_iff (hmember : schema.resolve entity name = .ok (some (.field field)))
    {value param : Json} {way : Way} : Arrives schema entity name value way param ↔
      way.Open schema entity name ∧ param = way.parameter field value := by
  refine ⟨fun h => h.eq_parameter hmember, ?_⟩
  rintro ⟨hopen, rfl⟩
  exact arrives_parameter hmember value hopen

end

/-- The parameters that the value ends in are the same on all ways. -/
def ArrivesAlike (schema : Schema) (entity name : String) (value : Json) : Prop :=
  ∀ way other param param', Arrives schema entity name value way param →
    Arrives schema entity name value other param' → param = param'

/-- A value that a record writes to a field ends in what the field makes of it, one that it refers by
or that a filter compares the field with ends in itself. These are the same if and only if the field
holds no documents, or the value is `null`. -/
theorem arrivals_alike_iff {schema : Schema} {entity name : String} {field : Field}
    (hmember : schema.resolve entity name = .ok (some (.field field))) (value : Json) :
    (∀ way param, Arrives schema entity name value way param ↔
      way.Open schema entity name ∧ param = way.parameter field value) ∧
      (ArrivesAlike schema entity name value ↔ (field.type.isDocument = true → value = .null)) := by
  refine ⟨fun way param => arrives_iff hmember, fun halike => ?_, fun hvalue => ?_⟩
  · rw [← field.parameter_eq_self_iff]
    exact halike .written .compared _ _ (arrives_parameter hmember value trivial)
      (arrives_parameter hmember value trivial)
  · have hself := (field.parameter_eq_self_iff value).2 hvalue
    have hparameter : ∀ way : Way, way.parameter field value = value := by
      intro way
      cases way with
      | written => exact hself
      | referred => rfl
      | compared => rfl
    intro way other param param' harrives harrives'
    rw [(harrives.eq_parameter hmember).2, (harrives'.eq_parameter hmember).2, hparameter,
      hparameter]

/-! ## Notes -/

namespace Notes

/-- Notes with a document each, and remarks that refer to notes by their documents. -/
def entities : List Entity := [
  { name := "Note"
    fields := [⟨"id", .integer, {}, { primary := true }⟩, ⟨"body", .jsonb, {}, { unique := true }⟩] },
  { name := "Remark"
    fields := [⟨"id", .integer, {}, { primary := true }⟩]
    manyToOne := [⟨"note", "Note", "body", {}⟩] }]

def schema : Schema := ⟨entities⟩

theorem ofEntities_entities : Schema.ofEntities entities = .ok schema := by
  decide +kernel

end Notes

theorem arrivals_alike_iff_notes :
    Schema.ofEntities Notes.entities = .ok Notes.schema ∧
      Arrives Notes.schema "Note" "body" (.str "plain") .written (.str "\"plain\"") ∧
      Arrives Notes.schema "Note" "body" (.str "plain") .referred (.str "plain") ∧
      Arrives Notes.schema "Note" "body" (.str "plain") .compared (.str "plain") ∧
      ArrivesAlike Notes.schema "Note" "body" .null ∧
      ArrivesAlike Notes.schema "Note" "id" (.int 3) := by
  have hbody : Notes.schema.resolve "Note" "body" =
      .ok (some (.field ⟨"body", .jsonb, {}, { unique := true }⟩)) := by rfl
  have hid : Notes.schema.resolve "Note" "id" =
      .ok (some (.field ⟨"id", .integer, {}, { primary := true }⟩)) := by rfl
  have hreferred : Way.Open Notes.schema "Note" "body" .referred :=
    ⟨"Remark", "note", ⟨"note", "Note", "body", {}⟩, rfl, rfl, rfl⟩
  obtain ⟨harrives, -⟩ := arrivals_alike_iff hbody (.str "plain")
  refine ⟨Notes.ofEntities_entities, (harrives _ _).2 ⟨trivial, by decide +kernel⟩,
    (harrives _ _).2 ⟨hreferred, rfl⟩, (harrives _ _).2 ⟨trivial, rfl⟩, ?_, ?_⟩
  · exact (arrivals_alike_iff hbody .null).2.2 fun _ => rfl
  · exact (arrivals_alike_iff hid (.int 3)).2.2 fun h => by cases h

/-- Written, the document of a note is bound as its text; compared, and referred to, as it is. -/
theorem not_arrivesAlike_plain :
    Schema.ofEntities Notes.entities = .ok Notes.schema ∧
      ¬ ArrivesAlike Notes.schema "Note" "body" (.str "plain") := by
  refine ⟨Notes.ofEntities_entities, fun halike => ?_⟩
  have hbody : Notes.schema.resolve "Note" "body" =
      .ok (some (.field ⟨"body", .jsonb, {}, { unique := true }⟩)) := by rfl
  have hsame := halike .written .compared _ _
    (arrives_parameter hbody (.str "plain") trivial) (arrives_parameter hbody (.str "plain") trivial)
  exact absurd hsame (by decide +kernel)

end EntitySql
