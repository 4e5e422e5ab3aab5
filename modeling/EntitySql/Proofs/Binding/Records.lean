import EntitySql.Proofs.Binding.Numbering

/-!
# Placeholders in records

What a bound record is written with: one placeholder for each key, counted on from the values bound
before. The data under the keys do not matter for it.

* `Record.numbered` has a placeholder under each key, `Record.numberedAll` does so for records.
* `Record.assignments_bind` and `Record.insertRows_bindAll` write a bound record like the numbered one.
* `Record.exists_bind` and `Record.exists_bindAll` go back, for records that can be bound.
-/

namespace EntitySql

set_option autoImplicit false

variable {schema : Schema} {naming : Naming} {entity : String}

/-- The keys with the placeholders from a number on. -/
def Record.numbered (start : Nat) : List String → BoundRecord
  | [] => []
  | name :: rest => (name, .param start) :: numbered (start + 1) rest

/-- The keys of records with the placeholders from a number on. -/
def Record.numberedAll (start : Nat) : List (List String) → List BoundRecord
  | [] => []
  | names :: rest => numbered start names :: numberedAll (start + names.length) rest

/-! ## Binding data -/

theorem yields_bindDatum {value : Json} {s s' : Bindings} {datum : BoundValue} :
    Yields (bindDatum value) s datum s' ↔
      datum = .param (s.values.length + 1) ∧ s' = ⟨s.values ++ [value]⟩ := by
  change ((.ok (.param (s.values.length + 1)) : Except Fault BoundValue),
    (⟨s.values ++ [value]⟩ : Bindings)) = (.ok datum, s') ↔ _
  rw [Prod.mk.injEq, Except.ok.injEq]
  exact and_congr eq_comm eq_comm

def bindMember (schema : Schema) (entity name : String) (value : Json) :
    Member → RecordBinding BoundValue
  | .field field => bindDatum (field.parameter value)
  | .manyToOne relation => bindManyToOne entity name relation value
  | .oneToMany relation =>
    Record.bindOneToMany schema entity name relation.targetEntity value

theorem Record.yields_bind_cons {name : String} {value : Json} {rest : List (String × Json)}
    {s s' : Bindings} {bound : BoundRecord} :
    Yields (Record.bind schema entity ((name, value) :: rest)) s bound s' ↔
      ∃ member, schema.resolve entity name = .ok (some member) ∧ ∃ datum s₁ later,
        Yields (bindMember schema entity name value member) s datum s₁ ∧
        Yields (Record.bind schema entity rest) s₁ later s' ∧ bound = (name, datum) :: later := by
  have hrest : ∀ (x : RecordBinding BoundValue) (s : Bindings),
      Yields (do return (name, ← x) :: (← Record.bind schema entity rest)) s bound s' ↔
        ∃ datum s₁ later, Yields x s datum s₁ ∧ Yields (Record.bind schema entity rest) s₁ later s' ∧
          bound = (name, datum) :: later := by
    intro x s
    simp only [yields_bind, yields_pure]
    constructor
    · rintro ⟨datum, s₁, hdatum, later, s₂, hlater, rfl, rfl⟩
      exact ⟨datum, s₁, later, hdatum, hlater, rfl⟩
    · rintro ⟨datum, s₁, later, hdatum, hlater, rfl⟩
      exact ⟨datum, s₁, hdatum, later, s', hlater, rfl, rfl⟩
  rw [Record.bind, yields_bind]
  constructor
  · rintro ⟨found, s₁, hfound, h⟩
    obtain ⟨hresolve, rfl⟩ := yields_ofExcept.1 hfound
    cases found with
    | none =>
      obtain ⟨_, _, hthrow, -⟩ := yields_bind.1 h
      exact absurd hthrow not_yields_throw
    | some member =>
      cases member with
      | field field => exact ⟨.field field, hresolve, (hrest _ _).1 h⟩
      | manyToOne relation => exact ⟨.manyToOne relation, hresolve, (hrest _ _).1 h⟩
      | oneToMany relation => exact ⟨.oneToMany relation, hresolve, (hrest _ _).1 h⟩
  · rintro ⟨member, hresolve, h⟩
    refine ⟨some member, s, yields_ofExcept.2 ⟨hresolve, rfl⟩, ?_⟩
    cases member <;> exact (hrest _ _).2 h

/-- What is written for the data under a key. -/
def memberAssignment (schema : Schema) (naming : Naming) (entity name : String)
    (value : BoundValue) : Member → Result Assignment
  | .field field => fieldAssignment naming entity name field value
  | .manyToOne relation => relationAssignment schema naming entity name relation value
  | .oneToMany _ => .error (.shape (.notWritable entity name))

theorem assignment_resolved {name : String} {value : BoundValue} {member : Member}
    (hresolve : schema.resolve entity name = .ok (some member)) :
    assignment schema naming entity (name, value) =
      memberAssignment schema naming entity name value member := by
  rw [assignment, hresolve]
  cases member <;> rfl

/-- What is written for a many-to-one depends on its placeholder only. -/
theorem relationAssignment_param {name : String} {relation : ManyToOne} {value : BoundValue}
    {index : Nat} (h : targetParameter entity name relation value = .ok index) :
    relationAssignment schema naming entity name relation value =
      relationAssignment schema naming entity name relation (.param index) := by
  rw [relationAssignment, relationAssignment, h]
  rfl

theorem targetParameter_record (entity name : String) (relation : ManyToOne) (index : Nat) :
    targetParameter entity name relation (.record [(relation.targetField, .param index)]) =
      .ok index := by
  rw [targetParameter, Assoc.get?, if_pos rfl]

/-- Data that could be written took one placeholder, and could be written as this placeholder. -/
theorem assignment_bindMember {name : String} {value : Json} {member : Member} {s s' : Bindings}
    {datum : BoundValue} {pair : Assignment}
    (hresolve : schema.resolve entity name = .ok (some member))
    (h : Yields (bindMember schema entity name value member) s datum s')
    (hpair : assignment schema naming entity (name, datum) = .ok pair) :
    s'.values.length = s.values.length + 1 ∧
      assignment schema naming entity (name, .param (s.values.length + 1)) = .ok pair := by
  cases member with
  | field field =>
    obtain ⟨rfl, rfl⟩ := yields_bindDatum.1 h
    exact ⟨List.length_append, hpair⟩
  | oneToMany relation =>
    rw [assignment_resolved hresolve] at hpair
    cases hpair
  | manyToOne relation =>
    simp only [bindMember] at h
    unfold bindManyToOne at h
    split at h
    · obtain ⟨rfl, rfl⟩ := yields_bindDatum.1 h
      exact ⟨List.length_append, hpair⟩
    · next members =>
      split at h
      · next key hkey =>
        obtain ⟨inner, s₁, hinner, h⟩ := yields_bind.1 h
        obtain ⟨rfl, rfl⟩ := yields_bindDatum.1 hinner
        obtain ⟨rfl, rfl⟩ := yields_pure.1 h
        rw [assignment_resolved hresolve] at hpair ⊢
        refine ⟨List.length_append, ?_⟩
        rw [← hpair]
        exact (relationAssignment_param (targetParameter_record ..)).symm
      · obtain ⟨rfl, rfl⟩ := yields_pure.1 h
        rw [assignment_resolved hresolve] at hpair
        cases hpair
    · exact absurd h not_yields_throw

/-- Data for which a placeholder could be written can be bound, if it refers to a row where it has
to. -/
theorem exists_bindMember {name : String} {value : Json} {member : Member} {pair : Assignment}
    (hresolve : schema.resolve entity name = .ok (some member))
    (hrefers : ∀ relation, member = .manyToOne relation → value = .null ∨ ∃ members key,
      value = .obj members ∧ Assoc.get? relation.targetField members = some key) (s : Bindings)
    (hpair : assignment schema naming entity (name, .param (s.values.length + 1)) = .ok pair) :
    ∃ datum s', Yields (bindMember schema entity name value member) s datum s' ∧
      assignment schema naming entity (name, datum) = .ok pair := by
  cases member with
  | field field => exact ⟨_, _, yields_bindDatum.2 ⟨rfl, rfl⟩, hpair⟩
  | oneToMany relation =>
    rw [assignment_resolved hresolve] at hpair
    cases hpair
  | manyToOne relation =>
    rcases hrefers relation rfl with rfl | ⟨members, key, rfl, hkey⟩
    · exact ⟨_, _, yields_bindDatum.2 ⟨rfl, rfl⟩, hpair⟩
    · refine ⟨.record [(relation.targetField, .param (s.values.length + 1))],
        ⟨s.values ++ [key]⟩, ?_, ?_⟩
      · simp only [bindMember, bindManyToOne, hkey]
        exact yields_bind.2 ⟨_, _, yields_bindDatum.2 ⟨rfl, rfl⟩, yields_pure.2 ⟨rfl, rfl⟩⟩
      · rw [assignment_resolved hresolve] at hpair ⊢
        rw [← hpair]
        exact relationAssignment_param (targetParameter_record ..)

/-! ## Records -/

theorem assignments_cons_eq_ok {entry : String × BoundValue} {rest : BoundRecord}
    {pairs : List Assignment} :
    assignments schema naming entity (entry :: rest) = .ok pairs ↔ ∃ pair later,
      assignment schema naming entity entry = .ok pair ∧
        assignments schema naming entity rest = .ok later ∧ pairs = pair :: later := by
  unfold assignments
  rw [List.mapM_cons, bind_eq_ok]
  constructor
  · rintro ⟨pair, hpair, h⟩
    obtain ⟨later, hlater, h⟩ := bind_eq_ok.1 h
    exact ⟨pair, later, hpair, hlater, (pure_eq_ok.1 h).symm⟩
  · rintro ⟨pair, later, hpair, hlater, rfl⟩
    exact ⟨pair, hpair, bind_eq_ok.2 ⟨later, hlater, rfl⟩⟩

namespace Record

/-- A bound record is written like the numbered one. -/
theorem assignments_bind {record : List (String × Json)} {s s' : Bindings} {bound : BoundRecord}
    {pairs : List Assignment} (h : Yields (Record.bind schema entity record) s bound s')
    (hpairs : assignments schema naming entity bound = .ok pairs) :
    s'.values.length = s.values.length + record.length ∧
      assignments schema naming entity
        (numbered (s.values.length + 1) (record.map Prod.fst)) = .ok pairs := by
  induction record generalizing s bound pairs with
  | nil =>
    rw [Record.bind] at h
    obtain ⟨rfl, rfl⟩ := yields_pure.1 h
    exact ⟨rfl, hpairs⟩
  | cons entry rest ih =>
    obtain ⟨name, value⟩ := entry
    obtain ⟨member, hresolve, datum, s₁, later, hdatum, hlater, rfl⟩ := yields_bind_cons.1 h
    obtain ⟨pair, others, hpair, hothers, rfl⟩ := assignments_cons_eq_ok.1 hpairs
    obtain ⟨hlength, hnumber⟩ := assignment_bindMember hresolve hdatum hpair
    obtain ⟨hlengths, hnumbers⟩ := ih hlater hothers
    refine ⟨?_, assignments_cons_eq_ok.2 ⟨pair, others, hnumber, ?_, rfl⟩⟩
    · rw [List.length_cons]
      omega
    · rw [hlength] at hnumbers
      exact hnumbers

/-- Wherever a key is a many-to-one, the data is absent or has the field that is referred to. -/
def Refers (schema : Schema) (entity : String) (record : Record) : Prop :=
  ∀ name value, (name, value) ∈ record → ∀ relation,
    schema.resolve entity name = .ok (some (.manyToOne relation)) → value = .null ∨
      ∃ members key, value = .obj members ∧ Assoc.get? relation.targetField members = some key

/-- A record that can be written with placeholders can be bound, if it refers to rows. -/
theorem exists_bind {record : Record} (hrefers : Refers schema entity record) (s : Bindings)
    {pairs : List Assignment} (hpairs : assignments schema naming entity
      (numbered (s.values.length + 1) (record.map Prod.fst)) = .ok pairs) :
    ∃ bound s', Yields (Record.bind schema entity record) s bound s' ∧
      assignments schema naming entity bound = .ok pairs := by
  induction record generalizing s pairs with
  | nil =>
    refine ⟨[], s, ?_, hpairs⟩
    rw [Record.bind]
    exact yields_pure.2 ⟨rfl, rfl⟩
  | cons entry rest ih =>
    obtain ⟨name, value⟩ := entry
    obtain ⟨pair, others, hpair, hothers, rfl⟩ := assignments_cons_eq_ok.1 hpairs
    obtain ⟨member, hresolve⟩ : ∃ member, schema.resolve entity name = .ok (some member) := by
      obtain ⟨found, hfound, hwritten⟩ := bind_eq_ok.1 hpair
      cases found with
      | none => exact absurd hwritten throw_ne_ok
      | some member => exact ⟨member, hfound⟩
    obtain ⟨datum, s₁, hdatum, hwritten⟩ := exists_bindMember hresolve
      (fun relation hrelation => hrefers name value (List.mem_cons_self ..) relation
        (hrelation ▸ hresolve)) s hpair
    obtain ⟨hlength, -⟩ := assignment_bindMember hresolve hdatum hwritten
    have hrest : Refers schema entity rest := fun other datum hmem =>
      hrefers other datum (List.mem_cons_of_mem _ hmem)
    rw [← hlength] at hothers
    obtain ⟨later, s₂, hlater, hlaterWritten⟩ := ih hrest s₁ hothers
    exact ⟨(name, datum) :: later, s₂,
      yields_bind_cons.2 ⟨member, hresolve, datum, s₁, later, hdatum, hlater, rfl⟩,
      assignments_cons_eq_ok.2 ⟨pair, others, hwritten, hlaterWritten, rfl⟩⟩

/-! ## Lists of records -/

theorem insertRows_cons_eq_ok {before : Option (List String)} {record : BoundRecord}
    {rest : List BoundRecord} {out : List String × List (List Expr)} :
    insertRows schema naming entity before (record :: rest) = .ok out ↔ ∃ pairs all rows,
      assignments schema naming entity record = .ok pairs ∧
        (∀ expected ∈ before, expected = pairs.map Prod.fst) ∧
        insertRows schema naming entity (some (pairs.map Prod.fst)) rest = .ok (all, rows) ∧
          out = (all, pairs.map Prod.snd :: rows) := by
  rw [insertRows, bind_eq_ok]
  refine exists_congr fun pairs => ?_
  have hrest : ∀ columns, (do
      let later ← insertRows schema naming entity (some columns) rest
      return (later.1, pairs.map Prod.snd :: later.2) : Result (List String × List (List Expr))) =
        .ok out ↔ ∃ all rows, insertRows schema naming entity (some columns) rest = .ok (all, rows) ∧
          out = (all, pairs.map Prod.snd :: rows) := by
    intro columns
    rw [bind_eq_ok]
    constructor
    · rintro ⟨⟨all, rows⟩, hrows, h⟩
      exact ⟨all, rows, hrows, (pure_eq_ok.1 h).symm⟩
    · rintro ⟨all, rows, hrows, rfl⟩
      exact ⟨(all, rows), hrows, rfl⟩
  constructor
  · rintro ⟨hpairs, h⟩
    cases before with
    | none =>
      obtain ⟨all, rows, hrows, hout⟩ := (hrest _).1 h
      exact ⟨all, rows, hpairs, (fun expected hmem => by cases hmem), hrows, hout⟩
    | some expected =>
      by_cases hsame : expected = pairs.map Prod.fst
      · simp only [hsame, ne_eq, not_true_eq_false, if_false] at h
        obtain ⟨all, rows, hrows, hout⟩ := (hrest _).1 h
        exact ⟨all, rows, hpairs, fun other hmem => (Option.some.inj hmem) ▸ hsame, hrows, hout⟩
      · simp only [hsame, ne_eq, not_false_eq_true, if_true] at h
        cases h
  · rintro ⟨all, rows, hpairs, hsame, hrows, hout⟩
    refine ⟨hpairs, ?_⟩
    cases before with
    | none => exact (hrest _).2 ⟨all, rows, hrows, hout⟩
    | some expected =>
      obtain rfl := hsame expected rfl
      simp only [ne_eq, not_true_eq_false, if_false]
      exact (hrest _).2 ⟨all, rows, hrows, hout⟩

/-- Bound records are written like the numbered ones. -/
theorem insertRows_bindAll {data : List Record} {s s' : Bindings} {records : List BoundRecord}
    {before : Option (List String)} {out : List String × List (List Expr)}
    (h : Yields (bindAll schema entity data) s records s')
    (hrows : insertRows schema naming entity before records = .ok out) :
    s'.values.length = s.values.length + data.flatten.length ∧
      insertRows schema naming entity before
        (numberedAll (s.values.length + 1) (data.map (·.map Prod.fst))) = .ok out := by
  induction data generalizing s records before out with
  | nil =>
    obtain ⟨rfl, rfl⟩ := yields_pure.1 h
    exact ⟨rfl, hrows⟩
  | cons record rest ih =>
    rw [bindAll] at h
    obtain ⟨bound, s₁, hbound, h⟩ := yields_bind.1 h
    obtain ⟨others, s₂, hothers, h⟩ := yields_bind.1 h
    obtain ⟨rfl, rfl⟩ := yields_pure.1 h
    obtain ⟨pairs, all, rows, hpairs, hsame, hlater, rfl⟩ := insertRows_cons_eq_ok.1 hrows
    obtain ⟨hlength, hnumber⟩ := assignments_bind hbound hpairs
    obtain ⟨hlengths, hnumbers⟩ := ih hothers hlater
    refine ⟨?_, insertRows_cons_eq_ok.2 ⟨pairs, all, rows, hnumber, hsame, ?_, rfl⟩⟩
    · rw [List.flatten_cons, List.length_append]
      omega
    · have hstart : s₁.values.length + 1 =
          s.values.length + 1 + (record.map Prod.fst).length := by
        rw [List.length_map]
        omega
      rw [hstart] at hnumbers
      exact hnumbers

/-- Records that can be written with placeholders can be bound, if they refer to rows. -/
theorem exists_bindAll {data : List Record} (hrefers : ∀ record ∈ data, Refers schema entity record)
    (s : Bindings) {before : Option (List String)} {out : List String × List (List Expr)}
    (hrows : insertRows schema naming entity before
      (numberedAll (s.values.length + 1) (data.map (·.map Prod.fst))) = .ok out) :
    ∃ records s', Yields (bindAll schema entity data) s records s' ∧
      insertRows schema naming entity before records = .ok out := by
  induction data generalizing s before out with
  | nil => exact ⟨[], s, yields_pure.2 ⟨rfl, rfl⟩, hrows⟩
  | cons record rest ih =>
    obtain ⟨pairs, all, rows, hpairs, hsame, hlater, rfl⟩ := insertRows_cons_eq_ok.1 hrows
    obtain ⟨bound, s₁, hbound, hwritten⟩ := exists_bind (hrefers record (List.mem_cons_self ..)) s
      hpairs
    have hlength := (assignments_bind hbound hwritten).1
    have hstart : s.values.length + 1 + (record.map Prod.fst).length = s₁.values.length + 1 := by
      rw [List.length_map]
      omega
    rw [hstart] at hlater
    obtain ⟨records, s₂, hrecords, hrest⟩ :=
      ih (fun other hmem => hrefers other (List.mem_cons_of_mem _ hmem)) s₁ hlater
    refine ⟨bound :: records, s₂, ?_,
      insertRows_cons_eq_ok.2 ⟨pairs, all, rows, hwritten, hsame, hrest, rfl⟩⟩
    rw [bindAll]
    exact yields_bind.2 ⟨bound, s₁, hbound, yields_bind.2 ⟨records, s₂, hrecords,
      yields_pure.2 ⟨rfl, rfl⟩⟩⟩

/-! ## Placeholders -/

theorem placeholders_assignment {name : String} {index : Nat} {pair : Assignment}
    (h : assignment schema naming entity (name, .param index) = .ok pair) :
    pair.2.placeholders = [index] := by
  obtain ⟨found, hfound, hwritten⟩ := bind_eq_ok.1 h
  cases found with
  | none => exact absurd hwritten throw_ne_ok
  | some member =>
    cases member with
    | oneToMany relation => exact absurd hwritten throw_ne_ok
    | field field =>
      obtain ⟨column, -, hwritten⟩ := bind_eq_ok.1 hwritten
      obtain rfl := pure_eq_ok.1 hwritten
      rw [Expr.typedParam, Expr.placeholders, Expr.placeholders]
    | manyToOne relation =>
      obtain ⟨found, hfound, hwritten⟩ := bind_eq_ok.1 hwritten
      obtain rfl := Except.ok.inj hfound
      obtain ⟨link, -, hwritten⟩ := bind_eq_ok.1 hwritten
      obtain ⟨target, -, hwritten⟩ := bind_eq_ok.1 hwritten
      obtain rfl := pure_eq_ok.1 hwritten
      rw [Expr.typedParam, Expr.placeholders, Expr.placeholders]

theorem placeholders_assignments {names : List String} {start : Nat} {pairs : List Assignment}
    (h : assignments schema naming entity (numbered start names) = .ok pairs) :
    Expr.placeholdersAll (pairs.map Prod.snd) = List.range' start names.length := by
  induction names generalizing start pairs with
  | nil =>
    obtain rfl := pure_eq_ok.1 h
    rfl
  | cons name rest ih =>
    obtain ⟨pair, later, hpair, hlater, rfl⟩ := assignments_cons_eq_ok.1 h
    rw [List.map_cons, Expr.placeholdersAll, placeholders_assignment hpair, ih hlater,
      List.length_cons, List.range'_succ]
    rfl

theorem placeholders_insertRows {names : List (List String)} {start : Nat}
    {before : Option (List String)} {columns : List String} {rows : List (List Expr)}
    (h : insertRows schema naming entity before (numberedAll start names) = .ok (columns, rows)) :
    rows.flatMap Expr.placeholdersAll = List.range' start names.flatten.length := by
  induction names generalizing start before columns rows with
  | nil =>
    cases h
    rfl
  | cons first rest ih =>
    obtain ⟨pairs, all, later, hpairs, -, hlater, heq⟩ := insertRows_cons_eq_ok.1 h
    cases heq
    rw [List.flatMap_cons, placeholders_assignments hpairs, ih hlater, List.flatten_cons,
      List.length_append, List.range'_append_1]

end Record

end EntitySql
