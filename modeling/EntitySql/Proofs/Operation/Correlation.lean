import EntitySql.Proofs.Operation.Plan
import EntitySql.Proofs.Read.Layers

/-!
# Correlated conditions of statements on tables

Updates, deletes and aggregates name the rows that they touch by the table. Each `EXISTS` of their
condition joins the rows of a table to a source outside, under an alias of its own: which level of the
statement binds the name of that source.

* `Context.depth?` is the level that binds a name, `Layer.JoinedTo` says what an `EXISTS` is joined to.
* `FilterRun.joinedTo` goes through the condition of a filter: the source of a layer is that of the
  level around it, which is the one given or an alias that has been taken before.
* `OnTable.bound_iff`: the level around an `EXISTS` binds the name, unless it is the outermost one and
  the table has the name of the alias.
-/

namespace EntitySql

set_option autoImplicit false

open Compile

variable {schema : Schema} {naming : Naming}

/-! ## Levels -/

/-- The level that binds the name of a source, counted from the innermost one. -/
def Context.depth? (source : String) : Context → Option Nat
  | [] => none
  | level :: outer =>
    if source ∈ level.map Prod.fst then some 0 else (depth? source outer).map (· + 1)

/-- The layer reads rows that are joined to a source, which is all that the level around it has. -/
structure Layer.JoinedTo (layer : Layer) (source label : String) : Prop where
  query : ∃ table column outer condition,
    layer.query = joinedRows table label column (.column source outer) condition
  level : ∃ range outside, layer.around = [(source, range)] :: outside

/-- The level around joined rows binds the name of their source, unless they have the name for
themselves. -/
theorem Layer.JoinedTo.depth?_inside {layer : Layer} {source label : String}
    (h : layer.JoinedTo source label) :
    Context.depth? source layer.inside = some (if source = label then 0 else 1) := by
  obtain ⟨table, column, outer, condition, hquery⟩ := h.query
  obtain ⟨range, outside, haround⟩ := h.level
  have hinside : layer.inside = [(label, .table table)] :: [(source, range)] :: outside := by
    rw [Layer.inside, hquery, haround]
    rfl
  rw [hinside, Context.depth?, Context.depth?]
  by_cases heq : source = label <;> simp [heq]

/-! ## Filters -/

/-- Every layer of a compiled filter is joined to the source that the filter is compiled for, one
level up, or further inside to an alias that the filter took before its own. -/
theorem FilterRun.joinedTo {source : String} {s s' : Aliases} {conditions : List Condition}
    (h : FilterRun source s conditions s') {around : Context} {range : Range} {outside : Context}
    (haround : around = [(source, range)] :: outside) :
    ∀ layer ∈ Condition.layersAll around conditions, ∃ other number, s.count "w" ≤ number ∧
      layer.JoinedTo other (Aliases.name "w" number) ∧
      (other = source ∧ layer.around = around ∨
        (∃ earlier < number, other = Aliases.name "w" earlier) ∧
          around.length < layer.around.length) := by
  induction h generalizing around range outside with
  | nil => exact List.forall_mem_nil _
  | append first later hfirst hlater =>
    rw [Condition.layersAll_append, List.forall_mem_append]
    refine ⟨hfirst haround, fun layer hlayer => ?_⟩
    obtain ⟨other, number, hnumber, hjoined⟩ := hlater haround layer hlayer
    exact ⟨other, number, Nat.le_trans ((first.taken []).le "w") hnumber, hjoined⟩
  | literal value => exact List.forall_mem_nil _
  | compare column op operand =>
    rw [Condition.layersAll_singleton, Condition.layers, Expr.layers, operand.layersOf]
    exact List.forall_mem_nil _
  | all _ ih =>
    rw [Condition.layersAll_singleton, Condition.layers]
    exact ih haround
  | any _ ih =>
    rw [Condition.layersAll_singleton, Condition.layers]
    exact ih haround
  | @«exists» source s s' table column outer condition inner ih =>
    rw [Condition.layersAll_singleton, Condition.layers, Query.layers_joinedRows,
      List.forall_mem_cons]
    refine ⟨⟨source, s.count "w", Nat.le_refl _, ⟨⟨table, column, outer, condition, rfl⟩,
      range, outside, haround⟩, .inl ⟨rfl, rfl⟩⟩, fun layer hlayer => ?_⟩
    have hcount := Aliases.count_lt_next "w" s
    obtain ⟨other, number, hnumber, hjoined, hother⟩ := ih rfl layer hlayer
    refine ⟨other, number, by omega, hjoined, .inr ?_⟩
    rcases hother with ⟨rfl, heq⟩ | ⟨hearlier, hlength⟩
    · -- directly below this alias
      exact ⟨⟨s.count "w", by omega, rfl⟩, by rw [heq, List.length_cons]; omega⟩
    · exact ⟨hearlier, by rw [List.length_cons] at hlength; omega⟩

/-! ## Statements -/

/-- The sub-queries in the condition on the rows that a statement touches. -/
def Statement.tests : Statement → List Layer
  | .query q => Condition.layersOf [q.level] q.filter
  | .insert _ => []
  | .update u => u.filter.layers [[(u.table, .table u.table)]]
  | .delete d => d.filter.layers [[(d.table, .table d.table)]]

/-- The statements with a filter that name the rows of an entity by its table: updates, deletes, and
aggregates, which go on from whatever aliases were taken before. -/
inductive OnTable (schema : Schema) (naming : Naming) (entity : String) (filter : Option Filter) :
    Statement → Prop
  | update {record : BoundRecord} {update : Update}
    (h : compileUpdate schema naming entity record filter = .ok update) :
    OnTable schema naming entity filter (.update update)
  | delete {delete : Delete} (h : compileDelete schema naming entity filter = .ok delete) :
    OnTable schema naming entity filter (.delete delete)
  | aggregate {function : Aggregate} {target : AggregateTarget} {s s' : Aliases} {query : Query}
    (h : Yields (compileAggregate schema naming entity function target filter) s query s') :
    OnTable schema naming entity filter (.query query)

namespace OnTable

variable {entity : String} {filter : Option Filter}

theorem run_compileTouched {condition : Condition}
    (h : compileTouched schema naming entity filter = .ok condition) {table : String}
    (htable : naming.table entity = .ok table) :
    ∃ s', FilterRun table {} [condition] s' := by
  obtain ⟨s', hyields⟩ := compileTouched_eq_ok.1 h
  obtain ⟨label, hlabel, hcompile⟩ := Filter.yields_compileOn hyields
  obtain rfl := hlabel table htable
  exact ⟨s', Filter.run_compile _ hcompile⟩

/-- The condition of a statement on a table is that of a filter, compiled for the table. -/
theorem run {statement : Statement} (h : OnTable schema naming entity filter statement) :
    ∃ table conditions s s', naming.table entity = .ok table ∧
      FilterRun table s conditions s' ∧
      statement.tests = Condition.layersAll [[(table, .table table)]] conditions := by
  cases h with
  | update h =>
    obtain ⟨pairs, condition, table, -, hcondition, htable, hchecked⟩ := compileUpdate_eq_ok.1 h
    obtain rfl := Update.checked_eq_ok hchecked
    obtain ⟨s', hrun⟩ := run_compileTouched hcondition htable
    exact ⟨table, _, _, s', htable, hrun, (Condition.layersAll_singleton ..).symm⟩
  | delete h =>
    obtain ⟨condition, table, hcondition, htable, rfl⟩ := compileDelete_eq_ok.1 h
    obtain ⟨s', hrun⟩ := run_compileTouched hcondition htable
    exact ⟨table, _, _, s', htable, hrun, (Condition.layersAll_singleton ..).symm⟩
  | @aggregate function target s s' query h =>
    simp only [compileAggregate, yields_bind, yields_ofResult, yields_pure] at h
    obtain ⟨table, _, ⟨htable, rfl⟩, argument, _, ⟨-, rfl⟩, conditions, s₁, hconditions, rfl,
      rfl⟩ := h
    exact ⟨table, conditions, _, _, htable, ReadPlan.run_filterConditions hconditions, rfl⟩

/-- Each `EXISTS` in the condition of an update, a delete or an aggregate is joined to the source of
the level around it. That level binds the name, and the alias of the `EXISTS` does not capture it,
except for one right below the statement whose alias is the name of the table. -/
theorem bound_iff {entities : List Entity} {overrides : Assoc String}
    (hschema : Schema.ofEntities entities = .ok schema)
    (hnaming : Naming.ofSchema overrides schema = .ok naming) {entity : Entity}
    (hentity : entity ∈ schema.entities) {statement : Statement}
    (h : OnTable schema naming entity.name filter statement) :
    ∀ layer ∈ statement.tests, ∃ source number,
      layer.JoinedTo source (Aliases.name "w" number) ∧
        (Context.depth? source layer.inside = some 1 ↔
          (layer.around.length = 1 →
            (Layout.ofOverrides overrides).table entity.name ≠ Aliases.name "w" number)) := by
  obtain ⟨table, conditions, s, s', htable, hrun, htests⟩ := h.run
  have hfollows := Naming.follows_of_ofSchema (Schema.ofEntities_eq_ok.1 hschema).2 hnaming
  rw [hfollows.table entity hentity] at htable
  obtain rfl := Except.ok.inj htable
  rw [htests]
  intro layer hlayer
  obtain ⟨source, number, -, hjoined, hsource⟩ := hrun.joinedTo rfl layer hlayer
  refine ⟨source, number, hjoined, ?_⟩
  rw [hjoined.depth?_inside, Option.some.injEq]
  have hdepth : (if source = Aliases.name "w" number then 0 else 1) = 1 ↔
      source ≠ Aliases.name "w" number := by
    by_cases heq : source = Aliases.name "w" number <;> simp [heq]
  rw [hdepth]
  rcases hsource with ⟨rfl, haround⟩ | ⟨⟨earlier, hlt, rfl⟩, hlength⟩
  · rw [haround]
    exact ⟨fun hne _ => hne, fun hne => hne rfl⟩
  · -- further inside, aliases differ by their numbers
    have hne : Aliases.name "w" earlier ≠ Aliases.name "w" number := fun heq =>
      absurd (Aliases.name_injective heq) (Nat.ne_of_lt hlt)
    exact ⟨fun _ hone => absurd hone (by rw [List.length_singleton] at hlength; omega),
      fun _ => hne⟩

/-- A delete of the books whose author has written anything: two levels of `EXISTS`. -/
theorem bound_iff_writtenBooks : ∃ delete,
    compileDelete Library.schema Library.naming "Book"
        (some { terms := [.nested "writer" { terms := [.nested "books" {}] }] }) = .ok delete ∧
      (Statement.delete delete).tests.length = 2 ∧
      ∀ layer ∈ (Statement.delete delete).tests, ∃ source number,
        layer.JoinedTo source (Aliases.name "w" number) ∧
          Context.depth? source layer.inside = some 1 := by
  obtain ⟨delete, hdelete, hlength⟩ : ∃ delete,
      compileDelete Library.schema Library.naming "Book"
          (some { terms := [.nested "writer" { terms := [.nested "books" {}] }] }) = .ok delete ∧
        (Statement.delete delete).tests.length = 2 :=
    ⟨_, rfl, by decide +kernel⟩
  have hbook : Library.entities[1] ∈ Library.schema.entities :=
    List.mem_cons_of_mem _ (List.mem_cons_self ..)
  have hstatement : OnTable Library.schema Library.naming Library.entities[1].name
      (some { terms := [.nested "writer" { terms := [.nested "books" {}] }] }) (.delete delete) :=
    .delete hdelete
  refine ⟨delete, hdelete, hlength, fun layer hlayer => ?_⟩
  obtain ⟨source, number, hjoined, hbound⟩ :=
    bound_iff Library.ofEntities_entities Library.ofSchema_schema hbook hstatement layer hlayer
  exact ⟨source, number, hjoined, hbound.2 fun _ => Aliases.ne_name (by decide +kernel) number⟩

/-- An entity whose rows have a parent, and whose table has the name of an alias. -/
def captor : Entity where
  name := "W_0"
  fields := [⟨"id", .integer, {}, { primary := true }⟩]
  manyToOne := [⟨"parent", "W_0", "id", {}⟩]

/-- A delete of all rows that have a parent compares a row of the `EXISTS` with itself: the alias of
the `EXISTS` captures the name of the table outside. -/
theorem captured_delete : ∃ naming delete layer,
    Schema.ofEntities [captor] = .ok ⟨[captor]⟩ ∧ Naming.ofSchema [] ⟨[captor]⟩ = .ok naming ∧
      compileDelete ⟨[captor]⟩ naming "W_0" (some { terms := [.nested "parent" {}] }) = .ok delete ∧
      (Statement.delete delete).tests = [layer] ∧
      layer.query = joinedRows "w_0" "w_0" "id" (.column "w_0" "parent_id") (.all []) ∧
      Context.depth? "w_0" layer.inside = some 0 :=
  ⟨_, _, _, by decide +kernel, rfl, rfl, rfl, rfl, rfl⟩

end OnTable

end EntitySql
