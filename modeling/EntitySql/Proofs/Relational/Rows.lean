import EntitySql.Proofs.Relational.Evaluation
import EntitySql.Proofs.Result
import Mathlib.Data.List.Perm.Basic

/-!
# Rows and conditions

How queries and conditions evaluate, one construct at a time.

* `Engine.delivery` is the order in which an engine delivers rows when it is asked for none, and
  `Engine.Oblivious` says that it does not depend on what the rows hold.
* `Query.eval_plain` lists the rows of a query that asks for no order and aggregates nothing, and
  `Query.gives_plain` does so when names may be ambiguous; `Query.gives_delivered` lists a part of
  them, in the order of the engine, and `Query.gives_rows` forgets how that order came about.
* `Condition.evalList_append` and its like evaluate lists of conditions.
* `Condition.eval_equal` compares two columns.
* `Condition.eval_exists` says that an `EXISTS` over a table holds just if some tuple satisfies its
  filter.
-/

namespace EntitySql

set_option autoImplicit false

variable {V : Type} (engine : Engine V) (db : Instance V)

/-! ## Lists up to their order -/

/-- What is known of the elements of a list is known of them in another order. -/
theorem exists_perm_of_forall₂ {α β : Type} {R : α → β → Prop} {as : List α} {bs others : List β}
    (h : List.Forall₂ R as bs) (hperm : others.Perm bs) :
    ∃ listed, listed.Perm as ∧ List.Forall₂ R listed others := by
  obtain ⟨listed, hlisted, hsame⟩ := List.perm_comp_forall₂ hperm h.flip
  exact ⟨listed, hsame, hlisted.flip⟩

/-- Elements of two lists that are related one by one, side by side. -/
theorem exists_pairs_of_forall₂ {α β : Type} {R : α → β → Prop} {as : List α} {bs : List β}
    (h : List.Forall₂ R as bs) : ∃ pairs : List (α × β), pairs.map Prod.fst = as ∧
      pairs.map Prod.snd = bs ∧ ∀ pair ∈ pairs, R pair.1 pair.2 := by
  induction h with
  | nil => exact ⟨[], rfl, rfl, List.forall_mem_nil _⟩
  | @cons a b as bs hab _ ih =>
    obtain ⟨pairs, rfl, rfl, hpairs⟩ := ih
    exact ⟨(a, b) :: pairs, rfl, rfl, List.forall_mem_cons.2 ⟨hab, hpairs⟩⟩

theorem Query.window_map {α β : Type} (limit offset : Option Nat) (f : α → β) (rows : List α) :
    Query.window limit offset (rows.map f) = (Query.window limit offset rows).map f := by
  cases limit with
  | none => exact List.map_drop.symm
  | some n => simp only [Query.window, List.map_take, List.map_drop]

theorem Query.mem_of_mem_window {α : Type} {limit offset : Option Nat} {rows : List α} {row : α}
    (h : row ∈ Query.window limit offset rows) : row ∈ rows := by
  cases limit with
  | none => exact List.mem_of_mem_drop h
  | some n => exact List.mem_of_mem_drop (List.mem_of_mem_take h)

/-! ## The order of the engine -/

theorem Engine.sorted_perm {α : Type} (order : List SortItem) (rows : List (List V × α)) :
    (engine.sorted order rows).Perm (rows.map Prod.snd) :=
  (engine.arrange_perm _ rows).map _

/-- The rows in the order in which the engine delivers them when it is asked for none. -/
def Engine.delivery {α : Type} (rows : List α) : List α :=
  engine.sorted [] (rows.map fun row => ([], row))

theorem Engine.delivery_perm {α : Type} (rows : List α) : (engine.delivery rows).Perm rows := by
  have hperm := engine.sorted_perm [] (rows.map fun row => ([], row))
  rwa [List.map_map, List.map_congr_left fun row _ => Function.comp_apply, List.map_id'] at hperm

/-- The rows, each beside what it is a row of, in the order in which the engine delivers them. -/
def Engine.Delivers {α : Type} (rows delivered : List (α × Cells V)) : Prop :=
  delivered.Perm rows ∧ delivered.map Prod.snd = engine.delivery (rows.map Prod.snd)

theorem Engine.exists_delivers {α : Type} (rows : List (α × Cells V)) :
    ∃ delivered, engine.Delivers rows delivered := by
  have hrows : List.Forall₂ (fun (row : α × Cells V) cells => row.2 = cells) rows
      (rows.map Prod.snd) := by
    rw [List.forall₂_map_right_iff, List.forall₂_same]
    exact fun _ _ => rfl
  obtain ⟨delivered, hdelivered, hlisted⟩ := exists_perm_of_forall₂ hrows (engine.delivery_perm _)
  refine ⟨delivered, hdelivered, ?_⟩
  rwa [← List.forall₂_map_left_iff, List.forall₂_eq_eq_eq] at hlisted

/-- Rows that are listed without sort values stand in the order of the engine. -/
theorem Engine.exists_delivers_sorted {α : Type} {R : α → Cells V → Prop} {kept : List α}
    {pairs : List (List V × Cells V)}
    (h : List.Forall₂ (fun a pair => pair.1 = [] ∧ R a pair.2) kept pairs) :
    ∃ rows delivered : List (α × Cells V), rows.map Prod.fst = kept ∧
      (∀ row ∈ rows, R row.1 row.2) ∧ engine.Delivers rows delivered ∧
        delivered.map Prod.snd = engine.sorted [] pairs := by
  obtain ⟨found, rfl, rfl, hfound⟩ := exists_pairs_of_forall₂ h
  let rows := found.map fun pair => (pair.1, pair.2.2)
  have hvalues : (rows.map Prod.snd).map (fun row => ([], row)) = found.map Prod.snd := by
    rw [List.map_map, List.map_map]
    exact List.map_congr_left fun pair hpair => Prod.ext (hfound pair hpair).1.symm rfl
  obtain ⟨delivered, hdelivered⟩ := engine.exists_delivers rows
  refine ⟨rows, delivered, List.map_map .., ?_, hdelivered, ?_⟩
  · exact List.forall_mem_map.2 fun pair hpair => (hfound pair hpair).2
  · rw [hdelivered.2, Engine.delivery, hvalues]

/-- The engine delivers rows without looking at what they hold. -/
def Engine.Oblivious : Prop :=
  ∀ {α β : Type} (f : α → β) (rows : List α), engine.delivery (rows.map f) = (engine.delivery rows).map f

/-! ## Plain queries -/

/-- The joined rows that a query keeps. -/
def Query.frames (scope : Scope V) (source : Option Source) (joins : List (Query × String))
    (filter : Option Condition) : Eval (List (Frame V)) := do
  gather (fun frame => do
    gather (fun joined => Query.evalFilter engine db scope joined filter)
      (← Query.evalJoins engine db scope frame joins)) (← Query.evalSource engine db scope source)

section

variable {engine db} {scope : Scope V} {columns : List (Expr × Option String)}
  {source : Option Source} {joins : List (Query × String)} {filter : Option Condition}

/-- A query that asks for no order and aggregates nothing lists one row for each joined row that it
keeps. -/
theorem Query.eval_plain {frames : List (Frame V)} {row : Frame V → Cells V}
    (hcolumns : columns.any (·.1.isGrouped) = false)
    (hframes : Query.frames engine db scope source joins filter = .ok frames)
    (hrows : ∀ frame ∈ frames, Query.evalColumns engine db scope frame columns = .ok (row frame)) :
    Query.eval engine db scope { columns, source, joins, filter } =
      .ok (engine.sorted [] (frames.map fun frame => ([], row frame))) := by
  have hgather : gather (fun frame => do
      let values ← sortValues engine (frame :: scope) []
      return [(values, ← Query.evalColumns engine db scope frame columns)]) frames =
        .ok (frames.map fun frame => (([] : List V), row frame)) := by
    rw [List.map_eq_flatMap]
    refine gather_ok fun frame hframe => ?_
    rw [hrows frame hframe]
    rfl
  rw [Query.eval, ← bind_assoc]
  change (Query.frames engine db scope source joins filter >>= _) = _
  rw [hframes]
  change ((if columns.any (·.1.isGrouped) then _ else engine.sorted [] <$> gather _ frames) >>= _) = _
  rw [hcolumns, if_neg Bool.false_ne_true, hgather]
  rfl

/-- The same when names may be ambiguous, of a query that shows a part of its rows: what is known of
the joined rows in order is known of the rows, in the order in which the engine delivers them. -/
theorem Query.gives_delivered {α : Type} {K : List α → Prop} {S : α → Frame V → Prop}
    {R : α → Cells V → Prop} {limit offset : Option Nat}
    (hcolumns : columns.any (·.1.isGrouped) = false)
    (hframes : Gives (Query.frames engine db scope source joins filter) fun frames =>
      ∃ kept, K kept ∧ List.Forall₂ S kept frames)
    (hrow : ∀ a frame, S a frame →
      Gives (Query.evalColumns engine db scope frame columns) (R a)) :
    Gives (Query.eval engine db scope { columns, source, joins, filter, limit, offset }) fun listed =>
      ∃ rows delivered : List (α × Cells V), K (rows.map Prod.fst) ∧
        (∀ row ∈ rows, R row.1 row.2) ∧ engine.Delivers rows delivered ∧
          listed = (Query.window limit offset delivered).map Prod.snd := by
  rw [Query.eval, ← bind_assoc]
  change Gives (Query.frames engine db scope source joins filter >>= _) _
  refine hframes.bind ?_
  rintro frames ⟨kept, hK, hkept⟩
  change Gives ((if columns.any (·.1.isGrouped) then _ else
    engine.sorted [] <$> gather _ frames) >>= _) _
  rw [hcolumns, if_neg Bool.false_ne_true]
  have hpairs : Gives (gather (fun frame => do
      let values ← sortValues engine (frame :: scope) []
      return [(values, ← Query.evalColumns engine db scope frame columns)]) frames)
        fun pairs => List.Forall₂ (fun a (pair : List V × Cells V) => pair.1 = [] ∧ R a pair.2) kept
          pairs := by
    refine gives_gather_forall₂ hkept fun a frame hS => ?_
    change Gives (Query.evalColumns engine db scope frame columns >>= _) _
    exact (hrow a frame hS).bind fun cells hcells => ⟨([], cells), rfl, rfl, hcells⟩
  have hlisted := hpairs.map (f := engine.sorted []) (Q := fun listed =>
    ∃ rows delivered : List (α × Cells V), rows.map Prod.fst = kept ∧ (∀ row ∈ rows, R row.1 row.2) ∧
      engine.Delivers rows delivered ∧ delivered.map Prod.snd = listed)
    fun pairs hpairs => engine.exists_delivers_sorted hpairs
  refine hlisted.bind ?_
  rintro _ ⟨rows, delivered, rfl, hR, hdelivered, rfl⟩
  exact gives_ok ⟨rows, delivered, hK, hR, hdelivered, Query.window_map _ _ _ _⟩

/-- The same, in some order. -/
theorem Query.gives_rows {α : Type} {K : List α → Prop} {S : α → Frame V → Prop}
    {R : α → Cells V → Prop} {limit offset : Option Nat}
    (hcolumns : columns.any (·.1.isGrouped) = false)
    (hframes : Gives (Query.frames engine db scope source joins filter) fun frames =>
      ∃ kept, K kept ∧ List.Forall₂ S kept frames)
    (hrow : ∀ a frame, S a frame →
      Gives (Query.evalColumns engine db scope frame columns) (R a)) :
    Gives (Query.eval engine db scope { columns, source, joins, filter, limit, offset }) fun rows =>
      ∃ kept delivered, K kept ∧ delivered.Perm kept ∧
        List.Forall₂ R (Query.window limit offset delivered) rows := by
  refine (Query.gives_delivered hcolumns hframes hrow).mono ?_
  rintro _ ⟨rows, delivered, hK, hR, ⟨hperm, -⟩, rfl⟩
  refine ⟨_, delivered.map Prod.fst, hK, hperm.map _, ?_⟩
  rw [Query.window_map, List.forall₂_map_left_iff, List.forall₂_map_right_iff, List.forall₂_same]
  exact fun row hrow => hR row (hperm.subset (Query.mem_of_mem_window hrow))

/-- A query that shows all its rows. -/
theorem Query.gives_plain {F : List (Frame V) → Prop} {R : Frame V → Cells V → Prop}
    (hcolumns : columns.any (·.1.isGrouped) = false)
    (hframes : Gives (Query.frames engine db scope source joins filter) F)
    (hrows : ∀ frames, F frames → ∀ frame ∈ frames,
      Gives (Query.evalColumns engine db scope frame columns) (R frame)) :
    Gives (Query.eval engine db scope { columns, source, joins, filter }) fun rows =>
      ∃ frames listed, F frames ∧ List.Forall₂ R frames listed ∧ rows.Perm listed := by
  let Known (frame other : Frame V) : Prop := other = frame ∧ ∃ frames, F frames ∧ frame ∈ frames
  have hknown : Gives (Query.frames engine db scope source joins filter) fun frames =>
      ∃ kept, F kept ∧ List.Forall₂ Known kept frames :=
    hframes.mono fun frames hF =>
      ⟨frames, hF, List.forall₂_same.2 fun frame hframe => ⟨rfl, frames, hF, hframe⟩⟩
  refine (Query.gives_rows hcolumns hknown (R := R) ?_).mono ?_
  · rintro frame other ⟨heq, frames, hF, hframe⟩
    rw [heq]
    exact hrows frames hF frame hframe
  · rintro rows ⟨frames, delivered, hF, hperm, hlisted⟩
    obtain ⟨listed, hframes, hrows⟩ := List.perm_comp_forall₂ hperm.symm hlisted
    exact ⟨frames, listed, hF, hframes, hrows.symm⟩

end

/-! ## Expressions -/

theorem Expr.eval_column {scope : Scope V} {source column : String} {table : Table V}
    {tuple : Tuple V} (hsource : scope.cells source = .ok (table.cells tuple))
    (hcolumn : column ∈ table.columns) :
    (Expr.column source column).eval engine db scope = .ok (.value (tuple column)) := by
  rw [Expr.eval, Scope.column, hsource]
  exact table.cells_cell tuple hcolumn

/-! ## Conditions -/

namespace Condition

variable {engine db}

theorem evalList_cons {scope : Scope V} {condition : Condition} {rest : List Condition}
    {truth : Truth} {truths : List Truth} (hcondition : condition.eval engine db scope = .ok truth)
    (hrest : evalList engine db scope rest = .ok truths) :
    evalList engine db scope (condition :: rest) = .ok (truth :: truths) := by
  rw [evalList, hcondition, hrest]
  rfl

theorem evalList_append {scope : Scope V} {conditions others : List Condition}
    {truths more : List Truth} (h : evalList engine db scope conditions = .ok truths)
    (hothers : evalList engine db scope others = .ok more) :
    evalList engine db scope (conditions ++ others) = .ok (truths ++ more) := by
  induction conditions generalizing truths with
  | nil =>
    rw [evalList] at h
    obtain rfl := Except.ok.inj h
    exact hothers
  | cons condition rest ih =>
    rw [evalList] at h
    obtain ⟨truth, htruth, h⟩ := bind_eq_ok.1 h
    obtain ⟨later, hlater, h⟩ := bind_eq_ok.1 h
    obtain rfl := pure_eq_ok.1 h
    exact evalList_cons htruth (ih hlater)

theorem eval_all {scope : Scope V} {conditions : List Condition} {truths : List Truth}
    (h : evalList engine db scope conditions = .ok truths) :
    (Condition.all conditions).eval engine db scope = .ok (.all truths) := by
  rw [Condition.eval, h]
  rfl

theorem eval_any {scope : Scope V} {conditions : List Condition} {truths : List Truth}
    (hne : conditions ≠ []) (h : evalList engine db scope conditions = .ok truths) :
    (Condition.any conditions).eval engine db scope = .ok (.any truths) := by
  rw [Condition.eval, if_neg (by simpa using hne), h]
  rfl

theorem eval_equal {scope : Scope V} {source column : String} {other : String} {name : String}
    {v w : V} (hleft : (Expr.column source column).eval engine db scope = .ok (.value v))
    (hright : (Expr.column other name).eval engine db scope = .ok (.value w)) :
    (Condition.equal (.column source column) (.column other name)).eval engine db scope =
      .ok (engine.compare .eq v [w]) := by
  rw [Condition.equal, Condition.eval, hleft]
  change (Expr.evalOperand engine db scope (some (.column other name)) >>= fun operand =>
    .ok (engine.compare .eq v operand)) = _
  rw [Expr.evalOperand, hright]
  · rfl
  · intro items h
    cases h

/-- An `EXISTS` over a table holds just if some tuple satisfies the filter. -/
theorem eval_exists {scope : Scope V} {table label : String} {filter : Condition}
    {truth : Tuple V → Truth} (h : ∀ tuple ∈ (db table).tuples,
      filter.eval engine db ([(label, (db table).cells tuple)] :: scope) = .ok (truth tuple)) :
    (Condition.exists {
      columns := [(.literal (.int 1), none)]
      source := some (.table table (some label))
      filter := some filter }).eval engine db scope =
        .ok (.ofBool ((db table).tuples.any fun tuple => truth tuple = .holds)) := by
  let frame (tuple : Tuple V) : Frame V := [(label, (db table).cells tuple)]
  let kept := (db table).tuples.flatMap fun tuple =>
    if truth tuple = .holds then [frame tuple] else []
  have hframes : Query.frames engine db scope (some (.table table (some label))) [] (some filter) =
      .ok kept := by
    change gather _ ((db table).tuples.map frame) = _
    rw [gather_map]
    refine gather_ok fun tuple htuple => ?_
    rw [Query.evalJoins]
    refine bind_eq_ok.2 ⟨[frame tuple], rfl, ?_⟩
    rw [gather_singleton, Query.evalFilter, h tuple htuple]
    rfl
  have hrows : ∀ frame ∈ kept, Query.evalColumns engine db scope frame
      [(.literal (.int 1), none)] = .ok [("?column?", .value (engine.literal (.int 1)))] := by
    intro frame _
    rw [Query.evalColumns, Expr.eval, Query.evalColumns]
    · rfl
    · intro h
      cases h
  have hany : (engine.sorted [] (kept.map fun _ =>
      (([] : List V), [("?column?", Cell.value (engine.literal (.int 1)))]))).isEmpty =
        !((db table).tuples.any fun tuple => truth tuple = .holds) := by
    have hperm := engine.sorted_perm [] (kept.map fun _ =>
      (([] : List V), [("?column?", Cell.value (engine.literal (.int 1)))]))
    rw [hperm.isEmpty_eq, List.isEmpty_map, List.isEmpty_map, Bool.eq_iff_iff]
    simp [kept, List.flatMap_eq_nil_iff]
  rw [Condition.eval, Query.eval_plain (by simp [Expr.isGrouped]) hframes hrows]
  refine congrArg Except.ok ?_
  rw [hany, Bool.not_not]

end Condition

end EntitySql
