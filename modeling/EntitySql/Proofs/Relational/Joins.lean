import EntitySql.Proofs.Relational.Documents
import EntitySql.Sql.Alias

/-!
# Lateral joins

Queries that join sub-queries to each row of a table.

* `Query.gives_join` joins a sub-query that gives one row, `Query.gives_joined` all of them;
  `Query.gives_joined_cut` shows a part of the joined rows.
* `Carries` says that the joined rows hold the members of a document, and `Carries.projects` that
  the document of a row has these members.
-/

namespace EntitySql

set_option autoImplicit false

variable {V : Type} {engine : Engine V} {db : Instance V} {scope : Scope V}

/-! ## Joining -/

theorem Query.gives_join {query : Query} {label : String} {rest : List (Query × String)}
    {frame : Frame V} {P : Cells V → Prop} {Q : List (Frame V) → Prop}
    (hquery : Gives (query.eval engine db (frame :: scope)) fun rows =>
      ∃ row, orAbsent engine (query.exports db) rows = [row] ∧ P row)
    (hrest : ∀ row, P row →
      Gives (Query.evalJoins engine db scope (frame ++ [(label, row)]) rest) Q) :
    Gives (Query.evalJoins engine db scope frame ((query, label) :: rest)) Q := by
  rw [Query.evalJoins]
  refine hquery.bind ?_
  rintro rows ⟨row, hrow, hP⟩
  dsimp only
  rw [hrow, gather_singleton]
  exact hrest row hP

section

variable {table root : String} {joins : List (Query × String)} {condition : Condition}
  {P : Tuple V → Frame V → Prop} {truth : Tuple V → Truth}
  (hjoins : ∀ tuple, Gives (Query.evalJoins engine db scope [(root, (db table).cells tuple)] joins)
    fun frames => ∃ joined, frames = [(root, (db table).cells tuple) :: joined] ∧ P tuple joined)
  (hcondition : ∀ tuple joined, P tuple joined → condition.eval engine db
    (((root, (db table).cells tuple) :: joined) :: scope) = .ok (truth tuple))

include hjoins hcondition

theorem Query.gives_frames_table :
    Gives (Query.frames engine db scope (some (.table table (some root))) joins (some condition))
      fun frames => List.Forall₂ (fun tuple frame => ∃ joined,
        frame = (root, (db table).cells tuple) :: joined ∧ P tuple joined)
          ((db table).tuples.filter fun tuple => truth tuple = .holds) frames := by
  change Gives (gather _ ((db table).tuples.map fun tuple => [(root, (db table).cells tuple)])) _
  rw [gather_map]
  apply gives_gather_filter
  intro tuple _
  refine (hjoins tuple).bind ?_
  rintro _ ⟨joined, rfl, hP⟩
  rw [gather_singleton, Query.evalFilter, hcondition tuple joined hP]
  by_cases hkeep : truth tuple = .holds
  · simp only [hkeep, decide_true, if_true]
    exact ⟨_, rfl, joined, rfl, hP⟩
  · simp only [hkeep, decide_false, Bool.false_eq_true, if_false]
    exact gives_ok (by rw [if_neg hkeep])

/-- A part of the rows of a table that are kept, each followed by what is joined to it, in the order
in which the engine delivers them. -/
theorem Query.gives_joined_cut (limit offset : Option Nat) :
    Gives (Query.eval engine db scope {
      columns := [(.star, none)]
      source := some (.table table (some root))
      joins, limit, offset
      filter := some condition }) fun listed => ∃ rows delivered : List (Tuple V × Cells V),
        rows.map Prod.fst = ((db table).tuples.filter fun tuple => truth tuple = .holds) ∧
          (∀ row ∈ rows, ∃ joined, P row.1 joined ∧
            row.2 = (db table).cells row.1 ++ joined.flatMap Prod.snd) ∧
          engine.Delivers rows delivered ∧
          listed = (Query.window limit offset delivered).map Prod.snd := by
  let kept := (db table).tuples.filter fun tuple => truth tuple = .holds
  have hframes := (Query.gives_frames_table hjoins hcondition).mono fun frames hframes =>
    (⟨kept, rfl, hframes⟩ : ∃ others, others = kept ∧ List.Forall₂ _ others frames)
  refine Query.gives_delivered (by simp [Expr.isGrouped]) hframes
    (R := fun tuple row => ∃ joined, P tuple joined ∧
      row = (db table).cells tuple ++ joined.flatMap Prod.snd) ?_
  rintro tuple _ ⟨joined, rfl, hP⟩
  rw [Query.evalColumns, Query.evalColumns]
  exact gives_ok ⟨joined, hP, List.append_nil _⟩

/-- The rows of a table that are kept, each followed by what is joined to it. -/
theorem Query.gives_joined :
    Gives (Query.eval engine db scope {
      columns := [(.star, none)]
      source := some (.table table (some root))
      joins := joins
      filter := some condition }) fun listed => ∃ others, listed.Perm others ∧
        List.Forall₂ (fun tuple row => ∃ joined, P tuple joined ∧
          row = (db table).cells tuple ++ joined.flatMap Prod.snd)
          ((db table).tuples.filter fun tuple => truth tuple = .holds) others := by
  refine (Query.gives_joined_cut hjoins hcondition none none).mono ?_
  rintro _ ⟨rows, delivered, hkept, hrows, ⟨hperm, -⟩, rfl⟩
  refine ⟨rows.map Prod.snd, hperm.map _, ?_⟩
  rw [← hkept, List.forall₂_map_left_iff, List.forall₂_map_right_iff, List.forall₂_same]
  exact hrows

end

/-! ## What joins carry -/

/-- Columns by the names of cells that stand beside a row take these as further members. -/
theorem Projects.beside {source : String} {row others : Cells V}
    {columns : List (Expr × Option String)} {fields members : List (String × Json)}
    (h : Projects engine source row columns fields) {names : List String}
    (hnames : members.map Prod.fst = names) (hmembers : ∀ member ∈ members,
      ∃ cell, (member.1, cell) ∈ others ∧ cell.toJson engine = member.2) :
    Projects engine source (row ++ others)
      (columns ++ names.map fun name => (.column source name, none)) (fields ++ members) := by
  refine List.rel_append (h.imp ?_) ?_
  · rintro column member ⟨name, cell, hexpr, hlabel, hmem, hjson⟩
    exact ⟨name, cell, hexpr, hlabel, List.mem_append_left _ hmem, hjson⟩
  · rw [← hnames, List.map_map, List.forall₂_map_left_iff, List.forall₂_same]
    intro member hmember
    obtain ⟨cell, hmem, hjson⟩ := hmembers member hmember
    exact ⟨member.1, cell, rfl, rfl, List.mem_append_right _ hmem, hjson⟩

/-- Each joined row holds one cell: a member of a document. -/
def Carries (engine : Engine V) (joined : Frame V) (members : List (String × Json)) : Prop :=
  List.Forall₂ (fun item member => (∃ number, item.1 = Aliases.name "j" number) ∧
    ∃ cell, item.2 = [(member.1, cell)] ∧ (cell.toJson engine).Reordered member.2) joined members

namespace Carries

theorem nil : Carries engine [] [] := List.Forall₂.nil

theorem append {joined others : Frame V} {members more : List (String × Json)}
    (h : Carries engine joined members) (hothers : Carries engine others more) :
    Carries engine (joined ++ others) (members ++ more) :=
  List.rel_append h hothers

theorem label {joined : Frame V} {members : List (String × Json)}
    (h : Carries engine joined members) {item : String × Cells V} (hitem : item ∈ joined) :
    ∃ number, item.1 = Aliases.name "j" number := by
  obtain ⟨member, -, hlabel, -⟩ := exists_of_mem_right h.flip hitem
  exact hlabel

/-- The cells as members of their own, which are equal to the members up to order. -/
theorem exists_given {joined : Frame V} {members : List (String × Json)}
    (h : Carries engine joined members) : ∃ given : List (String × Json),
      given.map Prod.fst = members.map Prod.fst ∧
      List.Forall₂ Json.Reordered (given.map Prod.snd) (members.map Prod.snd) ∧
      ∀ member ∈ given, ∃ cell, (member.1, cell) ∈ joined.flatMap Prod.snd ∧
        cell.toJson engine = member.2 := by
  induction h with
  | nil => exact ⟨[], rfl, .nil, fun member hmember => absurd hmember List.not_mem_nil⟩
  | @cons item member joined members hitem _ ih =>
    obtain ⟨-, cell, hcells, hcell⟩ := hitem
    obtain ⟨given, hkeys, hvalues, hgiven⟩ := ih
    refine ⟨(member.1, cell.toJson engine) :: given, ?_, ?_, ?_⟩
    · simp only [List.map_cons, hkeys]
    · exact .cons hcell hvalues
    · intro other hother
      rw [List.flatMap_cons, hcells]
      rcases List.mem_cons.1 hother with rfl | hother
      · exact ⟨cell, List.mem_cons_self .., rfl⟩
      · obtain ⟨found, hfound, hjson⟩ := hgiven other hother
        exact ⟨found, List.mem_append_right _ hfound, hjson⟩

/-- Columns for stored values and for what is joined make up the document of a row. -/
theorem projects {row : Cells V} {base : String} {joined : Frame V} {members : List (String × Json)}
    (h : Carries engine joined members) {names : List String}
    (hnames : members.map Prod.fst = names) {fields : List (String × Json)}
    {columns : List (Expr × Option String)} (hcolumns : Projects engine base row columns fields) :
    ∃ given, Projects engine base (row ++ joined.flatMap Prod.snd)
        (columns ++ names.map fun name => (.column base name, none)) (fields ++ given) ∧
      Json.Reordered (.obj (fields ++ given)) (.obj (fields ++ members)) := by
  obtain ⟨given, hkeys, hvalues, hgiven⟩ := h.exists_given
  refine ⟨given, hcolumns.beside (hkeys.trans hnames) hgiven, ?_⟩
  refine .obj ?_ ?_
  · rw [List.map_append, List.map_append, hkeys]
  · rw [List.map_append, List.map_append]
    exact List.rel_append (List.forall₂_same.2 fun json _ => .refl json) hvalues

end Carries

end EntitySql
