import EntitySql.Proofs.Relational.Eval
import EntitySql.Proofs.Relational.Truth
import Mathlib.Data.List.Nodup

/-!
# Data and scopes

What statements are evaluated over, and how the names in them are read.

* `Table` and `Instance` are the stored data: tables as lists of tuples.
* `Engine` is what a database engine brings along: its values, its comparisons, and the order in
  which it lists rows where no order is asked for.
* `Cells` is a row that a query gives, `Frame` what one level of a query reads from, `Scope` the
  frames around an expression, the innermost first.
* `Scope.cells` finds a source and `Scope.ident` reads a name without a source.
-/

namespace EntitySql

set_option autoImplicit false

/-- A stored row: the value of each column. -/
abbrev Tuple (V : Type) := String → V

/-- A stored table. -/
structure Table (V : Type) where
  columns : List String
  tuples : List (Tuple V)
  columns_nodup : columns.Nodup

/-- Stored data: the table of each name. -/
abbrev Instance (V : Type) := String → Table V

/-- A database engine. It may list rows in any order that agrees with the sort values given. -/
structure Engine (V : Type) where
  null : V
  literal : Json → V
  /-- The values of the parameters, counted from one. -/
  param : Nat → V
  cast : V → SqlType → V
  /-- The truth of a comparison. A null test has no right operands, `IN` a list of them. -/
  compare : Comparison → V → List V → Truth
  aggregate : Aggregate → List V → V
  toJson : V → Json
  /-- The rows with their sort values, in the order in which the engine lists them. -/
  arrange : {α : Type} → List Direction → List (List V × α) → List (List V × α)
  toJson_null : toJson null = .null
  arrange_perm : ∀ {α : Type} (directions : List Direction) (rows : List (List V × α)),
    (arrange directions rows).Perm rows

/-- A value in a row: a stored one, a document, or a whole row with its members as documents. -/
inductive Cell (V : Type) where
  | value (value : V)
  | document (json : Json)
  | record (members : List (String × Json))

/-- A row that a query gives: cells under the names of columns, which may be repeated. -/
abbrev Cells (V : Type) := Assoc (Cell V)

/-- The rows that one level of a query reads at a time, under the names of their sources. -/
abbrev Frame (V : Type) := Assoc (Cells V)

/-- The frames around an expression, the innermost first. -/
abbrev Scope (V : Type) := List (Frame V)

/-- The values of all entries with the key. -/
def Assoc.valuesOf {α : Type} (key : String) (entries : Assoc α) : List α :=
  entries.filterMap fun (k, value) => if k = key then some value else none

variable {V : Type}

namespace Cell

def toJson (engine : Engine V) : Cell V → Json
  | value v => engine.toJson v
  | document json => json
  | record members => .obj members

def stored : Cell V → Eval V
  | value v => .ok v
  | document _ | record _ => .error .illTyped

end Cell

/-- A stored row as a row of a query. -/
def Table.cells (table : Table V) (tuple : Tuple V) : Cells V :=
  table.columns.map fun column => (column, .value (tuple column))

def Cells.cell (cells : Cells V) (name : String) : Eval (Cell V) :=
  only name (Assoc.valuesOf name cells)

/-- A whole row as one cell. -/
def Cells.whole (engine : Engine V) (cells : Cells V) : Cell V :=
  .record (cells.map fun (name, cell) => (name, cell.toJson engine))

namespace Scope

/-- The row of a source, in the innermost frame that has the source. -/
def cells (name : String) : Scope V → Eval (Cells V)
  | [] => .error (.missing name)
  | frame :: outer =>
    match Assoc.valuesOf name frame with
    | [] => cells name outer
    | found => only name found

/-- The cell of a column, in the innermost frame that has such a column. -/
def column? (name : String) : Scope V → Option (Eval (Cell V))
  | [] => none
  | frame :: outer =>
    match frame.flatMap fun (_, cells) => Assoc.valuesOf name cells with
    | [] => column? name outer
    | found => some (only name found)

/-- Whether some frame has a source of the name. -/
def hasSource (scope : Scope V) (name : String) : Bool :=
  scope.any fun frame => frame.any fun (source, _) => source = name

/-- What a name without a source refers to: a column, or the whole row of a source. -/
def ident (engine : Engine V) (scope : Scope V) (name : String) : Eval (Cell V) :=
  match column? name scope, scope.hasSource name with
  | some cell, false => cell
  | some _, true => .error (.ambiguous name)
  | none, _ => do return (← cells name scope).whole engine

/-- What a name with its source refers to. -/
def column (scope : Scope V) (source name : String) : Eval (Cell V) := do
  (← cells source scope).cell name

end Scope

/-! ## Entries with a key -/

namespace Assoc

variable {α : Type}

@[simp] theorem valuesOf_nil (key : String) : valuesOf key ([] : Assoc α) = [] := rfl

theorem valuesOf_cons (key : String) (entry : String × α) (rest : Assoc α) :
    valuesOf key (entry :: rest) =
      if entry.1 = key then entry.2 :: valuesOf key rest else valuesOf key rest := by
  rw [valuesOf, List.filterMap_cons]
  by_cases h : entry.1 = key <;> simp [h, valuesOf]

theorem mem_valuesOf {key : String} {value : α} {entries : Assoc α} :
    value ∈ valuesOf key entries ↔ (key, value) ∈ entries := by
  induction entries with
  | nil => simp
  | cons entry rest ih =>
    obtain ⟨k, v⟩ := entry
    rw [valuesOf_cons, List.mem_cons, Prod.mk.injEq, ← ih]
    by_cases h : k = key
    · simp [h]
    · have hne : ¬ key = k := fun e => h e.symm
      simp [h, hne]

theorem valuesOf_eq_nil {key : String} {entries : Assoc α} (h : ∀ entry ∈ entries, entry.1 ≠ key) :
    valuesOf key entries = [] := by
  rw [List.eq_nil_iff_forall_not_mem]
  intro value hv
  exact h _ (mem_valuesOf.1 hv) rfl

/-- The first entry is the only one with a key that no other entry has. -/
theorem valuesOf_head {key : String} {value : α} {rest : Assoc α}
    (h : ∀ entry ∈ rest, entry.1 ≠ key) : valuesOf key ((key, value) :: rest) = [value] := by
  rw [valuesOf_cons, if_pos rfl, valuesOf_eq_nil h]

/-- Of entries with distinct keys, one has the key. -/
theorem valuesOf_map (f : String → α) {keys : List String} (hnodup : keys.Nodup) {key : String}
    (h : key ∈ keys) : valuesOf key (keys.map fun k => (k, f k)) = [f key] := by
  induction keys with
  | nil => exact absurd h (List.not_mem_nil)
  | cons k rest ih =>
    obtain ⟨hk, hrest⟩ := List.nodup_cons.1 hnodup
    rw [List.map_cons]
    rcases List.mem_cons.1 h with rfl | hmem
    · apply valuesOf_head
      rintro _ hentry rfl
      obtain ⟨d, hd, heq⟩ := List.mem_map.1 hentry
      exact hk (heq ▸ hd)
    · have hne : ¬ k = key := fun e => hk (e ▸ hmem)
      rw [valuesOf_cons, if_neg hne, ih hrest hmem]

end Assoc

/-! ## Reading cells -/

theorem Table.cells_cell (table : Table V) (tuple : Tuple V) {column : String}
    (h : column ∈ table.columns) :
    (table.cells tuple).cell column = .ok (.value (tuple column)) := by
  rw [Cells.cell, Table.cells, Assoc.valuesOf_map _ table.columns_nodup h, only]

/-- A column of a row is read unless another column has its name. -/
theorem Cells.gives_cell {cells : Cells V} {name : String} {cell : Cell V}
    (h : (name, cell) ∈ cells) : Gives (cells.cell name) (· = cell) :=
  gives_only (Assoc.mem_valuesOf.2 h)

namespace Scope

theorem cells_cons_of_ne {frame : Frame V} {outer : Scope V} {name : String}
    (h : ∀ item ∈ frame, item.1 ≠ name) : cells name (frame :: outer) = cells name outer := by
  rw [cells, Assoc.valuesOf_eq_nil h]

theorem cells_cons_head {name : String} {row : Cells V} {rest : Frame V} {outer : Scope V}
    (h : ∀ item ∈ rest, item.1 ≠ name) : cells name (((name, row) :: rest) :: outer) = .ok row := by
  rw [cells, Assoc.valuesOf_head h]
  rfl

/-- A column of a single source is looked for there and not further out. -/
theorem column?_source {source name : String} {row : Cells V} {cell : Cell V} {outer : Scope V}
    (h : (name, cell) ∈ row) : column? name ([(source, row)] :: outer) =
      some (only name (Assoc.valuesOf name row)) := by
  have hmem : cell ∈ Assoc.valuesOf name row := Assoc.mem_valuesOf.2 h
  simp only [column?, List.flatMap_cons, List.flatMap_nil, List.append_nil]
  split
  · next hnil => rw [hnil] at hmem; exact absurd hmem (List.not_mem_nil)
  · rfl

/-- The column of a single source is read by its name alone, unless the name is ambiguous. -/
theorem gives_ident_column (engine : Engine V) {source name : String} {row : Cells V}
    {cell : Cell V} {outer : Scope V} (h : (name, cell) ∈ row) :
    Gives (ident engine ([(source, row)] :: outer) name) (· = cell) := by
  rw [ident, column?_source h]
  split
  · next heq _ => cases heq; exact gives_only (Assoc.mem_valuesOf.2 h)
  · exact ⟨name, rfl⟩
  · next heq => cases heq

/-- The whole row of the innermost source is read by its name, unless the name is ambiguous. -/
theorem gives_ident_source (engine : Engine V) {source : String} {row : Cells V}
    {outer : Scope V} :
    Gives (ident engine ([(source, row)] :: outer) source) (· = row.whole engine) := by
  have hsource : hasSource ([(source, row)] :: outer) source = true := by simp [hasSource]
  have hcells : cells source ([(source, row)] :: outer) = .ok row :=
    cells_cons_head fun item hitem => absurd hitem (List.not_mem_nil)
  rw [ident, hsource]
  split
  · next hfalse => exact absurd hfalse (by decide)
  · exact ⟨source, rfl⟩
  · rw [hcells]
    exact gives_ok rfl

end Scope

end EntitySql
