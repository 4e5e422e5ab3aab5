import EntitySql.Proofs.Sql.Layers

/-!
# How names are read

How the names in a query are meant, and when SQL reads them so.

* `Reading` is a name as it is meant; `Query.readings` are those of a query, without its sub-queries.
* `Reading.Clear` says that SQL reads the name so. A name with a source is ambiguous if the source has
  several columns of it. A name without one is a column of the innermost level that has such a column,
  and the row of a source only if no level has one.
* `Layer.Clear` says so of all names in a layer.

Names are compared in full: that PostgreSQL cuts long identifiers is left aside.
-/

namespace EntitySql

set_option autoImplicit false

variable {V : Type}

/-! ## Names as they are meant -/

inductive Reading where
  | column (source name : String)
  /-- A column of what the query reads from. -/
  | own (name : String)
  /-- The whole row of the source. -/
  | row (source : String)
deriving DecidableEq

mutual

/-- The names in an expression, without those in sub-queries. A name without a source is meant as a
row, except below an aggregate of documents, which collects a column. -/
def Expr.readings : Expr → List Reading
  | .column source name => [.column source name]
  | .ident name => [.row name]
  | .cast expr _ => expr.readings
  | .tuple items => Expr.readingsAll items
  | .aggregate _ argument => argument.readings
  | .toJson expr => expr.readings
  | .jsonAgg (.ident name) order _ => .own name :: order.map fun item => .own item.column
  | .jsonAgg expr order _ => expr.readings ++ order.map fun item => .own item.column
  | .rowToJson _ | .star | .param _ | .literal _ => []
termination_by structural expr => expr

def Expr.readingsAll : List Expr → List Reading
  | [] => []
  | expr :: rest => expr.readings ++ Expr.readingsAll rest
termination_by structural exprs => exprs

end

mutual

def Condition.readings : Condition → List Reading
  | .literal _ | .exists _ => []
  | .compare left _ right => left.readings ++ (right.map Expr.readings).getD []
  | .all conditions => Condition.readingsAll conditions
  | .any conditions => Condition.readingsAll conditions
termination_by structural condition => condition

def Condition.readingsAll : List Condition → List Reading
  | [] => []
  | condition :: rest => condition.readings ++ Condition.readingsAll rest
termination_by structural conditions => conditions

end

/-- The names in a query, without those in its sub-queries. -/
def Query.readings (query : Query) : List Reading :=
  (query.columns.flatMap fun column => column.1.readings) ++
    (query.filter.map Condition.readings).getD [] ++
      query.order.map fun item => .own item.column

/-! ## Names as SQL reads them -/

namespace Context

/-- The columns of a level. -/
def levelColumns (db : Instance V) (level : Assoc Range) : List String :=
  level.flatMap fun item => item.2.exports db

/-- The columns of all levels. -/
def columns (db : Instance V) (around : Context) : List String :=
  around.flatMap (levelColumns db)

theorem range?_append {level more : Assoc Range} {outer : Context} {source : String}
    (h : ∀ item ∈ more, item.1 ≠ source) :
    range? source ((level ++ more) :: outer) = range? source (level :: outer) := by
  have hvalues : Assoc.valuesOf source (level ++ more) = Assoc.valuesOf source level := by
    change List.filterMap _ (level ++ more) = List.filterMap _ level
    rw [List.filterMap_append]
    exact (congrArg _ (Assoc.valuesOf_eq_nil h)).trans (List.append_nil _)
  rw [range?, range?, hvalues]

end Context

/-- SQL reads the name as it is meant, with the sources given. -/
def Reading.Clear (db : Instance V) (inside : Context) : Reading → Prop
  | .column source name =>
    ∃ range ∈ Context.range? source inside, (range.exports db).count name ≤ 1
  | .own name => (Context.levelColumns db (Context.innermost inside)).count name = 1
  | .row source => source ∈ (Context.innermost inside).map Prod.fst ∧
    source ∉ Context.columns db inside

instance (db : Instance V) (inside : Context) (reading : Reading) :
    Decidable (reading.Clear db inside) :=
  match reading with
  | .column source _ =>
    inferInstanceAs (Decidable (∃ range ∈ Context.range? source inside, _ ≤ 1))
  | .own _ => inferInstanceAs (Decidable (_ = 1))
  | .row _ => inferInstanceAs (Decidable (_ ∧ _))

def Layer.Clear (db : Instance V) (layer : Layer) : Prop :=
  ∀ reading ∈ layer.query.readings, reading.Clear db layer.inside

instance (db : Instance V) (layer : Layer) : Decidable (layer.Clear db) :=
  inferInstanceAs (Decidable (∀ reading ∈ layer.query.readings, reading.Clear db layer.inside))

/-- A table has one column of a name at most. -/
theorem Reading.clear_of_table {db : Instance V} {inside : Context} {source table : String}
    (h : Context.range? source inside = some (.table table)) (name : String) :
    (Reading.column source name).Clear db inside :=
  ⟨.table table, h, List.nodup_iff_count_le_one.1 (db table).columns_nodup name⟩

/-! ## Lists -/

theorem Condition.readingsAll_append (conditions others : List Condition) :
    readingsAll (conditions ++ others) = readingsAll conditions ++ readingsAll others := by
  induction conditions with
  | nil => rfl
  | cons condition rest ih =>
    rw [List.cons_append, readingsAll, readingsAll, ih, List.append_assoc]

theorem Condition.readingsAll_singleton (condition : Condition) :
    readingsAll [condition] = condition.readings := by
  rw [readingsAll, readingsAll, List.append_nil]

theorem Expr.IsValue.readings {expr : Expr} (h : expr.IsValue) : expr.readings = [] := by
  rcases h with ⟨value, rfl⟩ | ⟨index, type, rfl⟩
  · rfl
  · rfl

theorem Expr.IsOperand.readings {right : Option Expr} (h : IsOperand right) :
    (right.map Expr.readings).getD [] = [] := by
  cases h with
  | none => rfl
  | value h => exact h.readings
  | @tuple items h =>
    change Expr.readingsAll items = []
    induction items with
    | nil => rfl
    | cons item rest ih =>
      rw [readingsAll, (h item (List.mem_cons_self ..)).readings, List.nil_append]
      exact ih fun other hother => h other (List.mem_cons_of_mem _ hother)

end EntitySql
