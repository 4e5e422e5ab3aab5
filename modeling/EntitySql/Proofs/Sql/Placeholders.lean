import EntitySql.Compile.Operation

/-!
# Placeholders in statements

The indices of the parameters that occur in a tree, each as often as it occurs.

* `Query.placeholders` lists them clause by clause, the filter before the joins.
* `Statement.placeholders` lists those of a statement.
-/

namespace EntitySql

set_option autoImplicit false

mutual

def Expr.placeholders : Expr → List Nat
  | .param index => [index]
  | .cast expr _ => expr.placeholders
  | .tuple items => Expr.placeholdersAll items
  | .aggregate _ argument => argument.placeholders
  | .toJson expr => expr.placeholders
  | .rowToJson query => query.placeholders
  | .jsonAgg expr _ _ => expr.placeholders
  | .star | .column .. | .ident _ | .literal _ => []
termination_by structural expr => expr

def Expr.placeholdersAll : List Expr → List Nat
  | [] => []
  | expr :: rest => expr.placeholders ++ Expr.placeholdersAll rest
termination_by structural exprs => exprs

def Expr.placeholdersOf : Option Expr → List Nat
  | none => []
  | some expr => expr.placeholders
termination_by structural expr => expr

def Condition.placeholders : Condition → List Nat
  | .literal _ => []
  | .compare left _ right => left.placeholders ++ Expr.placeholdersOf right
  | .all conditions => Condition.placeholdersAll conditions
  | .any conditions => Condition.placeholdersAll conditions
  | .exists query => query.placeholders
termination_by structural condition => condition

def Condition.placeholdersAll : List Condition → List Nat
  | [] => []
  | condition :: rest => condition.placeholders ++ Condition.placeholdersAll rest
termination_by structural conditions => conditions

def Condition.placeholdersOf : Option Condition → List Nat
  | none => []
  | some condition => condition.placeholders
termination_by structural condition => condition

def Query.placeholders : Query → List Nat
  | { columns, source, joins, filter, .. } =>
    Query.columnPlaceholders columns ++ Source.placeholdersOf source ++
      Condition.placeholdersOf filter ++ Query.joinPlaceholders joins
termination_by structural query => query

def Query.columnPlaceholders : List (Expr × Option String) → List Nat
  | [] => []
  | (expr, _) :: rest => expr.placeholders ++ Query.columnPlaceholders rest
termination_by structural columns => columns

def Query.joinPlaceholders : List (Query × String) → List Nat
  | [] => []
  | (query, _) :: rest => query.placeholders ++ Query.joinPlaceholders rest
termination_by structural joins => joins

def Source.placeholders : Source → List Nat
  | .table .. => []
  | .subquery query _ => query.placeholders
termination_by structural source => source

def Source.placeholdersOf : Option Source → List Nat
  | none => []
  | some source => source.placeholders
termination_by structural source => source

end

def Statement.placeholders : Statement → List Nat
  | .query q => q.placeholders
  | .insert i => i.rows.flatMap Expr.placeholdersAll
  | .update u => Expr.placeholdersAll (u.assignments.map Prod.snd) ++ u.filter.placeholders
  | .delete d => d.filter.placeholders

/-! ## Lists -/

theorem Condition.placeholdersAll_append (conditions others : List Condition) :
    placeholdersAll (conditions ++ others) =
      placeholdersAll conditions ++ placeholdersAll others := by
  induction conditions with
  | nil => rfl
  | cons condition rest ih =>
    rw [List.cons_append, placeholdersAll, placeholdersAll, ih, List.append_assoc]

theorem Query.joinPlaceholders_append (joins others : List (Query × String)) :
    joinPlaceholders (joins ++ others) = joinPlaceholders joins ++ joinPlaceholders others := by
  induction joins with
  | nil => rfl
  | cons join rest ih =>
    rw [List.cons_append, joinPlaceholders, joinPlaceholders, ih, List.append_assoc]

theorem Query.columnPlaceholders_eq_nil {columns : List (Expr × Option String)}
    (h : ∀ column ∈ columns, column.1.placeholders = []) : columnPlaceholders columns = [] := by
  induction columns with
  | nil => rfl
  | cons column rest ih =>
    rw [columnPlaceholders, h column (List.mem_cons_self ..), List.nil_append]
    exact ih fun other hother => h other (List.mem_cons_of_mem _ hother)

theorem Expr.placeholdersAll_typedParam (indices : List Nat) (type : SqlType) :
    placeholdersAll (indices.map fun index => typedParam index type) = indices := by
  induction indices with
  | nil => rfl
  | cons index rest ih =>
    rw [List.map_cons, placeholdersAll, ih, typedParam, placeholders, placeholders]
    rfl

theorem Expr.placeholdersAll_literal (values : List Json) :
    placeholdersAll (values.map literal) = [] := by
  induction values with
  | nil => rfl
  | cons value rest ih => rw [List.map_cons, placeholdersAll, ih, placeholders, List.nil_append]

end EntitySql
