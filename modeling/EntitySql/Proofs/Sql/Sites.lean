import EntitySql.Proofs.Relational.Evaluation
import EntitySql.Proofs.Sql.Placeholders

/-!
# Names in statements

Which names occur in a statement, and what they refer to where they occur.

* `Range` is what a source ranges over, `Context` the sources around an expression.
* `Query.sites` and its like list the names in a tree, each with the sources around it. A sub-query
  that is read from sees the levels outside only, a lateral one the sources before it as well.
* `Site.Resolves` says that a name refers to something, `Site.stored?` is the column of a table that
  it refers to.
-/

namespace EntitySql

set_option autoImplicit false

variable {V : Type}

/-! ## Sources in sight -/

/-- What a source ranges over. -/
inductive Range where
  | table (name : String)
  | rows (query : Query)

/-- The sources that can be named at some place: those of each level of a query, the innermost level
first. -/
abbrev Context := List (Assoc Range)

def Range.exports (db : Instance V) : Range → List String
  | .table name => (db name).columns
  | .rows query => query.exports db

namespace Context

/-- What a source of the name ranges over, in the innermost level that has one. -/
def range? (source : String) : Context → Option Range
  | [] => none
  | level :: outer =>
    match Assoc.valuesOf source level with
    | [] => range? source outer
    | [range] => some range
    | _ => none

theorem range?_cons_of_ne {level : Assoc Range} {outer : Context} {source : String}
    (h : ∀ item ∈ level, item.1 ≠ source) : range? source (level :: outer) = range? source outer := by
  rw [range?, Assoc.valuesOf_eq_nil h]

theorem range?_cons_head {source : String} {range : Range} {rest : Assoc Range} {outer : Context}
    (h : ∀ item ∈ rest, item.1 ≠ source) :
    range? source (((source, range) :: rest) :: outer) = some range := by
  rw [range?, Assoc.valuesOf_head h]

/-- The sources of the level itself. -/
def innermost (around : Context) : Assoc Range :=
  around.head?.getD []

end Context

/-! ## Names where they occur -/

inductive Mention where
  | column (source name : String)
  /-- A name without its source. -/
  | ident (name : String)
  | table (name : String)
  /-- A placeholder that is compared with a column or written to it, with the type it is cast to. -/
  | placeholder (source column : String) (type : Option SqlType)

structure Site where
  around : Context
  mention : Mention

namespace Expr

/-- The types that the placeholders of an expression are cast to. -/
def castTypes : Expr → List (Option SqlType)
  | .cast expr type => expr.placeholders.map fun _ => some type
  | expr => expr.placeholders.map fun _ => none

def operandTypes : Expr → List (Option SqlType)
  | .tuple items => items.flatMap castTypes
  | expr => expr.castTypes

/-- The placeholders of the second expression, if the first one is a column. -/
def meetings (around : Context) : Expr → Expr → List Site
  | .column source name, other =>
    other.operandTypes.map fun type => ⟨around, .placeholder source name type⟩
  | _, _ => []

/-- The placeholders that meet a column in a comparison. -/
def meetingsOf (around : Context) (left : Expr) : Option Expr → List Site
  | none => []
  | some right => meetings around left right ++ meetings around right left

end Expr

def SortItem.sites (around : Context) (order : List SortItem) : List Site :=
  order.map fun item => ⟨around, .ident item.column⟩

/-- What a query reads from, as the first of its sources. -/
def Query.sourceLevel : Option Source → Assoc Range
  | none => []
  | some (.table name label) => [(label.getD name, .table name)]
  | some (.subquery query label) => [(label, .rows query)]

def Query.joinLevel (joins : List (Query × String)) : Assoc Range :=
  joins.map fun (query, label) => (label, .rows query)

mutual

def Expr.sites (around : Context) : Expr → List Site
  | .column source name => [⟨around, .column source name⟩]
  | .ident name => [⟨around, .ident name⟩]
  | .cast expr _ => expr.sites around
  | .tuple items => Expr.sitesAll around items
  | .aggregate _ argument => argument.sites around
  | .toJson expr => expr.sites around
  | .rowToJson query => query.sites around
  | .jsonAgg expr order _ => expr.sites around ++ SortItem.sites around order
  | .star | .param _ | .literal _ => []
termination_by structural expr => expr

def Expr.sitesAll (around : Context) : List Expr → List Site
  | [] => []
  | expr :: rest => expr.sites around ++ Expr.sitesAll around rest
termination_by structural exprs => exprs

def Expr.sitesOf (around : Context) : Option Expr → List Site
  | none => []
  | some expr => expr.sites around
termination_by structural expr => expr

def Condition.sites (around : Context) : Condition → List Site
  | .literal _ => []
  | .compare left _ right =>
    left.sites around ++ Expr.sitesOf around right ++ Expr.meetingsOf around left right
  | .all conditions => Condition.sitesAll around conditions
  | .any conditions => Condition.sitesAll around conditions
  | .exists query => query.sites around
termination_by structural condition => condition

def Condition.sitesAll (around : Context) : List Condition → List Site
  | [] => []
  | condition :: rest => condition.sites around ++ Condition.sitesAll around rest
termination_by structural conditions => conditions

def Condition.sitesOf (around : Context) : Option Condition → List Site
  | none => []
  | some condition => condition.sites around
termination_by structural condition => condition

/-- The names in a query with `around` outside. -/
def Query.sites (around : Context) : Query → List Site
  | { columns, source, joins, filter, order, .. } =>
    let level := Query.sourceLevel source ++ Query.joinLevel joins
    Query.columnSites (level :: around) columns ++ Source.sitesOf around source ++
      Query.joinSites around (Query.sourceLevel source) joins ++
      Condition.sitesOf (level :: around) filter ++ SortItem.sites (level :: around) order
termination_by structural query => query

def Query.columnSites (around : Context) : List (Expr × Option String) → List Site
  | [] => []
  | (expr, _) :: rest => expr.sites around ++ Query.columnSites around rest
termination_by structural columns => columns

/-- The names in lateral joins, with the sources that stand before them. -/
def Query.joinSites (around : Context) (before : Assoc Range) : List (Query × String) → List Site
  | [] => []
  | (query, label) :: rest =>
    query.sites (before :: around) ++ Query.joinSites around (before ++ [(label, .rows query)]) rest
termination_by structural joins => joins

def Source.sites (around : Context) : Source → List Site
  | .table name _ => [⟨around, .table name⟩]
  | .subquery query _ => query.sites around
termination_by structural source => source

def Source.sitesOf (around : Context) : Option Source → List Site
  | none => []
  | some source => source.sites around
termination_by structural source => source

end

/-- The name of the column that a value is written to, and the names in the value. -/
def Expr.writtenSites (table column : String) (value : Expr) : List Site :=
  let around : Context := [[(table, .table table)]]
  ⟨around, .column table column⟩ :: value.sites around ++
    value.castTypes.map fun type => ⟨around, .placeholder table column type⟩

def Statement.sites : Statement → List Site
  | .query q => q.sites []
  | .insert i => ⟨[], .table i.table⟩ ::
    (i.columns.map (fun column => ⟨[[(i.table, .table i.table)]], .column i.table column⟩) ++
      i.rows.flatMap fun row => (i.columns.zip row).flatMap fun (column, value) =>
        value.writtenSites i.table column)
  | .update u => ⟨[], .table u.table⟩ ::
    (u.assignments.flatMap (fun (column, value) => value.writtenSites u.table column) ++
      u.filter.sites [[(u.table, .table u.table)]])
  | .delete d => ⟨[], .table d.table⟩ :: d.filter.sites [[(d.table, .table d.table)]]

/-! ## What names refer to -/

/-- The name refers to something: with a source, to a column of what the source ranges over; without
one, to a column or the whole row of a source of its own level. -/
def Site.Resolves (db : Instance V) (site : Site) : Prop :=
  match site.mention with
  | .column source name | .placeholder source name _ =>
    ∃ range, Context.range? source site.around = some range ∧ name ∈ range.exports db
  | .ident name => ∃ item ∈ Context.innermost site.around,
    name = item.1 ∨ name ∈ item.2.exports db
  | .table _ => True

/-- The names of the columns that a query lists one by one. -/
def Query.listedNames (columns : List (Expr × Option String)) : List String :=
  columns.flatMap fun (expr, label) => match expr with
    | .star => []
    | expr => [label.getD expr.columnName]

mutual

/-- The column of a table that a query passes on under its own name, as `SELECT *` does. -/
def Query.stored? (db : Instance V) (name : String) : Query → Option (String × String)
  | { columns, source, joins, .. } =>
    if columns.any (fun column => column.1 matches .star) ∧
        name ∉ Query.listedNames columns ++ Query.joinExports db joins then
      Source.storedOf? db name source
    else none
termination_by structural query => query

def Source.stored? (db : Instance V) (name : String) : Source → Option (String × String)
  | .table table _ => some (table, name)
  | .subquery query _ => query.stored? db name
termination_by structural source => source

def Source.storedOf? (db : Instance V) (name : String) : Option Source → Option (String × String)
  | none => none
  | some source => source.stored? db name
termination_by structural source => source

end

def Range.stored? (db : Instance V) (column : String) : Range → Option (String × String)
  | .table name => some (name, column)
  | .rows query => query.stored? db column

/-- The column of a table that a name refers to, through the sub-queries that pass it on. -/
def Site.stored? (db : Instance V) (site : Site) : Option (String × String) :=
  match site.mention with
  | .column source name | .placeholder source name _ =>
    (Context.range? source site.around).bind (Range.stored? db name)
  | .ident name => (Context.innermost site.around).findSome? fun item =>
    if name ∈ item.2.exports db then item.2.stored? db name else none
  | .table _ => none

theorem Query.mem_sourceExports {db : Instance V} {name : String}
    {columns : List (Expr × Option String)} {source : Option Source}
    {joins : List (Query × String)} {filter : Option Condition} {order : List SortItem}
    {limit offset : Option Nat}
    (h : name ∈ Query.exports db { columns, source, joins, filter, order, limit, offset })
    (hlisted : name ∉ listedNames columns ++ joinExports db joins) :
    name ∈ sourceExports db source := by
  rw [List.mem_append, not_or] at hlisted
  obtain ⟨hcolumns, hjoins⟩ := hlisted
  rw [exports] at h
  obtain ⟨⟨expr, label⟩, hmem, hname⟩ := List.mem_flatMap.1 h
  by_cases hstar : expr = .star
  · subst hstar
    exact (List.mem_append.1 hname).resolve_right hjoins
  · -- a column of its own has one name, with a label or without
    refine absurd (List.mem_flatMap.2 ⟨(expr, label), hmem, ?_⟩) hcolumns
    cases expr with
    | star => exact absurd rfl hstar
    | _ => cases label <;> exact hname

mutual

/-- What a query passes on is a column of the table. -/
theorem Query.mem_of_stored? {db : Instance V} {name : String} : (query : Query) →
    ∀ {table column}, query.stored? db name = some (table, column) → name ∈ query.exports db →
      column = name ∧ name ∈ (db table).columns
  | { columns, source, joins, .. }, table, column, h, hexports => by
    rw [Query.stored?] at h
    split at h
    · next hpasses =>
      exact Source.mem_of_storedOf? source h (Query.mem_sourceExports hexports hpasses.2)
    · cases h

theorem Source.mem_of_stored? {db : Instance V} {name : String} : (source : Source) →
    ∀ {table column}, source.stored? db name = some (table, column) → name ∈ source.exports db →
      column = name ∧ name ∈ (db table).columns
  | .table table _, other, column, h, hexports => by
    obtain ⟨rfl, rfl⟩ := Prod.mk.inj (Option.some.inj h)
    exact ⟨rfl, hexports⟩
  | .subquery query _, table, column, h, hexports => Query.mem_of_stored? query h hexports

theorem Source.mem_of_storedOf? {db : Instance V} {name : String} : (source : Option Source) →
    ∀ {table column}, Source.storedOf? db name source = some (table, column) →
      name ∈ Query.sourceExports db source → column = name ∧ name ∈ (db table).columns
  | none, table, column, h, hexports => by cases h
  | some source, table, column, h, hexports => Source.mem_of_stored? source h hexports

end

theorem Range.mem_of_stored? {db : Instance V} {name : String} (range : Range)
    {table column : String} (h : range.stored? db name = some (table, column))
    (hexports : name ∈ range.exports db) : column = name ∧ name ∈ (db table).columns := by
  cases range with
  | table other =>
    obtain ⟨rfl, rfl⟩ := Prod.mk.inj (Option.some.inj h)
    exact ⟨rfl, hexports⟩
  | rows query => exact Query.mem_of_stored? query h hexports

/-- A name that refers to a column of a table refers to one that the table has. -/
theorem Site.mem_of_stored? {db : Instance V} {site : Site} (h : site.Resolves db)
    {table column : String} (hstored : site.stored? db = some (table, column)) :
    column ∈ (db table).columns := by
  obtain ⟨around, mention⟩ := site
  have hsource : ∀ source name range, Context.range? source around = some range →
      name ∈ range.exports db →
        (Context.range? source around).bind (Range.stored? db name) = some (table, column) →
          column ∈ (db table).columns := by
    intro source name range hrange hexports hstored
    rw [hrange, Option.bind_some] at hstored
    obtain ⟨rfl, hmem⟩ := range.mem_of_stored? hstored hexports
    exact hmem
  cases mention with
  | column source name =>
    obtain ⟨range, hrange, hexports⟩ := h
    exact hsource source name range hrange hexports hstored
  | placeholder source name type =>
    obtain ⟨range, hrange, hexports⟩ := h
    exact hsource source name range hrange hexports hstored
  | ident name =>
    obtain ⟨item, -, hitem⟩ := List.exists_of_findSome?_eq_some hstored
    split at hitem
    · next hexports =>
      obtain ⟨rfl, hmem⟩ := item.2.mem_of_stored? hitem hexports
      exact hmem
    · cases hitem
  | table name => cases hstored

/-! ## Lists -/

theorem Query.joinExports_append (db : Instance V) (joins others : List (Query × String)) :
    joinExports db (joins ++ others) = joinExports db joins ++ joinExports db others := by
  induction joins with
  | nil => rfl
  | cons join rest ih =>
    rw [List.cons_append, joinExports, joinExports, ih, List.append_assoc]

theorem Condition.sitesAll_append (around : Context) (conditions others : List Condition) :
    sitesAll around (conditions ++ others) = sitesAll around conditions ++ sitesAll around others := by
  induction conditions with
  | nil => rfl
  | cons condition rest ih =>
    rw [List.cons_append, sitesAll, sitesAll, ih, List.append_assoc]

theorem Query.mem_columnSites {around : Context} {columns : List (Expr × Option String)}
    {site : Site} : site ∈ columnSites around columns ↔
      ∃ column ∈ columns, site ∈ column.1.sites around := by
  induction columns with
  | nil => simp [columnSites]
  | cons column rest ih => simp [columnSites, ih]

theorem Query.joinSites_append (around : Context) (before : Assoc Range)
    (joins others : List (Query × String)) : joinSites around before (joins ++ others) =
      joinSites around before joins ++ joinSites around (before ++ joinLevel joins) others := by
  induction joins generalizing before with
  | nil => simp [joinSites, joinLevel]
  | cons join rest ih =>
    rw [List.cons_append, joinSites, joinSites, ih, List.append_assoc, List.append_assoc]
    rfl

end EntitySql
