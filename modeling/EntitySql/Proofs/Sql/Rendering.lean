import EntitySql.Proofs.Sql.Quoted

/-!
# Rendering keeps to its quotes

What a scanner reads in the text of a tree.

* `Lexeme.Reads` says of a list of pieces that it is legible and what is quoted in it. It is built up
  from `Lexeme.Clause`, what can follow anything, and `Lexeme.ReadsEach`, parts to be separated.
* `Expr.reads` and its like say that a tree is rendered so, and `Expr.alike` and its like that the names
  and strings of a tree do not reach outside their quotes.
* `Tree.exists_tokens` puts both together.
-/

namespace EntitySql

set_option autoImplicit false

namespace Lexeme

/-! ## Pieces and what is quoted in them -/

instance (lexeme : Lexeme) : Decidable lexeme.Clean :=
  match lexeme with
  | plain text => inferInstanceAs (Decidable (text ≠ "" ∧ Unquoted text.toList))
  | ident _ | str _ | param _ => .isTrue trivial

/-- Legible pieces, and what is quoted in them. -/
structure Reads (lexemes : List Lexeme) (quoted : List Quoted) : Prop where
  legible : Legible lexemes
  quoted : lexemes.filterMap quoted? = quoted

/-- Pieces that can follow any others, since they do not begin with a quoted one. -/
structure Clause (lexemes : List Lexeme) (quoted : List Quoted) : Prop extends
    Reads lexemes quoted where
  opens : ∀ first ∈ lexemes.head?, first.quoted? = none

/-- Lists of pieces, and what is quoted in all of them. -/
inductive ReadsEach : List (List Lexeme) → List Quoted → Prop
  | nil : ReadsEach [] []
  | cons {part : List Lexeme} {parts : List (List Lexeme)} {quoted others : List Quoted}
      (h : Reads part quoted) (hrest : ReadsEach parts others) :
      ReadsEach (part :: parts) (quoted ++ others)

section

variable {lexemes others : List Lexeme} {quoted quoted' : List Quoted}

theorem reads_singleton {lexeme : Lexeme} (h : lexeme.Clean) :
    Reads [lexeme] lexeme.quoted?.toList where
  legible := ⟨List.forall_mem_singleton.2 h, .singleton _⟩
  quoted := by
    rw [List.filterMap_cons]
    cases lexeme.quoted? <;> rfl

theorem reads_ident (name : String) : Reads [ident name] [.ident name] :=
  reads_singleton trivial

theorem reads_str (content : String) : Reads [str content] [.str content] :=
  reads_singleton trivial

theorem reads_nil : Reads [] [] where
  legible := ⟨List.forall_mem_nil _, .nil⟩
  quoted := rfl

theorem clause_nil : Clause [] [] where
  toReads := reads_nil
  opens := by
    intro first hfirst
    cases hfirst

theorem clause_plain {text : String} (h : (plain text).Clean) : Clause [plain text] [] where
  toReads := reads_singleton h
  opens := by
    rintro first hfirst
    obtain rfl := Option.some.inj hfirst
    rfl

theorem Reads.append (h : Reads lexemes quoted) (h' : Clause others quoted') :
    Reads (lexemes ++ others) (quoted ++ quoted') where
  legible := by
    refine ⟨List.forall_mem_append.2 ⟨h.legible.clean, h'.legible.clean⟩, ?_⟩
    refine List.isChain_append.2 ⟨h.legible.apart, h'.legible.apart, ?_⟩
    -- where the two meet, the second one is plain
    intro last _ first hfirst
    exact .inr (h'.opens first hfirst)
  quoted := by
    rw [List.filterMap_append, h.quoted, h'.quoted]

theorem Clause.append (h : Clause lexemes quoted) (h' : Clause others quoted') :
    Clause (lexemes ++ others) (quoted ++ quoted') where
  toReads := h.toReads.append h'
  opens := by
    cases lexemes with
    | nil => exact h'.opens
    | cons first rest => exact h.opens

/-- Plain text can stand before anything. -/
theorem Reads.after {text : String} (h : Reads lexemes quoted) (htext : (plain text).Clean) :
    Clause (plain text :: lexemes) quoted where
  legible := by
    refine ⟨List.forall_mem_cons.2 ⟨htext, h.legible.clean⟩, ?_⟩
    cases lexemes with
    | nil => exact .singleton _
    | cons first rest => exact .cons_cons (.inl rfl) h.legible.apart
  quoted := by
    rw [List.filterMap_cons]
    exact h.quoted
  opens := by
    rintro first hfirst
    obtain rfl := Option.some.inj hfirst
    rfl

theorem Reads.between {before behind : String} (h : Reads lexemes quoted)
    (hbefore : (plain before).Clean) (hbehind : (plain behind).Clean) :
    Clause ([plain before] ++ lexemes ++ [plain behind]) quoted := by
  have hboth := (h.after hbefore).append (clause_plain hbehind)
  rwa [List.append_nil] at hboth

theorem ReadsEach.separated {separator : String} {parts : List (List Lexeme)}
    (h : ReadsEach parts quoted) (hseparator : (plain separator).Clean) :
    Reads (separated separator parts) quoted := by
  induction h with
  | nil => exact reads_nil
  | @cons part parts quoted others hfirst hrest ih =>
    cases parts with
    | nil =>
      cases hrest
      rw [Lexeme.separated, List.intercalate_singleton, List.append_nil]
      exact hfirst
    | cons second parts =>
      rw [Lexeme.separated, List.intercalate_cons_cons, List.append_assoc]
      exact hfirst.append (ih.after hseparator)

theorem ReadsEach.between {before behind : String} {parts : List (List Lexeme)}
    (h : ReadsEach parts quoted) (hbefore : (plain before).Clean) (hbehind : (plain behind).Clean) :
    ReadsEach (parts.map fun part => [plain before] ++ part ++ [plain behind]) quoted := by
  induction h with
  | nil => exact .nil
  | cons hfirst _ ih => exact .cons (hfirst.between hbefore hbehind).toReads ih

theorem readsEach_map {α : Type} {render : α → List Lexeme} {inside : α → List Quoted} {items : List α}
    (h : ∀ item ∈ items, Reads (render item) (inside item)) :
    ReadsEach (items.map render) (items.flatMap inside) := by
  induction items with
  | nil => exact .nil
  | cons item rest ih =>
    obtain ⟨hfirst, hrest⟩ := List.forall_mem_cons.1 h
    exact .cons hfirst (ih hrest)

theorem ReadsEach.clause {keyword : String} {parts : List (List Lexeme)} (h : ReadsEach parts quoted)
    (hkeyword : (plain keyword).Clean) :
    Clause (if parts.isEmpty then [] else plain keyword :: Lexeme.separated ", " parts) quoted := by
  cases h with
  | nil => exact clause_nil
  | cons hfirst hrest => exact ((ReadsEach.cons hfirst hrest).separated (by decide)).after hkeyword

end

end Lexeme

open Lexeme

/-! ## Trees are legible -/

theorem SortItem.reads (item : SortItem) : Reads item.lexemes [item.quoted] := by
  have hdirection : (plain (" " ++ item.direction.text ++ " NULLS LAST")).Clean := by
    cases item.direction <;> decide
  exact (reads_ident item.column).append (clause_plain hdirection)

theorem SortItem.reads_clause (order : List SortItem) :
    Lexeme.Clause (clause order) (order.map quoted) := by
  have heach : ReadsEach (order.map lexemes) (order.map quoted) := by
    rw [List.map_eq_flatMap (f := quoted)]
    exact readsEach_map fun item _ => item.reads
  have hclause : Lexeme.Clause (if (order.map lexemes).isEmpty then [] else
      plain " ORDER BY " :: separated ", " (order.map lexemes)) (order.map quoted) :=
    heach.clause (by decide)
  rwa [List.isEmpty_map] at hclause

theorem reads_numberClause {keyword : String} (h : (plain keyword).Clean) (number : Option Nat) :
    Lexeme.Clause (numberClause keyword number) [] := by
  cases number with
  | none => exact clause_nil
  | some n =>
    refine clause_plain ⟨fun hempty => h.1 ?_, ?_⟩
    · exact (String.append_eq_empty_iff.1 hempty).1
    · rw [String.toList_append]
      exact h.2.append (numeric_nat n).unquoted

theorem Json.reads (value : Json) : Reads [Lexeme.ofJson value] value.quotedLiteral := by
  have hplain : ∀ {text : String}, (plain text).Clean → Reads [plain text] [] :=
    fun h => (clause_plain h).toReads
  cases value with
  | null => exact hplain (by decide)
  | bool value =>
    cases value with
    | true => exact hplain (by decide)
    | false => exact hplain (by decide)
  | int n => exact hplain ⟨int_ne_empty n, (numeric_int n).unquoted⟩
  | double x => exact hplain ⟨x.toText_ne_empty, x.numeric_toText.unquoted⟩
  | str content => exact reads_str content
  | arr items => exact reads_str _
  | obj members => exact reads_str _

theorem Query.isEmpty_columnLexemes (columns : List (Expr × Option String)) :
    (columnLexemes columns).isEmpty = columns.isEmpty := by
  match columns with
  | [] => rfl
  | (_, none) :: _ => rfl
  | (_, some _) :: _ => rfl

-- By induction on the tree. Fragments that can end in a quoted piece are followed by clauses, and all
-- others stand between plain text, so that `Reads.append` and `Reads.after` apply at every node.
mutual

theorem Expr.reads : (expr : Expr) → (∀ type ∈ expr.casts, Unquoted type.text.toList) →
    Reads expr.lexemes expr.quoted
  | .star, _ => (clause_plain (by decide)).toReads
  | .column source name, _ =>
    (reads_ident source).append ((reads_ident name).after (by decide))
  | .ident name, _ => reads_ident name
  | .param index, _ => reads_singleton trivial
  | .cast expr type, h => by
    obtain ⟨hinner, htype⟩ := List.forall_mem_append.1 h
    have hclean : (plain ("::" ++ type.text)).Clean := by
      refine ⟨fun hempty => ?_, ?_⟩
      · exact absurd (String.append_eq_empty_iff.1 hempty).1 (by decide)
      · rw [String.toList_append]
        exact Unquoted.append (by decide) (htype type (List.mem_singleton_self type))
    have hcast := (Expr.reads expr hinner).append (clause_plain hclean)
    rwa [List.append_nil] at hcast
  | .literal value, _ => value.reads
  | .tuple items, h =>
    (((Expr.readsEach items h).separated (by decide)).between (by decide) (by decide)).toReads
  | .aggregate function argument, h =>
    have hname : (plain (function.name ++ "(")).Clean := by
      cases function <;> decide
    ((Expr.reads argument h).between hname (by decide)).toReads
  | .toJson expr, h => ((Expr.reads expr h).between (by decide) (by decide)).toReads
  | .rowToJson query, h => ((Query.reads query h).between (by decide) (by decide)).toReads
  | .jsonAgg expr order first, h => by
    have hclose : Lexeme.Clause [plain ")"] [] := clause_plain (by decide)
    have harray : Lexeme.Clause
        (plain "json_agg(" :: expr.lexemes ++ SortItem.clause order ++ [plain ")"])
        (expr.quoted ++ order.map SortItem.quoted) := by
      have hopen : Lexeme.Clause (plain "json_agg(" :: expr.lexemes) expr.quoted :=
        (Expr.reads expr h).after (by decide)
      have hall := (hopen.append (SortItem.reads_clause order)).append hclose
      rwa [List.append_nil] at hall
    cases first with
    | true =>
      have hotherwise : Lexeme.Clause [plain " -> 0), ", str "null", plain ")"] [.str "null"] :=
        ((reads_str "null").append hclose).after (by decide)
      exact ((harray.toReads.after (by decide)).append hotherwise).toReads
    | false =>
      have hotherwise : Lexeme.Clause [plain ", ", str "[]", plain ")"] [.str "[]"] :=
        ((reads_str "[]").append hclose).after (by decide)
      exact ((harray.toReads.after (by decide)).append hotherwise).toReads

theorem Expr.readsEach : (exprs : List Expr) →
    (∀ type ∈ Expr.castsAll exprs, Unquoted type.text.toList) →
      ReadsEach (Expr.listLexemes exprs) (Expr.quotedAll exprs)
  | [], _ => .nil
  | expr :: rest, h =>
    have ⟨hfirst, hrest⟩ := List.forall_mem_append.1 h
    .cons (Expr.reads expr hfirst) (Expr.readsEach rest hrest)

theorem Expr.reads_operand : (operand : Option Expr) →
    (∀ type ∈ Expr.castsOf operand, Unquoted type.text.toList) →
      Lexeme.Clause (Expr.operandLexemes operand) (Expr.quotedOf operand)
  | none, _ => clause_nil
  | some expr, h => (Expr.reads expr h).after (by decide)

theorem Condition.reads : (condition : Condition) →
    (∀ type ∈ condition.casts, Unquoted type.text.toList) →
      Reads condition.lexemes condition.quoted
  | .literal true, _ => (clause_plain (by decide)).toReads
  | .literal false, _ => (clause_plain (by decide)).toReads
  | .compare left op right, h => by
    obtain ⟨hleft, hright⟩ := List.forall_mem_append.1 h
    have hop : (plain (" " ++ op.text)).Clean := by
      cases op <;> decide
    have hoperand : Lexeme.Clause (if op.isNullTest then [] else Expr.operandLexemes right)
        (if op.isNullTest then [] else Expr.quotedOf right) := by
      -- a test for absence leaves its right operand out
      split
      · exact clause_nil
      · exact Expr.reads_operand right hright
    have hcompare := ((Expr.reads left hleft).append (clause_plain hop)).append hoperand
    rwa [List.append_nil] at hcompare
  | .all [], _ => (clause_plain (by decide)).toReads
  | .all (first :: rest), h => (Condition.readsEach (first :: rest) h).separated (by decide)
  | .any [], _ => (clause_plain (by decide)).toReads
  | .any (first :: rest), h =>
    have hparts := (Condition.readsEach (first :: rest) h).between (by decide) (by decide)
    ((hparts.separated (by decide)).between (by decide) (by decide)).toReads
  | .exists query, h => ((Query.reads query h).between (by decide) (by decide)).toReads

theorem Condition.readsEach : (conditions : List Condition) →
    (∀ type ∈ Condition.castsAll conditions, Unquoted type.text.toList) →
      ReadsEach (Condition.listLexemes conditions) (Condition.quotedAll conditions)
  | [], _ => .nil
  | condition :: rest, h =>
    have ⟨hfirst, hrest⟩ := List.forall_mem_append.1 h
    .cons (Condition.reads condition hfirst) (Condition.readsEach rest hrest)

theorem Query.reads : (query : Query) → (∀ type ∈ query.casts, Unquoted type.text.toList) →
    Reads query.lexemes query.quoted
  | { columns, source, joins, filter, order, limit, offset }, h => by
    obtain ⟨h, hfilter⟩ := List.forall_mem_append.1 h
    obtain ⟨h, hjoins⟩ := List.forall_mem_append.1 h
    obtain ⟨hcolumns, hsource⟩ := List.forall_mem_append.1 h
    have hlisted : Lexeme.Clause (if columns.isEmpty then [] else
        plain " " :: separated ", " (Query.columnLexemes columns)) (Query.quotedColumns columns) := by
      have hclause : Lexeme.Clause (if (Query.columnLexemes columns).isEmpty then [] else
          plain " " :: separated ", " (Query.columnLexemes columns)) (Query.quotedColumns columns) :=
        (Query.readsEach_columns columns hcolumns).clause (by decide)
      rwa [Query.isEmpty_columnLexemes] at hclause
    have hselect : Lexeme.Clause [plain "SELECT"] [] := clause_plain (by decide)
    have hlimit : Lexeme.Clause (numberClause " LIMIT " limit) [] := reads_numberClause (by decide) limit
    have hoffset : Lexeme.Clause (numberClause " OFFSET " offset) [] :=
      reads_numberClause (by decide) offset
    have hquery := hselect.toReads.append hlisted
      |>.append (Query.reads_sourceClause source hsource)
      |>.append (Query.reads_joinClauses joins hjoins)
      |>.append (Query.reads_filterClause filter hfilter)
      |>.append (SortItem.reads_clause order)
      |>.append hlimit |>.append hoffset
    rwa [List.append_nil, List.append_nil] at hquery

theorem Query.readsEach_columns : (columns : List (Expr × Option String)) →
    (∀ type ∈ Query.columnCasts columns, Unquoted type.text.toList) →
      ReadsEach (Query.columnLexemes columns) (Query.quotedColumns columns)
  | [], _ => .nil
  | (expr, none) :: rest, h =>
    have ⟨hfirst, hrest⟩ := List.forall_mem_append.1 h
    .cons (Expr.reads expr hfirst) (Query.readsEach_columns rest hrest)
  | (expr, some label) :: rest, h =>
    have ⟨hfirst, hrest⟩ := List.forall_mem_append.1 h
    .cons ((Expr.reads expr hfirst).append ((reads_ident label).after (by decide)))
      (Query.readsEach_columns rest hrest)

theorem Query.reads_sourceClause : (source : Option Source) →
    (∀ type ∈ Source.castsOf source, Unquoted type.text.toList) →
      Lexeme.Clause (Query.sourceClause source) (Source.quotedOf source)
  | none, _ => clause_nil
  | some source, h => (Source.reads source h).after (by decide)

theorem Source.reads : (source : Source) → (∀ type ∈ source.casts, Unquoted type.text.toList) →
    Reads source.lexemes source.quoted
  | .table name none, _ => reads_ident name
  | .table name (some label), _ =>
    (reads_ident name).append ((reads_ident label).after (by decide))
  | .subquery query label, h => by
    have hopen : Lexeme.Clause ([plain "("] ++ query.lexemes) query.quoted :=
      (Query.reads query h).after (by decide)
    exact (hopen.append ((reads_ident label).after (by decide))).toReads

theorem Query.reads_joinClauses : (joins : List (Query × String)) →
    (∀ type ∈ Query.joinCasts joins, Unquoted type.text.toList) →
      Lexeme.Clause (Query.joinClauses joins) (Query.quotedJoins joins)
  | [], _ => clause_nil
  | (query, label) :: rest, h => by
    obtain ⟨hfirst, hrest⟩ := List.forall_mem_append.1 h
    have hopen : Lexeme.Clause ([plain " LEFT JOIN LATERAL ("] ++ query.lexemes) query.quoted :=
      (Query.reads query hfirst).after (by decide)
    have hon : Lexeme.Clause [plain " ON true"] [] := clause_plain (by decide)
    have hlabel : Lexeme.Clause [plain ") AS ", ident label, plain " ON true"] [.ident label] :=
      ((reads_ident label).append hon).after (by decide)
    exact (hopen.append hlabel).append (Query.reads_joinClauses rest hrest)

theorem Query.reads_filterClause : (filter : Option Condition) →
    (∀ type ∈ Condition.castsOf filter, Unquoted type.text.toList) →
      Lexeme.Clause (Query.filterClause filter) (Condition.quotedOf filter)
  | none, _ => clause_nil
  | some condition, h => (Condition.reads condition h).after (by decide)

end

/-- A statement names its table first. -/
theorem reads_onTable {opening link table : String} {lexemes : List Lexeme} {quoted : List Quoted}
    (h : Reads lexemes quoted) (hopening : (plain opening).Clean) (hlink : (plain link).Clean) :
    Reads ([plain opening, ident table, plain link] ++ lexemes) (.ident table :: quoted) :=
  (((reads_ident table).append (h.after hlink)).after hopening).toReads

theorem Statement.reads (statement : Statement)
    (h : ∀ type ∈ statement.casts, Unquoted type.text.toList) :
    Reads statement.lexemes statement.quoted := by
  cases statement with
  | query query => exact query.reads h
  | insert insert =>
    have hcolumns : ReadsEach (insert.columns.map fun column => [ident column])
        (insert.columns.map .ident) := by
      rw [List.map_eq_flatMap (f := Quoted.ident)]
      exact readsEach_map fun column _ => reads_ident column
    have hrow : ∀ row ∈ insert.rows,
        Reads ([plain "("] ++ separated ", " (Expr.listLexemes row) ++ [plain ")"])
          (Expr.quotedAll row) := by
      intro row hrow
      have hvalues := Expr.readsEach row fun type htype => h type (List.mem_flatMap.2 ⟨row, hrow, htype⟩)
      exact ((hvalues.separated (by decide)).between (by decide) (by decide)).toReads
    have hrows : Reads (separated ", " (insert.rows.map fun row =>
        [plain "("] ++ separated ", " (Expr.listLexemes row) ++ [plain ")"]))
          (insert.rows.flatMap Expr.quotedAll) :=
      (readsEach_map hrow).separated (by decide)
    change Reads (_ ++ _ ++ _ ++ _) _
    rw [List.append_assoc, List.append_assoc]
    exact reads_onTable ((hcolumns.separated (by decide)).append (hrows.after (by decide)))
      (by decide) (by decide)
  | update update =>
    obtain ⟨hvalues, hfilter⟩ := List.forall_mem_append.1 h
    have hassignment : ∀ assignment ∈ update.assignments,
        Reads ([ident assignment.1, plain " = "] ++ assignment.2.lexemes)
          (.ident assignment.1 :: assignment.2.quoted) := by
      intro assignment hmem
      have hvalue := assignment.2.reads fun type htype =>
        hvalues type (List.mem_flatMap.2 ⟨assignment, hmem, htype⟩)
      exact (reads_ident assignment.1).append (hvalue.after (by decide))
    have hassignments : Reads (separated ", " (update.assignments.map fun assignment =>
        [ident assignment.1, plain " = "] ++ assignment.2.lexemes))
          (update.assignments.flatMap fun assignment =>
            .ident assignment.1 :: assignment.2.quoted) :=
      (readsEach_map hassignment).separated (by decide)
    change Reads (_ ++ _ ++ _ ++ _) _
    rw [List.append_assoc, List.append_assoc]
    exact reads_onTable (hassignments.append ((update.filter.reads hfilter).after (by decide)))
      (by decide) (by decide)
  | delete delete => exact reads_onTable (delete.filter.reads h) (by decide) (by decide)

/-! ## Names and strings stay inside their quotes -/

namespace Lexeme

/-- Pieces that differ between quotes alone. -/
def Alike (lexemes others : List Lexeme) : Prop :=
  lexemes.map blank = others.map blank

section

variable {lexemes lexemes' others others' : List Lexeme} {parts parts' : List (List Lexeme)}

theorem Alike.append (h : Alike lexemes lexemes') (h' : Alike others others') :
    Alike (lexemes ++ others) (lexemes' ++ others') := by
  rw [Alike, List.map_append, List.map_append, h, h']

theorem Alike.after (h : Alike lexemes lexemes') (first : Lexeme) :
    Alike (first :: lexemes) (first :: lexemes') := by
  rw [Alike, List.map_cons, List.map_cons, h]

theorem Alike.between (h : Alike lexemes lexemes') (before behind : Lexeme) :
    Alike ([before] ++ lexemes ++ [behind]) ([before] ++ lexemes' ++ [behind]) :=
  (h.after before).append rfl

theorem alike_separated (separator : String) (h : List.Forall₂ Alike parts parts') :
    Alike (separated separator parts) (separated separator parts') := by
  induction h with
  | nil => rfl
  | cons hfirst hrest ih =>
    cases hrest with
    | nil =>
      simp only [separated, List.intercalate_singleton]
      exact hfirst
    | cons hsecond hrest =>
      simp only [separated, List.intercalate_cons_cons] at ih ⊢
      exact (hfirst.append rfl).append ih

theorem alike_clause (keyword : String) (h : List.Forall₂ Alike parts parts') :
    Alike (if parts.isEmpty then [] else plain keyword :: separated ", " parts)
      (if parts'.isEmpty then [] else plain keyword :: separated ", " parts') := by
  cases h with
  | nil => rfl
  | cons hfirst hrest => exact (alike_separated ", " (.cons hfirst hrest)).after (plain keyword)

theorem alikeEach_map {α : Type} {change : α → α} {render : α → List Lexeme} (items : List α)
    (h : ∀ item, Alike (render (change item)) (render item)) :
    List.Forall₂ Alike ((items.map change).map render) (items.map render) := by
  rw [List.map_map, List.forall₂_map_left_iff, List.forall₂_map_right_iff, List.forall₂_same]
  exact fun item _ => h item

theorem alikeEach_between (before behind : String) (h : List.Forall₂ Alike parts parts') :
    List.Forall₂ Alike (parts.map fun part => [plain before] ++ part ++ [plain behind])
      (parts'.map fun part => [plain before] ++ part ++ [plain behind]) := by
  rw [List.forall₂_map_left_iff, List.forall₂_map_right_iff]
  exact h.imp fun _ _ hpart => hpart.between (plain before) (plain behind)

end

end Lexeme

theorem SortItem.alike_clause (order : List SortItem) :
    Alike (clause (order.map blank)) (clause order) := by
  have hitems : List.Forall₂ Alike ((order.map blank).map lexemes) (order.map lexemes) :=
    alikeEach_map order fun _ => rfl
  have hclause := Lexeme.alike_clause " ORDER BY " hitems
  simpa only [clause, List.isEmpty_map] using hclause

theorem Json.alike_literal (value : Json) :
    Alike [Lexeme.ofJson value.blankLiteral] [Lexeme.ofJson value] := by
  cases value <;> rfl

-- By induction on the tree. A node puts the same plain text around its parts whatever is quoted in them.
mutual

theorem Expr.alike : (expr : Expr) → Alike expr.blank.lexemes expr.lexemes
  | .star => rfl
  | .column _ _ => rfl
  | .ident _ => rfl
  | .param _ => rfl
  | .cast expr _ => (Expr.alike expr).append rfl
  | .literal value => value.alike_literal
  | .tuple items => (alike_separated ", " (Expr.alikeEach items)).between _ _
  | .aggregate _ argument => (Expr.alike argument).between _ _
  | .toJson expr => (Expr.alike expr).between _ _
  | .rowToJson query => (Query.alike query).between _ _
  | .jsonAgg expr order first => by
    have harray := (((Expr.alike expr).after (plain "json_agg(")).append
      (SortItem.alike_clause order)).append (rfl : Alike [plain ")"] [plain ")"])
    cases first with
    | true => exact (harray.after (plain "coalesce((")).append rfl
    | false => exact (harray.after (plain "coalesce(")).append rfl

theorem Expr.alikeEach : (exprs : List Expr) →
    List.Forall₂ Alike (Expr.listLexemes (Expr.blankAll exprs)) (Expr.listLexemes exprs)
  | [] => .nil
  | expr :: rest => .cons (Expr.alike expr) (Expr.alikeEach rest)

theorem Expr.alike_operand : (operand : Option Expr) →
    Alike (Expr.operandLexemes (Expr.blankOf operand)) (Expr.operandLexemes operand)
  | none => rfl
  | some expr => (Expr.alike expr).after (plain " ")

theorem Condition.alike : (condition : Condition) →
    Alike condition.blank.lexemes condition.lexemes
  | .literal _ => rfl
  | .compare left op right => by
    have hoperand : Alike (if op.isNullTest then [] else Expr.operandLexemes (Expr.blankOf right))
        (if op.isNullTest then [] else Expr.operandLexemes right) := by
      split
      · rfl
      · exact Expr.alike_operand right
    exact ((Expr.alike left).append rfl).append hoperand
  | .all [] => rfl
  | .all (first :: rest) => alike_separated " AND " (Condition.alikeEach (first :: rest))
  | .any [] => rfl
  | .any (first :: rest) =>
    have hparts := alikeEach_between "(" ")" (Condition.alikeEach (first :: rest))
    (alike_separated " OR " hparts).between _ _
  | .exists query => (Query.alike query).between _ _

theorem Condition.alikeEach : (conditions : List Condition) →
    List.Forall₂ Alike (Condition.listLexemes (Condition.blankAll conditions))
      (Condition.listLexemes conditions)
  | [] => .nil
  | condition :: rest => .cons (Condition.alike condition) (Condition.alikeEach rest)

theorem Query.alike : (query : Query) → Alike query.blank.lexemes query.lexemes
  | { columns, source, joins, filter, order, limit, offset } => by
    have hcolumns := Lexeme.alike_clause " " (Query.alikeEach_columns columns)
    rw [Query.isEmpty_columnLexemes, Query.isEmpty_columnLexemes] at hcolumns
    exact hcolumns.after (plain "SELECT") |>.append (Query.alike_sourceClause source)
      |>.append (Query.alike_joinClauses joins) |>.append (Query.alike_filterClause filter)
      |>.append (SortItem.alike_clause order) |>.append rfl |>.append rfl

theorem Query.alikeEach_columns : (columns : List (Expr × Option String)) →
    List.Forall₂ Alike (Query.columnLexemes (Query.blankColumns columns))
      (Query.columnLexemes columns)
  | [] => .nil
  | (expr, none) :: rest => .cons (Expr.alike expr) (Query.alikeEach_columns rest)
  | (expr, some _) :: rest => .cons ((Expr.alike expr).append rfl) (Query.alikeEach_columns rest)

theorem Query.alike_sourceClause : (source : Option Source) →
    Alike (Query.sourceClause (Source.blankOf source)) (Query.sourceClause source)
  | none => rfl
  | some source => (Source.alike source).after (plain " FROM ")

theorem Source.alike : (source : Source) → Alike source.blank.lexemes source.lexemes
  | .table _ none => rfl
  | .table _ (some _) => rfl
  | .subquery query _ => ((Query.alike query).after (plain "(")).append rfl

theorem Query.alike_joinClauses : (joins : List (Query × String)) →
    Alike (Query.joinClauses (Query.blankJoins joins)) (Query.joinClauses joins)
  | [] => rfl
  | (query, label) :: rest =>
    have hlabel : Alike [plain ") AS ", ident "", plain " ON true"]
        [plain ") AS ", ident label, plain " ON true"] := rfl
    (((Query.alike query).after (plain " LEFT JOIN LATERAL (")).append hlabel).append
      (Query.alike_joinClauses rest)

theorem Query.alike_filterClause : (filter : Option Condition) →
    Alike (Query.filterClause (Condition.blankOf filter)) (Query.filterClause filter)
  | none => rfl
  | some condition => (Condition.alike condition).after (plain " WHERE ")

end

theorem Statement.alike (statement : Statement) :
    Alike statement.blank.lexemes statement.lexemes := by
  cases statement with
  | query query => exact query.alike
  | insert insert =>
    have hcolumns : List.Forall₂ Alike
        ((insert.columns.map fun _ => "").map fun column => [ident column])
        (insert.columns.map fun column => [ident column]) :=
      alikeEach_map insert.columns fun _ => rfl
    have hrows : List.Forall₂ Alike
        ((insert.rows.map Expr.blankAll).map fun row =>
          [plain "("] ++ separated ", " (Expr.listLexemes row) ++ [plain ")"])
        (insert.rows.map fun row =>
          [plain "("] ++ separated ", " (Expr.listLexemes row) ++ [plain ")"]) :=
      alikeEach_map insert.rows fun row => (alike_separated ", " (Expr.alikeEach row)).between _ _
    have htable : Alike [plain "INSERT INTO ", ident "", plain " ("]
        [plain "INSERT INTO ", ident insert.table, plain " ("] := rfl
    exact ((htable.append (alike_separated ", " hcolumns)).append rfl).append
      (alike_separated ", " hrows)
  | update update =>
    have hassignments : List.Forall₂ Alike
        ((update.assignments.map fun assignment => ("", assignment.2.blank)).map fun assignment =>
          [ident assignment.1, plain " = "] ++ assignment.2.lexemes)
        (update.assignments.map fun assignment =>
          [ident assignment.1, plain " = "] ++ assignment.2.lexemes) := by
      refine alikeEach_map update.assignments fun assignment => ?_
      have hcolumn : Alike [ident "", plain " = "] [ident assignment.1, plain " = "] := rfl
      exact hcolumn.append assignment.2.alike
    have htable : Alike [plain "UPDATE ", ident "", plain " SET "]
        [plain "UPDATE ", ident update.table, plain " SET "] := rfl
    exact ((htable.append (alike_separated ", " hassignments)).append rfl).append
      update.filter.alike
  | delete delete =>
    have htable : Alike [plain "DELETE FROM ", ident "", plain " WHERE "]
        [plain "DELETE FROM ", ident delete.table, plain " WHERE "] := rfl
    exact htable.append delete.filter.alike

/-! ## What a scanner reads -/

namespace Tree

theorem text_eq_join (tree : Tree) : tree.text = join tree.lexemes := by
  cases tree <;> rfl

theorem reads (tree : Tree) (h : ∀ type ∈ tree.casts, Unquoted type.text.toList) :
    Reads tree.lexemes tree.quoted := by
  cases tree with
  | expr expr => exact expr.reads h
  | condition condition => exact condition.reads h
  | statement statement => exact statement.reads h

theorem alike (tree : Tree) : Alike tree.blank.lexemes tree.lexemes := by
  cases tree with
  | expr expr => exact expr.alike
  | condition condition => exact condition.alike
  | statement statement => exact statement.alike

/-- The text of a tree ends outside quotes. What is quoted in it are the names and strings of the tree,
and other names and strings in their places change nothing outside their quotes. -/
theorem exists_tokens (tree : Tree) (h : ∀ type ∈ tree.casts, Unquoted type.text.toList) :
    ∃ tokens, tokens? tree.text = some tokens ∧ tokens.filterMap Token.quoted? = tree.quoted ∧
      ∀ other : Tree, other.blank = tree.blank → ∃ tokens', tokens? other.text = some tokens' ∧
        tokens'.map Token.blank = tokens.map Token.blank := by
  obtain ⟨hlegible, hquoted⟩ := tree.reads h
  refine ⟨tree.lexemes.flatMap Lexeme.tokens, ?_, ?_, fun other hblank => ?_⟩
  · rw [text_eq_join]
    exact tokens?_join hlegible
  · rw [quoted?_flatMap_tokens, hquoted]
  · have hsame : other.lexemes.map Lexeme.blank = tree.lexemes.map Lexeme.blank := by
      rw [← other.alike, hblank, tree.alike]
    -- the other tree may be read as well, since being legible does not depend on what is quoted
    have hother : Legible other.lexemes := by
      rw [← legible_map_blank, hsame, legible_map_blank]
      exact hlegible
    refine ⟨other.lexemes.flatMap Lexeme.tokens, ?_, ?_⟩
    · rw [text_eq_join]
      exact tokens?_join hother
    · rw [map_blank_tokens, map_blank_tokens, hsame]

/-- A deletion whose names and string have quotes in them. -/
def awkward : Tree :=
  .statement (.delete {
    table := "bo\"ok"
    filter := .equal (.cast (.column "bo\"ok" "it's") ⟨"text", [], false⟩)
      (.literal (.str "'; DROP TABLE \"book\" --")) })

/-- All quotes in it are read as content. -/
theorem exists_tokens_awkward : (∀ type ∈ awkward.casts, Unquoted type.text.toList) ∧
    ∃ tokens, tokens? awkward.text = some tokens ∧
      tokens.filterMap Token.quoted? = [.ident "bo\"ok", .ident "bo\"ok", .ident "it's",
        .str "'; DROP TABLE \"book\" --"] := by
  have hcasts : ∀ type ∈ awkward.casts, Unquoted type.text.toList := by
    change ∀ type ∈ [(⟨"text", [], false⟩ : SqlType)], _
    exact List.forall_mem_singleton.2 (by decide)
  obtain ⟨tokens, htokens, hquoted, -⟩ := exists_tokens awkward hcasts
  exact ⟨hcasts, tokens, htokens, hquoted⟩

end Tree

end EntitySql
