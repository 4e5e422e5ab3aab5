import EntitySql.Proofs.Sql.Nesting
import EntitySql.Proofs.Sql.Rendering
import EntitySql.Schema.Field

/-!
# Rendering keeps to its parentheses

Where the keywords of a text can stand, when it was written from a tree.

* A `Lexeme.Comparand` has words but no keywords on its level, and a `Lexeme.Suffix` may follow one.
* A type is `SqlType.Plain` when its name has nothing in it that a condition could be misread for.
  `Field.plain_sqlType` says that the types of fields are so.
* `Expr.comparand` and its like say that expressions are rendered as operands, and that conditions and
  queries close the parentheses that they open.
-/

namespace EntitySql

set_option autoImplicit false

open Bracketed

/-! ## Operands -/

namespace Lexeme

/-- Pieces with words but without keywords on the level where they stand. -/
def Comparand (lexemes : List Lexeme) : Prop :=
  ∃ level, Nests lexemes level ∧ Tame level ∧ words level ≠ []

/-- Pieces without keywords that continue no word. -/
def Suffix (lexemes : List Lexeme) : Prop :=
  ∃ level, Nests lexemes level ∧ Tame level ∧ level.head?.all isStop = true

section

variable {lexemes others : List Lexeme} {text other : String}

theorem Comparand.balanced (h : Comparand lexemes) : Balanced lexemes :=
  have ⟨level, hnests, _⟩ := h
  ⟨level, hnests⟩

theorem Comparand.append (h : Comparand lexemes) (h' : Suffix others) : Comparand (lexemes ++ others) := by
  obtain ⟨level, hnests, htame, hne⟩ := h
  obtain ⟨rest, hnests', htame', hopens⟩ := h'
  have hwords : words (level ++ rest) = words level ++ words rest := words_append_of_head? hopens
  refine ⟨level ++ rest, hnests.append hnests', tame_append hwords htame htame', ?_⟩
  rw [hwords]
  exact List.append_ne_nil_of_left_ne_nil hne _

theorem Suffix.append (h : Suffix lexemes) (h' : Suffix others) : Suffix (lexemes ++ others) := by
  obtain ⟨level, hnests, htame, hopens⟩ := h
  obtain ⟨rest, hnests', htame', hopens'⟩ := h'
  have hwords : words (level ++ rest) = words level ++ words rest := words_append_of_head? hopens'
  refine ⟨level ++ rest, hnests.append hnests', tame_append hwords htame htame', ?_⟩
  cases level with
  | nil => exact hopens'
  | cons first level => exact hopens

theorem comparand_congr (h : lexemes.flatMap tokens = others.flatMap tokens) :
    Comparand lexemes ↔ Comparand others :=
  exists_congr fun _ => and_congr_left' (nests_congr h)

theorem suffix_congr (h : lexemes.flatMap tokens = others.flatMap tokens) :
    Suffix lexemes ↔ Suffix others :=
  exists_congr fun _ => and_congr_left' (nests_congr h)

theorem Suffix.plain_append (h : Suffix [plain text]) (h' : Suffix [plain other]) :
    Suffix [plain (text ++ other)] :=
  (suffix_congr (flatMap_tokens_plain_append text other)).2 (h.append h')

theorem suffix_plain (hflat : Flat text) (htame : Tame (letters text))
    (hopens : (letters text).head?.all isStop = true) : Suffix [plain text] :=
  ⟨letters text, nests_plain hflat, htame, hopens⟩

theorem suffix_parens (h : Balanced lexemes) : Suffix ([plain "("] ++ lexemes ++ [plain ")"]) := by
  obtain ⟨inside, hnests⟩ := h
  have hlevel : Nests ([plain "("] ++ lexemes ++ [plain ")"]) [.parens inside] :=
    hnests.between "" "" (by decide) (by decide)
  exact ⟨_, hlevel, tame_parens inside, rfl⟩

theorem comparand_plain (hflat : Flat text) (htame : Tame (letters text)) (hne : words (letters text) ≠ []) :
    Comparand [plain text] :=
  ⟨letters text, nests_plain hflat, htame, hne⟩

theorem comparand_quoted {lexeme : Lexeme} {content : Quoted} (h : lexeme.tokens = [.quoted content]) :
    Comparand [lexeme] :=
  ⟨_, nests_quoted h, tame_quoted content, List.cons_ne_nil _ _⟩

theorem suffix_quoted {lexeme : Lexeme} {content : Quoted} (h : lexeme.tokens = [.quoted content]) :
    Suffix [lexeme] :=
  ⟨_, nests_quoted h, tame_quoted content, rfl⟩

theorem flat_of_harmless (h : ∀ c ∈ text.toList, isHarmless c = true) : Flat text := by
  intro c hc
  have hharmless := h c hc
  constructor
  · rintro rfl
    cases hharmless
  · rintro rfl
    cases hharmless

theorem tame_of_harmless (h : ∀ c ∈ text.toList, isHarmless c = true) : Tame (letters text) := by
  -- every keyword has a letter that no harmless character has
  have hinitial : (reserved.all fun word => word.any fun letter =>
      letter ∈ ['=', '<', '>', 'l', 'i', 'n', 'a', 'o'].map some) = true := by
    decide
  intro word hword hreserved
  obtain ⟨letter, hmem, hinitial⟩ := List.any_eq_true.1 (List.all_eq_true.1 hinitial word hreserved)
  obtain ⟨c, hc, rfl⟩ := List.mem_map.1 (of_decide_eq_true hinitial)
  obtain ⟨word', hword', rfl⟩ := List.mem_map.1 hword
  obtain ⟨element, helement, hletter⟩ := List.mem_map.1 hmem
  obtain ⟨d, hd, hd'⟩ := List.mem_map.1 (mem_of_mem_words hword' helement)
  rw [← hd'] at hletter
  obtain rfl : d.toLower = c := Option.some.inj hletter
  have hharmless := (Bool.and_eq_true_iff.1 (h d hd)).2
  exact of_decide_eq_true hharmless hc

theorem comparand_harmless {lexeme : Lexeme} (hne : text ≠ "")
    (h : ∀ c ∈ text.toList, isHarmless c = true)
    (htokens : lexeme.tokens = text.toList.map .outer) : Comparand [lexeme] := by
  refine ⟨letters text, nests_outer (flat_of_harmless h) htokens, tame_of_harmless h, ?_⟩
  cases hchars : text.toList with
  | nil => exact absurd (String.toList_eq_nil_iff.1 hchars) hne
  | cons c rest =>
    have hmem : c ∈ text.toList := by
      rw [hchars]
      exact List.mem_cons_self ..
    have hblank := (Bool.and_eq_true_iff.1 (Bool.and_eq_true_iff.1 (h c hmem)).1).2
    rw [Bool.not_eq_true'] at hblank
    exact words_ne_nil (List.mem_map_of_mem hmem) hblank

theorem comparand_between (head : String) (hflat : Flat head) (htame : Tame (letters head)) (h : Balanced lexemes) :
    Comparand ([plain (head ++ "(")] ++ lexemes ++ [plain ")"]) := by
  obtain ⟨inside, hnests⟩ := h
  have hlevel : Nests ([plain (head ++ "(")] ++ lexemes ++ [plain ")"])
      (letters head ++ [.parens inside]) := by
    have hbetween := hnests.between head "" hflat (by decide)
    rwa [show letters "" = [] from rfl, List.append_nil] at hbetween
  have hwords : words (letters head ++ [.parens inside]) = words (letters head) ++ words [.parens inside] :=
    words_append_of_head? rfl
  refine ⟨_, hlevel, tame_append hwords htame (tame_parens inside), ?_⟩
  rw [hwords]
  exact List.append_ne_nil_of_right_ne_nil _ (List.cons_ne_nil _ _)

end

end Lexeme

/-! ## Types -/

theorem forall_mem_intercalate {α : Type} {P : α → Prop} {separator : List α} {parts : List (List α)}
    (hseparator : ∀ a ∈ separator, P a) (h : ∀ part ∈ parts, ∀ a ∈ part, P a) :
    ∀ a ∈ separator.intercalate parts, P a := by
  induction parts with
  | nil => exact List.forall_mem_nil _
  | cons part parts ih =>
    obtain ⟨hpart, hparts⟩ := List.forall_mem_cons.1 h
    cases parts with
    | nil =>
      rw [List.intercalate_singleton]
      exact hpart
    | cons second parts =>
      rw [List.intercalate_cons_cons]
      exact List.forall_mem_append.2 ⟨List.forall_mem_append.2 ⟨hpart, hseparator⟩, ih hparts⟩

namespace SqlType

/-- The name of the type has no quotes, parentheses or keywords of conditions in it. -/
structure Plain (type : SqlType) : Prop where
  unquoted : Unquoted type.name.toList
  flat : Lexeme.Flat type.name
  tame : Tame (Lexeme.letters type.name)

instance (type : SqlType) : Decidable type.Plain :=
  decidable_of_iff (Unquoted type.name.toList ∧ Lexeme.Flat type.name ∧ Tame (Lexeme.letters type.name))
    ⟨fun ⟨unquoted, flat, tame⟩ => ⟨unquoted, flat, tame⟩,
      fun ⟨unquoted, flat, tame⟩ => ⟨unquoted, flat, tame⟩⟩

/-- The characters of arguments, if they are separated. -/
theorem forall_mem_arguments {P : Char → Prop} (hcomma : P ',') (hblank : P ' ')
    (hnumber : ∀ n : Nat, ∀ c ∈ (toString n).toList, P c) (numbers : List Nat) :
    ∀ c ∈ (", ".intercalate (numbers.map toString)).toList, P c := by
  rw [String.toList_intercalate, List.map_map]
  exact forall_mem_intercalate (List.forall_mem_cons.2 ⟨hcomma, List.forall_mem_singleton.2 hblank⟩)
    (List.forall_mem_map.2 fun n _ => hnumber n)

theorem text_eq (type : SqlType) : ∃ arguments suffix : String,
    type.text = type.name ++ arguments ++ suffix ∧ (suffix = "" ∨ suffix = "[]") ∧
      (arguments = "" ∨ arguments = "(" ++ ", ".intercalate (type.arguments.map toString) ++ ")") := by
  obtain ⟨name, arguments, isArray⟩ := type
  refine ⟨_, _, rfl, ?_, ?_⟩
  · cases isArray
    · exact .inl rfl
    · exact .inr rfl
  · cases arguments
    · exact .inl rfl
    · exact .inr rfl

theorem Plain.unquoted_text {type : SqlType} (h : type.Plain) : Unquoted type.text.toList := by
  obtain ⟨arguments, suffix, htext, hsuffix, harguments⟩ := type.text_eq
  have hsuffix' : Unquoted suffix.toList := by
    rcases hsuffix with rfl | rfl
    · decide
    · decide
  have harguments' : Unquoted arguments.toList := by
    rcases harguments with rfl | rfl
    · decide
    · rw [String.toList_append, String.toList_append]
      refine (Unquoted.append (by decide) ?_).append (by decide)
      exact forall_mem_arguments (P := fun c => Quote.ofChar? c = none) rfl rfl
        (fun n => (numeric_nat n).unquoted) _
  rw [htext, String.toList_append, String.toList_append]
  exact (h.unquoted.append harguments').append hsuffix'

theorem Plain.suffix {type : SqlType} (h : type.Plain) : Lexeme.Suffix [.plain ("::" ++ type.text)] := by
  obtain ⟨arguments, suffix, htext, hsuffix, harguments⟩ := type.text_eq
  have hsuffix' : Lexeme.Suffix [.plain suffix] := by
    rcases hsuffix with rfl | rfl
    · exact Lexeme.suffix_plain (by decide) (by decide) (by decide)
    · exact Lexeme.suffix_plain (by decide) (by decide) (by decide)
  have harguments' : Lexeme.Suffix [.plain arguments] := by
    rcases harguments with rfl | rfl
    · exact Lexeme.suffix_plain (by decide) (by decide) (by decide)
    · have hflat : Lexeme.Flat (", ".intercalate (type.arguments.map toString)) :=
        forall_mem_arguments (by decide) (by decide)
          (fun n => Lexeme.flat_of_harmless (numeric_nat n).isHarmless) _
      refine (Lexeme.suffix_congr ?_).1 (Lexeme.suffix_parens (Lexeme.balanced_plain hflat))
      rw [Lexeme.flatMap_tokens_plain_append, List.flatMap_append, List.flatMap_append,
        List.flatMap_append, Lexeme.flatMap_tokens_plain_append, List.flatMap_append]
  have hname : Lexeme.Suffix [.plain ("::" ++ type.name)] := by
    have hcolons : words (Lexeme.letters "::" ++ Lexeme.letters type.name) =
        words (Lexeme.letters "::") ++ words (Lexeme.letters type.name) :=
      words_append_of_getLast? (by decide)
    refine ⟨_, (Lexeme.nests_plain_append "::" type.name).2
      ((Lexeme.nests_plain (by decide)).append (Lexeme.nests_plain h.flat)), ?_, rfl⟩
    exact tame_append hcolons (by decide) h.tame
  rw [htext, ← String.append_assoc, ← String.append_assoc]
  exact (hname.plain_append harguments').plain_append hsuffix'

end SqlType

/-- The types of fields are plain. -/
theorem Field.plain_sqlType (field : Field) : field.sqlType.Plain := by
  have hname : ∀ type : FieldType, (⟨type.baseSql, [], false⟩ : SqlType).Plain := by
    intro type
    cases type <;> decide
  exact ⟨(hname field.type).unquoted, (hname field.type).flat, (hname field.type).tame⟩

/-! ## Trees -/

open Lexeme

theorem SortItem.balanced_clause (order : List SortItem) : Balanced (SortItem.clause order) := by
  have hitem : ∀ item : SortItem, Balanced item.lexemes := by
    intro item
    have hdirection : Flat (" " ++ item.direction.text ++ " NULLS LAST") := by
      cases item.direction <;> decide
    exact (balanced_ident item.column).append (balanced_plain hdirection)
  have hclause := Lexeme.balanced_clause " ORDER BY " (by decide)
    (List.forall_mem_map.2 fun item (_ : item ∈ order) => hitem item)
  rwa [List.isEmpty_map] at hclause

theorem balanced_numberClause {keyword : String} (h : Flat keyword) (number : Option Nat) :
    Balanced (numberClause keyword number) := by
  cases number with
  | none => exact balanced_nil
  | some n =>
    refine balanced_plain ?_
    rw [Flat, String.toList_append]
    exact List.forall_mem_append.2 ⟨h, flat_of_harmless (numeric_nat n).isHarmless⟩

theorem Json.comparand (value : Json) : Comparand [Lexeme.ofJson value] := by
  have hnumber : ∀ {text : String}, text ≠ "" → Numeric text.toList → Comparand [plain text] :=
    fun hne h => comparand_harmless hne h.isHarmless rfl
  cases value with
  | null => exact comparand_plain (by decide) (by decide) (by decide)
  | bool value =>
    cases value with
    | true => exact comparand_plain (by decide) (by decide) (by decide)
    | false => exact comparand_plain (by decide) (by decide) (by decide)
  | int n => exact hnumber (int_ne_empty n) (numeric_int n)
  | double x => exact hnumber x.toText_ne_empty x.numeric_toText
  | str content => exact comparand_quoted rfl
  | arr items => exact comparand_quoted rfl
  | obj members => exact comparand_quoted rfl

theorem comparand_param (index : Nat) : Comparand [Lexeme.param index] := by
  have htext : (Lexeme.param index).text ≠ "" :=
    (unquoted_of_clean (show (Lexeme.param index).Clean from trivial) rfl).1
  refine comparand_harmless htext ?_ rfl
  rw [text, String.toList_append]
  exact List.forall_mem_append.2 ⟨List.all_eq_true.1 rfl, (numeric_nat index).isHarmless⟩

-- By induction on the tree. Only what is on the level of an expression itself matters to its words, so
-- that of whatever stands in parentheses it is enough to know that it closes its own.
mutual

theorem Expr.comparand : (expr : Expr) → (∀ type ∈ expr.casts, type.Plain) → Comparand expr.lexemes
  | .star, _ => comparand_plain (by decide) (by decide) (by decide)
  | .column _ _, _ =>
    have hdot : Suffix [plain "."] := suffix_plain (by decide) (by decide) (by decide)
    (comparand_quoted rfl).append (hdot.append (suffix_quoted rfl))
  | .ident _, _ => comparand_quoted rfl
  | .param index, _ => comparand_param index
  | .cast expr type, h =>
    have ⟨hinner, htype⟩ := List.forall_mem_append.1 h
    (Expr.comparand expr hinner).append (htype type (List.mem_singleton_self type)).suffix
  | .literal value, _ => value.comparand
  | .tuple items, h =>
    comparand_between "" (by decide) (by decide)
      (balanced_separated (by decide) (Expr.balanced items h))
  | .aggregate function argument, h => by
    have hname : Flat function.name ∧ Tame (letters function.name) := by
      cases function <;> decide
    exact comparand_between function.name hname.1 hname.2 (Expr.comparand argument h).balanced
  | .toJson expr, h =>
    comparand_between "to_json" (by decide) (by decide) (Expr.comparand expr h).balanced
  | .rowToJson query, h => by
    have hquery : Balanced ([plain "("] ++ query.lexemes ++ [plain ")"]) :=
      (Query.balanced query h).between "" "" (by decide) (by decide)
    refine (comparand_congr ?_).1
      (comparand_between "row_to_json" (by decide) (by decide) hquery)
    simp only [Expr.lexemes, List.flatMap_append, List.append_assoc]
    rfl
  | .jsonAgg expr order first, h => by
    have harray : Balanced ([plain "json_agg("] ++ (expr.lexemes ++ SortItem.clause order) ++ [plain ")"]) :=
      ((Expr.comparand expr h).balanced.append (SortItem.balanced_clause order)).between
        "json_agg" "" (by decide) (by decide)
    cases first with
    | true =>
      have hfirst := (harray.before " -> 0" (by decide)).between
        "" ", " (by decide) (by decide)
      have hboth := hfirst.append (balanced_str "null")
      refine (comparand_congr ?_).1 (comparand_between "coalesce" (by decide) (by decide) hboth)
      simp only [Expr.lexemes, if_true, List.flatMap_append, List.append_assoc]
      rfl
    | false =>
      have hboth := (harray.before ", " (by decide)).append (balanced_str "[]")
      refine (comparand_congr ?_).1 (comparand_between "coalesce" (by decide) (by decide) hboth)
      simp only [Expr.lexemes, Bool.false_eq_true, if_false, List.flatMap_append, List.append_assoc]
      rfl

theorem Expr.balanced : (exprs : List Expr) → (∀ type ∈ Expr.castsAll exprs, type.Plain) →
    ∀ part ∈ Expr.listLexemes exprs, Balanced part
  | [], _ => List.forall_mem_nil _
  | expr :: rest, h =>
    have ⟨hfirst, hrest⟩ := List.forall_mem_append.1 h
    List.forall_mem_cons.2 ⟨(Expr.comparand expr hfirst).balanced, Expr.balanced rest hrest⟩

theorem Expr.balanced_operand : (operand : Option Expr) →
    (∀ type ∈ Expr.castsOf operand, type.Plain) → Balanced (Expr.operandLexemes operand)
  | none, _ => balanced_nil
  | some expr, h => (Expr.comparand expr h).balanced.after " " (by decide)

theorem Condition.balanced : (condition : Condition) → (∀ type ∈ condition.casts, type.Plain) →
    Balanced condition.lexemes
  | .literal true, _ => balanced_plain (by decide)
  | .literal false, _ => balanced_plain (by decide)
  | .compare left op right, h => by
    obtain ⟨hleft, hright⟩ := List.forall_mem_append.1 h
    have hop : Flat (" " ++ op.text) := by
      cases op <;> decide
    have hoperand : Balanced (if op.isNullTest then [] else Expr.operandLexemes right) := by
      split
      · exact balanced_nil
      · exact Expr.balanced_operand right hright
    exact ((Expr.comparand left hleft).balanced.append (balanced_plain hop)).append hoperand
  | .all [], _ => balanced_plain (by decide)
  | .all (first :: rest), h => balanced_separated (by decide) (Condition.balancedEach (first :: rest) h)
  | .any [], _ => balanced_plain (by decide)
  | .any (first :: rest), h => by
    have hparts : ∀ part ∈ (Condition.listLexemes (first :: rest)).map
        (fun part => [plain "("] ++ part ++ [plain ")"]), Balanced part := by
      refine List.forall_mem_map.2 fun part hpart => ?_
      exact (Condition.balancedEach (first :: rest) h part hpart).between "" ""
        (by decide) (by decide)
    have hor : Balanced (separated " OR " _) := balanced_separated (by decide) hparts
    have hinside := (hor.after " " (by decide)).before " " (by decide)
    refine (balanced_congr ?_).1 (hinside.between "" "" (by decide) (by decide))
    simp only [Condition.lexemes, List.isEmpty_cons, Bool.false_eq_true, if_false, List.flatMap_append,
      List.append_assoc]
    rfl
  | .exists query, h => by
    have hquery := ((Query.balanced query h).after " " (by decide)).before " " (by decide)
    have hinside := hquery.between " EXISTS " " " (by decide) (by decide)
    refine (balanced_congr ?_).1 (hinside.between "" "" (by decide) (by decide))
    simp only [Condition.lexemes, List.flatMap_append, List.append_assoc]
    rfl

theorem Condition.balancedEach : (conditions : List Condition) →
    (∀ type ∈ Condition.castsAll conditions, type.Plain) →
      ∀ part ∈ Condition.listLexemes conditions, Balanced part
  | [], _ => List.forall_mem_nil _
  | condition :: rest, h =>
    have ⟨hfirst, hrest⟩ := List.forall_mem_append.1 h
    List.forall_mem_cons.2 ⟨Condition.balanced condition hfirst, Condition.balancedEach rest hrest⟩

theorem Query.balanced : (query : Query) → (∀ type ∈ query.casts, type.Plain) → Balanced query.lexemes
  | { columns, source, joins, filter, order, limit, offset }, h => by
    obtain ⟨h, hfilter⟩ := List.forall_mem_append.1 h
    obtain ⟨h, hjoins⟩ := List.forall_mem_append.1 h
    obtain ⟨hcolumns, hsource⟩ := List.forall_mem_append.1 h
    have hlisted : Balanced (if columns.isEmpty then [] else
        plain " " :: separated ", " (Query.columnLexemes columns)) := by
      have hclause := Lexeme.balanced_clause " " (by decide)
        (Query.balanced_columns columns hcolumns)
      rwa [Query.isEmpty_columnLexemes] at hclause
    have hselect : Balanced [plain "SELECT"] := balanced_plain (by decide)
    exact hselect.append hlisted
      |>.append (Query.balanced_sourceClause source hsource)
      |>.append (Query.balanced_joinClauses joins hjoins)
      |>.append (Query.balanced_filterClause filter hfilter)
      |>.append (SortItem.balanced_clause order)
      |>.append (balanced_numberClause (by decide) limit)
      |>.append (balanced_numberClause (by decide) offset)

theorem Query.balanced_columns : (columns : List (Expr × Option String)) →
    (∀ type ∈ Query.columnCasts columns, type.Plain) →
      ∀ part ∈ Query.columnLexemes columns, Balanced part
  | [], _ => List.forall_mem_nil _
  | (expr, none) :: rest, h =>
    have ⟨hfirst, hrest⟩ := List.forall_mem_append.1 h
    List.forall_mem_cons.2 ⟨(Expr.comparand expr hfirst).balanced, Query.balanced_columns rest hrest⟩
  | (expr, some label) :: rest, h =>
    have ⟨hfirst, hrest⟩ := List.forall_mem_append.1 h
    have hlabel := (balanced_ident label).after " AS " (by decide)
    List.forall_mem_cons.2
      ⟨(Expr.comparand expr hfirst).balanced.append hlabel, Query.balanced_columns rest hrest⟩

theorem Query.balanced_sourceClause : (source : Option Source) →
    (∀ type ∈ Source.castsOf source, type.Plain) → Balanced (Query.sourceClause source)
  | none, _ => balanced_nil
  | some source, h => (Source.balanced source h).after " FROM " (by decide)

theorem Source.balanced : (source : Source) → (∀ type ∈ source.casts, type.Plain) →
    Balanced source.lexemes
  | .table name none, _ => balanced_ident name
  | .table name (some label), _ =>
    (balanced_ident name).append ((balanced_ident label).after " AS " (by decide))
  | .subquery query label, h => by
    have hquery := (Query.balanced query h).between "" " AS " (by decide) (by decide)
    refine (balanced_congr ?_).1 (hquery.append (balanced_ident label))
    simp only [Source.lexemes, List.flatMap_append, List.append_assoc]
    rfl

theorem Query.balanced_joinClauses : (joins : List (Query × String)) →
    (∀ type ∈ Query.joinCasts joins, type.Plain) → Balanced (Query.joinClauses joins)
  | [], _ => balanced_nil
  | (query, label) :: rest, h => by
    obtain ⟨hquery, hrest⟩ := List.forall_mem_append.1 h
    have hjoined := (Query.balanced query hquery).between " LEFT JOIN LATERAL " " AS "
      (by decide) (by decide)
    have hlabel := (balanced_ident label).before " ON true" (by decide)
    refine (balanced_congr ?_).1 ((hjoined.append hlabel).append (Query.balanced_joinClauses rest hrest))
    simp only [Query.joinClauses, List.flatMap_append, List.append_assoc]
    rfl

theorem Query.balanced_filterClause : (filter : Option Condition) →
    (∀ type ∈ Condition.castsOf filter, type.Plain) → Balanced (Query.filterClause filter)
  | none, _ => balanced_nil
  | some condition, h => (Condition.balanced condition h).after " WHERE " (by decide)

end

end EntitySql
