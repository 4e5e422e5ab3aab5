import EntitySql.Proofs.Sql.Comparands

/-!
# Rendering keeps the logic of a condition

Conjunctions are written without parentheses around them or their parts. That the text of a condition is
still read as it is meant rests on where its connectives stand: no operand has one on its level, and every
disjunction is in parentheses, as are its alternatives.

* `Condition.truth` is the truth value of a condition under those of its comparisons and sub-queries,
  `Condition.atoms`.
* `ReadsAs` says of a text that its formula has given atoms and truth values.
* `Lexeme.Linked` says of a list of pieces that it is read as parts under one connective, and
  `Lexeme.Stated` that it is read at all.
-/

namespace EntitySql

set_option autoImplicit false

open Bracketed Lexeme

/-! ## The logic of a condition -/

mutual

/-- The comparisons and the tests of sub-queries, from left to right. -/
def Condition.atoms : Condition → List Condition
  | .literal _ => []
  | .compare left op right => [.compare left op right]
  | .all conditions => Condition.atomsAll conditions
  | .any conditions => Condition.atomsAll conditions
  | .exists query => [.exists query]
termination_by structural condition => condition

def Condition.atomsAll : List Condition → List Condition
  | [] => []
  | condition :: rest => condition.atoms ++ Condition.atomsAll rest
termination_by structural conditions => conditions

end

mutual

/-- The truth value under those of the atoms. Groups without parts are true. -/
def Condition.truth (value : Condition → Truth) : Condition → Truth
  | .literal b => .ofBool b
  | .compare left op right => value (.compare left op right)
  | .all conditions => .all (Condition.truths value conditions)
  | .any conditions =>
    if conditions.isEmpty then .holds else .any (Condition.truths value conditions)
  | .exists query => value (.exists query)
termination_by structural condition => condition

def Condition.truths (value : Condition → Truth) : List Condition → List Truth
  | [] => []
  | condition :: rest => condition.truth value :: Condition.truths value rest
termination_by structural conditions => conditions

end

namespace Condition

/-- Whether a comparison has the operand that its operator needs. -/
def isComplete : Condition → Bool
  | .compare _ op none => op.isNullTest
  | _ => true

/-- The types of the condition are plain, and its comparisons have their operands. -/
structure Readable (condition : Condition) : Prop where
  plain : ∀ type ∈ condition.casts, type.Plain
  complete : ∀ atom ∈ condition.atoms, atom.isComplete = true

theorem atomsAll_eq_flatMap (conditions : List Condition) :
    atomsAll conditions = conditions.flatMap atoms := by
  induction conditions with
  | nil => rfl
  | cons condition rest ih => rw [atomsAll, ih, List.flatMap_cons]

theorem truths_eq_map (value : Condition → Truth) (conditions : List Condition) :
    truths value conditions = conditions.map (truth value) := by
  induction conditions with
  | nil => rfl
  | cons condition rest ih => rw [truths, ih, List.map_cons]

theorem castsAll_eq_flatMap (conditions : List Condition) :
    castsAll conditions = conditions.flatMap casts := by
  induction conditions with
  | nil => rfl
  | cons condition rest ih => rw [castsAll, ih, List.flatMap_cons]

theorem listLexemes_eq_map (conditions : List Condition) :
    listLexemes conditions = conditions.map lexemes := by
  induction conditions with
  | nil => rfl
  | cons condition rest ih => rw [listLexemes, ih, List.map_cons]

theorem readable_all {conditions : List Condition} :
    (Condition.all conditions).Readable ↔ ∀ condition ∈ conditions, condition.Readable := by
  constructor
  · rintro ⟨hplain, hcomplete⟩ condition hmem
    rw [casts, castsAll_eq_flatMap] at hplain
    rw [atoms, atomsAll_eq_flatMap] at hcomplete
    exact ⟨fun type htype => hplain type (List.mem_flatMap_of_mem hmem htype),
      fun atom hatom => hcomplete atom (List.mem_flatMap_of_mem hmem hatom)⟩
  · intro h
    constructor
    · rw [casts, castsAll_eq_flatMap]
      exact List.forall_mem_flatMap.2 fun condition hmem => (h condition hmem).plain
    · rw [atoms, atomsAll_eq_flatMap]
      exact List.forall_mem_flatMap.2 fun condition hmem => (h condition hmem).complete

end Condition

/-! ## What a formula means -/

/-- The formula has the atoms, each with the words that stand for it, and the truth values. -/
structure Formula.Means (formula : Formula (Condition × Phrase)) (atoms : List Condition)
    (truth : (Condition → Truth) → Truth) : Prop where
  atoms : formula.atoms.map Prod.fst = atoms
  texts : ∀ atom ∈ formula.atoms, read? atom.1.text = some (.atom atom.2)
  truth : ∀ value, formula.truth (fun atom => value atom.1) = truth value

/-- The text is read as a formula with the atoms, written as they are on their own, that has the truth
values whatever those of the atoms are. -/
def ReadsAs (text : String) (atoms : List Condition) (truth : (Condition → Truth) → Truth) : Prop :=
  ∃ formula : Formula (Condition × Phrase),
    read? text = some (formula.map Prod.snd) ∧ formula.Means atoms truth

theorem Formula.Means.joinAll_append {connective : Connective}
    {parts others : List (Formula (Condition × Phrase))} {atoms atoms' : List Condition}
    {truth truth' : (Condition → Truth) → Truth} (h : (joinAll connective parts).Means atoms truth)
    (h' : (joinAll connective others).Means atoms' truth') :
    (joinAll connective (parts ++ others)).Means (atoms ++ atoms')
      fun value => connective.apply (truth value) (truth' value) where
  atoms := by
    rw [← h.atoms, ← h'.atoms, atoms_joinAll, atoms_joinAll, atoms_joinAll, List.flatMap_append,
      List.map_append]
  texts := by
    have hparts := h.texts
    have hothers := h'.texts
    rw [atoms_joinAll] at hparts hothers ⊢
    rw [List.flatMap_append]
    exact List.forall_mem_append.2 ⟨hparts, hothers⟩
  truth value := by
    rw [← h.truth, ← h'.truth, truth_joinAll, truth_joinAll, truth_joinAll, List.map_append,
      Connective.applyAll_append]

/-! ## Reading pieces -/

namespace Connective

/-- The connective as conditions are written with it. -/
def separator : Connective → String
  | and => " AND "
  | or => " OR "

/-- How the parts that the connective joins are read. -/
def readPart : Connective → Words → Option (Formula Phrase)
  | and => readUnit
  | or => readConjunction

theorem separator_words (connective : Connective) :
    ∃ word, words (letters connective.separator) = [word] ∧
      spelling word = spelled connective.keyword := by
  cases connective
  · exact ⟨_, rfl, by decide⟩
  · exact ⟨_, rfl, by decide⟩

end Connective

namespace Lexeme

/-- The pieces are read as parts that the connective joins. -/
def Linked (connective : Connective) (lexemes : List Lexeme) (atoms : List Condition)
    (truth : (Condition → Truth) → Truth) : Prop :=
  ∃ level parts, Nests lexemes level ∧
    readParts connective connective.readPart (words level) = some (parts.map (Formula.map Prod.snd)) ∧
    (Formula.joinAll connective parts).Means atoms truth ∧
    (connective = .and → ∀ word ∈ words level, spelling word ≠ spelled Connective.or.keyword)

/-- The pieces are read as a formula. -/
def Stated (lexemes : List Lexeme) (atoms : List Condition) (truth : (Condition → Truth) → Truth) :
    Prop :=
  ∃ level, ∃ formula : Formula (Condition × Phrase), Nests lexemes level ∧
    readWords (words level) = some (formula.map Prod.snd) ∧ formula.Means atoms truth

section

variable {connective : Connective} {lexemes others : List Lexeme} {atoms atoms' : List Condition}
  {truth truth' : (Condition → Truth) → Truth}

theorem Linked.append (h : Linked connective lexemes atoms truth)
    (h' : Linked connective others atoms' truth') :
    Linked connective (lexemes ++ [plain connective.separator] ++ others) (atoms ++ atoms')
      fun value => connective.apply (truth value) (truth' value) := by
  obtain ⟨level, parts, hnests, hparts, hmeans, hfree⟩ := h
  obtain ⟨level', parts', hnests', hparts', hmeans', hfree'⟩ := h'
  obtain ⟨word, hseparator, hword⟩ := connective.separator_words
  have hwords : words (level ++ letters connective.separator ++ level') =
      words level ++ word :: words level' := by
    rw [List.append_assoc, words_append_of_head?, words_append_of_getLast?, hseparator]
    · rfl
    · cases connective <;> rfl
    · cases connective <;> rfl
  refine ⟨_, parts ++ parts', (hnests.append (nests_plain ?_)).append hnests', ?_,
    hmeans.joinAll_append hmeans', ?_⟩
  · cases connective <;> decide
  · rw [hwords, List.map_append]
    exact readParts_append hword hparts hparts'
  · rintro rfl
    rw [hwords]
    refine List.forall_mem_append.2 ⟨hfree rfl, List.forall_mem_cons.2 ⟨?_, hfree' rfl⟩⟩
    rw [hword]
    decide

theorem linked_separated {conditions : List Condition} (hne : conditions ≠ [])
    {render : Condition → List Lexeme}
    (h : ∀ condition ∈ conditions, Linked connective (render condition) condition.atoms
      fun value => condition.truth value) :
    Linked connective (separated connective.separator (conditions.map render))
      (conditions.flatMap Condition.atoms)
      fun value => connective.applyAll (conditions.map (Condition.truth value)) := by
  induction conditions with
  | nil => exact absurd rfl hne
  | cons condition rest ih =>
    obtain ⟨hfirst, hrest⟩ := List.forall_mem_cons.1 h
    cases rest with
    | nil =>
      have htruth : (fun value => connective.applyAll ([condition].map (Condition.truth value))) =
          fun value => condition.truth value := by
        funext value
        exact connective.apply_neutral _
      rw [htruth, List.map_singleton, separated, List.intercalate_singleton, List.flatMap_singleton]
      exact hfirst
    | cons next rest =>
      have hjoined := hfirst.append (ih (List.cons_ne_nil _ _) hrest)
      rw [List.map_cons, List.map_cons, separated, List.intercalate_cons_cons, List.flatMap_cons]
      exact hjoined

/-- Parts without connectives among their words. -/
theorem linked_of_readUnit {level : List Bracketed} {formula : Formula (Condition × Phrase)}
    (hnests : Nests lexemes level) (hread : readUnit (words level) = some (formula.map Prod.snd))
    (hfree : Free (words level)) (hmeans : formula.Means atoms truth) : Linked .and lexemes atoms truth := by
  refine ⟨level, [formula], hnests, ?_, hmeans, fun _ => hfree .or⟩
  rw [readParts_of_free (hfree .and)]
  change (readUnit (words level)).map ([·]) = _
  rw [hread]
  rfl

theorem Linked.stated (h : Linked connective lexemes atoms truth) : Stated lexemes atoms truth := by
  obtain ⟨level, parts, hnests, hparts, hmeans, hfree⟩ := h
  refine ⟨level, _, hnests, ?_, hmeans⟩
  rw [Formula.map_joinAll]
  cases connective with
  | and =>
    have hconjunction : readConjunction (words level) =
        some (.joinAll .and (parts.map (Formula.map Prod.snd))) := by
      change (readParts .and readUnit (words level)).map _ = _
      rw [show readParts .and readUnit (words level) = _ from hparts]
      rfl
    rw [readWords, readParts_of_free (hfree rfl), hconjunction]
    rfl
  | or =>
    rw [readWords, show readParts .or readConjunction (words level) = _ from hparts]
    rfl

theorem linked_congr (h : lexemes.flatMap tokens = others.flatMap tokens) :
    Linked connective lexemes atoms truth ↔ Linked connective others atoms truth :=
  exists_congr fun _ => exists_congr fun _ => and_congr_left' (nests_congr h)

/-- Blanks around pieces are no words. -/
theorem Stated.padded (h : Stated lexemes atoms truth) :
    Stated ([plain " "] ++ lexemes ++ [plain " "]) atoms truth := by
  obtain ⟨level, formula, hnests, hread, hmeans⟩ := h
  have hblank : Nests [plain " "] (letters " ") := nests_plain (by decide)
  have hwords : words (letters " " ++ level ++ letters " ") = words level := by
    rw [words_append_of_head? rfl, words_append_of_getLast? rfl]
    exact List.append_nil _
  refine ⟨_, formula, (hblank.append hnests).append hblank, ?_, hmeans⟩
  rw [hwords, hread]

/-- What stands in parentheses is a part for either connective. -/
theorem Stated.parens (h : Stated lexemes atoms truth) (connective : Connective) :
    Linked connective ([plain "("] ++ lexemes ++ [plain ")"]) atoms truth := by
  obtain ⟨inside, formula, hnests, hread, hmeans⟩ := h
  have hlevel : Nests ([plain "("] ++ lexemes ++ [plain ")"]) [.parens inside] :=
    hnests.between "" "" (by decide) (by decide)
  have hunit : readUnit (words [.parens inside]) = some (formula.map Prod.snd) :=
    (readUnit_parens inside).trans hread
  have hfree : Free (words [.parens inside]) := free_of_tame (tame_parens inside)
  have hand := linked_of_readUnit hlevel hunit hfree hmeans
  cases connective with
  | and => exact hand
  | or =>
    refine ⟨[.parens inside], [formula], hlevel, ?_, hmeans, fun h => by cases h⟩
    rw [readParts_of_free (hfree .or)]
    change (readConjunction (words [.parens inside])).map ([·]) = _
    rw [readConjunction_of_free (hfree .and), hunit]
    rfl

theorem read?_join {level : List Bracketed} (hlegible : Legible lexemes) (hnests : Nests lexemes level) :
    read? (join lexemes) = readWords (words level) := by
  have hlevel : nest [] [] (lexemes.flatMap tokens) = some level := by
    have hall := hnests [] [] []
    rwa [List.append_nil] at hall
  rw [read?, tokens?_join hlegible]
  change (nest [] [] (lexemes.flatMap tokens)).bind _ = _
  rw [hlevel]
  rfl

theorem Stated.readsAs (h : Stated lexemes atoms truth) (hlegible : Legible lexemes) :
    ReadsAs (join lexemes) atoms truth := by
  obtain ⟨level, formula, hnests, hread, hmeans⟩ := h
  exact ⟨formula, (read?_join hlegible hnests).trans hread, hmeans⟩

/-- A condition that is read as an atom. -/
theorem linked_atom {condition : Condition} {level : List Bracketed} {phrase : Phrase}
    (hlegible : Legible condition.lexemes) (hnests : Nests condition.lexemes level)
    (hread : readUnit (words level) = some (.atom phrase))
    (hfree : Free (words level)) :
    Linked .and condition.lexemes [condition] fun value => value condition := by
  have htext : read? condition.text = some (.atom phrase) := by
    rw [Condition.text, read?_join hlegible hnests, readWords_of_free hfree, hread]
  have hmeans : (Formula.atom (condition, phrase)).Means [condition] fun value => value condition :=
    ⟨rfl, List.forall_mem_singleton.2 htext, fun _ => rfl⟩
  have hread' : readUnit (words level) = some ((Formula.atom (condition, phrase)).map Prod.snd) := hread
  exact linked_of_readUnit hnests hread' hfree hmeans

end

end Lexeme

/-! ## Comparisons -/

/-- An operator is written as keywords, and behind a test for absence stands `NULL`. -/
theorem Comparison.words_text (op : Comparison) : ∃ operator right : Words,
    words (letters (" " ++ op.text)) = operator ++ right ∧ operator ≠ [] ∧
      (∀ word ∈ operator, isOperator word = true) ∧ (∀ word ∈ right, isOperator word = false) ∧
      Free (operator ++ right) ∧
      if op.isNullTest then
        operator.map spelling ∈ nullTests.map (·.map spelled) ∧ right.map spelling = [spelled "null"]
      else operator.map spelling ∈ comparisons.map (·.map spelled) ∧ right = [] := by
  have hfree : Free (words (letters (" " ++ op.text))) := by
    intro connective
    cases connective <;> cases op <;> decide
  refine ⟨_, _, (List.takeWhile_append_dropWhile (p := isOperator)).symm, ?_⟩
  rw [List.takeWhile_append_dropWhile]
  cases op <;> exact ⟨by decide, by decide, by decide, hfree, by decide⟩

/-- What is written behind an operator: the right operand, or nothing behind a test for absence. -/
theorem Condition.exists_operand {op : Comparison} {left : Expr} {right : Option Expr}
    (hright : ∀ expr ∈ right, Comparand expr.lexemes)
    (hcomplete : (Condition.compare left op right).isComplete = true) :
    ∃ level, Nests (if op.isNullTest then [] else Expr.operandLexemes right) level ∧
      level.head?.all isStop = true ∧ Tame level ∧ (words level = [] ↔ op.isNullTest = true) := by
  cases htest : op.isNullTest with
  | true => exact ⟨[], nests_nil, rfl, by decide, iff_of_true rfl rfl⟩
  | false =>
    cases right with
    | none =>
      rw [isComplete, htest] at hcomplete
      cases hcomplete
    | some expr =>
      obtain ⟨level, hnests, htame, hne⟩ := hright expr rfl
      have hblank : Nests [plain " "] (letters " ") := nests_plain (by decide)
      have hwords : words (letters " " ++ level) = words (letters " ") ++ words level :=
        words_append_of_getLast? rfl
      refine ⟨letters " " ++ level, hblank.append hnests, rfl, tame_append hwords (by decide) htame, ?_⟩
      rw [hwords]
      exact iff_of_false hne Bool.false_ne_true

theorem Condition.linked_compare {left : Expr} {op : Comparison} {right : Option Expr}
    (hleft : Comparand left.lexemes) (hright : ∀ expr ∈ right, Comparand expr.lexemes)
    (hcomplete : (Condition.compare left op right).isComplete = true)
    (hlegible : Legible (Condition.compare left op right).lexemes) :
    Linked .and (Condition.compare left op right).lexemes [.compare left op right]
      fun value => value (.compare left op right) := by
  obtain ⟨before, hbefore, htame, hne⟩ := hleft
  obtain ⟨behind, hbehind, hopens, htame', hempty⟩ := exists_operand hright hcomplete
  obtain ⟨operator, null, hop, hoperator, hoperators, hnull, hfree, htext⟩ := op.words_text
  have hflat : Flat (" " ++ op.text) := by
    cases op <;> decide
  have hnests : Nests (Condition.compare left op right).lexemes
      (before ++ letters (" " ++ op.text) ++ behind) :=
    (hbefore.append (nests_plain hflat)).append hbehind
  -- the words of the level are those of the operands around those of the operator
  have hwords : words (before ++ letters (" " ++ op.text) ++ behind) =
      words before ++ (operator ++ (null ++ words behind)) := by
    rw [words_append_of_head? hopens, words_append_of_head?, hop, List.append_assoc, List.append_assoc]
    rw [letters_append]
    rfl
  have hright' : ∀ word ∈ null ++ words behind, isOperator word = false :=
    List.forall_mem_append.2 ⟨hnull, isOperator_of_tame htame'⟩
  have hcomparison : isComparison (words before ++ (operator ++ (null ++ words behind))) = true := by
    cases htest : op.isNullTest with
    | true =>
      rw [htest, if_pos rfl] at htext
      have hnull' : null ≠ [] := by
        rintro rfl
        cases htext.2
      rw [hempty.2 htest, List.append_nil] at hright' ⊢
      exact isComparison_append hne hoperator hnull' (isOperator_of_tame htame) hoperators hright'
        (.inr htext)
    | false =>
      rw [htest, if_neg Bool.false_ne_true] at htext
      obtain ⟨hphrase, rfl⟩ := htext
      have hbehind' : words behind ≠ [] := by
        rw [ne_eq, hempty, htest]
        exact Bool.false_ne_true
      exact isComparison_append hne hoperator hbehind' (isOperator_of_tame htame) hoperators hright'
        (.inl hphrase)
  have hread := readUnit_of_isComparison hcomparison
  rw [← hwords] at hread
  refine linked_atom hlegible hnests hread fun k => ?_
  rw [hwords, ← List.append_assoc operator]
  exact List.forall_mem_append.2 ⟨free_of_tame htame k,
    List.forall_mem_append.2 ⟨hfree k, free_of_tame htame' k⟩⟩

theorem Bracketed.readWords_exists (inside : List Bracketed) : ∃ phrase,
    readWords (words (letters " EXISTS " ++ [.parens inside] ++ letters " ")) = some (.atom phrase) :=
  ⟨_, rfl⟩

theorem Condition.linked_exists {query : Query} (hquery : Balanced query.lexemes)
    (hlegible : Legible (Condition.exists query).lexemes) :
    Linked .and (Condition.exists query).lexemes [.exists query] fun value => value (.exists query) := by
  obtain ⟨inner, hinner⟩ := hquery
  have hblank : Nests [plain " "] (letters " ") := nests_plain (by decide)
  have hinside := ((hblank.append hinner).append hblank).between " EXISTS " " " (by decide) (by decide)
  have hnests : Nests (Condition.exists query).lexemes
      [.parens (letters " EXISTS " ++ [.parens (letters " " ++ inner ++ letters " ")] ++ letters " ")] := by
    refine (nests_congr ?_).1 (hinside.between "" "" (by decide) (by decide))
    simp only [Condition.lexemes, List.flatMap_append, List.append_assoc]
    rfl
  obtain ⟨phrase, hphrase⟩ := readWords_exists (letters " " ++ inner ++ letters " ")
  exact linked_atom hlegible hnests ((readUnit_parens _).trans hphrase) (free_of_tame (tame_parens _))

/-! ## Conditions -/

theorem Condition.linked_literal (b : Bool) :
    Linked .and (Condition.literal b).lexemes [] fun value => (Condition.literal b).truth value := by
  have hmeans : (Formula.const b : Formula (Condition × Phrase)).Means []
      fun value => (Condition.literal b).truth value :=
    ⟨rfl, List.forall_mem_nil _, fun _ => rfl⟩
  cases b with
  | true =>
    refine linked_of_readUnit (nests_plain (by decide)) ?_ (fun k => ?_) hmeans
    · rfl
    · cases k <;> decide
  | false =>
    refine linked_of_readUnit (nests_plain (by decide)) ?_ (fun k => ?_) hmeans
    · rfl
    · cases k <;> decide

theorem Condition.legible {condition : Condition} (h : ∀ type ∈ condition.casts, type.Plain) :
    Legible condition.lexemes :=
  (condition.reads fun type htype => (h type htype).unquoted_text).legible

-- By induction on the tree. A conjunction links the parts of its parts, and a disjunction is one part, with
-- each alternative in parentheses of its own.
mutual

theorem Condition.linked : (condition : Condition) → (∀ type ∈ condition.casts, type.Plain) →
    (∀ atom ∈ condition.atoms, atom.isComplete = true) →
      Linked .and condition.lexemes condition.atoms fun value => condition.truth value
  | .literal b, _, _ => Condition.linked_literal b
  | .compare left op right, hplain, hcomplete => by
    obtain ⟨hleft, hright⟩ := List.forall_mem_append.1 hplain
    refine linked_compare (left.comparand hleft) ?_ (hcomplete _ (List.mem_singleton_self _))
      (legible hplain)
    rintro expr hexpr
    obtain rfl : right = some expr := hexpr
    exact expr.comparand hright
  | .all [], _, _ => Condition.linked_literal true
  | .all (first :: rest), hplain, hcomplete => by
    have hall := linked_separated (List.cons_ne_nil first rest)
      (Condition.linkedEach (first :: rest) hplain hcomplete)
    rw [← listLexemes_eq_map, ← atomsAll_eq_flatMap] at hall
    simp only [← truths_eq_map] at hall
    exact hall
  | .any [], _, _ => Condition.linked_literal true
  | .any (first :: rest), hplain, hcomplete => by
    have hparts : ∀ part ∈ first :: rest,
        Linked .or ([plain "("] ++ part.lexemes ++ [plain ")"]) part.atoms fun value => part.truth value :=
      fun part hpart =>
        (Condition.linkedEach (first :: rest) hplain hcomplete part hpart).stated.parens .or
    have hany := linked_separated (List.cons_ne_nil first rest) hparts
    have hlexemes : (Condition.listLexemes (first :: rest)).map
        (fun part => [plain "("] ++ part ++ [plain ")"]) =
          (first :: rest).map fun part => [plain "("] ++ part.lexemes ++ [plain ")"] := by
      rw [listLexemes_eq_map, List.map_map]
      rfl
    rw [← hlexemes, ← atomsAll_eq_flatMap] at hany
    simp only [← truths_eq_map] at hany
    refine (linked_congr ?_).1 (hany.stated.padded.parens .and)
    simp only [Condition.lexemes, List.isEmpty_cons, Bool.false_eq_true, if_false, List.flatMap_append,
      List.append_assoc]
    rfl
  | .exists query, hplain, _ => linked_exists (query.balanced hplain) (legible hplain)

theorem Condition.linkedEach : (conditions : List Condition) →
    (∀ type ∈ Condition.castsAll conditions, type.Plain) →
    (∀ atom ∈ Condition.atomsAll conditions, atom.isComplete = true) →
      ∀ condition ∈ conditions,
        Linked .and condition.lexemes condition.atoms fun value => condition.truth value
  | [], _, _ => List.forall_mem_nil _
  | condition :: rest, hplain, hcomplete =>
    have ⟨hfirst, hrest⟩ := List.forall_mem_append.1 hplain
    have ⟨hfirst', hrest'⟩ := List.forall_mem_append.1 hcomplete
    List.forall_mem_cons.2
      ⟨Condition.linked condition hfirst hfirst', Condition.linkedEach rest hrest hrest'⟩

end

/-! ## Adding to a filter -/

theorem Condition.Readable.readsAs {condition : Condition} (h : condition.Readable) :
    ReadsAs condition.text condition.atoms fun value => condition.truth value :=
  (condition.linked h.plain h.complete).stated.readsAs (legible h.plain)

namespace Query

/-- The atoms of the filter, none without one. -/
def filterAtoms (query : Query) : List Condition :=
  query.filter.elim [] Condition.atoms

/-- The truth value of the filter. Without one all rows are kept. -/
def filterTruth (query : Query) (value : Condition → Truth) : Truth :=
  query.filter.elim .holds (Condition.truth value)

/-- A conjunction takes the condition as another part. Any other filter becomes a part beside it. -/
theorem exists_parts {query : Query} {old : Condition} (h : query.filter = some old)
    (condition : Condition) : ∃ parts, (old = .all parts ∨ parts = [old]) ∧
      query.andFilter condition = { query with filter := some (.all (parts ++ [condition])) } := by
  cases old with
  | all parts => exact ⟨parts, .inl rfl, by rw [andFilter, h]⟩
  | literal b => exact ⟨[.literal b], .inr rfl, by rw [andFilter, h]; rfl⟩
  | compare left op right => exact ⟨[.compare left op right], .inr rfl, by rw [andFilter, h]; rfl⟩
  | any conditions => exact ⟨[.any conditions], .inr rfl, by rw [andFilter, h]; rfl⟩
  | «exists» inner => exact ⟨[.exists inner], .inr rfl, by rw [andFilter, h]; rfl⟩

theorem exists_andFilter (query : Query) {condition : Condition} (hcondition : condition.Readable)
    (hfilter : ∀ old ∈ query.filter, old.Readable) :
    ∃ filter : Condition, query.andFilter condition = { query with filter := some filter } ∧
      filter.Readable ∧ filter.atoms = query.filterAtoms ++ condition.atoms ∧
      ∀ value, filter.truth value = (query.filterTruth value).and (condition.truth value) := by
  cases hold : query.filter with
  | none =>
    refine ⟨condition, by rw [andFilter, hold], hcondition, ?_, fun value => ?_⟩
    · rw [filterAtoms, hold]
      rfl
    · rw [filterTruth, hold]
      rfl
  | some old =>
    have hreadable := hfilter old hold
    obtain ⟨parts, hparts, hand⟩ := exists_parts hold condition
    have hparts' : (∀ part ∈ parts, part.Readable) ∧ parts.flatMap Condition.atoms = old.atoms ∧
        ∀ value, Truth.all (parts.map (Condition.truth value)) = old.truth value := by
      rcases hparts with rfl | rfl
      · refine ⟨Condition.readable_all.1 hreadable, ?_, fun value => ?_⟩
        · rw [Condition.atoms, Condition.atomsAll_eq_flatMap]
        · rw [Condition.truth, Condition.truths_eq_map]
      · exact ⟨List.forall_mem_singleton.2 hreadable, List.flatMap_singleton .., fun _ =>
          Truth.and_holds _⟩
    obtain ⟨hall, hatoms, htruth⟩ := hparts'
    refine ⟨_, hand, ?_, ?_, fun value => ?_⟩
    · exact Condition.readable_all.2 (List.forall_mem_append.2 ⟨hall, List.forall_mem_singleton.2 hcondition⟩)
    · rw [Condition.atoms, Condition.atomsAll_eq_flatMap, List.flatMap_append, hatoms,
        List.flatMap_singleton, filterAtoms, hold]
      rfl
    · rw [Condition.truth, Condition.truths_eq_map, List.map_append, Truth.all_append, htruth,
        filterTruth, hold, List.map_singleton, Truth.all_cons, Truth.all_nil, Truth.and_holds]
      rfl

end Query

/-- The text of a condition is read as it is meant. Added to the filter of a query, the condition is
joined by conjunction to what was there, and so is its text. -/
theorem Condition.text_readsAs (condition : Condition) (hcondition : condition.Readable) :
    ReadsAs condition.text condition.atoms (fun value => condition.truth value) ∧
      ∀ query : Query, (∀ old ∈ query.filter, old.Readable) →
        ∃ filter : Condition, query.andFilter condition = { query with filter := some filter } ∧
          ReadsAs filter.text (query.filterAtoms ++ condition.atoms) fun value =>
            (query.filterTruth value).and (condition.truth value) := by
  refine ⟨hcondition.readsAs, fun query hfilter => ?_⟩
  obtain ⟨filter, hand, hreadable, hatoms, htruth⟩ := query.exists_andFilter hcondition hfilter
  have hread := hreadable.readsAs
  rw [hatoms, funext htruth] at hread
  exact ⟨filter, hand, hread⟩

namespace Condition

/-- The books that an author wrote under a title or without one. -/
def titledOrUntitled : Condition :=
  .all [
    .equal (.column "book" "author") (.typedParam 1
      (Field.sqlType { name := "author", type := .string, options := { length := some 64 } })),
    .any [.equal (.column "book" "title") (.param 2), .compare (.column "book" "title") .isNull none]]

def inPrint : Condition :=
  .compare (.column "book" "printed") .isNotNull none

theorem text_readsAs_titledOrUntitled :
    titledOrUntitled.text = "\"book\".\"author\" = $1::varchar(64) AND " ++
        "( (\"book\".\"title\" = $2) OR (\"book\".\"title\" IS NULL) )" ∧
      ReadsAs titledOrUntitled.text titledOrUntitled.atoms (fun value => titledOrUntitled.truth value) ∧
      ∃ filter : Condition, (Query.filterBy {} inPrint).andFilter titledOrUntitled =
          { Query.filterBy {} inPrint with filter := some filter } ∧
        ReadsAs filter.text (inPrint :: titledOrUntitled.atoms) fun value =>
          (value inPrint).and (titledOrUntitled.truth value) := by
  have hcondition : titledOrUntitled.Readable :=
    ⟨List.forall_mem_singleton.2 (Field.plain_sqlType _), by decide⟩
  have hfilter : ∀ old ∈ (Query.filterBy {} inPrint).filter, old.Readable := by
    rintro old ⟨⟩
    exact ⟨by decide, by decide⟩
  obtain ⟨hread, hand⟩ := text_readsAs titledOrUntitled hcondition
  exact ⟨by decide, hread, hand _ hfilter⟩

end Condition

end EntitySql
