import EntitySql.Proofs.Sql.Grammar

/-!
# Nesting and words

How the text of pieces is nested in parentheses, and which words the levels of a text have.

* `Lexeme.Nests` says of a list of pieces what it reads as at whatever level it stands.
* A `Lexeme.Balanced` list closes each parenthesis that it opens.
* `words_append` parts the words of two texts, one behind the other, where no word goes on from the one to
  the other.
* A `Tame` level has no keyword among its words.
-/

namespace EntitySql

set_option autoImplicit false

open Bracketed

/-! ## Matching parentheses -/

namespace Bracketed

variable {stack : List (List Bracketed)} {before done : List Bracketed} {rest : List Token}

theorem nest_open : nest stack done (.outer '(' :: rest) = nest (done :: stack) [] rest := rfl

theorem nest_close :
    nest (before :: stack) done (.outer ')' :: rest) = nest stack (before ++ [.parens done]) rest := rfl

theorem nest_other {next : Token} (hopen : next ≠ .outer '(') (hclose : next ≠ .outer ')') :
    nest stack done (next :: rest) = nest stack (done ++ [.token next]) rest := by
  rw [nest.eq_def]
  exact (if_neg hopen).trans (if_neg hclose)

end Bracketed

namespace Lexeme

/-- The characters of a text, one by one. -/
def letters (text : String) : List Bracketed :=
  text.toList.map fun c => .token (.outer c)

/-- A text without parentheses. -/
def Flat (text : String) : Prop :=
  ∀ c ∈ text.toList, c ≠ '(' ∧ c ≠ ')'

instance (text : String) : Decidable (Flat text) :=
  List.decidableBAll (fun c => c ≠ '(' ∧ c ≠ ')') text.toList

/-- What the pieces read as, at whatever level they stand. -/
def Nests (lexemes : List Lexeme) (level : List Bracketed) : Prop :=
  ∀ stack done rest,
    nest stack done (lexemes.flatMap tokens ++ rest) = nest stack (done ++ level) rest

/-- The pieces close the parentheses that they open. -/
def Balanced (lexemes : List Lexeme) : Prop :=
  ∃ level, Nests lexemes level

section

variable {lexemes others : List Lexeme} {level level' : List Bracketed} {text : String}

theorem letters_append (text other : String) : letters (text ++ other) = letters text ++ letters other := by
  rw [letters, String.toList_append, List.map_append]
  rfl

theorem nests_nil : Nests [] [] := by
  intro stack done rest
  rw [List.append_nil]
  rfl

theorem Nests.append (h : Nests lexemes level) (h' : Nests others level') :
    Nests (lexemes ++ others) (level ++ level') := by
  intro stack done rest
  rw [List.flatMap_append, List.append_assoc, h, h', List.append_assoc]

/-- Only the tokens count. -/
theorem nests_congr (h : lexemes.flatMap tokens = others.flatMap tokens) :
    Nests lexemes level ↔ Nests others level := by
  rw [Nests, Nests, h]

theorem nests_quoted {lexeme : Lexeme} {content : Quoted} (h : lexeme.tokens = [.quoted content]) :
    Nests [lexeme] [.token (.quoted content)] := by
  intro stack done rest
  rw [List.flatMap_singleton, h]
  exact nest_other Token.noConfusion Token.noConfusion

theorem nest_letters (h : Flat text) (stack : List (List Bracketed)) (done : List Bracketed)
    (rest : List Token) :
    nest stack done (text.toList.map .outer ++ rest) = nest stack (done ++ letters text) rest := by
  rw [Flat] at h
  rw [letters]
  generalize text.toList = chars at h ⊢
  induction chars generalizing done with
  | nil =>
    rw [List.map_nil, List.map_nil, List.append_nil]
    rfl
  | cons c chars ih =>
    obtain ⟨⟨hopen, hclose⟩, hchars⟩ := List.forall_mem_cons.1 h
    have hnext : nest stack done (.outer c :: (chars.map .outer ++ rest)) =
        nest stack (done ++ [.token (.outer c)]) (chars.map .outer ++ rest) :=
      nest_other (fun heq => hopen (Token.outer.inj heq)) fun heq => hclose (Token.outer.inj heq)
    rw [List.map_cons, List.cons_append, hnext, ih _ hchars, List.append_assoc]
    rfl

theorem nests_outer {lexeme : Lexeme} (h : Flat text) (htokens : lexeme.tokens = text.toList.map .outer) :
    Nests [lexeme] (letters text) := by
  intro stack done rest
  rw [List.flatMap_singleton, htokens]
  exact nest_letters h stack done rest

theorem nests_plain (h : Flat text) : Nests [plain text] (letters text) :=
  nests_outer h rfl

theorem flatMap_tokens_plain_append (text other : String) :
    [plain (text ++ other)].flatMap tokens = ([plain text] ++ [plain other]).flatMap tokens := by
  rw [List.flatMap_append, List.flatMap_singleton, List.flatMap_singleton, List.flatMap_singleton, tokens,
    String.toList_append, List.map_append]
  rfl

theorem nests_plain_append (text other : String) :
    Nests [plain (text ++ other)] level ↔ Nests ([plain text] ++ [plain other]) level :=
  nests_congr (flatMap_tokens_plain_append text other)

/-- What stands between two parentheses is one element. -/
theorem Nests.between (h : Nests lexemes level) (head tail : String) (hhead : Flat head)
    (htail : Flat tail) :
    Nests ([plain (head ++ "(")] ++ lexemes ++ [plain (")" ++ tail)])
      (letters head ++ [.parens level] ++ letters tail) := by
  have hopen : (plain (head ++ "(")).tokens = head.toList.map .outer ++ [.outer '('] := by
    rw [tokens, String.toList_append, List.map_append]
    rfl
  have hclose : (plain (")" ++ tail)).tokens = .outer ')' :: tail.toList.map .outer := by
    rw [tokens, String.toList_append, List.map_append]
    rfl
  intro stack done rest
  rw [List.flatMap_append, List.flatMap_append, List.flatMap_singleton, List.flatMap_singleton, hopen,
    hclose, List.append_assoc, List.append_assoc, List.append_assoc, nest_letters hhead,
    List.singleton_append, nest_open, h, List.nil_append, List.cons_append, nest_close,
    nest_letters htail, List.append_assoc, List.append_assoc, List.append_assoc]

/-! ## Closing what was opened -/

theorem balanced_nil : Balanced [] :=
  ⟨[], nests_nil⟩

theorem balanced_plain (h : Flat text) : Balanced [plain text] :=
  ⟨letters text, nests_plain h⟩

theorem balanced_ident (name : String) : Balanced [ident name] :=
  ⟨_, nests_quoted rfl⟩

theorem balanced_str (content : String) : Balanced [str content] :=
  ⟨_, nests_quoted rfl⟩

theorem Balanced.append (h : Balanced lexemes) (h' : Balanced others) : Balanced (lexemes ++ others) :=
  have ⟨_, hlevel⟩ := h
  have ⟨_, hlevel'⟩ := h'
  ⟨_, hlevel.append hlevel'⟩

theorem Balanced.after (h : Balanced lexemes) (text : String) (htext : Flat text) :
    Balanced (plain text :: lexemes) :=
  (balanced_plain htext).append h

theorem Balanced.before (h : Balanced lexemes) (text : String) (htext : Flat text) :
    Balanced (lexemes ++ [plain text]) :=
  h.append (balanced_plain htext)

theorem Balanced.between (h : Balanced lexemes) (head tail : String) (hhead : Flat head)
    (htail : Flat tail) : Balanced ([plain (head ++ "(")] ++ lexemes ++ [plain (")" ++ tail)]) :=
  have ⟨_, hlevel⟩ := h
  ⟨_, hlevel.between head tail hhead htail⟩

theorem balanced_congr (h : lexemes.flatMap tokens = others.flatMap tokens) :
    Balanced lexemes ↔ Balanced others :=
  exists_congr fun _ => nests_congr h

theorem balanced_separated {separator : String} (hseparator : Flat separator) {parts : List (List Lexeme)}
    (h : ∀ part ∈ parts, Balanced part) : Balanced (separated separator parts) := by
  induction parts with
  | nil => exact balanced_nil
  | cons part parts ih =>
    obtain ⟨hpart, hparts⟩ := List.forall_mem_cons.1 h
    cases parts with
    | nil =>
      rw [separated, List.intercalate_singleton]
      exact hpart
    | cons second parts =>
      rw [separated, List.intercalate_cons_cons, List.append_assoc]
      exact hpart.append ((ih hparts).after separator hseparator)

theorem balanced_clause (keyword : String) (hkeyword : Flat keyword) {parts : List (List Lexeme)}
    (h : ∀ part ∈ parts, Balanced part) :
    Balanced (if parts.isEmpty then [] else plain keyword :: separated ", " parts) := by
  split
  · exact balanced_nil
  · exact (balanced_separated (by decide) h).after keyword hkeyword

end

end Lexeme

/-! ## Words of a level -/

namespace Bracketed

/-- The keywords of comparisons and the connectives. -/
def reserved : List (List (Option Char)) :=
  ((comparisons ++ nullTests).flatten ++ [Connective.and.keyword, Connective.or.keyword]).map spelled

/-- The words of a level as they are spelled. -/
def spellings (level : List Bracketed) : List (List (Option Char)) :=
  (words level).map spelling

/-- A level without keywords. -/
def Tame (level : List Bracketed) : Prop :=
  ∀ word ∈ spellings level, word ∉ reserved

instance (level : List Bracketed) : Decidable (Tame level) :=
  decidable_of_iff (((spellings level).all fun word => !reserved.contains word) = true) (by simp [Tame])

theorem tame_parens (inside : List Bracketed) : Tame [.parens inside] := by
  change ∀ word ∈ [[none]], _
  decide

theorem tame_quoted (content : Quoted) : Tame [.token (.quoted content)] := by
  change ∀ word ∈ [[none]], _
  decide

theorem isOperator_of_tame {level : List Bracketed} (h : Tame level) :
    ∀ word ∈ words level, isOperator word = false := by
  intro word hword
  refine decide_eq_false fun hoperator => h _ (List.mem_map_of_mem hword) ?_
  rw [reserved, List.map_append]
  exact List.mem_append_left _ hoperator

theorem free_of_tame {level : List Bracketed} (h : Tame level) : Free (words level) := by
  intro connective word hword hspelling
  have hreserved : spelled connective.keyword ∈ reserved := by
    cases connective <;> decide
  refine h _ (List.mem_map_of_mem hword) ?_
  rwa [hspelling]

/-- Whether the element belongs to no longer word. -/
def isStop : Bracketed → Bool
  | token (.outer c) => !isWordChar c && !isSymbolChar c
  | _ => true

theorem joins_of_isStop {first second : Bracketed} (h : first.isStop = true ∨ second.isStop = true) :
    joins first second = false := by
  unfold joins
  split
  · rcases h with h | h
    all_goals
      obtain ⟨hword, hsymbol⟩ := Bool.and_eq_true_iff.1 h
      rw [Bool.not_eq_true'] at hword hsymbol
      simp only [hword, hsymbol, Bool.false_and, Bool.and_false, Bool.or_false]
  · rfl

variable {level rest : List Bracketed}

theorem readings_eq_map (level : List Bracketed) :
    readings level = level.map fun element => (element, element.reading?) := by
  induction level with
  | nil => rfl
  | cons element rest ih => rw [readings, ih, List.map_cons]

theorem words_append
    (h : ∀ last ∈ level.getLast?, ∀ first ∈ rest.head?, joins last first = false) :
    words (level ++ rest) = words level ++ words rest := by
  rw [words, words, words, readings_eq_map, readings_eq_map, readings_eq_map, List.map_append, wordsOf,
    List.splitBy_append, List.filter_append]
  · rfl
  · intro last hlast first hfirst
    rw [List.getLast?_map] at hlast
    rw [List.head?_map] at hfirst
    obtain ⟨last', hlast', rfl⟩ := Option.map_eq_some_iff.1 hlast
    obtain ⟨first', hfirst', rfl⟩ := Option.map_eq_some_iff.1 hfirst
    exact h last' hlast' first' hfirst'

theorem words_append_of_head? (h : rest.head?.all isStop = true) :
    words (level ++ rest) = words level ++ words rest :=
  words_append fun _ _ first hfirst => joins_of_isStop (.inr ((Option.all_eq_true _ _).1 h first hfirst))

theorem words_append_of_getLast? (h : level.getLast?.all isStop = true) :
    words (level ++ rest) = words level ++ words rest :=
  words_append fun last hlast _ _ => joins_of_isStop (.inl ((Option.all_eq_true _ _).1 h last hlast))

theorem tame_append (h : words (level ++ rest) = words level ++ words rest) (hlevel : Tame level)
    (hrest : Tame rest) : Tame (level ++ rest) := by
  rw [Tame, spellings, h, List.map_append]
  exact List.forall_mem_append.2 ⟨hlevel, hrest⟩

theorem mem_of_mem_words {word : List Element} (hword : word ∈ words level)
    {element : Element} (helement : element ∈ word) : element.1 ∈ level := by
  have hall : element ∈ readings level := by
    rw [← List.flatten_splitBy (fun first second => joins first.1 second.1) (readings level)]
    exact List.mem_flatten_of_mem (List.mem_of_mem_filter hword) helement
  rw [readings_eq_map] at hall
  obtain ⟨_, hmem, rfl⟩ := List.mem_map.1 hall
  exact hmem

theorem words_ne_nil {element : Bracketed} (hmem : element ∈ level) (h : element.isBlank = false) :
    words level ≠ [] := by
  have hall : (element, element.reading?) ∈ readings level := by
    rw [readings_eq_map]
    exact List.mem_map_of_mem hmem
  rw [← List.flatten_splitBy (fun first second => joins first.1 second.1) (readings level)] at hall
  obtain ⟨word, hword, helement⟩ := List.mem_flatten.1 hall
  refine List.ne_nil_of_mem (List.mem_filter.2 ⟨hword, ?_⟩)
  rw [Bool.not_eq_true', List.all_eq_false]
  exact ⟨_, helement, by rw [h]; exact Bool.false_ne_true⟩

/-- A character of no parenthesis, blank or beginning of a keyword. -/
def isHarmless (c : Char) : Bool :=
  c ≠ '(' && c ≠ ')' && !c.isWhitespace && c.toLower ∉ ['=', '<', '>', 'l', 'i', 'n', 'a', 'o']

theorem isHarmless_of_isDigit {c : Char} (h : c.isDigit = true) : isHarmless c = true := by
  have hdigits : ∀ n < 58, 48 ≤ n → isHarmless (Char.ofNat n) = true := by
    decide
  obtain ⟨hlow, hhigh⟩ := Bool.and_eq_true_iff.1 h
  rw [← c.ofNat_toNat]
  exact hdigits c.toNat (Nat.lt_succ_of_le (of_decide_eq_true hhigh)) (of_decide_eq_true hlow)

end Bracketed

theorem Numeric.isHarmless {text : List Char} (h : Numeric text) : ∀ c ∈ text, isHarmless c = true := by
  have hmarks : ∀ c ∈ ['-', '+', '.', 'e'], Bracketed.isHarmless c = true :=
    List.all_eq_true.1 rfl
  intro c hc
  exact (h c hc).elim isHarmless_of_isDigit (hmarks c)

end EntitySql
