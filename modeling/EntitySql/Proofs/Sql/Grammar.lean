import EntitySql.Proofs.Relational.Truth
import EntitySql.Proofs.Sql.Scan
import Mathlib.Data.List.SplitBy

/-!
# Reading the text of a condition

What a statement means by the text of a condition, apart from any tree that the text was written from.

* `Formula` is a condition up to its atoms, and `Formula.truth` its truth value under those of the atoms.
* `Bracketed.nest` matches the parentheses outside quotes.
* `Bracketed.words` parts what stands on one level into words. What is in parentheses is one word.
* `read?` reads a text: `OR` binds more loosely than `AND`, parentheses group, `true` and `false` are
  constants, and comparisons and `EXISTS` are atoms. Keywords may be in any case of their letters.
-/

namespace EntitySql

set_option autoImplicit false

/-! ## Formulas -/

inductive Connective where
  | and
  | or
deriving DecidableEq

namespace Connective

def keyword : Connective → String
  | and => "and"
  | or => "or"

/-- The truth value of two parts together. -/
def apply : Connective → Truth → Truth → Truth
  | and => Truth.and
  | or => Truth.or

/-- The constant that changes nothing as a part. -/
def neutral : Connective → Bool
  | and => true
  | or => false

theorem apply_neutral (connective : Connective) (t : Truth) :
    connective.apply t (.ofBool connective.neutral) = t := by
  cases connective <;> cases t <;> rfl

theorem neutral_apply (connective : Connective) (t : Truth) :
    connective.apply (.ofBool connective.neutral) t = t := by
  cases connective <;> cases t <;> rfl

theorem apply_assoc (connective : Connective) (a b c : Truth) :
    connective.apply (connective.apply a b) c = connective.apply a (connective.apply b c) := by
  cases connective <;> cases a <;> cases b <;> cases c <;> rfl

/-- The truth value of all parts. -/
def applyAll (connective : Connective) (truths : List Truth) : Truth :=
  truths.foldr connective.apply (.ofBool connective.neutral)

theorem applyAll_cons (connective : Connective) (t : Truth) (ts : List Truth) :
    connective.applyAll (t :: ts) = connective.apply t (connective.applyAll ts) := rfl

theorem applyAll_append (connective : Connective) (ts us : List Truth) :
    connective.applyAll (ts ++ us) =
      connective.apply (connective.applyAll ts) (connective.applyAll us) := by
  induction ts with
  | nil => exact (connective.neutral_apply _).symm
  | cons t ts ih => rw [List.cons_append, applyAll_cons, ih, applyAll_cons, apply_assoc]

end Connective

/-- A condition up to its atoms. -/
inductive Formula (α : Type) where
  | const (value : Bool)
  | atom (a : α)
  | join (connective : Connective) (left right : Formula α)
deriving DecidableEq

namespace Formula

variable {α β : Type}

def truth (value : α → Truth) : Formula α → Truth
  | const b => .ofBool b
  | atom a => value a
  | join connective left right => connective.apply (left.truth value) (right.truth value)

/-- The atoms from left to right. -/
def atoms : Formula α → List α
  | const _ => []
  | atom a => [a]
  | join _ left right => left.atoms ++ right.atoms

def map (f : α → β) : Formula α → Formula β
  | const b => const b
  | atom a => atom (f a)
  | join connective left right => join connective (left.map f) (right.map f)

/-- Joins parts by one connective. -/
def joinAll (connective : Connective) : List (Formula α) → Formula α
  | [] => const connective.neutral
  | [part] => part
  | part :: next :: rest => join connective part (joinAll connective (next :: rest))

theorem truth_joinAll (connective : Connective) (value : α → Truth) (parts : List (Formula α)) :
    (joinAll connective parts).truth value = connective.applyAll (parts.map (truth value)) := by
  induction parts with
  | nil => rfl
  | cons part rest ih =>
    cases rest with
    | nil => exact (connective.apply_neutral _).symm
    | cons next rest =>
      rw [joinAll, truth, ih]
      rfl

theorem atoms_joinAll (connective : Connective) (parts : List (Formula α)) :
    (joinAll connective parts).atoms = parts.flatMap atoms := by
  induction parts with
  | nil => rfl
  | cons part rest ih =>
    cases rest with
    | nil => exact (List.append_nil _).symm
    | cons next rest =>
      rw [joinAll, atoms, ih]
      rfl

theorem map_joinAll (connective : Connective) (f : α → β) (parts : List (Formula α)) :
    (joinAll connective parts).map f = joinAll connective (parts.map (map f)) := by
  induction parts with
  | nil => rfl
  | cons part rest ih =>
    cases rest with
    | nil => rfl
    | cons next rest =>
      rw [joinAll, map, ih]
      rfl

end Formula

/-! ## Parentheses -/

/-- A token, or what stands between two parentheses. -/
inductive Bracketed where
  | token (content : Token)
  | parens (inside : List Bracketed)

namespace Bracketed

/-- Matches the parentheses of a text that is read up to some point: what precedes the parentheses that
are open there, innermost first, and what was read since the last of them. -/
def nest : List (List Bracketed) → List Bracketed → List Token → Option (List Bracketed)
  | stack, done, [] => if stack.isEmpty then some done else none
  | stack, done, next :: rest =>
    if next = .outer '(' then nest (done :: stack) [] rest
    else if next = .outer ')' then
      match stack with
      | [] => none
      | before :: stack => nest stack (before ++ [.parens done]) rest
    else nest stack (done ++ [.token next]) rest

/-! ## Words -/

/-- A character of names, keywords, numbers and placeholders. -/
def isWordChar (c : Char) : Bool :=
  c.isAlphanum || c = '_' || c = '$' || 128 ≤ c.toNat

/-- A character of operators. -/
def isSymbolChar (c : Char) : Bool :=
  c ∈ ['+', '-', '*', '/', '<', '>', '=', '~', '!', '@', '#', '%', '^', '&', '|', '\x60', '?']

/-- Whether two neighbours belong to one word. -/
def joins : Bracketed → Bracketed → Bool
  | token (.outer c), token (.outer d) =>
    isWordChar c && isWordChar d || isSymbolChar c && isSymbolChar d
  | _, _ => false

def isBlank : Bracketed → Bool
  | token (.outer c) => c.isWhitespace
  | _ => false

/-- The character in lower case, if it is outside quotes. -/
def letter? : Bracketed → Option Char
  | token (.outer c) => some c.toLower
  | _ => none

/-- The words on one level of a text. -/
abbrev Phrase := List (List Bracketed)

/-- An element with what stands in its parentheses, read. -/
abbrev Element := Bracketed × Option (Formula Phrase)

/-- The words on one level of a text while it is read. -/
abbrev Words := List (List Element)

/-- Parts a level into words, without the blanks between them. -/
def wordsOf (level : List Element) : Words :=
  (level.splitBy fun first second => joins first.1 second.1).filter fun word =>
    !word.all fun element => element.1.isBlank

def spelling (word : List Element) : List (Option Char) :=
  word.map fun element => element.1.letter?

def spelled (text : String) : List (Option Char) :=
  text.toList.map some

/-! ## Atoms -/

/-- The comparisons, each with its keywords. -/
def comparisons : List (List String) :=
  [["="], ["<>"], ["<"], ["<="], [">"], [">="], ["like"], ["ilike"], ["not", "like"], ["in"],
    ["not", "in"]]

/-- The comparisons that may have `null` on their right only. -/
def nullTests : List (List String) :=
  [["is"], ["is", "not"]]

/-- Whether the word is a keyword of a comparison. -/
def isOperator (word : List Element) : Bool :=
  spelling word ∈ (comparisons ++ nullTests).flatten.map spelled

/-- Whether the words are two operands with a comparison between them. -/
def isComparison (words : Words) : Bool :=
  let left := words.takeWhile fun word => !isOperator word
  let operator := (words.dropWhile fun word => !isOperator word).takeWhile isOperator
  let right := (words.dropWhile fun word => !isOperator word).dropWhile isOperator
  !left.isEmpty && !right.isEmpty && right.all (fun word => !isOperator word) &&
    (operator.map spelling ∈ comparisons.map (·.map spelled) ||
      operator.map spelling ∈ nullTests.map (·.map spelled) && right.map spelling == [spelled "null"])

/-- Whether the words are `EXISTS` and something in parentheses. -/
def isExistence : Words → Bool
  | [word, [(.parens _, _)]] => spelling word = spelled "exists"
  | _ => false

/-! ## Levels of precedence -/

/-- Reads words without connectives: parentheses, a constant or an atom. -/
def readUnit : Words → Option (Formula Phrase)
  | [[(.parens _, reading)]] => reading
  | words =>
    if words.map spelling = [spelled "true"] then some (.const true)
    else if words.map spelling = [spelled "false"] then some (.const false)
    else if isComparison words || isExistence words then
      some (.atom (words.map fun word => word.map Prod.fst))
    else none

/-- Reads words as parts that a connective joins. -/
def readParts (connective : Connective) (readPart : Words → Option (Formula Phrase))
    (words : Words) : Option (List (Formula Phrase)) :=
  (words.splitOnP fun word => spelling word = spelled connective.keyword).mapM readPart

/-- Reads words as a conjunction. -/
def readConjunction (words : Words) : Option (Formula Phrase) :=
  (readParts .and readUnit words).map (.joinAll .and)

/-- Reads words as a disjunction of conjunctions. -/
def readWords (words : Words) : Option (Formula Phrase) :=
  (readParts .or readConjunction words).map (.joinAll .or)

mutual

/-- What stands in parentheses, read. -/
def reading? : Bracketed → Option (Formula Phrase)
  | token _ => none
  | parens inside => readWords (wordsOf (readings inside))
termination_by structural element => element

def readings : List Bracketed → List Element
  | [] => []
  | element :: rest => (element, element.reading?) :: readings rest
termination_by structural elements => elements

end

def words (level : List Bracketed) : Words :=
  wordsOf (readings level)

end Bracketed

/-- The formula of a text. Its atoms are the words that they are written in. -/
def read? (text : String) : Option (Formula Bracketed.Phrase) := do
  let tokens ← tokens? text
  let level ← Bracketed.nest [] [] tokens
  Bracketed.readWords (Bracketed.words level)

/-! ## Reading parts -/

theorem takeWhile_append_eq {α : Type} {p : α → Bool} {list rest : List α} (h : ∀ a ∈ list, p a = true)
    (hrest : ∀ a ∈ rest.head?, p a = false) : (list ++ rest).takeWhile p = list := by
  rw [List.takeWhile_append_of_pos h]
  cases rest with
  | nil => exact List.append_nil list
  | cons a rest => rw [List.takeWhile_cons_of_neg (by rw [hrest a rfl]; decide), List.append_nil]

theorem dropWhile_append_eq {α : Type} {p : α → Bool} {list rest : List α} (h : ∀ a ∈ list, p a = true)
    (hrest : ∀ a ∈ rest.head?, p a = false) : (list ++ rest).dropWhile p = rest := by
  rw [List.dropWhile_append_of_pos h]
  cases rest with
  | nil => rfl
  | cons a rest => exact List.dropWhile_cons_of_neg (by rw [hrest a rfl]; decide)

namespace Bracketed

variable {connective : Connective} {readPart : Words → Option (Formula Phrase)} {words others : Words}

theorem readParts_of_free (h : ∀ word ∈ words, spelling word ≠ spelled connective.keyword) :
    readParts connective readPart words = (readPart words).map ([·]) := by
  have hsplit : words.splitOnP (fun word => spelling word = spelled connective.keyword) = [words] :=
    List.splitOnP_eq_singleton fun word hword => decide_eq_false (h word hword)
  rw [readParts, hsplit, List.mapM_cons, List.mapM_nil]
  cases readPart words <;> rfl

theorem readParts_append {word : List Element}
    (hword : spelling word = spelled connective.keyword) {parts rest : List (Formula Phrase)}
    (h : readParts connective readPart words = some parts)
    (h' : readParts connective readPart others = some rest) :
    readParts connective readPart (words ++ word :: others) = some (parts ++ rest) := by
  rw [readParts] at h h' ⊢
  rw [List.splitOnP_append_cons words others (decide_eq_true hword), List.mapM_append, h, h']
  rfl

/-- Words none of which is a connective. -/
def Free (words : Words) : Prop :=
  ∀ (connective : Connective), ∀ word ∈ words, spelling word ≠ spelled connective.keyword

theorem readConjunction_of_free
    (h : ∀ word ∈ words, spelling word ≠ spelled Connective.and.keyword) :
    readConjunction words = readUnit words := by
  rw [readConjunction, readParts_of_free h]
  cases readUnit words <;> rfl

theorem readWords_of_free (h : Free words) : readWords words = readUnit words := by
  rw [readWords, readParts_of_free (h .or), readConjunction_of_free (h .and)]
  cases readUnit words <;> rfl

/-- Parts between parentheses are read as what is between them. -/
theorem readUnit_parens (inside : List Bracketed) :
    readUnit (Bracketed.words [.parens inside]) = readWords (Bracketed.words inside) := rfl

theorem isComparison_append {left operator right : Words} (hleft : left ≠ []) (hoperator : operator ≠ [])
    (hright : right ≠ []) (hleft' : ∀ word ∈ left, isOperator word = false)
    (hoperator' : ∀ word ∈ operator, isOperator word = true)
    (hright' : ∀ word ∈ right, isOperator word = false)
    (h : operator.map spelling ∈ comparisons.map (·.map spelled) ∨
      operator.map spelling ∈ nullTests.map (·.map spelled) ∧ right.map spelling = [spelled "null"]) :
    isComparison (left ++ (operator ++ right)) = true := by
  have hbefore : ∀ word ∈ left, (!isOperator word) = true := fun word hword => by
    rw [hleft' word hword]
    rfl
  have hbetween : ∀ word ∈ (operator ++ right).head?, (!isOperator word) = false := by
    cases operator with
    | nil => exact absurd rfl hoperator
    | cons first rest =>
      rintro word hword
      obtain rfl := Option.some.inj hword
      rw [hoperator' _ (List.mem_cons_self ..)]
      rfl
  have hbehind : ∀ word ∈ right.head?, isOperator word = false :=
    fun word hword => hright' word (List.mem_of_mem_head? hword)
  unfold isComparison
  simp only [takeWhile_append_eq hbefore hbetween, dropWhile_append_eq hbefore hbetween,
    takeWhile_append_eq hoperator' hbehind, dropWhile_append_eq hoperator' hbehind]
  have hplain : right.all (fun word => !isOperator word) = true :=
    List.all_eq_true.2 fun word hword => by
      rw [hright' word hword]
      rfl
  rw [hplain, List.isEmpty_eq_false_iff.2 hleft, List.isEmpty_eq_false_iff.2 hright]
  rcases h with hcomparison | ⟨htest, hnull⟩
  · rw [decide_eq_true hcomparison]
    rfl
  · rw [decide_eq_true htest, hnull]
    exact Bool.or_true _

theorem readUnit_of_isComparison {words : Words} (h : isComparison words = true) :
    readUnit words = some (.atom (words.map fun word => word.map Prod.fst)) := by
  match words with
  | [] => cases h
  | [word] =>
    -- a single word is no comparison
    cases hword : isOperator word <;> simp [isComparison, hword] at h
  | first :: second :: rest =>
    have htwo : ∀ keyword : String, (first :: second :: rest).map spelling ≠ [spelled keyword] := by
      intro keyword heq
      cases (List.cons.inj heq).2
    rw [readUnit, if_neg (htwo "true"), if_neg (htwo "false"), h]
    · rfl
    · rintro inside reading ⟨⟩

end Bracketed

-- `AND` binds more tightly than `OR`, and parentheses more tightly than both
example : (read? "a = 1 OR b IN (2) AND (EXISTS (SELECT c) OR true)").map (Formula.map fun _ => ()) =
    some (.join .or (.atom ())
      (.join .and (.atom ()) (.join .or (.atom ()) (.const true)))) := by
  decide +kernel

end EntitySql
