import EntitySql.Text.Letter

/-!
# Snake case

Splitting a name into words and joining them with underscores.

* `words` splits a name at characters that are not alphanumeric and at changes of case.
* `snakeCase` writes the words in lower case with an underscore between them.

A word ends between a lower-case letter and an upper-case one, and before the last capital of a run
of capitals that a lower-case letter follows. Other characters take the case of what precedes them.
-/

namespace EntitySql.SnakeCase

set_option autoImplicit false

open Letter

/-- The case of the characters read so far in the word. -/
inductive Mode where
  | boundary
  | lower
  | upper
deriving DecidableEq, Repr

/-- The case after a character that ends no word. -/
def Mode.after (mode : Mode) (c : Char) : Mode :=
  if isLower c then .lower else if isUpper c then .upper else mode

/-- Splits an alphanumeric piece into words. `word` holds the characters of the current word in
reverse order. -/
def splitPiece (mode : Mode) (word : List Char) : List Char → List (List Char)
  | [] => []
  | [c] => [(c :: word).reverse]
  | c :: next :: rest =>
    if mode.after c = .lower ∧ isUpper next then
      (c :: word).reverse :: splitPiece .boundary [] (next :: rest)
    else if mode = .upper ∧ isUpper c ∧ isLower next then
      word.reverse :: splitPiece .boundary [c] (next :: rest)
    else
      splitPiece (mode.after c) (c :: word) (next :: rest)

/-- The maximal runs of alphanumeric characters, empty runs included. -/
def pieces : List Char → List (List Char)
  | [] => [[]]
  | c :: rest =>
    if isAlphanumeric c then
      match pieces rest with
      | [] => [[c]]
      | piece :: others => (c :: piece) :: others
    else [] :: pieces rest

/-- The words of a name, in order. -/
def words (name : List Char) : List (List Char) :=
  (pieces name).flatMap (splitPiece .boundary [])

/-- A word in lower case. A sigma at its end takes the final form. -/
def lowerWord : List Char → List Char
  | [] => []
  | [c] => if c = 'Σ' then ['ς'] else toLower c
  | c :: rest => toLower c ++ lowerWord rest

end EntitySql.SnakeCase

namespace EntitySql

/-- The snake case of a name: its words in lower case, joined with underscores. -/
def snakeCase (name : String) : String :=
  String.ofList (['_'].intercalate ((SnakeCase.words name.toList).map SnakeCase.lowerWord))

end EntitySql
