import EntitySql.Json.Compact

/-!
# Lexemes

Statement text in pieces, so that what is quoted stays apart from what is not. Statements are
rendered to lists of lexemes, and only then to text.

* `Lexeme.text` writes one piece; quotes inside a quoted piece are doubled.
* `Lexeme.join` writes a list of pieces.
* `Lexeme.ofJson` is the literal of a JSON value.
-/

namespace EntitySql

set_option autoImplicit false

/-- A piece of statement text. -/
inductive Lexeme where
  /-- Text outside quotes. -/
  | plain (text : String)
  /-- The name inside double quotes. -/
  | ident (name : String)
  /-- The content inside single quotes. -/
  | str (content : String)
  /-- The placeholder of a parameter, counted from one. -/
  | param (index : Nat)
deriving DecidableEq, Repr

namespace Lexeme

/-- Doubles every occurrence of a character. -/
def double (quote : Char) (text : List Char) : List Char :=
  text.flatMap fun c => if c = quote then [c, c] else [c]

/-- A text between two quotes, with the quotes inside it doubled. -/
def enclose (quote : Char) (text : String) : String :=
  String.ofList (quote :: double quote text.toList ++ [quote])

/-- A name in double quotes. -/
def quoteIdent (name : String) : String :=
  enclose '"' name

def text : Lexeme → String
  | plain text => text
  | ident name => quoteIdent name
  | str content => enclose '\x27' content
  | param index => "$" ++ toString index

def join (lexemes : List Lexeme) : String :=
  String.join (lexemes.map text)

/-- Lists of pieces with a plain separator between them. -/
def separated (separator : String) (parts : List (List Lexeme)) : List Lexeme :=
  [plain separator].intercalate parts

/-- The literal of a JSON value. Strings and documents are quoted. -/
def ofJson : Json → Lexeme
  | .null => plain "NULL"
  | .bool true => plain "TRUE"
  | .bool false => plain "FALSE"
  | .int n => plain (toString n)
  | .double x => plain x.toText
  | .str s => str s
  | .arr items => str (Json.arr items).compact
  | .obj members => str (Json.obj members).compact

end Lexeme

end EntitySql
