import EntitySql.Json.Document

/-!
# Reading JSON text

A reader for the JSON grammar, from text to documents. Blanks are the space, the tab, the line feed
and the carriage return.

* `Document.ofText?` reads a text that holds one value and blanks around it.
* `Json.ofText?` gives the value a meaning as well.

The readers take a bound on the number of steps. No character takes more than two, so twice the
length of the text is enough.
-/

namespace EntitySql

set_option autoImplicit false

namespace Document

def isBlank (c : Char) : Bool :=
  c = ' ' || c = '\t' || c = '\n' || c = '\r'

def skipBlanks (text : List Char) : List Char :=
  text.dropWhile isBlank

def digit? (c : Char) : Option Nat :=
  if '0' ≤ c ∧ c ≤ '9' then some (c.toNat - 48) else none

def hexDigit? (c : Char) : Option Nat :=
  if '0' ≤ c ∧ c ≤ '9' then some (c.toNat - 48)
  else if 'a' ≤ c ∧ c ≤ 'f' then some (c.toNat - 87)
  else if 'A' ≤ c ∧ c ≤ 'F' then some (c.toNat - 55)
  else none

def readDigits : List Char → List Nat × List Char
  | [] => ([], [])
  | c :: rest =>
    match digit? c with
    | none => ([], c :: rest)
    | some d =>
      let (digits, rest) := readDigits rest
      (d :: digits, rest)

def digitsValue (digits : List Nat) : Nat :=
  digits.foldl (fun value digit => value * 10 + digit) 0

/-- The digits before the point. A zero is not followed by another digit. -/
def readWhole? (text : List Char) : Option (List Nat × List Char) :=
  match readDigits text with
  | ([], _) => none
  | (0 :: _ :: _, _) => none
  | result => some result

/-- The point and the digits after it, if there is a point. -/
def readFraction? : List Char → Option (Option (List Nat) × List Char)
  | '.' :: text =>
    match readDigits text with
    | ([], _) => none
    | (digits, rest) => some (some digits, rest)
  | text => some (none, text)

/-- An exponent after its letter. -/
def readExponentDigits? (text : List Char) : Option (Option Int × List Char) :=
  let (negative, text) := match text with
    | '-' :: text => (true, text)
    | '+' :: text => (false, text)
    | text => (false, text)
  match readDigits text with
  | ([], _) => none
  | (digits, rest) =>
    let value : Int := digitsValue digits
    some (some (if negative then -value else value), rest)

/-- An exponent, if there is one. -/
def readExponent? : List Char → Option (Option Int × List Char)
  | 'e' :: text => readExponentDigits? text
  | 'E' :: text => readExponentDigits? text
  | text => some (none, text)

/-- A number after its sign. -/
def readUnsigned? (negative : Bool) (text : List Char) : Option (Document × List Char) := do
  let (whole, text) ← readWhole? text
  let (fraction, text) ← readFraction? text
  let (exponent, text) ← readExponent? text
  return (number ⟨negative, whole, fraction, exponent⟩, text)

def readNumber? : List Char → Option (Document × List Char)
  | '-' :: text => readUnsigned? true text
  | text => readUnsigned? false text

/-- The character that an escape of one letter stands for. -/
def escaped? (c : Char) : Option Char :=
  match c with
  | '"' | '\\' | '/' => some c
  | 'b' => some (Char.ofNat 8)
  | 'f' => some (Char.ofNat 12)
  | 'n' => some '\n'
  | 'r' => some '\r'
  | 't' => some '\t'
  | _ => none

/-- The unit written by four hexadecimal digits. -/
def hexUnit? (a b c d : Char) : Option Nat := do
  return (((← hexDigit? a) * 16 + (← hexDigit? b)) * 16 + (← hexDigit? c)) * 16 + (← hexDigit? d)

/-- The rest of a string after its opening quote. `read` holds the units read so far in reverse
order. -/
def readUnits? (read : List TextUnit) : List Char → Option (List TextUnit × List Char)
  | [] => none
  | '"' :: rest => some (read.reverse, rest)
  | '\\' :: 'u' :: a :: b :: c :: d :: rest => do
    let unit ← hexUnit? a b c d
    readUnits? (.code unit :: read) rest
  | '\\' :: c :: rest => do
    let c ← escaped? c
    readUnits? (.char c :: read) rest
  | c :: rest => if c.toNat < 32 then none else readUnits? (.char c :: read) rest

mutual

/-- A value, after blanks. -/
def readValue? : Nat → List Char → Option (Document × List Char)
  | 0, _ => none
  | fuel + 1, text =>
    match skipBlanks text with
    | 'n' :: 'u' :: 'l' :: 'l' :: rest => some (null, rest)
    | 't' :: 'r' :: 'u' :: 'e' :: rest => some (bool true, rest)
    | 'f' :: 'a' :: 'l' :: 's' :: 'e' :: rest => some (bool false, rest)
    | '"' :: rest => (readUnits? [] rest).map fun (units, rest) => (str units, rest)
    | '[' :: rest =>
      match skipBlanks rest with
      | ']' :: rest => some (arr [], rest)
      | rest => (readItems? fuel [] rest).map fun (items, rest) => (arr items, rest)
    | '\x7b' :: rest =>
      match skipBlanks rest with
      | '\x7d' :: rest => some (obj [], rest)
      | rest => (readMembers? fuel [] rest).map fun (members, rest) => (obj members, rest)
    | rest => readNumber? rest
termination_by structural fuel => fuel

/-- The items of an array that is not empty, and its closing bracket. -/
def readItems? : Nat → List Document → List Char → Option (List Document × List Char)
  | 0, _, _ => none
  | fuel + 1, read, text =>
    match readValue? fuel text with
    | none => none
    | some (item, text) =>
      match skipBlanks text with
      | ',' :: rest => readItems? fuel (item :: read) rest
      | ']' :: rest => some ((item :: read).reverse, rest)
      | _ => none
termination_by structural fuel => fuel

/-- The members of an object that is not empty, and its closing brace. -/
def readMembers? : Nat → List (List TextUnit × Document) → List Char →
    Option (List (List TextUnit × Document) × List Char)
  | 0, _, _ => none
  | fuel + 1, read, text =>
    match skipBlanks text with
    | '"' :: text =>
      match readUnits? [] text with
      | none => none
      | some (key, text) =>
        match skipBlanks text with
        | ':' :: text =>
          match readValue? fuel text with
          | none => none
          | some (value, text) =>
            match skipBlanks text with
            | ',' :: rest => readMembers? fuel ((key, value) :: read) rest
            | '\x7d' :: rest => some (((key, value) :: read).reverse, rest)
            | _ => none
        | _ => none
    | _ => none
termination_by structural fuel => fuel

end

/-- The document that a text holds. -/
def ofText? (text : String) : Option Document :=
  let characters := text.toList
  match readValue? (2 * characters.length + 1) characters with
  | some (document, rest) => if (skipBlanks rest).isEmpty then some document else none
  | none => none

end Document

/-- The value that a text holds, read against a shape. -/
def Json.ofTextAs? (shape : Shape) (text : String) : Option Json :=
  (Document.ofText? text).bind (·.value? Document.maxDepth shape)

/-- The value that a text holds. -/
def Json.ofText? (text : String) : Option Json :=
  Json.ofTextAs? .free text

end EntitySql
