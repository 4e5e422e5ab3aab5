import EntitySql.Text.LetterTable

/-!
# Letter classes

The classes of characters that word splitting asks about, and the lower-case form of a letter.
Seven-bit characters are decided by comparison, all others by table.

* `isAlphanumeric`, `isUpper` and `isLower` are the three classes.
* `toLower` is the lower-case form, a list because one letter has a form of two characters.
-/

namespace EntitySql.Letter

set_option autoImplicit false

def within (low high : Char) (c : Char) : Bool :=
  low.toNat ≤ c.toNat && c.toNat ≤ high.toNat

def isUpper (c : Char) : Bool :=
  if c.toNat < 128 then within 'A' 'Z' c else uppercaseSpans.any (·.contains c.toNat)

def isLower (c : Char) : Bool :=
  if c.toNat < 128 then within 'a' 'z' c else lowercaseSpans.any (·.contains c.toNat)

/-- Letters, marks that count as alphabetic, and numbers of every kind. -/
def isAlphanumeric (c : Char) : Bool :=
  if c.toNat < 128 then within 'A' 'Z' c || within 'a' 'z' c || within '0' '9' c
  else alphanumericSpans.any (·.contains c.toNat)

/-- The lower-case form. A capital I with a dot keeps its dot as a combining mark, every other
letter has a form of one character. -/
def toLower (c : Char) : List Char :=
  if c.toNat < 128 then
    if within 'A' 'Z' c then [Char.ofNat (c.toNat + 32)] else [c]
  else if c = 'İ' then ['i', Char.ofNat 0x307]
  else match lowercaseRuns.find? (·.contains c.toNat) with
    | some run => [Char.ofNat (run.image c.toNat)]
    | none => [c]

end EntitySql.Letter
