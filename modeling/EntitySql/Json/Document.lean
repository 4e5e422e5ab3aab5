import EntitySql.Json.Value

/-!
# JSON documents as written

A document keeps what the text of a JSON value says before it is given a meaning: repeated members,
digits of numbers and escapes of characters. Giving it a meaning can fail.

* `Numeral.value?` reads a number. It is an integer when it has no fraction and no exponent and fits
  64 bits, and a double otherwise.
* `decodeUnits?` pairs the two halves of escaped characters beyond the basic plane.
* `Document.value?` reads a document against a `Shape`, which says where records with known members
  are expected: a known member may be written once only, and an unknown member is skipped unread.
  In an array that stands for a record every item has the shape of its member.
-/

namespace EntitySql

set_option autoImplicit false

/-! ## Numbers -/

/-- A number as written. -/
structure Numeral where
  negative : Bool
  /-- The digits before the point. -/
  whole : List Nat
  /-- The digits after the point, if there is one. -/
  fraction : Option (List Nat)
  /-- The power of ten, if one is written. -/
  exponent : Option Int
deriving DecidableEq, Repr

namespace Numeral

/-- Appends digits to a significand while it fits 64 bits, and counts the digits left over. -/
def appendDigits (significand : Nat) : List Nat → Nat × Nat
  | [] => (significand, 0)
  | digit :: rest =>
    let next := significand * 10 + digit
    if next < 1 <<< 64 then appendDigits next rest else (significand, rest.length + 1)

/-- The value of a number as written, or nothing above the finite doubles. -/
def value? (n : Numeral) : Option Json :=
  let (whole, dropped) := appendDigits 0 n.whole
  match n.fraction, n.exponent with
  | none, none =>
    if dropped ≠ 0 then (Double.ofDecimal n.negative whole dropped).map .double
    else if n.negative = false then some (.int whole)
    else if whole = 0 ∨ 1 <<< 63 < whole then (Double.ofDecimal true whole 0).map .double
    else some (.int (-whole))
  | fraction, exponent =>
    let digits := fraction.getD []
    let (significand, ignored) := appendDigits whole digits
    let shift : Int := (dropped : Int) - (digits.length - ignored : Nat)
    (Double.ofDecimal n.negative significand (shift + exponent.getD 0)).map .double

end Numeral

/-! ## Characters of a string -/

/-- A character of a string, written plainly or as a unit of sixteen bits. -/
inductive TextUnit where
  | char (c : Char)
  | code (unit : Nat)
deriving DecidableEq, Repr

/-- Whether the unit is the first half of a pair. -/
def isLeadingHalf (unit : Nat) : Bool :=
  0xD800 ≤ unit && unit < 0xDC00

/-- Whether the unit is the second half of a pair. -/
def isTrailingHalf (unit : Nat) : Bool :=
  0xDC00 ≤ unit && unit < 0xE000

/-- The character of a pair of halves. -/
def joinHalves (leading trailing : Nat) : Char :=
  Char.ofNat (0x10000 + (leading - 0xD800) * 0x400 + (trailing - 0xDC00))

/-- The characters of a string, or nothing when half of a pair stands alone. -/
def decodeUnits? : List TextUnit → Option (List Char)
  | [] => some []
  | .char c :: rest => (decodeUnits? rest).map (c :: ·)
  | .code a :: .code b :: rest =>
    if isLeadingHalf a then
      if isTrailingHalf b then (decodeUnits? rest).map (joinHalves a b :: ·) else none
    else if isTrailingHalf a then none
    else (decodeUnits? (.code b :: rest)).map (Char.ofNat a :: ·)
  | .code a :: rest =>
    if isLeadingHalf a || isTrailingHalf a then none
    else (decodeUnits? rest).map (Char.ofNat a :: ·)

/-- The text of a string, or nothing when half of a pair stands alone. -/
def unitsText? (units : List TextUnit) : Option String :=
  (decodeUnits? units).map String.ofList

/-! ## Documents -/

/-- A JSON value as written. -/
inductive Document where
  | null
  | bool (value : Bool)
  | number (numeral : Numeral)
  | str (units : List TextUnit)
  | arr (items : List Document)
  | obj (members : List (List TextUnit × Document))
deriving Inhabited

/-- What is expected of a document. -/
inductive Shape where
  /-- Any value. -/
  | free
  /-- A value that, if it is an object, has one member as written. -/
  | tagged
  /-- An array of one shape. -/
  | list (item : Shape)
  /-- A record with these members. In an object each is written at most once, among others that do
  not matter. -/
  | record (members : List (String × Shape))

namespace Shape

/-- The shape of the first item of an array. -/
def item : Shape → Shape
  | list shape => shape
  | record ((_, shape) :: _) => shape
  | _ => free

/-- The shape of the rest of an array, without its first item. -/
def rest : Shape → Shape
  | record members => record members.tail
  | shape => shape

/-- The shape of the member with the key, or nothing if the member is to be skipped. -/
def member? (key : String) : Shape → Option Shape
  | record members => Assoc.get? key members
  | _ => some free

/-- Whether an object may have another member with the key, given the members read so far. -/
def admits (key : String) (members : Assoc Json) : Shape → Bool
  | record _ => !Assoc.has key members
  | tagged => members.isEmpty
  | _ => true

end Shape

namespace Document

mutual

/-- The value of a document of a shape, or nothing when some part of it has none. Arrays and objects
may be nested `depth` levels deep. -/
def value? (depth : Nat) (shape : Shape) : Document → Option Json
  | null => some .null
  | bool b => some (.bool b)
  | number n => n.value?
  | str units => (unitsText? units).map .str
  | arr items =>
    match depth with
    | 0 => none
    | depth + 1 => (values? depth shape items).map .arr
  | obj members =>
    match depth with
    | 0 => none
    | depth + 1 => (addMembers? depth shape [] members).map .obj
termination_by structural document => document

/-- The values of the items of an array of a shape. -/
def values? (depth : Nat) (shape : Shape) : List Document → Option (List Json)
  | [] => some []
  | item :: rest => do
    let value ← value? depth shape.item item
    return value :: (← values? depth shape.rest rest)
termination_by structural items => items

/-- Adds the members of an object to those read so far. A later value replaces an earlier one. -/
def addMembers? (depth : Nat) (shape : Shape) (known : Assoc Json) :
    List (List TextUnit × Document) → Option (Assoc Json)
  | [] => some known
  | (units, document) :: rest => do
    let key ← unitsText? units
    match shape.member? key with
    | none => addMembers? depth shape known rest
    | some inner =>
      if shape.admits key known then
        let value ← value? depth inner document
        addMembers? depth shape (Assoc.insert key value known) rest
      else none
termination_by structural members => members

end

/-- Arrays and objects may be nested this deep. -/
def maxDepth : Nat := 127

end Document

end EntitySql
