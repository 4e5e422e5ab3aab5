import EntitySql.Assoc
import EntitySql.Number.Double

/-!
# JSON values

The values that requests, records, parameters and rows are made of. Objects keep the order of their
members. Integers and doubles are different numbers, so `1` and `1.0` are different values.

* `Json` is the type of values, with decidable equality.
* `asString?`, `asInt?` and their like read a value of one kind.
-/

namespace EntitySql

set_option autoImplicit false

/-- A JSON value. Objects list their members in order. -/
inductive Json where
  | null
  | bool (value : Bool)
  | int (value : Int)
  | double (value : Double)
  | str (value : String)
  | arr (items : List Json)
  | obj (members : List (String × Json))
deriving Inhabited

namespace Json

/-! ## Decidable equality -/

mutual

def decEq : (a b : Json) → Decidable (a = b)
  | .null, b => match b with
    | .null => isTrue rfl
    | .bool _ | .int _ | .double _ | .str _ | .arr _ | .obj _ => isFalse nofun
  | .bool x, b => match b with
    | .bool y => if h : x = y then isTrue (h ▸ rfl) else isFalse (fun e => h (by injection e))
    | .null | .int _ | .double _ | .str _ | .arr _ | .obj _ => isFalse nofun
  | .int x, b => match b with
    | .int y => if h : x = y then isTrue (h ▸ rfl) else isFalse (fun e => h (by injection e))
    | .null | .bool _ | .double _ | .str _ | .arr _ | .obj _ => isFalse nofun
  | .double x, b => match b with
    | .double y => if h : x = y then isTrue (h ▸ rfl) else isFalse (fun e => h (by injection e))
    | .null | .bool _ | .int _ | .str _ | .arr _ | .obj _ => isFalse nofun
  | .str x, b => match b with
    | .str y => if h : x = y then isTrue (h ▸ rfl) else isFalse (fun e => h (by injection e))
    | .null | .bool _ | .int _ | .double _ | .arr _ | .obj _ => isFalse nofun
  | .arr xs, b => match b with
    | .arr ys => match decEqItems xs ys with
      | isTrue h => isTrue (h ▸ rfl)
      | isFalse h => isFalse (fun e => h (by injection e))
    | .null | .bool _ | .int _ | .double _ | .str _ | .obj _ => isFalse nofun
  | .obj xs, b => match b with
    | .obj ys => match decEqMembers xs ys with
      | isTrue h => isTrue (h ▸ rfl)
      | isFalse h => isFalse (fun e => h (by injection e))
    | .null | .bool _ | .int _ | .double _ | .str _ | .arr _ => isFalse nofun
termination_by structural a => a

def decEqItems : (a b : List Json) → Decidable (a = b)
  | [], b => match b with
    | [] => isTrue rfl
    | _ :: _ => isFalse nofun
  | x :: xs, b => match b with
    | [] => isFalse nofun
    | y :: ys => match decEq x y, decEqItems xs ys with
      | isTrue h, isTrue t => isTrue (h ▸ t ▸ rfl)
      | isFalse h, _ => isFalse (fun e => h (by injection e))
      | _, isFalse t => isFalse (fun e => t (by injection e))
termination_by structural a => a

def decEqMembers : (a b : List (String × Json)) → Decidable (a = b)
  | [], b => match b with
    | [] => isTrue rfl
    | _ :: _ => isFalse nofun
  | (k, x) :: xs, b => match b with
    | [] => isFalse nofun
    | (l, y) :: ys =>
      if n : k = l then match decEq x y, decEqMembers xs ys with
        | isTrue h, isTrue t => isTrue (n ▸ h ▸ t ▸ rfl)
        | isFalse h, _ => isFalse (fun e => h (Prod.mk.inj (List.cons.inj e).1).2)
        | _, isFalse t => isFalse (fun e => t (List.cons.inj e).2)
      else isFalse (fun e => n (Prod.mk.inj (List.cons.inj e).1).1)
termination_by structural a => a

end

instance : DecidableEq Json := decEq

/-! ## Reading a value of one kind -/

def asString? : Json → Option String
  | .str s => some s
  | _ => none

def asBool? : Json → Option Bool
  | .bool b => some b
  | _ => none

/-- The integer, doubles with an integral value excluded. -/
def asInt? : Json → Option Int
  | .int n => some n
  | _ => none

/-- The integer when it lies between the bounds, both included. -/
def asIntIn? (low high : Int) (value : Json) : Option Int :=
  value.asInt?.filter fun n => low ≤ n && n ≤ high

def asInt64? (value : Json) : Option Int :=
  value.asIntIn? (-0x8000000000000000) 0x7FFFFFFFFFFFFFFF

def asUnsigned? (bits : Nat) (value : Json) : Option Nat :=
  (value.asIntIn? 0 ((1 <<< bits : Nat) - 1)).map Int.toNat

def asUInt32? (value : Json) : Option UInt32 :=
  (value.asUnsigned? 32).map UInt32.ofNat

def asItems? : Json → Option (List Json)
  | .arr items => some items
  | _ => none

def asMembers? : Json → Option (Assoc Json)
  | .obj members => some members
  | _ => none

/-- The strings of an array that holds nothing else. -/
def asStrings? (value : Json) : Option (List String) := do
  (← value.asItems?).mapM asString?

def ofNat (n : Nat) : Json :=
  .int n

def ofUInt32 (n : UInt32) : Json :=
  .ofNat n.toNat

def ofOption (value : Option Json) : Json :=
  value.getD .null

end Json

end EntitySql
