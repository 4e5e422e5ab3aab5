import EntitySql.Number.Double

/-!
# Shortest decimal text of a double

The fewest decimal digits that read back as the number, and the layout of those digits.

* `shortestDigits` finds the digits: of all decimals that round to the number it takes one with the
  fewest digits, and among those the nearest.
* `Double.toText` writes them: positionally from `0.00001` up to below `10^16`, with an exponent
  otherwise, and never as a bare integer.
-/

namespace EntitySql

set_option autoImplicit false

namespace Double

/-- The decimal `digits · 10^exponent`. -/
structure Decimal where
  digits : Nat
  exponent : Int
deriving DecidableEq, Repr

/-- A closed or open interval of positive quotients over the common denominator `den`. -/
structure Interval where
  low : Nat
  high : Nat
  den : Nat
  closed : Bool

def Interval.contains (i : Interval) (num den : Nat) : Bool :=
  if i.closed then i.low * den ≤ num * i.den && num * i.den ≤ i.high * den
  else i.low * den < num * i.den && num * i.den < i.high * den

/-- The quotients that round to the magnitude. The gap below a power of two is half as wide as the
gap above it. -/
def rounding (magnitude : Nat) : Interval :=
  let (m, q) := decompose magnitude
  let low := if m = 1 <<< 52 ∧ -1074 < q then 4 * m - 1 else 4 * m - 2
  let high := 4 * m + 2
  let closed := m % 2 = 0
  if 2 ≤ q then ⟨low <<< (q - 2).toNat, high <<< (q - 2).toNat, 1, closed⟩
  else ⟨low, high, 1 <<< (2 - q).toNat, closed⟩

def digitCount (n : Nat) : Nat :=
  (Nat.toDigits 10 n).length

/-- The exponent `e` with `10^(e-1) ≤ num / den < 10^e`, for a positive quotient. -/
def leading (num den : Nat) : Int :=
  if den ≤ num then digitCount (num / den)
  else
    let d := digitCount (den / num)
    if den ≤ num * tenTo (d - 1) then 2 - (d : Int) else 1 - (d : Int)

/-- The value `c · 10^e` as a quotient. -/
def gridPoint (c : Nat) (e : Int) : Nat × Nat :=
  if 0 ≤ e then (c * tenTo e.toNat, 1) else (c, tenTo (-e).toNat)

/-- The neighbour of `num / den` on the grid of multiples of `10^e` that lies in the interval, the
nearer one if both do and the even one of two equally near. -/
def gridHit (interval : Interval) (num den : Nat) (e : Int) : Option Nat :=
  let (n, d) := if 0 ≤ e then (num, den * tenTo e.toNat) else (num * tenTo (-e).toNat, den)
  let c := n / d
  let hits (c : Nat) : Bool :=
    let (pn, pd) := gridPoint c e
    interval.contains pn pd
  match hits c, hits (c + 1) with
  | true, true => some (roundDiv n d)
  | true, false => some c
  | false, true => some (c + 1)
  | false, false => none

/-- Tries grids of more and more digits, at most `fuel` of them. -/
def searchDigits (interval : Interval) (num den : Nat) (top : Int) : Nat → Nat → Decimal
  | 0, count => ⟨0, top - count⟩
  | fuel + 1, count =>
    match gridHit interval num den (top - count) with
    | some c => ⟨c, top - count⟩
    | none => searchDigits interval num den top fuel (count + 1)

/-- The shortest decimal of a positive magnitude. Seventeen digits always suffice. -/
def shortestDigits (magnitude : Nat) : Decimal :=
  let (num, den) := ratio magnitude
  searchDigits (rounding magnitude) num den (leading num den) 17 1

/-- Drops the zeros at the end of a digit list and counts them. -/
def dropZeros (digits : List Char) : List Char × Nat :=
  let kept := digits.reverse.dropWhile (· = '0') |>.reverse
  (kept, digits.length - kept.length)

/-- The text of digits whose decimal point stands after `point` of them. -/
def layout (digits : List Char) (point : Int) : List Char :=
  if -5 < point ∧ point ≤ 16 then
    if point ≤ 0 then ['0', '.'] ++ List.replicate (-point).toNat '0' ++ digits
    else if digits.length ≤ point.toNat then
      digits ++ List.replicate (point.toNat - digits.length) '0' ++ ['.', '0']
    else digits.take point.toNat ++ ['.'] ++ digits.drop point.toNat
  else
    let fraction := match digits.drop 1 with
      | [] => []
      | rest => '.' :: rest
    let exponent := point - 1
    digits.take 1 ++ fraction ++ ['e', if exponent < 0 then '-' else '+'] ++
      Nat.toDigits 10 exponent.natAbs

def magnitudeText (magnitude : Nat) : List Char :=
  if magnitude = 0 then ['0', '.', '0']
  else
    let decimal := shortestDigits magnitude
    let (digits, zeros) := dropZeros (Nat.toDigits 10 decimal.digits)
    layout digits (digits.length + zeros + decimal.exponent)

/-- The shortest text that reads back as the number. -/
def toText (x : Double) : String :=
  let text := magnitudeText x.magnitudeBits
  String.ofList (if x.isNegative then '-' :: text else text)

end Double

end EntitySql
