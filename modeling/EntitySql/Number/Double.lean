/-!
# Double-precision numbers

Finite numbers of the 64-bit binary format, held by their bits and computed in exact arithmetic on
natural numbers.

* `roundRatio` rounds a quotient of natural numbers to the nearest magnitude, ties to even.
* `ofDecimal` reads a decimal: its digits are rounded once as an integer and then multiplied or
  divided by a rounded power of ten.
-/

namespace EntitySql

set_option autoImplicit false

/-- A number of the 64-bit binary format, by its bits. -/
structure Double where
  bits : UInt64
deriving DecidableEq, Repr, Inhabited

namespace Double

/-- The bits of the first magnitude that is no finite number. -/
def infinityBits : Nat := 0x7FF <<< 52

/-- The bit of the sign. -/
def signBit : Nat := 1 <<< 63

def isNegative (x : Double) : Bool :=
  signBit ≤ x.bits.toNat

/-- The bits without the sign. -/
def magnitudeBits (x : Double) : Nat :=
  x.bits.toNat % signBit

/-- The number with the given magnitude bits and sign. -/
def ofMagnitude (negative : Bool) (magnitude : Nat) : Double :=
  ⟨UInt64.ofNat (if negative then signBit + magnitude else magnitude)⟩

/-- The integer `m` and the exponent `q` with value `m · 2^q`, of magnitude bits. -/
def decompose (magnitude : Nat) : Nat × Int :=
  let exponent := magnitude >>> 52
  let fraction := magnitude % (1 <<< 52)
  if exponent = 0 then (fraction, -1074) else (fraction + 1 <<< 52, (exponent : Int) - 1075)

/-- The value of magnitude bits as a quotient of natural numbers. -/
def ratio (magnitude : Nat) : Nat × Nat :=
  let (m, q) := decompose magnitude
  if 0 ≤ q then (m <<< q.toNat, 1) else (m, 1 <<< (-q).toNat)

/-- The quotient of two natural numbers rounded to the nearest one, ties to even. -/
def roundDiv (num den : Nat) : Nat :=
  let low := num / den
  let twice := 2 * (num % den)
  if twice < den then low
  else if den < twice then low + 1
  else low + low % 2

/-- The bits of the magnitude nearest to `num / den`, ties to even. The result is
`infinityBits` or more when the quotient lies above every finite magnitude. -/
def roundRatio (num den : Nat) : Nat :=
  if num = 0 then 0
  else
    let scaled (q : Int) : Nat × Nat :=
      if 0 ≤ q then (num, den <<< q.toNat) else (num <<< (-q).toNat, den)
    let low : Int := (num.log2 : Int) - den.log2 - 53
    let (n, d) := scaled low
    let fitted := if n / d < 1 <<< 53 then low else low + 1
    let q := max fitted (-1074)
    let (n, d) := scaled q
    let m := roundDiv n d
    if m < 1 <<< 52 then m else (q + 1075).toNat <<< 52 + (m - 1 <<< 52)

def tenTo (exponent : Nat) : Nat :=
  Nat.pow 10 exponent

/-- The bits of the magnitude nearest to a power of ten. -/
def powerOfTen (exponent : Nat) : Nat :=
  roundRatio (tenTo exponent) 1

def multiply (a b : Nat) : Nat :=
  let (an, ad) := ratio a
  let (bn, bd) := ratio b
  roundRatio (an * bn) (ad * bd)

def divide (a b : Nat) : Nat :=
  let (an, ad) := ratio a
  let (bn, bd) := ratio b
  roundRatio (an * bd) (ad * bn)

/-- Divides a magnitude by a power of ten, in steps of at most `10^308`. -/
def dividePowerOfTen (magnitude exponent : Nat) : Nat :=
  if magnitude = 0 then 0
  else if exponent ≤ 308 then divide magnitude (powerOfTen exponent)
  else dividePowerOfTen (divide magnitude (powerOfTen 308)) (exponent - 308)
termination_by exponent

/-- The magnitude of `significand · 10^exponent`, or nothing above the finite magnitudes. -/
def decimalMagnitude (significand : Nat) (exponent : Int) : Option Nat :=
  let start := roundRatio significand 1
  if exponent < 0 then some (dividePowerOfTen start (-exponent).toNat)
  else if start = 0 then some 0
  else if 308 < exponent then none
  else
    let product := multiply start (powerOfTen exponent.toNat)
    if product < infinityBits then some product else none

/-- The number read from a decimal with the given sign, digits and power of ten. -/
def ofDecimal (negative : Bool) (significand : Nat) (exponent : Int) : Option Double :=
  (decimalMagnitude significand exponent).map (ofMagnitude negative)

end Double

end EntitySql
