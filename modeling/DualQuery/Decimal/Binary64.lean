/-!
# Double-precision numbers

A `Binary64` is the sixty-four bits of a double-precision number. Its operations are exact: a finite
number is an integer multiple of `2 ^ -1074`, so sums, products and quotients are formed as
quotients of natural numbers and rounded once, to nearest with ties to even.

* `Binary64.ofRatio` rounds a quotient of natural numbers.
* `Binary64.compare` orders by value, zeros of either sign being equal.
* `Binary64.toInt64` drops the fraction and clamps to the range of a word.
-/

namespace DualQuery

/-- A double-precision number, given by its bits. Two of them are equal when their bits are. -/
structure Binary64 where
  /-- Sign, exponent and fraction, from the highest bit down. -/
  bits : UInt64
  deriving DecidableEq, Repr, Inhabited

namespace Binary64

/-- The exponent and fraction of the infinities, and the least of a word that is not a number. -/
def infinityMagnitude : Nat := 0x7FF0000000000000

/-- The bits without the sign. -/
def magnitude (x : Binary64) : Nat := x.bits.toNat % 0x8000000000000000

/-- Whether the sign bit is set. -/
def isNegative (x : Binary64) : Bool := decide (0x8000000000000000 ≤ x.bits.toNat)

/-- Whether the bits stand for no number. -/
def isNaN (x : Binary64) : Bool := decide (infinityMagnitude < x.magnitude)

/-- Whether the bits stand for a number that is not infinite. -/
def isFinite (x : Binary64) : Bool := decide (x.magnitude < infinityMagnitude)

/-- The number with the given sign and the given bits below it. -/
def ofMagnitude (negative : Bool) (magnitude : Nat) : Binary64 :=
  ⟨UInt64.ofNat ((if negative then 0x8000000000000000 else 0) + magnitude)⟩

/-- Positive zero. -/
def zero : Binary64 := ⟨0⟩

/-- The infinity of the given sign. -/
def infinity (negative : Bool) : Binary64 := ofMagnitude negative infinityMagnitude

/-- The word used where an operation has no numeric result. -/
def nan : Binary64 := ⟨0x7FF8000000000000⟩

/-- The integer in front of the power of two. -/
def significand (x : Binary64) : Nat :=
  if x.magnitude < 0x10000000000000 then x.magnitude
  else 0x10000000000000 + x.magnitude % 0x10000000000000

/-- The power of two, counted from that of the smallest positive number. -/
def scale (x : Binary64) : Nat := x.magnitude >>> 52 - 1

/-- The absolute value of a finite number as a multiple of `2 ^ -1074`. -/
def units (x : Binary64) : Nat := x.significand <<< x.scale

/-- A finite number as an integer multiple of `2 ^ -1074`. -/
def signedUnits (x : Binary64) : Int := if x.isNegative then -(x.units : Int) else x.units

/-! ## Rounding -/

/-- The integer nearest to `n / d`; of two equally near, the even one. -/
def roundQuotient (n d : Nat) : Nat :=
  let q := n / d
  let r := n % d
  if d < 2 * r ∨ (2 * r = d ∧ q % 2 = 1) then q + 1 else q

/-- The number nearest to `n / d` with the given sign, ties to even; infinite when out of range.

The quotient is measured in units of `2 ^ -1074`, scaled so that at most 53 bits remain, and rounded
there. Exponent and significand then add up to the bits, a carry out of the significand included. -/
def ofRatio (negative : Bool) (n d : Nat) : Binary64 :=
  let scaled := n <<< 1074
  let shift := Nat.log2 (scaled / d) - 52
  ofMagnitude negative
    (min infinityMagnitude (shift <<< 52 + roundQuotient scaled (d <<< shift)))

/-- The number nearest to an integer. -/
def ofInt (i : Int) : Binary64 := ofRatio (decide (i < 0)) i.natAbs 1

/-- The number nearest to a sixty-four bit integer. -/
def ofInt64 (i : Int64) : Binary64 := ofInt i.toInt

/-- The number nearest to a natural number. -/
def ofNat (n : Nat) : Binary64 := ofRatio false n 1

/-! ## Order -/

/-- An integer that grows with the number; both zeros have key zero. -/
def key (x : Binary64) : Int := if x.isNegative then -(x.magnitude : Int) else x.magnitude

/-- Order by value. A word that is no number compares as equal to everything. -/
def compare (x y : Binary64) : Ordering :=
  if x.isNaN || y.isNaN then .eq else Ord.compare x.key y.key

/-! ## Arithmetic -/

/-- The sum, rounded to nearest. An exact sum of zero is negative only if both summands are. -/
def add (x y : Binary64) : Binary64 :=
  if x.isNaN || y.isNaN then nan
  else if !x.isFinite then
    if y.isFinite || x.isNegative == y.isNegative then x else nan
  else if !y.isFinite then y
  else
    let sum := x.signedUnits + y.signedUnits
    if sum = 0 then ofMagnitude (x.isNegative && y.isNegative) 0
    else ofRatio (decide (sum < 0)) sum.natAbs (1 <<< 1074)

/-- The product, rounded to nearest. -/
def mul (x y : Binary64) : Binary64 :=
  let negative := x.isNegative != y.isNegative
  if x.isNaN || y.isNaN then nan
  else if !x.isFinite || !y.isFinite then
    if x.magnitude = 0 ∨ y.magnitude = 0 then nan else infinity negative
  else ofRatio negative (x.units * y.units) (1 <<< 2148)

/-- The quotient, rounded to nearest. -/
def div (x y : Binary64) : Binary64 :=
  let negative := x.isNegative != y.isNegative
  if x.isNaN || y.isNaN then nan
  else if !x.isFinite then if y.isFinite then infinity negative else nan
  else if !y.isFinite then ofMagnitude negative 0
  else if y.magnitude = 0 then if x.magnitude = 0 then nan else infinity negative
  else ofRatio negative x.units y.units

/-- The number with the other sign. -/
def neg (x : Binary64) : Binary64 := ofMagnitude (!x.isNegative) x.magnitude

/-- The integer part, clamped to the range of the result; zero where there is no number. -/
def toInt64 (x : Binary64) : Int64 :=
  if x.isNaN then 0
  else if !x.isFinite then if x.isNegative then Int64.minValue else Int64.maxValue
  else Int64.ofIntClamp (x.signedUnits.tdiv (1 <<< 1074 : Nat))

end Binary64

end DualQuery
