import DualQuery.Decimal.Binary64

/-!
# Shortest decimals

The decimals that round to a given double-precision number form an interval around it. `shortest`
walks the decimal grids of one, two, … seventeen significant digits and takes, on the first grid
with a point in that interval, the point nearest to the number. A tie between two points is left to
the caller, because formats settle it differently.
-/

namespace DualQuery.Decimal

open DualQuery

/-- How to choose between two equally near decimals. -/
inductive Tie where
  /-- The one whose last digit is even. -/
  | toEven
  /-- The larger one. -/
  | up
  deriving DecidableEq, Repr

/-- The decimal `digits * 10 ^ exponent`. -/
structure Scientific where
  digits : Nat
  exponent : Int
  deriving DecidableEq, Repr

/-- Drop trailing zero digits, at most `fuel` of them. -/
def Scientific.trim : Nat → Scientific → Scientific
  | 0, s => s
  | fuel + 1, s =>
    if s.digits ≠ 0 ∧ s.digits % 10 = 0 then trim fuel ⟨s.digits / 10, s.exponent + 1⟩ else s

/-- The number of decimal digits. -/
def digitCount (n : Nat) : Nat := (Nat.toDigits 10 n).length

/-- The reals that round to a number, as bounds in units of `2 ^ -1076`. -/
structure Interval where
  lower : Nat
  upper : Nat
  /-- Whether the bounds themselves round to the number. -/
  closed : Bool

/-- The interval of a positive finite number. Below a power of two the gap is half as wide. -/
def Interval.around (x : Binary64) : Interval :=
  let unit := 1 <<< x.scale
  let value := 4 * x.units
  let below := if x.significand = 0x10000000000000 ∧ 0 < x.scale then unit else 2 * unit
  ⟨value - below, value + 2 * unit, x.significand % 2 = 0⟩

/-- Whether the fraction `n / d`, measured in units of `2 ^ -1076`, lies in the interval. -/
def Interval.contains (i : Interval) (n d : Nat) : Bool :=
  if i.closed then decide (i.lower * d ≤ n ∧ n ≤ i.upper * d)
  else decide (i.lower * d < n ∧ n < i.upper * d)

/-- The point of the grid `10 ^ exponent` nearest to a number, among the two beside it that lie in
its interval. -/
def onGrid? (tie : Tie) (x : Binary64) (exponent : Int) : Option Scientific :=
  -- in units of `2 ^ -1076` the number is `value` and one grid step is `up / down`
  let up := Nat.pow 10 exponent.toNat <<< 1076
  let down := Nat.pow 10 (-exponent).toNat
  let value := 4 * x.units
  let below := value * down / up
  let rest := value * down % up
  let interval := Interval.around x
  let hitBelow := interval.contains (below * up) down
  let hitAbove := interval.contains ((below + 1) * up) down
  let aboveNearer := match tie with
    | .toEven => decide (up < 2 * rest ∨ (2 * rest = up ∧ below % 2 = 1))
    | .up => decide (up ≤ 2 * rest)
  if hitBelow && hitAbove then some ⟨if aboveNearer then below + 1 else below, exponent⟩
  else if hitBelow then some ⟨below, exponent⟩
  else if hitAbove then some ⟨below + 1, exponent⟩
  else none

/-- The exponent of the leading decimal digit of a positive finite number. -/
def leadingExponent (x : Binary64) : Int :=
  (digitCount ((x.units * Nat.pow 10 400) >>> 1074) : Int) - 401

/-- The decimal with the fewest digits that rounds to a positive finite number, and of those the
nearest. Seventeen digits always suffice, so the default is never met. -/
def shortest (tie : Tie) (x : Binary64) : Scientific :=
  let leading := leadingExponent x
  let found := (List.range 17).findSome? fun (n : Nat) => onGrid? tie x (leading - n)
  (found.getD ⟨0, 0⟩).trim 400

end DualQuery.Decimal
