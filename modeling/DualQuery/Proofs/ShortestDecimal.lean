import DualQuery.Proofs.RoundingInterval
import Mathlib.Algebra.Order.Field.Power
import Mathlib.Tactic.Ring

/-!
# Shortest decimals determine the number

A grid point that `onGrid?` returns lies in the interval of the number. The grid of seventeen
significant digits always has such a point, because its step is smaller than the interval: the
default of `shortest` is never met, and the decimal it gives lies in the interval of the number. Two
numbers with the same shortest decimal are therefore equal up to their signs.

## Key results

- `onGrid?_seventeen`: seventeen digits suffice
- `holds_shortest`: the shortest decimal rounds to the number
- `magnitude_eq_of_shortest`: it determines the number
-/

namespace DualQuery.Decimal

open DualQuery.Binary64

/-- The number a decimal stands for. -/
def Scientific.value (s : Scientific) : ℚ := s.digits * 10 ^ s.exponent

/-- The number a decimal stands for, in units of `2 ^ -1076`. -/
def Scientific.units (s : Scientific) : ℚ := s.value * 2 ^ 1076

/-- Dropping zeros at the end keeps the value. -/
@[simp] theorem Scientific.value_trim (fuel : Nat) (s : Scientific) :
    (s.trim fuel).value = s.value := by
  induction fuel generalizing s with
  | zero => rw [trim]
  | succ fuel ih =>
    rw [trim]
    split
    · rename_i h
      rw [ih, value, value]
      -- the last digit is 0, so dropping it and raising the exponent gives the same number
      have hdigits : s.digits = s.digits / 10 * 10 := by omega
      have hcast : (s.digits : ℚ) = (s.digits / 10 : Nat) * 10 := by exact_mod_cast hdigits
      rw [hcast, zpow_add₀ (by norm_num), zpow_one]
      ring
    · rfl

/-- The grid step of an exponent, as the quotient by which `onGrid?` measures it. -/
theorem gridStep_eq (exponent : Int) (k : Nat) :
    ((Nat.pow 10 exponent.toNat <<< k : Nat) : ℚ) / (Nat.pow 10 (-exponent).toNat : Nat) =
      10 ^ exponent * 2 ^ k := by
  rw [Nat.shiftLeft_eq]
  change ((10 ^ exponent.toNat * 2 ^ k : Nat) : ℚ) / ((10 ^ (-exponent).toNat : Nat) : ℚ) = _
  push_cast
  obtain ⟨n, rfl | rfl⟩ := exponent.eq_nat_or_neg
  · simp
  · simp only [Int.toNat_natCast, neg_neg, zpow_neg, zpow_natCast]
    rw [Int.toNat_of_nonpos (by omega)]
    ring

/-- A multiple of the grid step that was tested against the interval lies in it. -/
theorem holds_of_contains {i : Interval} {exponent : Int} {up down : Nat} (hdown : 0 < down)
    (hstep : (up : ℚ) / down = 10 ^ exponent * 2 ^ 1076) {k : Nat}
    (h : i.contains (k * up) down = true) : i.Holds (Scientific.units ⟨k, exponent⟩) := by
  have hholds := (Interval.contains_eq_true_iff _ _ hdown).mp h
  have hpoint : Scientific.units ⟨k, exponent⟩ = ((k * up : Nat) : ℚ) / down := by
    rw [Scientific.units, Scientific.value, mul_assoc, ← hstep, Nat.cast_mul, mul_div_assoc]
  rwa [hpoint]

/-- A point that `onGrid?` returns lies in the interval of the number. -/
theorem holds_of_onGrid? {tie : Tie} {x : Binary64} {exponent : Int} {s : Scientific}
    (h : onGrid? tie x exponent = some s) : (Interval.around x).Holds s.units := by
  have hstep := gridStep_eq exponent 1076
  have hdown : 0 < Nat.pow 10 (-exponent).toNat := Nat.pow_pos (by decide)
  unfold onGrid? at h
  dsimp only at h
  generalize Nat.pow 10 exponent.toNat <<< 1076 = up at h hstep
  generalize Nat.pow 10 (-exponent).toNat = down at h hstep hdown
  generalize 4 * x.units * down / up = point at h
  split at h
  · rename_i hboth
    rw [Bool.and_eq_true] at hboth
    rw [Option.some.injEq] at h
    subst h
    -- with both neighbours inside the interval either of them will do
    have hchosen (nearer : Bool) : (Interval.around x).contains
        ((if nearer = true then point + 1 else point) * up) down = true := by
      cases nearer with
      | false => exact hboth.1
      | true => exact hboth.2
    exact holds_of_contains hdown hstep (hchosen _)
  · split at h
    · rename_i hbelow
      rw [Option.some.injEq] at h
      subst h
      exact holds_of_contains hdown hstep hbelow
    · split at h
      · rename_i habove
        rw [Option.some.injEq] at h
        subst h
        exact holds_of_contains hdown hstep habove
      · exact absurd h (by simp)

/-- What lies strictly between the bounds lies in the interval. -/
theorem Interval.contains_of_lt {i : Interval} {n d : Nat} (hlower : i.lower * d < n)
    (hupper : n < i.upper * d) : i.contains n d = true := by
  unfold contains
  split
  · exact decide_eq_true ⟨hlower.le, hupper.le⟩
  · exact decide_eq_true ⟨hlower, hupper⟩

/-- Of the two points of a grid beside a number one lies in its interval, if the step is smaller
than the interval. -/
theorem contains_or_contains {x : Binary64} {up down point : Nat} (hdown : 0 < down)
    (hbelow : Interval.below x ≤ 4 * x.units)
    (hstep : up < (Interval.below x + 2 * gapAt x.magnitude) * down)
    (hpoint : point * up ≤ 4 * x.units * down)
    (hnext : 4 * x.units * down < (point + 1) * up) :
    (Interval.around x).contains (point * up) down = true ∨
      (Interval.around x).contains ((point + 1) * up) down = true := by
  have hgap := gapAt_pos x.magnitude
  have hlower : (4 * x.units - Interval.below x) * down ≤ 4 * x.units * down :=
    Nat.mul_le_mul_right _ (by omega)
  have hupper : 4 * x.units * down < (4 * x.units + 2 * gapAt x.magnitude) * down :=
    Nat.mul_lt_mul_of_pos_right (by omega) hdown
  have hwidth : (4 * x.units + 2 * gapAt x.magnitude) * down =
      (4 * x.units - Interval.below x) * down +
        (Interval.below x + 2 * gapAt x.magnitude) * down := by
    rw [← Nat.add_mul]
    congr 1
    omega
  have hsum : (point + 1) * up = point * up + up := Nat.succ_mul point up
  rw [Interval.around_eq]
  by_cases hout : point * up ≤ (4 * x.units - Interval.below x) * down
  · -- the step from outside the interval is too small to lead over it
    exact .inr (Interval.contains_of_lt (by dsimp only; omega) (by dsimp only; omega))
  · exact .inl (Interval.contains_of_lt (by dsimp only; omega) (by dsimp only; omega))

/-- A grid whose step is smaller than the interval has a point in it beside the number. -/
theorem isSome_onGrid? (tie : Tie) (x : Binary64) (exponent : Int)
    (hbelow : Interval.below x ≤ 4 * x.units)
    (hstep : Nat.pow 10 exponent.toNat <<< 1076 <
      (Interval.below x + 2 * gapAt x.magnitude) * Nat.pow 10 (-exponent).toNat) :
    (onGrid? tie x exponent).isSome = true := by
  have hdown : 0 < Nat.pow 10 (-exponent).toNat := Nat.pow_pos (by decide)
  have hup : 0 < Nat.pow 10 exponent.toNat <<< 1076 := by
    rw [Nat.shiftLeft_eq]
    exact Nat.mul_pos (Nat.pow_pos (by decide)) (Nat.two_pow_pos 1076)
  unfold onGrid?
  dsimp only
  generalize Nat.pow 10 exponent.toNat <<< 1076 = up at hstep hup
  generalize Nat.pow 10 (-exponent).toNat = down at hstep hdown
  have hpoint : 4 * x.units * down / up * up ≤ 4 * x.units * down := Nat.div_mul_le_self _ _
  have hnext : 4 * x.units * down < (4 * x.units * down / up + 1) * up :=
    (Nat.lt_mul_div_succ _ hup).trans_eq (Nat.mul_comm _ _)
  -- the interval is wider than a step of the grid, so one of the two points next to the double is
  -- in it
  have hhit := contains_or_contains hdown hbelow hstep hpoint hnext
  generalize 4 * x.units * down / up = point at hhit
  rcases hhit with hhit | hhit
  · by_cases hother : (Interval.around x).contains ((point + 1) * up) down = true
    · simp [hhit, hother]
    · simp [hhit, hother]
  · by_cases hother : (Interval.around x).contains (point * up) down = true
    · simp [hhit, hother]
    · simp [hhit, hother]

/-- A positive number has at least as many digits as its decimal length says. -/
theorem pow_digitCount_le {n : Nat} (hn : 0 < n) : 10 ^ (digitCount n - 1) ≤ n := by
  by_contra hlt
  have hpos : 0 < digitCount n := Nat.length_toDigits_pos
  by_cases hone : digitCount n = 1
  · rw [hone] at hlt
    omega
  · -- a smaller number would have a digit less
    have hshort := (Nat.length_toDigits_le_iff (by decide : 1 < 10)
      (by omega : 0 < digitCount n - 1)).mpr (by omega : n < 10 ^ (digitCount n - 1))
    have hlength : (Nat.toDigits 10 n).length = digitCount n := rfl
    omega

/-- A number of at least one unit has a positive quotient by it. -/
theorem shiftRight_pos {n k : Nat} (h : 1 <<< k ≤ n) : 0 < n >>> k := by
  rw [Nat.one_shiftLeft] at h
  rw [Nat.shiftRight_eq_div_pow]
  exact Nat.div_pos h (Nat.two_pow_pos k)

/-- A number of at least one unit stays positive when it is written with four hundred decimal
places. -/
theorem scaled_pos {x : Binary64} (hx : 0 < x.units) :
    0 < (x.units * Nat.pow 10 400) >>> 1074 := by
  have hpow : 1 <<< 1074 ≤ Nat.pow 10 400 := by decide +kernel
  exact shiftRight_pos (hpow.trans (Nat.le_mul_of_pos_left _ hx))

/-- The interval is at least three quarters of the gap wide, and more than `10 ^ -16` times the
number. -/
theorem units_lt_width (x : Binary64) :
    4 * x.units < (Interval.below x + 2 * gapAt x.magnitude) * 10 ^ 16 := by
  have hgap := gapAt_pos x.magnitude
  have hsignificand := significand_lt x
  rw [units_eq_significand_mul, Interval.below]
  split
  · rename_i hboundary
    rw [hboundary.1]
    omega
  · have hmul : x.significand * gapAt x.magnitude ≤ 0x20000000000000 * gapAt x.magnitude :=
      Nat.mul_le_mul_right _ hsignificand.le
    omega

/-- The interval below a positive double reaches no further than to zero. -/
theorem below_le_units (x : Binary64) (hx : 0 < x.magnitude) :
    Interval.below x ≤ 4 * x.units := by
  have hsignificand := significand_pos hx
  have hmul : 1 * gapAt x.magnitude ≤ x.significand * gapAt x.magnitude :=
    Nat.mul_le_mul_right _ hsignificand
  rw [units_eq_significand_mul, Interval.below]
  split <;> omega

/-- A grid of which the number has seventeen digits has a step smaller than the interval. The number
is `units` in units of `1 / quantum`, and `count` counts its digits with so many decimal places. -/
theorem gridStep_lt {count units width places quantum : Nat} {exponent : Int} (hcount : 0 < count)
    (hexponent : exponent = (count : Int) - (places + 1) - 16)
    (hnumber : 10 ^ (count - 1) * quantum ≤ units * Nat.pow 10 places)
    (hwidth : 4 * units < width * 10 ^ 16) :
    Nat.pow 10 exponent.toNat * (quantum * 4) < width * Nat.pow 10 (-exponent).toNat := by
  rw [Nat.pow_eq] at hnumber
  rw [Nat.pow_eq, Nat.pow_eq]
  have hpow : 10 ^ exponent.toNat * (10 ^ places * 10 ^ 16) =
      10 ^ (count - 1) * 10 ^ (-exponent).toNat := by
    rw [← Nat.pow_add, ← Nat.pow_add, ← Nat.pow_add]
    congr 1
    omega
  have hdown : 0 < 10 ^ places * 10 ^ (-exponent).toNat :=
    Nat.mul_pos (Nat.pow_pos (by decide)) (Nat.pow_pos (by decide))
  -- scaling both sides trades the power of the step for that of the leading digit
  refine Nat.lt_of_mul_lt_mul_right (a := 10 ^ places * 10 ^ 16) ?_
  calc 10 ^ exponent.toNat * (quantum * 4) * (10 ^ places * 10 ^ 16)
      = 10 ^ exponent.toNat * (10 ^ places * 10 ^ 16) * (quantum * 4) := by
        rw [Nat.mul_right_comm]
    _ = 10 ^ (count - 1) * quantum * (4 * 10 ^ (-exponent).toNat) := by
        rw [hpow]
        ring
    _ ≤ units * 10 ^ places * (4 * 10 ^ (-exponent).toNat) := Nat.mul_le_mul_right _ hnumber
    _ = 4 * units * (10 ^ places * 10 ^ (-exponent).toNat) := by ring
    _ < width * 10 ^ 16 * (10 ^ places * 10 ^ (-exponent).toNat) :=
        Nat.mul_lt_mul_of_pos_right hwidth hdown
    _ = width * 10 ^ (-exponent).toNat * (10 ^ places * 10 ^ 16) := by ring

/-- A shift divides by a power of two, and back by two more it multiplies by four times the
power. -/
private theorem exists_quantum (shift : Nat) : ∃ quantum, 0 < quantum ∧
    (∀ n, n >>> shift = n / quantum) ∧ ∀ n, n <<< (shift + 2) = n * (quantum * 4) :=
  ⟨2 ^ shift, Nat.two_pow_pos shift, fun n => Nat.shiftRight_eq_div_pow n shift,
    fun n => by rw [Nat.shiftLeft_eq, Nat.pow_add]⟩

/-- The grid of seventeen significant digits has a point in the interval. -/
theorem onGrid?_seventeen (tie : Tie) (x : Binary64) (hx : 0 < x.magnitude) :
    (onGrid? tie x (leadingExponent x - 16)).isSome = true := by
  refine isSome_onGrid? tie x _ (below_le_units x hx) ?_
  have hunits : 0 < x.units := by
    rw [units_eq_significand_mul]
    exact Nat.mul_pos (significand_pos hx) (gapAt_pos _)
  have hcount : 0 < digitCount ((x.units * Nat.pow 10 400) >>> 1074) := Nat.length_toDigits_pos
  have hleading := pow_digitCount_le (scaled_pos hunits)
  rw [leadingExponent]
  generalize digitCount ((x.units * Nat.pow 10 400) >>> 1074) = count at hleading hcount
  -- the powers stay closed: only their quotient counts
  obtain ⟨quantum, hpos, hright, hleft⟩ := exists_quantum 1074
  obtain ⟨places, hplaces⟩ : ∃ places, places = 400 := ⟨_, rfl⟩
  rw [hright, Nat.le_div_iff_mul_le hpos, ← hplaces] at hleading
  have hexponent : (count : Int) - 401 - 16 = (count : Int) - (places + 1) - 16 := by omega
  rw [hleft]
  exact gridStep_lt hcount hexponent hleading (units_lt_width x)

/-- The shortest decimal of a positive number lies in its interval. -/
theorem holds_shortest (tie : Tie) {x : Binary64} (hx : 0 < x.magnitude) :
    (Interval.around x).Holds (shortest tie x).units := by
  -- seventeen digits are always enough, so the search over the grids ends
  have hfound : ((List.range 17).findSome? fun (n : Nat) =>
      onGrid? tie x (leadingExponent x - n)).isSome = true := by
    rw [List.findSome?_isSome_iff]
    exact ⟨16, by decide, onGrid?_seventeen tie x hx⟩
  obtain ⟨s, hs⟩ := Option.isSome_iff_exists.mp hfound
  obtain ⟨n, -, hn⟩ := List.exists_of_findSome?_eq_some hs
  have hshortest : shortest tie x = s.trim 400 := by
    rw [shortest, hs]
    rfl
  have hunits : (shortest tie x).units = s.units := by
    rw [hshortest, Scientific.units, Scientific.value_trim, Scientific.units]
  rw [hunits]
  exact holds_of_onGrid? hn

/-- The shortest decimal of a positive double is positive. -/
theorem value_shortest_pos (tie : Tie) {x : Binary64} (hx : 0 < x.magnitude) :
    0 < (shortest tie x).value := by
  have hlower := (holds_shortest tie hx).lower_le
  have hunits : 0 < (Interval.around x).lower := by
    rw [Interval.lower_around x hx]
    have := unitsAt_lt_unitsAt hx
    omega
  have hpos : 0 < (shortest tie x).units := lt_of_lt_of_le (by exact_mod_cast hunits) hlower
  rw [Scientific.units] at hpos
  exact pos_of_mul_pos_left hpos (pow_pos (by norm_num) _).le

/-- Positive numbers with the same shortest decimal have the same bits. -/
theorem magnitude_eq_of_shortest {tie : Tie} {x y : Binary64} (hx : 0 < x.magnitude)
    (hy : 0 < y.magnitude) (h : (shortest tie x).value = (shortest tie y).value) :
    x.magnitude = y.magnitude := by
  have hxholds := holds_shortest tie hx
  have hyholds := holds_shortest tie hy
  rw [Scientific.units, ← h, ← Scientific.units] at hyholds
  exact Interval.magnitude_eq_of_holds hxholds hyholds

end DualQuery.Decimal
