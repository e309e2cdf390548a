import DualQuery.Decimal.Shortest
import Mathlib.Algebra.Order.Field.Rat
import Mathlib.Tactic.Linarith
import Mathlib.Tactic.Positivity
import Mathlib.Tactic.FieldSimp

/-!
# Intervals of rounding

The intervals that `Interval.around` puts around doubles of one sign meet in their end points at
most, and then only one of the two holds the end point: the numbers are neighbours, so one of them
has an even significand and the other an odd one. A decimal therefore lies in the interval of at
most one double.

## Key results

- `Binary64.unitsAt_succ`: the gap above a number
- `Interval.lower_around`, `Interval.upper_around`: the bounds as midpoints between neighbours
- `Interval.magnitude_eq_of_holds`: no two numbers share a point of their intervals
-/

namespace DualQuery

namespace Binary64

/-- A double is known by its sign and the bits below it. -/
theorem ext_of_magnitude {x y : Binary64} (hsign : x.isNegative = y.isNegative)
    (hmagnitude : x.magnitude = y.magnitude) : x = y := by
  -- sign and magnitude are the top bit and the other 63
  have hbits : x.bits.toNat = y.bits.toNat := by
    have hx := x.bits.toNat_lt
    have hy := y.bits.toNat_lt
    simp only [isNegative, decide_eq_decide] at hsign
    simp only [magnitude] at hmagnitude
    omega
  obtain ⟨bits⟩ := x
  obtain ⟨bits'⟩ := y
  rw [mk.injEq]
  exact UInt64.toNat_inj.mp hbits

/-- The absolute value that bits without a sign stand for, as a multiple of `2 ^ -1074`. -/
def unitsAt (m : Nat) : Nat :=
  (if m < 0x10000000000000 then m else 0x10000000000000 + m % 0x10000000000000) <<< (m >>> 52 - 1)

/-- The distance from bits to the next larger ones. -/
def gapAt (m : Nat) : Nat := 2 ^ (m / 0x10000000000000 - 1)

/-- The absolute value of a double is that of its bits without the sign. -/
theorem units_eq_unitsAt (x : Binary64) : x.units = unitsAt x.magnitude := rfl

/-- The gap above a number is never empty. -/
theorem gapAt_pos (m : Nat) : 0 < gapAt m := Nat.pow_pos (by decide)

/-- The unit of the last place is the gap above the number. -/
theorem one_shiftLeft_scale (x : Binary64) : 1 <<< x.scale = gapAt x.magnitude := by
  rw [scale, Nat.shiftRight_eq_div_pow, Nat.one_shiftLeft]
  rfl

/-- The absolute value is the significand in units of the last place. -/
theorem units_eq_significand_mul (x : Binary64) :
    x.units = x.significand * gapAt x.magnitude := by
  rw [units, Nat.shiftLeft_eq, ← Nat.one_shiftLeft, one_shiftLeft_scale]

/-- Bits whose exponent field is zero stand for themselves. -/
theorem unitsAt_of_subnormal {m : Nat} (h : m / 0x10000000000000 = 0) : unitsAt m = m := by
  have hm : m < 0x10000000000000 := by omega
  rw [unitsAt, Nat.shiftRight_eq_div_pow, if_pos hm]
  change m <<< (m / 0x10000000000000 - 1) = m
  rw [h]
  rfl

/-- Other bits stand for the fraction with a leading one, scaled by the exponent field. -/
theorem unitsAt_of_normal {m e : Nat} (h : m / 0x10000000000000 = e + 1) :
    unitsAt m = (0x10000000000000 + m % 0x10000000000000) * 2 ^ e := by
  have hm : ¬ m < 0x10000000000000 := by omega
  rw [unitsAt, Nat.shiftRight_eq_div_pow, if_neg hm, Nat.shiftLeft_eq]
  change _ * 2 ^ (m / 0x10000000000000 - 1) = _
  rw [h, Nat.add_sub_cancel]

/-- The next larger bits stand for a value that is larger by the gap. -/
theorem unitsAt_succ (m : Nat) : unitsAt (m + 1) = unitsAt m + gapAt m := by
  rw [gapAt]
  -- the exponent field grows by one exactly where the fraction is full
  by_cases hfull : m % 0x10000000000000 = 0x10000000000000 - 1
  · have hnext : (m + 1) / 0x10000000000000 = m / 0x10000000000000 + 1 := by omega
    have hfraction : (m + 1) % 0x10000000000000 = 0 := by omega
    rw [unitsAt_of_normal hnext, hfraction]
    cases he : m / 0x10000000000000 with
    | zero =>
      rw [unitsAt_of_subnormal he]
      omega
    | succ e =>
      rw [unitsAt_of_normal he, hfull, Nat.add_sub_cancel, Nat.pow_succ]
      omega
  · have hnext : (m + 1) / 0x10000000000000 = m / 0x10000000000000 := by omega
    have hfraction : (m + 1) % 0x10000000000000 = m % 0x10000000000000 + 1 := by omega
    cases he : m / 0x10000000000000 with
    | zero =>
      rw [unitsAt_of_subnormal he, unitsAt_of_subnormal (hnext.trans he)]
      omega
    | succ e =>
      rw [unitsAt_of_normal he, unitsAt_of_normal (hnext.trans he), hfraction, Nat.add_sub_cancel,
        ← Nat.add_assoc, Nat.add_mul _ 1, Nat.one_mul]

/-- Larger bits stand for larger values. -/
theorem unitsAt_lt_unitsAt {m n : Nat} (h : m < n) : unitsAt m < unitsAt n := by
  induction n with
  | zero => omega
  | succ n ih =>
    have hgap := gapAt_pos n
    rw [unitsAt_succ]
    -- either the number is the neighbour below, or it is below that one
    by_cases hmn : m = n
    · subst hmn
      omega
    · have := ih (by omega)
      omega

/-- Only zero has no significand. -/
theorem significand_pos {x : Binary64} (hx : 0 < x.magnitude) : 0 < x.significand := by
  rw [significand]
  split <;> omega

/-- A significand takes fifty-three bits at most. -/
theorem significand_lt (x : Binary64) : x.significand < 0x20000000000000 := by
  rw [significand]
  split <;> omega

/-- A significand is even where the bits are. -/
theorem significand_mod_two (x : Binary64) : x.significand % 2 = x.magnitude % 2 := by
  rw [significand]
  split <;> omega

end Binary64

namespace Decimal.Interval

open Binary64

/-- Whether a point, in units of `2 ^ -1076`, lies in an interval. -/
def Holds (i : Interval) (p : ℚ) : Prop :=
  if i.closed then i.lower ≤ p ∧ p ≤ i.upper else i.lower < p ∧ p < i.upper

/-- A fraction is contained exactly when the point it stands for lies in the interval. -/
theorem contains_eq_true_iff (i : Interval) (n : Nat) {d : Nat} (hd : 0 < d) :
    i.contains n d = true ↔ i.Holds ((n : ℚ) / d) := by
  have hd' : (0 : ℚ) < d := by exact_mod_cast hd
  unfold contains Holds
  -- the comparison is done on products, so no fraction is ever formed
  cases i.closed with
  | false =>
    simp only [Bool.false_eq_true, if_false, decide_eq_true_eq]
    rw [lt_div_iff₀ hd', div_lt_iff₀ hd']
    norm_cast
  | true =>
    simp only [if_true, decide_eq_true_eq]
    rw [le_div_iff₀ hd', div_le_iff₀ hd']
    norm_cast

/-- A point of an interval is not below it. -/
theorem Holds.lower_le {i : Interval} {p : ℚ} (h : i.Holds p) : (i.lower : ℚ) ≤ p := by
  unfold Holds at h
  split at h
  · exact h.1
  · exact h.1.le

/-- A point of an interval is not above it. -/
theorem Holds.le_upper {i : Interval} {p : ℚ} (h : i.Holds p) : p ≤ (i.upper : ℚ) := by
  unfold Holds at h
  split at h
  · exact h.2
  · exact h.2.le

/-- An interval that holds one of its end points is closed. -/
theorem Holds.closed_of_eq {i : Interval} {p : ℚ} (h : i.Holds p)
    (hp : p = i.lower ∨ p = i.upper) : i.closed = true := by
  unfold Holds at h
  split at h
  · assumption
  · rcases hp with hp | hp
    · exact absurd hp h.1.ne'
    · exact absurd hp h.2.ne

/-- The width of the interval below a number, in units of `2 ^ -1076`. -/
def below (x : Binary64) : Nat :=
  if x.significand = 0x10000000000000 ∧ 0 < x.scale then gapAt x.magnitude
  else 2 * gapAt x.magnitude

/-- The interval around a number reaches half a gap up, and half a gap down, which is smaller below
a power of two. -/
theorem around_eq (x : Binary64) :
    around x = ⟨4 * x.units - below x, 4 * x.units + 2 * gapAt x.magnitude,
      x.significand % 2 = 0⟩ := by
  simp only [around, below, one_shiftLeft_scale]

/-- The interval is closed around the numbers whose bits are even. -/
theorem closed_around (x : Binary64) :
    (around x).closed = decide (x.magnitude % 2 = 0) := by
  rw [around_eq, significand_mod_two]

/-- Its upper end is the midpoint to the next larger number. -/
theorem upper_around (x : Binary64) :
    (around x).upper = 2 * (unitsAt x.magnitude + unitsAt (x.magnitude + 1)) := by
  rw [around_eq, unitsAt_succ, units_eq_unitsAt]
  dsimp only
  omega

/-- Below a number the gap is that above its lower neighbour. -/
theorem below_eq (x : Binary64) (hx : 0 < x.magnitude) : below x = 2 * gapAt (x.magnitude - 1) := by
  have hscale : x.scale = x.magnitude / 0x10000000000000 - 1 := by
    rw [scale, Nat.shiftRight_eq_div_pow]
  rw [below, hscale, significand, gapAt, gapAt]
  by_cases hboundary : x.magnitude % 0x10000000000000 = 0 ∧ 2 ≤ x.magnitude / 0x10000000000000
  · -- at a power of two the lower neighbour has the next smaller exponent
    have hprev : (x.magnitude - 1) / 0x10000000000000 - 1 =
        x.magnitude / 0x10000000000000 - 1 - 1 := by omega
    have hpow : x.magnitude / 0x10000000000000 - 1 =
        x.magnitude / 0x10000000000000 - 1 - 1 + 1 := by omega
    rw [if_neg (by omega : ¬ x.magnitude < 0x10000000000000), hprev,
      if_pos ⟨by omega, by omega⟩]
    conv_lhs => rw [hpow, Nat.pow_succ]
    omega
  · have hprev : (x.magnitude - 1) / 0x10000000000000 - 1 =
        x.magnitude / 0x10000000000000 - 1 := by omega
    rw [hprev, if_neg]
    split <;> omega

/-- Its lower end is the midpoint to the next smaller number. -/
theorem lower_around (x : Binary64) (hx : 0 < x.magnitude) :
    (around x).lower = 2 * (unitsAt (x.magnitude - 1) + unitsAt x.magnitude) := by
  -- the double below is the one of the next smaller magnitude
  obtain ⟨m, hm⟩ : ∃ m, x.magnitude = m + 1 := ⟨x.magnitude - 1, by omega⟩
  rw [around_eq, below_eq x hx, units_eq_unitsAt]
  dsimp only
  rw [hm, Nat.add_sub_cancel, unitsAt_succ]
  omega

/-- Of two numbers the smaller one's interval does not reach into that of the larger one. -/
theorem not_holds_of_lt {x y : Binary64} (h : x.magnitude < y.magnitude) {p : ℚ}
    (hx : (around x).Holds p) (hy : (around y).Holds p) : False := by
  obtain ⟨m, hm⟩ : ∃ m, y.magnitude = m + 1 := ⟨y.magnitude - 1, by omega⟩
  have hupper := upper_around x
  have hlower := lower_around y (by omega)
  rw [hm, Nat.add_sub_cancel] at hlower
  have hmeet : ((around y).lower : ℚ) ≤ (around x).upper := hy.lower_le.trans hx.le_upper
  have hmeetNat : (around y).lower ≤ (around x).upper := by exact_mod_cast hmeet
  by_cases hadjacent : m = x.magnitude
  · -- neighbours share an end point, which only one of them may hold
    subst hadjacent
    have hends : (around y).lower = (around x).upper := hlower.trans hupper.symm
    have hpx : p = (around x).upper := by
      refine le_antisymm hx.le_upper ?_
      rw [← hends]
      exact hy.lower_le
    have hpy : p = (around y).lower := by rw [hends, hpx]
    have hxclosed := hx.closed_of_eq (.inr hpx)
    have hyclosed := hy.closed_of_eq (.inl hpy)
    rw [closed_around, decide_eq_true_eq] at hxclosed hyclosed
    omega
  · have h1 := unitsAt_lt_unitsAt (by omega : x.magnitude < m)
    have h2 := unitsAt_lt_unitsAt (by omega : x.magnitude + 1 < m + 1)
    omega

/-- Positive numbers whose intervals share a point have the same bits. -/
theorem magnitude_eq_of_holds {x y : Binary64} {p : ℚ}
    (hx : (around x).Holds p) (hy : (around y).Holds p) : x.magnitude = y.magnitude := by
  rcases Nat.lt_trichotomy x.magnitude y.magnitude with h | h | h
  · exact (not_holds_of_lt h hx hy).elim
  · exact h
  · exact (not_holds_of_lt h hy hx).elim

end Decimal.Interval

end DualQuery
