import DualQuery.Proofs.RoundedQuotient
import Mathlib.Data.Nat.Log

/-!
# Rounding and order

Rounding keeps the order: of two integers the smaller one is not rounded to the larger double. An
integer is rounded to a finite double, and to a zero only if it is zero.

## Key results

- `Binary64.roundedAt_mono`: rounding of quotients
- `Binary64.key_ofInt64_mono`: doubles of integers
- `Binary64.eq_or_zeros_of_key_eq`: doubles of one value
-/

namespace DualQuery.Binary64

/-! ## Quotients -/

/-- Rounding to an integer keeps the order of two quotients with one denominator. -/
theorem roundQuotient_mono {m n : Nat} (h : m ≤ n) (d : Nat) :
    roundQuotient m d ≤ roundQuotient n d := by
  have hquotient : m / d ≤ n / d := Nat.div_le_div_right h
  rcases Nat.lt_or_eq_of_le hquotient with hlt | heq
  · -- the smaller one is rounded to the quotient of the larger one at most
    have hround : roundQuotient m d ≤ m / d + 1 := by
      simp only [roundQuotient]
      split <;> omega
    have hround' := le_roundQuotient n d
    omega
  · -- with one quotient the larger one has the larger remainder
    have hdiv := Nat.div_add_mod m d
    have hdiv' := Nat.div_add_mod n d
    rw [heq] at hdiv
    simp only [roundQuotient, heq]
    split <;> split <;> omega

/-- Of two quotients with one denominator the smaller one is not rounded to a larger number. -/
theorem roundedAt_mono {t u d : Nat} (hd : 0 < d) (h : t ≤ u) : roundedAt t d ≤ roundedAt u d := by
  generalize hshift : Nat.log2 (t / d) - 52 = shift
  generalize hshift' : Nat.log2 (u / d) - 52 = shift'
  have hle : shift ≤ shift' := by
    have hlog := Nat.log_mono_right (b := 2) (Nat.div_le_div_right (c := d) h)
    rw [← Nat.log2_eq_log_two, ← Nat.log2_eq_log_two] at hlog
    omega
  have hcarry := roundQuotient_le_carry hd hshift
  rw [roundedAt, roundedAt, hshift, hshift']
  rcases Nat.lt_or_eq_of_le hle with hlt | rfl
  · -- the larger one has more bits, so it is rounded past any carry of the smaller one
    obtain ⟨more, rfl⟩ : ∃ more, shift' = more + 1 := ⟨shift' - 1, by omega⟩
    have hbits : 0x10000000000000 ≤ u / d / 2 ^ (more + 1) :=
      (Nat.le_div_iff_mul_le (Nat.pow_pos (by decide))).2 (le_of_log2_eq hshift')
    have hround := le_roundQuotient u (d * 2 ^ (more + 1))
    rw [← Nat.div_div_eq_div_mul] at hround
    omega
  · have := roundQuotient_mono h (d * 2 ^ shift)
    omega

/-! ## Integers -/

/-- The larger integer has the larger magnitude as a double, whatever the signs. -/
theorem magnitude_ofRatio_mono (negative negative' : Bool) {m n : Nat} (h : m ≤ n) :
    (ofRatio negative m 1).magnitude ≤ (ofRatio negative' n 1).magnitude := by
  rw [magnitude_ofRatio, magnitude_ofRatio]
  -- magnitudes count the steps of 2 ^ -1074, so both sides are scaled before they are compared
  have hscaled : m <<< 1074 ≤ n <<< 1074 := by
    rw [Nat.shiftLeft_eq, Nat.shiftLeft_eq]
    exact Nat.mul_le_mul_right _ h
  have := roundedAt_mono (by decide : 0 < 1) hscaled
  omega

/-- A double has the sign it is made with. -/
theorem isNegative_ofMagnitude (negative : Bool) {m : Nat} (hm : m < 0x8000000000000000) :
    (ofMagnitude negative m).isNegative = negative := by
  rw [isNegative, ofMagnitude, UInt64.toNat_ofNat']
  change decide (_ ≤ _ % 0x10000000000000000) = _
  cases negative <;> simp only [Bool.false_eq_true, if_true, if_false, decide_eq_true_eq,
    decide_eq_false_iff_not] <;> omega

/-- A rounded quotient keeps its sign, also where it is rounded to a zero or to the infinity. -/
theorem isNegative_ofRatio (negative : Bool) (n d : Nat) :
    (ofRatio negative n d).isNegative = negative := by
  have hinfinity : infinityMagnitude < 0x8000000000000000 := by decide
  exact isNegative_ofMagnitude negative (by omega)

/-- The key of an integer's double is its magnitude with the integer's sign. -/
theorem key_ofInt (i : Int) : (ofInt i).key =
    if i < 0 then -((ofRatio true i.natAbs 1).magnitude : Int)
    else (ofRatio false i.natAbs 1).magnitude := by
  rw [key, ofInt, isNegative_ofRatio]
  by_cases h : i < 0
  · rw [decide_eq_true h, if_pos rfl, if_pos h]
  · rw [decide_eq_false h, if_neg Bool.false_ne_true, if_neg h]

/-- Of two integers the smaller one is not rounded to the larger double. -/
theorem key_ofInt_mono {i j : Int} (h : i ≤ j) : (ofInt i).key ≤ (ofInt j).key := by
  rw [key_ofInt, key_ofInt]
  -- with one sign the magnitudes decide, in the other direction below zero; with two signs the
  -- signs do
  split
  next hi =>
    split
    next hj =>
      have := magnitude_ofRatio_mono true true (by omega : j.natAbs ≤ i.natAbs)
      omega
    next hj => omega
  next hi =>
    rw [if_neg (by omega : ¬ j < 0)]
    have := magnitude_ofRatio_mono false false (by omega : i.natAbs ≤ j.natAbs)
    omega

/-- The doubles of integers are in the order of the integers. -/
theorem key_ofInt64_mono {i j : Int64} (h : i.toInt ≤ j.toInt) :
    (ofInt64 i).key ≤ (ofInt64 j).key := key_ofInt_mono h

/-- No integer of 64 bits is too large for a double. -/
theorem isFinite_ofInt64 (i : Int64) : (ofInt64 i).isFinite = true := by
  have hlow := i.le_toInt
  have hhigh := i.toInt_lt
  exact isFinite_ofRatio_one _ (by omega)

/-! ## Comparison -/

/-- A finite double is a number. -/
theorem isNaN_of_isFinite {x : Binary64} (h : x.isFinite = true) : x.isNaN = false := by
  have hlt : x.magnitude < infinityMagnitude := of_decide_eq_true h
  exact decide_eq_false (by omega)

/-- Finite doubles compare as their keys do. -/
theorem compare_of_isFinite {x y : Binary64} (hx : x.isFinite = true) (hy : y.isFinite = true) :
    x.compare y = Ord.compare x.key y.key := by
  rw [compare, isNaN_of_isFinite hx, isNaN_of_isFinite hy]
  rfl

/-- Comparing the other way round swaps the answer, for NaN as well. -/
theorem compare_swap (x y : Binary64) : y.compare x = (x.compare y).swap := by
  rw [compare, compare, Bool.or_comm]
  split
  · rfl
  · exact Std.OrientedCmp.eq_swap

/-! ## Doubles of one value -/

/-- The zero with a sign. -/
def negativeZero : Binary64 := ofMagnitude true 0

/-- Doubles of one value are the same, or the two zeros. -/
theorem eq_or_zeros_of_key_eq {x y : Binary64} (h : x.key = y.key) :
    x = y ∨ (x = zero ∧ y = negativeZero) ∨ (x = negativeZero ∧ y = zero) := by
  unfold key at h
  -- with different signs one key is the other one negated, and both can only be zero
  cases hx : x.isNegative <;> cases hy : y.isNegative <;>
    simp only [hx, hy, Bool.false_eq_true, if_true, if_false] at h
  · exact .inl (ext_of_magnitude (hx.trans hy.symm) (by omega))
  · have hxzero : x.magnitude = 0 := by omega
    have hyzero : y.magnitude = 0 := by omega
    exact .inr (.inl ⟨ext_of_magnitude hx hxzero, ext_of_magnitude hy hyzero⟩)
  · have hxzero : x.magnitude = 0 := by omega
    have hyzero : y.magnitude = 0 := by omega
    exact .inr (.inr ⟨ext_of_magnitude hx hxzero, ext_of_magnitude hy hyzero⟩)
  · exact .inl (ext_of_magnitude (hx.trans hy.symm) (by omega))

/-- An integer that is not zero is not rounded to a zero. -/
theorem magnitude_ofInt_pos {i : Int} (hi : i ≠ 0) : 0 < (ofInt i).magnitude := by
  have hone := oneMagnitude_le_ofNat (Int.natAbs_pos.2 hi)
  have hpos : 0 < oneMagnitude := by decide
  rw [ofNat, magnitude_ofRatio] at hone
  rw [ofInt, magnitude_ofRatio]
  omega

/-- Only the integer zero is rounded to a zero. -/
theorem eq_zero_of_key_ofInt64 {i : Int64} (h : (ofInt64 i).key = 0) : i = 0 := by
  have hmagnitude : (ofInt i.toInt).magnitude = 0 := by
    change (ofInt i.toInt).key = 0 at h
    unfold key at h
    split at h <;> omega
  by_contra hi
  have hne : i.toInt ≠ 0 := fun hzero => hi (Int64.toInt_inj.1 hzero)
  have := magnitude_ofInt_pos hne
  omega

/-- An integer is not rounded to the zero with a sign. -/
theorem ofInt64_ne_negativeZero (i : Int64) : ofInt64 i ≠ negativeZero := by
  intro h
  have hsign : (ofInt i.toInt).isNegative = true := (congrArg isNegative h).trans (by decide)
  have hmagnitude : (ofInt i.toInt).magnitude = 0 := (congrArg magnitude h).trans (by decide)
  rw [ofInt, isNegative_ofRatio, decide_eq_true_eq] at hsign
  have := magnitude_ofInt_pos hsign.ne
  omega

end DualQuery.Binary64
