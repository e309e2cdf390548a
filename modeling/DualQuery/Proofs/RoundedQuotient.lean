import DualQuery.Proofs.RoundingInterval

/-!
# Rounded quotients

Rounding a quotient is monotone: a quotient that does not exceed a number is not rounded past it,
and neither is one that is not below it. The absolute values of numbers are compared in units of
`2 ^ -1074`, where each number is an integer.

## Key results

- `Binary64.roundedAt_le`, `Binary64.le_roundedAt`: rounding against a number
- `Binary64.isFinite_div`: a quotient by at least one is finite
- `Binary64.isFinite_ofRatio_one`: an integer of sixty-four bits is finite
-/

namespace DualQuery.Binary64

/-! ## Bits below the sign -/

/-- The bits below the sign are those that a number is made of. -/
@[simp] theorem magnitude_ofMagnitude (negative : Bool) {m : Nat} (hm : m < 0x8000000000000000) :
    (ofMagnitude negative m).magnitude = m := by
  have hsum : (if negative then 0x8000000000000000 else 0) + m < 0x10000000000000000 := by
    cases negative <;> simp only [Bool.false_eq_true, if_true, if_false] <;> omega
  rw [magnitude, ofMagnitude, UInt64.toNat_ofNat']
  change _ % 0x10000000000000000 % _ = _
  rw [Nat.mod_eq_of_lt hsum]
  cases negative <;> simp only [Bool.false_eq_true, if_true, if_false] <;> omega

/-- Bits stand for a value that is no smaller than they are. -/
theorem le_unitsAt (m : Nat) : m ≤ unitsAt m := by
  induction m with
  | zero => exact Nat.zero_le _
  | succ m ih =>
    have hgap := gapAt_pos m
    rw [unitsAt_succ]
    omega

/-- Larger bits stand for no smaller values. -/
theorem unitsAt_mono {m n : Nat} (h : m ≤ n) : unitsAt m ≤ unitsAt n := by
  rcases Nat.lt_or_eq_of_le h with h | rfl
  · exact (unitsAt_lt_unitsAt h).le
  · exact Nat.le_refl _

/-! ## Rounding to an integer -/

/-- A quotient is not rounded below its floor. -/
theorem le_roundQuotient (n d : Nat) : n / d ≤ roundQuotient n d := by
  simp only [roundQuotient]
  split <;> omega

/-- A quotient that does not exceed an integer is not rounded past it. -/
theorem roundQuotient_le {n d bound : Nat} (hd : 0 < d) (h : n ≤ bound * d) :
    roundQuotient n d ≤ bound := by
  have hquotient : n / d ≤ bound := Nat.div_le_of_le_mul (by rwa [Nat.mul_comm])
  simp only [roundQuotient]
  split
  next hround =>
    -- what is rounded up is no multiple of the divisor
    have hremainder : 0 < n % d := by omega
    have hdiv : n / d * d + n % d = n := Nat.div_add_mod' n d
    have hlt : n / d * d < bound * d := by omega
    exact Nat.lt_of_mul_lt_mul_right hlt
  next => exact hquotient

/-! ## Rounding to a number -/

/-- The bits of the number nearest to `t / d` units, as long as they are not those of infinity. -/
def roundedAt (t d : Nat) : Nat :=
  (Nat.log2 (t / d) - 52) * 0x10000000000000 +
    roundQuotient t (d * 2 ^ (Nat.log2 (t / d) - 52))

/-- The bits of a quotient are the rounded ones, or those of infinity. -/
theorem magnitude_ofRatio (negative : Bool) (n d : Nat) :
    (ofRatio negative n d).magnitude = min infinityMagnitude (roundedAt (n <<< 1074) d) := by
  have hrounded : ∀ shift rounded,
      (ofMagnitude negative (min infinityMagnitude (shift <<< 52 + rounded))).magnitude =
        min infinityMagnitude (shift * 0x10000000000000 + rounded) := by
    intro shift rounded
    have hinfinity : infinityMagnitude < 0x8000000000000000 := by decide
    rw [magnitude_ofMagnitude _ (by omega), Nat.shiftLeft_eq]
  rw [ofRatio, roundedAt, ← Nat.shiftLeft_eq]
  exact hrounded _ _

/-- The shift that leaves fifty-three bits of a quotient. -/
theorem lt_of_log2_eq {q shift : Nat} (h : Nat.log2 q - 52 = shift) :
    q < 0x20000000000000 * 2 ^ shift := by
  have hpow : 0x20000000000000 * 2 ^ shift = 2 ^ (53 + shift) := by rw [Nat.pow_add]
  rw [hpow]
  by_cases hq : q = 0
  · rw [hq]
    exact Nat.pow_pos (by decide)
  · exact (Nat.log2_lt hq).1 (by omega)

/-- A quotient that is shifted has fifty-three bits behind the shift. -/
theorem le_of_log2_eq {q shift : Nat} (h : Nat.log2 q - 52 = shift + 1) :
    0x10000000000000 * 2 ^ (shift + 1) ≤ q := by
  have hpow : 0x10000000000000 * 2 ^ (shift + 1) = 2 ^ (52 + (shift + 1)) := by
    rw [Nat.pow_add 2 52]
  have hq : q ≠ 0 := by
    rintro rfl
    rw [Nat.log2_zero] at h
    omega
  rw [hpow]
  exact (Nat.le_log2 hq).1 (by omega)

/-- Of a quotient fifty-three bits remain, or a carry out of them. -/
theorem roundQuotient_le_carry {t d shift : Nat} (hd : 0 < d)
    (hshift : Nat.log2 (t / d) - 52 = shift) :
    roundQuotient t (d * 2 ^ shift) ≤ 0x20000000000000 := by
  have htop : t < (0x20000000000000 * 2 ^ shift) * d :=
    (Nat.div_lt_iff_lt_mul hd).1 (lt_of_log2_eq hshift)
  refine roundQuotient_le (Nat.mul_pos hd (Nat.pow_pos (by decide))) ?_
  calc t ≤ (0x20000000000000 * 2 ^ shift) * d := htop.le
    _ = 0x20000000000000 * (d * 2 ^ shift) := by rw [Nat.mul_assoc, Nat.mul_comm (2 ^ shift)]

/-- A quotient that does not exceed a number is not rounded past it. -/
theorem roundedAt_le {t d m : Nat} (hd : 0 < d) (h : t ≤ unitsAt m * d) : roundedAt t d ≤ m := by
  have hquotient : t / d ≤ unitsAt m := Nat.div_le_of_le_mul (by rwa [Nat.mul_comm])
  generalize hshift : Nat.log2 (t / d) - 52 = shift
  have hcarry := roundQuotient_le_carry hd hshift
  rw [roundedAt, hshift]
  -- the number is subnormal, or its exponent is compared with that of the quotient
  cases hexponent : m / 0x10000000000000 with
  | zero =>
    rw [unitsAt_of_subnormal hexponent] at h hquotient
    cases shift with
    | zero =>
      have hround : roundQuotient t (d * 2 ^ 0) ≤ m := by
        rw [Nat.pow_zero, Nat.mul_one]
        exact roundQuotient_le hd h
      omega
    | succ shift =>
      have hle := le_of_log2_eq hshift
      have hpow : 0 < 2 ^ (shift + 1) := Nat.pow_pos (by decide)
      have hm : m < 0x10000000000000 := by omega
      exfalso
      have : 0x10000000000000 ≤ 0x10000000000000 * 2 ^ (shift + 1) := Nat.le_mul_of_pos_right _ hpow
      omega
  | succ exponent =>
    rw [unitsAt_of_normal hexponent] at h hquotient
    rcases Nat.lt_trichotomy exponent shift with hcase | hcase | hcase
    · -- the quotient would be larger than the number
      obtain ⟨shift, rfl⟩ : ∃ k, shift = k + 1 := ⟨shift - 1, by omega⟩
      have hle := le_of_log2_eq hshift
      have hpow : 2 ^ exponent ≤ 2 ^ shift := Nat.pow_le_pow_right (by decide) (by omega)
      have hfraction : 0x10000000000000 + m % 0x10000000000000 < 0x20000000000000 := by omega
      have hnumber : (0x10000000000000 + m % 0x10000000000000) * 2 ^ exponent <
          0x20000000000000 * 2 ^ shift :=
        Nat.mul_lt_mul_of_lt_of_le hfraction hpow (Nat.pow_pos (by decide))
      rw [Nat.pow_succ] at hle
      omega
    · subst hcase
      have hround : roundQuotient t (d * 2 ^ exponent) ≤
          0x10000000000000 + m % 0x10000000000000 := by
        refine roundQuotient_le (Nat.mul_pos hd (Nat.pow_pos (by decide))) ?_
        rwa [Nat.mul_comm d, ← Nat.mul_assoc]
      omega
    · have hbelow : (shift + 2) * 0x10000000000000 ≤ m := by omega
      omega

/-- A quotient that is not below a number is not rounded past it. -/
theorem le_roundedAt {t d m : Nat} (hd : 0 < d) (h : unitsAt m * d ≤ t) : m ≤ roundedAt t d := by
  have hquotient : unitsAt m ≤ t / d := (Nat.le_div_iff_mul_le hd).2 h
  generalize hshift : Nat.log2 (t / d) - 52 = shift
  -- rounding never goes below the quotient that is cut off at its last place
  have hround : t / d / 2 ^ shift ≤ roundQuotient t (d * 2 ^ shift) := by
    rw [Nat.div_div_eq_div_mul]
    exact le_roundQuotient t _
  rw [roundedAt, hshift]
  cases shift with
  | zero =>
    have hm := le_unitsAt m
    rw [Nat.pow_zero, Nat.div_one] at hround
    rw [Nat.zero_mul, Nat.zero_add, Nat.pow_zero]
    omega
  | succ shift =>
    have hle := le_of_log2_eq hshift
    have hlt : t / d < 0x20000000000000 * 2 ^ (shift + 1) := lt_of_log2_eq hshift
    have hpow : 0 < 2 ^ (shift + 1) := Nat.pow_pos (by decide)
    have hbits : 0x10000000000000 ≤ t / d / 2 ^ (shift + 1) := (Nat.le_div_iff_mul_le hpow).2 hle
    cases hexponent : m / 0x10000000000000 with
    | zero => omega
    | succ exponent =>
      rw [unitsAt_of_normal hexponent] at hquotient
      rcases Nat.lt_trichotomy exponent (shift + 1) with hcase | hcase | hcase
      · have habove : m < (shift + 2) * 0x10000000000000 := by omega
        omega
      · subst hcase
        have hsignificand := (Nat.le_div_iff_mul_le hpow).2 hquotient
        omega
      · -- the quotient would be smaller than the number
        have hpow' : 2 ^ (shift + 2) ≤ 2 ^ exponent := Nat.pow_le_pow_right (by decide) (by omega)
        have hnumber : 0x10000000000000 * 2 ^ (shift + 2) ≤
            (0x10000000000000 + m % 0x10000000000000) * 2 ^ exponent :=
          Nat.mul_le_mul (Nat.le_add_right _ _) hpow'
        rw [Nat.pow_succ] at hnumber
        omega

/-! ## Finite results -/

/-- The bits of the number one. -/
def oneMagnitude : Nat := 0x3FF0000000000000

/-- The powers of two among the numbers. -/
theorem unitsAt_power (exponent : Nat) :
    unitsAt ((exponent + 1) * 0x10000000000000) = 1 <<< (52 + exponent) := by
  have hexponent : (exponent + 1) * 0x10000000000000 / 0x10000000000000 = exponent + 1 := by omega
  have hfraction : 0x10000000000000 + (exponent + 1) * 0x10000000000000 % 0x10000000000000 =
      2 ^ 52 := by omega
  rw [unitsAt_of_normal hexponent, hfraction, ← Nat.pow_add, Nat.one_shiftLeft]

/-- The bits of one stand for one. -/
theorem unitsAt_oneMagnitude : unitsAt oneMagnitude = 1 <<< 1074 := unitsAt_power 1022

/-- A shift is a multiplication by a power of two. -/
theorem shiftLeft_eq_mul (n k : Nat) : n <<< k = n * 1 <<< k := by
  rw [Nat.shiftLeft_eq, Nat.one_shiftLeft]

/-- A number below a power of two is shifted below another one. -/
theorem shiftLeft_le_power {n j : Nat} (hn : n ≤ 2 ^ j) (k : Nat) : n <<< k ≤ 1 <<< (j + k) := by
  rw [Nat.shiftLeft_eq, Nat.one_shiftLeft, Nat.pow_add]
  exact Nat.mul_le_mul_right _ hn

/-- No quotient has bits above those of infinity. -/
theorem magnitude_ofRatio_le (negative : Bool) (n d : Nat) :
    (ofRatio negative n d).magnitude ≤ infinityMagnitude := by
  rw [magnitude_ofRatio]
  exact Nat.min_le_left _ _

/-- A finite number divided by at least one is finite. -/
theorem isFinite_div {x y : Binary64} (hx : x.isFinite = true)
    (hone : oneMagnitude ≤ y.magnitude) (hy : y.magnitude ≤ infinityMagnitude) :
    (x.div y).isFinite = true := by
  have hxlt : x.magnitude < infinityMagnitude := of_decide_eq_true hx
  have hxnan : x.isNaN = false := decide_eq_false (by omega)
  have hynan : y.isNaN = false := decide_eq_false (by omega)
  have hpos : y.magnitude ≠ 0 := by
    have : 0 < oneMagnitude := by decide
    omega
  unfold div
  simp only [hxnan, hynan, hx, hpos, Bool.or_self, Bool.not_true, Bool.false_eq_true, if_false]
  split
  · rw [isFinite, magnitude_ofMagnitude _ (by decide)]
    decide
  · have hunits : 1 <<< 1074 ≤ y.units := by
      rw [← unitsAt_oneMagnitude, units_eq_unitsAt]
      exact unitsAt_mono hone
    -- the quotient does not exceed the dividend, so it is not rounded past it
    have hquotient : x.units <<< 1074 ≤ unitsAt x.magnitude * y.units := by
      rw [shiftLeft_eq_mul, ← units_eq_unitsAt]
      exact Nat.mul_le_mul_left _ hunits
    have hunits' : 0 < y.units := by
      have hone' := le_unitsAt oneMagnitude
      rw [unitsAt_oneMagnitude] at hone'
      exact Nat.lt_of_lt_of_le (by decide) (hone'.trans hunits)
    have hrounded := roundedAt_le hunits' hquotient
    rw [isFinite, magnitude_ofRatio, decide_eq_true_eq]
    omega

/-- The negative of a finite number is finite. -/
theorem isFinite_neg {x : Binary64} (hx : x.isFinite = true) : x.neg.isFinite = true := by
  have hlt : x.magnitude < 0x8000000000000000 := Nat.mod_lt _ (by decide)
  rw [isFinite, neg, magnitude_ofMagnitude _ hlt]
  exact hx

/-- The number nearest to a natural number that is not zero is at least one. -/
theorem oneMagnitude_le_ofNat {n : Nat} (hn : 0 < n) : oneMagnitude ≤ (ofNat n).magnitude := by
  have hrounded : oneMagnitude ≤ roundedAt (n <<< 1074) 1 := by
    refine le_roundedAt (by decide) ?_
    rw [unitsAt_oneMagnitude, Nat.mul_one, shiftLeft_eq_mul n]
    exact Nat.le_mul_of_pos_left _ hn
  have hinfinity : oneMagnitude ≤ infinityMagnitude := by decide
  rw [ofNat, magnitude_ofRatio]
  exact Nat.le_min.2 ⟨hinfinity, hrounded⟩

/-- The number nearest to an integer of sixty-four bits is finite. -/
theorem isFinite_ofRatio_one (negative : Bool) {n : Nat} (hn : n ≤ 2 ^ 64) :
    (ofRatio negative n 1).isFinite = true := by
  -- the bits of `2 ^ 64`
  have hrounded : roundedAt (n <<< 1074) 1 ≤ 0x43F0000000000000 := by
    refine roundedAt_le (by decide) ?_
    have hpower : unitsAt 0x43F0000000000000 = 1 <<< (64 + 1074) := unitsAt_power 1086
    rw [hpower, Nat.mul_one]
    exact shiftLeft_le_power hn 1074
  have hinfinity : 0x43F0000000000000 < infinityMagnitude := by decide
  rw [isFinite, magnitude_ofRatio, decide_eq_true_eq]
  omega

end DualQuery.Binary64
