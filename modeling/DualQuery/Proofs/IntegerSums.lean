import DualQuery.Aggregate
import Mathlib.Algebra.Order.BigOperators.Group.List
import Mathlib.Algebra.Ring.Int.Defs
import Mathlib.Data.List.Infix

/-!
# Sums of integers

The sum of a column of integers is formed in the order of the rows, and every step of it stops at
the ends of the range of a word. Where no running total leaves the range the sum is exact. What is
lost at one end is not given back on the way to the other, so a sum may depend on the order of the
rows although the exact total is in range; it does not just where neither the gains nor the losses
leave the range on their own.

## Key results

- `Word.addAll_of_running`: running totals in range
- `Word.addAll_of_sign`: steps in one direction are clamped once
- `Value.sum_exact`: when the sum of a column is its exact total
-/

namespace DualQuery

/-! ## Clamped steps -/

namespace Word

/-- Whether an integer is in the range of a word. -/
def Fits (n : Int) : Prop := -2 ^ 63 ≤ n ∧ n < 2 ^ 63

instance (n : Int) : Decidable (Fits n) := inferInstanceAs (Decidable (_ ∧ _))

/-- The integer of a word that is nearest. -/
def clamp (n : Int) : Int := max (-2 ^ 63) (min n (2 ^ 63 - 1))

/-- A total after further integers, each step being clamped. -/
def addAll (total : Int) (ns : List Int) : Int := ns.foldl (fun total n => clamp (total + n)) total

/-- The integer of a word is in range. -/
theorem fits_toInt (i : Int64) : Fits i.toInt := ⟨i.le_toInt, i.toInt_lt⟩

/-- An integer in range is the nearest one itself. -/
theorem clamp_of_fits {n : Int} (h : Fits n) : clamp n = n := by
  unfold Fits at h
  unfold clamp
  omega

/-- The nearest integer is in range. -/
theorem fits_clamp (n : Int) : Fits (clamp n) := by
  unfold clamp Fits
  omega

/-- A step of a sum adds and takes the nearest integer in range. -/
theorem toInt_addClamped (i j : Int64) : (addClamped i j).toInt = clamp (i.toInt + j.toInt) := by
  have hmin : Int64.minValue.toInt = -2 ^ 63 := rfl
  have hmax : Int64.maxValue.toInt = 2 ^ 63 - 1 := rfl
  -- the sum of two words is clamped below, then above
  unfold addClamped Int64.ofIntClamp clamp
  split
  next hlow =>
    split
    next hhigh =>
      rw [Int64.toInt_ofIntLE]
      omega
    next hhigh => omega
  next hlow => omega

/-- So do all steps of a sum, one after the other. -/
theorem toInt_foldl_addClamped (is : List Int64) (start : Int64) :
    (is.foldl addClamped start).toInt = addAll start.toInt (is.map Int64.toInt) := by
  -- each word is added to the total so far, so the start is general
  induction is generalizing start with
  | nil => rfl
  | cons i is ih =>
    rw [List.foldl_cons, ih, toInt_addClamped]
    rfl

/-- The first step is taken first. -/
theorem addAll_cons (total n : Int) (ns : List Int) :
    addAll total (n :: ns) = addAll (clamp (total + n)) ns := rfl

/-- Steps go on from the total that the steps before have led to. -/
theorem addAll_append (total : Int) (ms ns : List Int) :
    addAll total (ms ++ ns) = addAll (addAll total ms) ns := List.foldl_append

/-- Nothing is lost where all running totals are in range. -/
theorem addAll_of_running {ns : List Int} {total : Int}
    (h : ∀ part, part <+: ns → Fits (total + part.sum)) : addAll total ns = total + ns.sum := by
  -- the invariant speaks of the totals from here on, whatever the total so far
  induction ns generalizing total with
  | nil => simp [addAll]
  | cons n ns ih =>
    have hfirst : Fits (total + n) := by
      simpa using h [n] (List.prefix_append [n] ns)
    rw [addAll_cons, clamp_of_fits hfirst, List.sum_cons, ← Int.add_assoc]
    refine ih fun part hpart => ?_
    have hnext := h (n :: part) ((List.prefix_cons_inj n).2 hpart)
    rwa [List.sum_cons, ← Int.add_assoc] at hnext

/-- Steps that only go down lead down. -/
theorem sum_nonpos {ns : List Int} (h : ∀ n ∈ ns, n ≤ 0) : ns.sum ≤ 0 := by
  simpa using List.sum_le_card_nsmul ns 0 h

/-- Steps in one direction may as well be clamped once, at the end. -/
theorem addAll_of_sign {ns : List Int} (hsign : (∀ n ∈ ns, 0 ≤ n) ∨ ∀ n ∈ ns, n ≤ 0)
    {total : Int} (htotal : Fits total) : addAll total ns = clamp (total + ns.sum) := by
  -- a total that has come to one end stays there, as no step leads back
  induction ns generalizing total with
  | nil =>
    rw [List.sum_nil, Int.add_zero, clamp_of_fits htotal]
    rfl
  | cons n ns ih =>
    simp only [List.forall_mem_cons] at hsign
    have hrest := hsign.imp And.right And.right
    -- the first step and all others together go the same way
    have hsame : (0 ≤ n ∧ 0 ≤ ns.sum) ∨ (n ≤ 0 ∧ ns.sum ≤ 0) :=
      hsign.imp (.imp_right List.sum_nonneg) (.imp_right sum_nonpos)
    rw [addAll_cons, ih hrest (fits_clamp _), List.sum_cons]
    unfold Fits at htotal
    unfold clamp
    omega

/-! ## Gains and losses -/

/-- What is added on the way up. -/
def gains (ns : List Int) : Int := (ns.filter (0 ≤ ·)).sum

/-- What is added on the way down. -/
def losses (ns : List Int) : Int := (ns.filter (· < 0)).sum

/-- The gains go up. -/
theorem gains_nonneg (ns : List Int) : 0 ≤ gains ns :=
  List.sum_nonneg (by simp)

/-- The losses go down. -/
theorem losses_nonpos (ns : List Int) : losses ns ≤ 0 :=
  sum_nonpos fun n hn => by
    rw [List.mem_filter, decide_eq_true_eq] at hn
    exact hn.2.le

/-- Integers may be taken in the order in which all gains come before all losses. -/
theorem filter_perm (ns : List Int) : (ns.filter (0 ≤ ·) ++ ns.filter (· < 0)).Perm ns := by
  have hlosses : ns.filter (· < 0) = ns.filter fun n => !decide (0 ≤ n) :=
    List.filter_congr fun n _ => by
      rw [← decide_not, decide_eq_decide]
      exact Int.not_le.symm
  -- the losses are the steps that are no gains
  rw [hlosses]
  exact List.filter_append_perm _ ns

/-- Gains and losses together are the exact total. -/
theorem gains_add_losses (ns : List Int) : gains ns + losses ns = ns.sum := by
  rw [gains, losses, ← List.sum_append]
  exact (filter_perm ns).sum_eq

/-- The gains do not depend on the order. -/
theorem gains_perm {ms ns : List Int} (h : ms.Perm ns) : gains ms = gains ns :=
  (h.filter _).sum_eq

/-- The losses do not depend on the order. -/
theorem losses_perm {ms ns : List Int} (h : ms.Perm ns) : losses ms = losses ns :=
  (h.filter _).sum_eq

/-- The gains of two parts are added. -/
theorem gains_append (ms ns : List Int) : gains (ms ++ ns) = gains ms + gains ns := by
  rw [gains, List.filter_append, List.sum_append, gains, gains]

/-- The losses of two parts are added. -/
theorem losses_append (ms ns : List Int) : losses (ms ++ ns) = losses ms + losses ns := by
  rw [losses, List.filter_append, List.sum_append, losses, losses]

/-- A running total lies between all losses and all gains. -/
theorem fits_sum_of_prefix {ns part : List Int} (hgains : Fits (gains ns))
    (hlosses : Fits (losses ns)) (hpart : part <+: ns) : Fits part.sum := by
  obtain ⟨rest, rfl⟩ := hpart
  rw [gains_append] at hgains
  rw [losses_append] at hlosses
  have hsum := gains_add_losses part
  have hup := gains_nonneg part
  have hdown := losses_nonpos part
  have hup' := gains_nonneg rest
  have hdown' := losses_nonpos rest
  -- the total of a part is at most its gains, which are at most all gains, and so for the losses
  unfold Fits at *
  omega

/-- The total is exact where neither all gains nor all losses leave the range. -/
theorem addAll_of_fits {ns : List Int} (hgains : Fits (gains ns)) (hlosses : Fits (losses ns)) :
    addAll 0 ns = ns.sum := by
  have hrunning : ∀ part, part <+: ns → Fits (0 + part.sum) := fun part hpart => by
    rw [Int.zero_add]
    exact fits_sum_of_prefix hgains hlosses hpart
  rw [addAll_of_running hrunning, Int.zero_add]

/-- Steps in one direction and then steps in one direction. -/
theorem addAll_append_of_sign {ms ns : List Int} (hms : (∀ n ∈ ms, 0 ≤ n) ∨ ∀ n ∈ ms, n ≤ 0)
    (hns : (∀ n ∈ ns, 0 ≤ n) ∨ ∀ n ∈ ns, n ≤ 0) :
    addAll 0 (ms ++ ns) = clamp (clamp ms.sum + ns.sum) := by
  rw [addAll_append, addAll_of_sign hms (by decide), Int.zero_add,
    addAll_of_sign hns (fits_clamp _)]

/-- Where the total is exact with all gains first and with all losses first, neither of them leaves
the range. -/
theorem fits_of_addAll {ns : List Int}
    (hup : addAll 0 (ns.filter (0 ≤ ·) ++ ns.filter (· < 0)) = ns.sum)
    (hdown : addAll 0 (ns.filter (· < 0) ++ ns.filter (0 ≤ ·)) = ns.sum) :
    Fits (gains ns) ∧ Fits (losses ns) := by
  have hgains : ∀ n ∈ ns.filter (0 ≤ ·), 0 ≤ n := by simp
  have hlosses : ∀ n ∈ ns.filter (· < 0), n ≤ 0 := fun n hn => by
    rw [List.mem_filter, decide_eq_true_eq] at hn
    exact hn.2.le
  have hsum := gains_add_losses ns
  have hnonneg := gains_nonneg ns
  have hnonpos := losses_nonpos ns
  rw [addAll_append_of_sign (.inl hgains) (.inr hlosses), ← gains, ← losses] at hup
  rw [addAll_append_of_sign (.inr hlosses) (.inl hgains), ← gains, ← losses] at hdown
  -- what is lost at one end is missing at the other one
  unfold clamp at hup hdown
  unfold Fits
  omega

end Word

/-! ## Sums of a column -/

namespace Value

/-- The integers among values. -/
def integers (values : List Value) : List Int := (values.filterMap integral?).map Int64.toInt

/-- The integers of two columns stand one after the other. -/
theorem integers_append (values more : List Value) :
    integers (values ++ more) = integers values ++ integers more := by
  rw [integers, List.filterMap_append, List.map_append, integers, integers]

/-- Values in another order have their integers in another order. -/
theorem integers_perm {values order : List Value} (h : order.Perm values) :
    (integers order).Perm (integers values) :=
  (h.filterMap _).map _

/-- The values that are no integers do not matter to a choice among the integers. -/
theorem integers_filter {keep : Value → Bool} {test : Int → Bool}
    (h : ∀ value i, value.integral? = some i → keep value = test i.toInt) (values : List Value) :
    integers (values.filter keep) = (integers values).filter test := by
  -- a value that is no integer is not seen on either side, whether it is kept or dropped
  induction values with
  | nil => rfl
  | cons value values ih =>
    unfold integers at ih ⊢
    cases hvalue : value.integral? with
    | none => cases hkeep : keep value <;> simp [hvalue, hkeep, ih]
    | some i =>
      have hkeep := h value i hvalue
      cases htest : test i.toInt <;> simp [hvalue, hkeep, htest, ih]

/-- Whether a value is an integer that is added on the way up. -/
def isGain (value : Value) : Bool := value.integral?.any fun i => 0 ≤ i.toInt

/-- The integers of a column are added by clamped steps. -/
theorem toInt_foldl_integral? (values : List Value) :
    ((values.filterMap integral?).foldl addClamped 0).toInt =
      Word.addAll 0 (integers values) := by
  rw [Word.toInt_foldl_addClamped, Int64.toInt_zero]
  rfl

/-- A sum without doubles is the integer that the clamped steps lead to. -/
theorem sum_eq {values : List Value} (hfree : ∀ value ∈ values, value.isFloat = false)
    (hsome : ∃ value ∈ values, value.integral?.isSome) :
    sum values = int (Int64.ofInt (Word.addAll 0 (integers values))) := by
  obtain ⟨value, hmem, hvalue⟩ := hsome
  obtain ⟨i, hi⟩ := Option.isSome_iff_exists.1 hvalue
  have hnumbers : (values.filterMap double?).isEmpty = false := by
    rw [List.isEmpty_eq_false_iff_exists_mem]
    refine ⟨.ofInt64 i, List.mem_filterMap.2 ⟨value, hmem, ?_⟩⟩
    cases value <;> simp_all [integral?, double?]
  -- some number is there and no double among them, so words are added
  have hfloat : values.any isFloat = false := List.any_eq_false.2 fun value hmem => by
    simp [hfree value hmem]
  rw [sum, hnumbers, hfloat, ← toInt_foldl_integral?, Int64.ofInt_toInt]
  rfl

/-- A sum without doubles is an integer exactly where the clamped steps lead to it. -/
theorem sum_eq_iff {values : List Value} (hfree : ∀ value ∈ values, value.isFloat = false)
    (hsome : ∃ value ∈ values, value.integral?.isSome) {n : Int} (hn : Word.Fits n) :
    sum values = int (Int64.ofInt n) ↔ Word.addAll 0 (integers values) = n := by
  have hsteps : Word.Fits (Word.addAll 0 (integers values)) :=
    toInt_foldl_integral? values ▸ Word.fits_toInt _
  -- both sides are words, which are equal where their integers are
  rw [sum_eq hfree hsome, int.injEq, ← Int64.toInt_inj,
    Int64.toInt_ofInt_of_le hsteps.1 hsteps.2, Int64.toInt_ofInt_of_le hn.1 hn.2]

/-- Running totals of values are running totals of their integers. -/
theorem exists_prefix_of_integers {values : List Value} {ns : List Int}
    (h : ns <+: integers values) : ∃ part, part <+: values ∧ integers part = ns := by
  obtain ⟨words, hwords, rfl⟩ := List.prefix_map_iff.1 h
  obtain ⟨part, hpart, rfl⟩ := List.prefix_filterMap_iff.1 hwords
  exact ⟨part, hpart, rfl⟩

/-- Where no double is among the values and some integer is, the sum is the exact total in every
order whose running totals are in range, and in every order at all exactly where the gains and the
losses each are in range. -/
theorem sum_exact {values : List Value} (hfree : ∀ value ∈ values, value.isFloat = false)
    (hsome : ∃ value ∈ values, value.integral?.isSome)
    (htotal : Word.Fits (integers values).sum) :
    (∀ order : List Value, order.Perm values →
        (∀ part, part <+: order → Word.Fits (integers part).sum) →
          sum order = int (Int64.ofInt (integers values).sum)) ∧
      ((∀ order : List Value, order.Perm values →
          sum order = int (Int64.ofInt (integers values).sum)) ↔
        Word.Fits (Word.gains (integers values)) ∧ Word.Fits (Word.losses (integers values))) := by
  -- an order has the same values, so its sum is exact where its steps lead to the total
  have hsum (order : List Value) (horder : order.Perm values) :
      sum order = int (Int64.ofInt (integers values).sum) ↔
        Word.addAll 0 (integers order) = (integers values).sum := by
    obtain ⟨value, hmem, hvalue⟩ := hsome
    exact sum_eq_iff (fun value hvalue => hfree value (horder.mem_iff.1 hvalue))
      ⟨value, horder.mem_iff.2 hmem, hvalue⟩ htotal
  refine ⟨fun order horder hrunning => ?_, fun hexact => ?_, fun hfits order horder => ?_⟩
  · have hints : ∀ ns, ns <+: integers order → Word.Fits (0 + ns.sum) := fun ns hns => by
      obtain ⟨part, hpart, rfl⟩ := exists_prefix_of_integers hns
      rw [Int.zero_add]
      exact hrunning part hpart
    rw [hsum order horder, Word.addAll_of_running hints, Int.zero_add]
    exact (integers_perm horder).sum_eq
  · -- the two orders that clamp most are all gains first and all losses first
    have hup : integers (values.filter isGain) = (integers values).filter (0 ≤ ·) :=
      integers_filter (fun value i hi => by rw [isGain, hi, Option.any_some]) values
    have hdown : integers (values.filter fun value => !isGain value) =
        (integers values).filter (· < 0) :=
      integers_filter (fun value i hi => by
        rw [isGain, hi, Option.any_some, ← decide_not, decide_eq_decide, Int.not_le]) values
    have hperm := List.filter_append_perm isGain values
    have hfirst := (hsum _ hperm).1 (hexact _ hperm)
    have hsecond := (hsum _ (List.perm_append_comm.trans hperm)).1
      (hexact _ (List.perm_append_comm.trans hperm))
    rw [integers_append, hup, hdown] at hfirst hsecond
    exact Word.fits_of_addAll hfirst hsecond
  · -- gains and losses are the same in every order
    have hperm := integers_perm horder
    rw [hsum order horder, ← hperm.sum_eq]
    exact Word.addAll_of_fits (Word.gains_perm hperm ▸ hfits.1) (Word.losses_perm hperm ▸ hfits.2)

/-- The largest integer, one less and one more. -/
def roundTrip : List Value := [int Int64.maxValue, int (-1), int 1]

/-- One way round a step that would leave the range the sum is exact. -/
theorem sum_exact_roundTrip :
    (∀ value ∈ roundTrip, value.isFloat = false) ∧ (∃ value ∈ roundTrip, value.integral?.isSome) ∧
      Word.Fits (integers roundTrip).sum ∧
      (∀ part, part <+: roundTrip → Word.Fits (integers part).sum) ∧
      sum roundTrip = int (Int64.ofInt (integers roundTrip).sum) := by
  have hfree : ∀ value ∈ roundTrip, value.isFloat = false := by simp [roundTrip, isFloat]
  have hsome : ∃ value ∈ roundTrip, value.integral?.isSome := ⟨int 1, by simp [roundTrip], rfl⟩
  have htotal : Word.Fits (integers roundTrip).sum := by decide
  -- there are only four running totals
  have hinits : ∀ part ∈ roundTrip.inits, Word.Fits (integers part).sum := by decide
  have hrunning : ∀ part, part <+: roundTrip → Word.Fits (integers part).sum :=
    fun part hpart => hinits part ((List.mem_inits _ _).2 hpart)
  exact ⟨hfree, hsome, htotal, hrunning,
    (sum_exact hfree hsome htotal).1 roundTrip (.refl _) hrunning⟩

/-- The largest integer, one more and one less: the step up is lost. -/
theorem sum_loses_a_step :
    (∀ value ∈ [int Int64.maxValue, int 1, int (-1)], value.isFloat = false) ∧
      (∃ value ∈ [int Int64.maxValue, int 1, int (-1)], value.integral?.isSome) ∧
      (integers [int Int64.maxValue, int 1, int (-1)]).sum = Int64.maxValue.toInt ∧
      sum [int Int64.maxValue, int 1, int (-1)] ≠ int Int64.maxValue := by
  refine ⟨by simp [isFloat], ⟨int 1, by simp, rfl⟩, by decide, fun h => ?_⟩
  have hlost : sum [int Int64.maxValue, int 1, int (-1)] = int (Int64.maxValue - 1) := rfl
  rw [hlost, int.injEq] at h
  exact absurd h (by decide)

end Value

end DualQuery
