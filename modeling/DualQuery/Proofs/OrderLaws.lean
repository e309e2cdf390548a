import DualQuery.Proofs.ValueOrder
import DualQuery.Query.Operator

/-!
# Laws of the order of values

The order of values can always be read backwards. What else one expects of it holds among values
over some integers and some finite doubles under two conditions, and fails as soon as one of them
does: it is transitive where no double ties with two of the integers, and it agrees with equality
where the zero with a sign is the only zero.

## Key results

- `Value.compare_eq_of_equal`, `Value.equal_of_compare_eq`: equal values and ties
- `Value.existsUnique_holds`: one of three operators holds
- `Value.order_lawful_iff`: the conditions under which the laws hold
-/

namespace DualQuery.Value

variable {ints : Int64 → Prop} {doubles : Binary64 → Prop}

/-- Whether the zero with a sign is the only zero where it occurs. -/
def OneZero (ints : Int64 → Prop) (doubles : Binary64 → Prop) : Prop :=
  doubles .negativeZero → ¬ doubles .zero ∧ ¬ ints 0

/-! ## Equality of numbers -/

/-- Values of two brackets differ. -/
theorem equal_of_bracket_ne {a b : Value} (h : a.bracket ≠ b.bracket) : equal a b = false := by
  cases a <;> cases b <;> first | exact absurd rfl h | rfl

/-- Integers and timestamps are equal where their numbers are. -/
theorem equal_of_integral? {a b : Value} {i j : Int64} (ha : a.integral? = some i)
    (hb : b.integral? = some j) : equal a b = (i == j) := by
  cases a <;> simp only [integral?, Option.some.injEq, reduceCtorEq] at ha <;>
    cases b <;> simp only [integral?, Option.some.injEq, reduceCtorEq] at hb <;>
      simp only [equal, equalNumbers, integral?, ha, hb]

/-- An integer equals the double to which it is rounded. -/
theorem equal_integral_float {a : Value} {i : Int64} (ha : a.integral? = some i) (x : Binary64) :
    equal a (float x) = (Binary64.ofInt64 i == x) := by
  cases a <;> simp only [integral?, Option.some.injEq, reduceCtorEq] at ha <;>
    simp only [equal, equalNumbers, integral?, double?, ha]

/-- A double equals the integers that are rounded to it. -/
theorem equal_float_integral {a : Value} {i : Int64} (ha : a.integral? = some i) (x : Binary64) :
    equal (float x) a = (x == Binary64.ofInt64 i) := by
  cases a <;> simp only [integral?, Option.some.injEq, reduceCtorEq] at ha <;>
    simp only [equal, equalNumbers, integral?, double?, ha]

/-- Doubles are compared by their bits. -/
theorem equal_float (x y : Binary64) : equal (float x) (float y) = (x == y) := rfl

/-- An integer and a double of one value are the same double. -/
theorem OneZero.ofInt64_eq (h : OneZero ints doubles) {i : Int64} {x : Binary64} (hi : ints i)
    (hx : doubles x) (hkey : (Binary64.ofInt64 i).key = x.key) : Binary64.ofInt64 i = x := by
  rcases Binary64.eq_or_zeros_of_key_eq hkey with heq | ⟨hzero, rfl⟩ | ⟨hzero, -⟩
  · exact heq
  · have hkeyzero : (Binary64.ofInt64 i).key = 0 := by rw [hzero]; decide
    exact absurd (Binary64.eq_zero_of_key_ofInt64 hkeyzero ▸ hi) (h hx).2
  · exact absurd hzero (Binary64.ofInt64_ne_negativeZero i)

/-- Two doubles of one value are the same. -/
theorem OneZero.eq (h : OneZero ints doubles) {x y : Binary64} (hx : doubles x) (hy : doubles y)
    (hkey : x.key = y.key) : x = y := by
  rcases Binary64.eq_or_zeros_of_key_eq hkey with heq | ⟨rfl, rfl⟩ | ⟨rfl, rfl⟩
  · exact heq
  · exact absurd hx (h hy).1
  · exact absurd hy (h hx).1

section Numbers

variable {a b : Value} (hfinite : ∀ x, doubles x → x.isFinite) (ha : a.IsOver ints doubles)
  (hb : b.IsOver ints doubles) (hanumber : a.bracket = 2) (hbnumber : b.bracket = 2)

include hfinite ha hb hanumber hbnumber

/-- Equal numbers tie. -/
private theorem number_compare_eq_of_equal (h : equal a b = true) : compare a b = .eq := by
  -- integers are compared exactly and everything else as doubles
  rcases number_cases hanumber ha with ⟨i, hi, hai⟩ | ⟨x, hx, rfl⟩ <;>
    rcases number_cases hbnumber hb with ⟨j, hj, hbj⟩ | ⟨y, hy, rfl⟩
  · rw [equal_of_integral? hai hbj, beq_iff_eq] at h
    rw [compare_of_integral? hai hbj, h, Std.compare_self]
  · rw [equal_integral_float hai, beq_iff_eq] at h
    rw [compare_integral_float hai (hfinite y hy), h, Std.compare_self]
  · rw [equal_float_integral hbj, beq_iff_eq] at h
    rw [compare_float_integral hbj (hfinite x hx), h, Std.compare_self]
  · rw [equal_float, beq_iff_eq] at h
    rw [compare_float (hfinite x hx) (hfinite y hy), h, Std.compare_self]

/-- Numbers that tie are equal, if the zero with a sign is the only zero. -/
private theorem number_equal_of_compare_eq (hzero : OneZero ints doubles)
    (h : compare a b = .eq) : equal a b = true := by
  rcases number_cases hanumber ha with ⟨i, hi, hai⟩ | ⟨x, hx, rfl⟩ <;>
    rcases number_cases hbnumber hb with ⟨j, hj, hbj⟩ | ⟨y, hy, rfl⟩
  · rw [compare_of_integral? hai hbj, Std.compare_eq_iff_eq, Int64.toInt_inj] at h
    rw [equal_of_integral? hai hbj, h, beq_self_eq_true]
  · rw [compare_integral_float hai (hfinite y hy), Std.compare_eq_iff_eq] at h
    rw [equal_integral_float hai, hzero.ofInt64_eq hi hy h, beq_self_eq_true]
  · rw [compare_float_integral hbj (hfinite x hx), Std.compare_eq_iff_eq] at h
    rw [equal_float_integral hbj, hzero.ofInt64_eq hj hx h.symm, beq_self_eq_true]
  · rw [compare_float (hfinite x hx) (hfinite y hy), Std.compare_eq_iff_eq] at h
    rw [equal_float, hzero.eq hx hy h, beq_self_eq_true]

end Numbers

/-! ## Equality of values -/

/-- A relation between comparing and testing for equality that goes through lexicographic
comparison. -/
structure IsLexicographic (related : Ordering → Bool → Prop) : Prop where
  same : related .eq true
  differ : ∀ order, order ≠ .eq → related order false
  next : ∀ order order' equal equal', related order equal → related order' equal' →
    related (order.then order') (equal && equal')

namespace IsLexicographic

variable {related : Ordering → Bool → Prop}

/-- The relation holds where ties are what is equal. -/
theorem of_iff (h : IsLexicographic related) {order : Ordering} {equal : Bool}
    (hiff : order = .eq ↔ equal = true) : related order equal := by
  cases equal with
  | true => exact hiff.2 rfl ▸ h.same
  | false => exact h.differ order fun heq => Bool.false_ne_true (hiff.1 heq)

mutual
/-- What relates comparing and equality of numbers does so for all values. -/
theorem value (h : IsLexicographic related)
    (hnumber : ∀ a b : Value, a.IsOver ints doubles → b.IsOver ints doubles → a.bracket = 2 →
      b.bracket = 2 → related (compare a b) (equal a b)) : (a b : Value) →
        a.IsOver ints doubles → b.IsOver ints doubles → related (compare a b) (equal a b)
  | a, b, ha, hb => by
    -- across brackets nothing is equal; within one the two functions follow the same recursion
    by_cases hbracket : a.bracket = b.bracket
    · by_cases hanumber : a.bracket = 2
      · exact hnumber a b ha hb hanumber (hbracket ▸ hanumber)
      · cases a with
        | null => cases b <;> cases hbracket; exact h.same
        | bool x =>
          cases b <;> cases hbracket
          exact h.of_iff (Std.compare_eq_iff_eq.trans beq_iff_eq.symm)
        | string x =>
          cases b <;> cases hbracket
          exact h.of_iff (Std.compare_eq_iff_eq.trans beq_iff_eq.symm)
        | array as =>
          cases b <;> cases hbracket
          exact items h hnumber as _ ha hb
        | object as =>
          cases b <;> cases hbracket
          exact fields h hnumber as _ ha hb
        | int _ | float _ | timestamp _ => exact absurd rfl hanumber
    · rw [compare_of_bracket_ne hbracket, equal_of_bracket_ne hbracket]
      exact h.differ _ fun heq => hbracket (Std.compare_eq_iff_eq.1 heq)

/-- What relates comparing and equality of numbers does so for items one after the other. -/
theorem items (h : IsLexicographic related)
    (hnumber : ∀ a b : Value, a.IsOver ints doubles → b.IsOver ints doubles → a.bracket = 2 →
      b.bracket = 2 → related (compare a b) (equal a b)) : (as bs : List Value) →
        ItemsAreOver ints doubles as → ItemsAreOver ints doubles bs →
          related (compareItems as bs) (equalItems as bs)
  | [], [], _, _ => h.same
  | [], _ :: _, _, _ | _ :: _, [], _, _ => h.differ _ nofun
  | a :: as, b :: bs, ha, hb =>
    h.next _ _ _ _ (value h hnumber a b ha.1 hb.1) (items h hnumber as bs ha.2 hb.2)

/-- What relates comparing and equality of numbers does so for fields one after the other. -/
theorem fields (h : IsLexicographic related)
    (hnumber : ∀ a b : Value, a.IsOver ints doubles → b.IsOver ints doubles → a.bracket = 2 →
      b.bracket = 2 → related (compare a b) (equal a b)) : (as bs : List (String × Value)) →
        FieldsAreOver ints doubles as → FieldsAreOver ints doubles bs →
          related (compareFields as bs) (equalFields as bs)
  | [], [], _, _ => h.same
  | [], _ :: _, _, _ | _ :: _, [], _, _ => h.differ _ nofun
  | (_, a) :: as, (_, b) :: bs, ha, hb =>
    h.next _ _ _ _
      (h.next _ _ _ _ (h.of_iff (Std.compare_eq_iff_eq.trans beq_iff_eq.symm))
        (value h hnumber a b ha.1 hb.1))
      (fields h hnumber as bs ha.2 hb.2)
end

end IsLexicographic

variable {a b : Value}

/-- Equal values tie. -/
theorem compare_eq_of_equal (hfinite : ∀ x, doubles x → x.isFinite) (ha : a.IsOver ints doubles)
    (hb : b.IsOver ints doubles) (h : equal a b = true) : compare a b = .eq := by
  have hlex : IsLexicographic fun order equal => equal = true → order = .eq :=
    ⟨fun _ => rfl, fun _ _ => nofun, fun order order' equal equal' h h' hboth => by
      rw [Bool.and_eq_true] at hboth
      rw [h hboth.1, h' hboth.2, Ordering.eq_then]⟩
  exact hlex.value (fun _ _ ha hb => number_compare_eq_of_equal hfinite ha hb) a b ha hb h

/-- Values that tie are equal, if the zero with a sign is the only zero. -/
theorem equal_of_compare_eq (hfinite : ∀ x, doubles x → x.isFinite)
    (hzero : OneZero ints doubles) (ha : a.IsOver ints doubles) (hb : b.IsOver ints doubles)
    (h : compare a b = .eq) : equal a b = true := by
  have hlex : IsLexicographic fun order equal => order = .eq → equal = true :=
    ⟨fun _ => rfl, fun _ hne heq => absurd heq hne,
      fun order order' equal equal' h h' hboth => by
        rw [Ordering.then_eq_eq] at hboth
        rw [h hboth.1, h' hboth.2, Bool.and_true]⟩
  exact hlex.value (fun _ _ ha hb hanumber hbnumber =>
    number_equal_of_compare_eq hfinite ha hb hanumber hbnumber hzero) a b ha hb h

/-! ## Chains -/

/-- The order of values whose doubles discern their integers is transitive. -/
theorem isLE_trans (hfinite : ∀ x, doubles x → x.isFinite) (hdiscern : Discern ints doubles)
    {a b c : Value} (ha : a.IsOver ints doubles) (hb : b.IsOver ints doubles)
    (hc : c.IsOver ints doubles) (hab : (compare a b).isLE) (hbc : (compare b c).isLE) :
    (compare a c).isLE := by
  rw [compare_composes hfinite hdiscern a b c ha hb hc hab hbc]
  cases hcompare : compare a b <;> simp_all

/-- Two integers that tie with one double are equal where the order is transitive. -/
theorem discern_of_trans
    (h : ∀ a b c : Value, a.IsOver ints doubles → b.IsOver ints doubles → c.IsOver ints doubles →
      (compare a b).isLE → (compare b c).isLE → (compare a c).isLE) : Discern ints doubles := by
  -- through the double each of the two integers is at most the other
  have hle {i j : Int64} {x : Binary64} (hi : ints i) (hj : ints j) (hx : doubles x)
      (hix : compare (int i) (float x) = .eq) (hjx : compare (int j) (float x) = .eq) :
      i.toInt ≤ j.toInt := by
    have hxj : compare (float x) (int j) = .eq := by rw [compare_swap (int j), hjx]; rfl
    have hij := h (int i) (float x) (int j) hi hx hj (by rw [hix]; rfl) (by rw [hxj]; rfl)
    rwa [compare_of_integral? rfl rfl, Int.isLE_compare] at hij
  intro i j x hi hj hx hix hjx
  exact Int64.toInt_inj.1 (Int.le_antisymm (hle hi hj hx hix hjx) (hle hj hi hx hjx hix))

-- an integer that no double holds, the double next to it and the integer that is that double
example : compare (int 9007199254740993) (float ⟨0x4340000000000000⟩) = .eq ∧
    compare (float ⟨0x4340000000000000⟩) (int 9007199254740992) = .eq ∧
    compare (int 9007199254740993) (int 9007199254740992) = .gt := by
  decide +kernel

/-! ## Operators -/

/-- The comparisons that an operator for an order asks for. -/
theorem holds_iff_compare_eq {a b : Value} (hnull : a.isNull = false) (hbracket : a.sameBracket b)
    (heq : compare a b = .eq ↔ (a == b) = true) :
    (Operator.lt.holds a b = true ↔ compare a b = .lt) ∧
      (Operator.eq.holds a b = true ↔ compare a b = .eq) ∧
      (Operator.gt.holds a b = true ↔ compare a b = .gt) := by
  refine ⟨?_, ?_, ?_⟩
  · rw [Operator.holds, hnull, hbracket]
    cases compare a b <;> simp
  · rw [Operator.holds, hnull, heq]
    simp
  · rw [Operator.holds, hnull, hbracket]
    cases compare a b <;> simp

/-- Of less, equal and greater one holds, and only one, where ties are equal values. -/
theorem existsUnique_holds {a b : Value} (hnull : a.isNull = false) (hbracket : a.sameBracket b)
    (heq : compare a b = .eq ↔ (a == b) = true) :
    ∃! op, op ∈ [Operator.lt, .eq, .gt] ∧ op.holds a b = true := by
  obtain ⟨hlt, heq, hgt⟩ := holds_iff_compare_eq hnull hbracket heq
  cases hcompare : compare a b with
  | lt => exact ⟨.lt, by simp_all, by simp_all⟩
  | eq => exact ⟨.eq, by simp_all, by simp_all⟩
  | gt => exact ⟨.gt, by simp_all, by simp_all⟩

/-- One of the three operators cannot hold of a tie unless the values are equal. -/
theorem beq_of_holds {a b : Value} (hcompare : compare a b = .eq) {op : Operator}
    (hop : op ∈ [Operator.lt, .eq, .gt]) (hholds : op.holds a b = true) : (a == b) = true := by
  simp only [List.mem_cons, List.not_mem_nil, or_false] at hop
  rcases hop with rfl | rfl | rfl <;> simp_all [Operator.holds]

/-- Another zero ties with the zero with a sign and differs from it. -/
theorem zeros_tie {a : Value} (h : a = float .zero ∨ a = int 0) :
    compare a (float .negativeZero) = .eq ∧ (a == float .negativeZero) = false := by
  rcases h with rfl | rfl <;> decide +kernel

/-- Where ties are equal values the zero with a sign is the only zero. -/
theorem oneZero_of_ties
    (h : ∀ a b : Value, a.IsOver ints doubles → b.IsOver ints doubles → a.isNull = false →
      b.isNull = false → a.sameBracket b → compare a b = .eq → (a == b) = true) :
    OneZero ints doubles := by
  intro hsigned
  -- the zero with a sign ties with each of the others and equals none of them
  have hother (a : Value) (ha : a.IsOver ints doubles) (hform : a = float .zero ∨ a = int 0) :
      False := by
    obtain ⟨htie, hdiffer⟩ := zeros_tie hform
    have hequal := h a (float .negativeZero) ha hsigned (by rcases hform with rfl | rfl <;> rfl) rfl
      (by rcases hform with rfl | rfl <;> rfl) htie
    rw [hdiffer] at hequal
    cases hequal
  exact ⟨fun hzero => hother (float .zero) hzero (.inl rfl),
    fun hzero => hother (int 0) hzero (.inr rfl)⟩

/-! ## All laws -/

/-- Among values over some integers and some finite doubles the order read backwards is the swapped
one, and equal values tie. The order is transitive exactly where no double ties with two of the
integers. Ties are equal values, and of less, equal and greater exactly one holds of values of one
bracket, exactly where the zero with a sign is the only zero. -/
theorem order_lawful_iff (hfinite : ∀ x, doubles x → x.isFinite) :
    (∀ a b : Value, a.IsOver ints doubles → b.IsOver ints doubles →
        compare b a = (compare a b).swap ∧ ((a == b) = true → compare a b = .eq)) ∧
      ((∀ a b c : Value, a.IsOver ints doubles → b.IsOver ints doubles → c.IsOver ints doubles →
          (compare a b).isLE → (compare b c).isLE → (compare a c).isLE) ↔ Discern ints doubles) ∧
      ((∀ a b : Value, a.IsOver ints doubles → b.IsOver ints doubles →
          compare a b = .eq → (a == b) = true) ↔ OneZero ints doubles) ∧
      ((∀ a b : Value, a.IsOver ints doubles → b.IsOver ints doubles → a.isNull = false →
          b.isNull = false → a.sameBracket b →
            ∃! op, op ∈ [Operator.lt, .eq, .gt] ∧ op.holds a b = true) ↔ OneZero ints doubles) := by
  refine ⟨fun a b ha hb => ⟨compare_swap a b, compare_eq_of_equal hfinite ha hb⟩,
    ⟨discern_of_trans, fun hdiscern a b c ha hb hc => isLE_trans hfinite hdiscern ha hb hc⟩,
    ⟨fun h => ?_, fun hzero a b ha hb => equal_of_compare_eq hfinite hzero ha hb⟩,
    ⟨fun h => ?_, fun hzero a b ha hb hnull _ hbracket => ?_⟩⟩
  · -- each condition is necessary because values that it rules out would break the law
    exact oneZero_of_ties fun a b ha hb _ _ _ => h a b ha hb
  · refine oneZero_of_ties fun a b ha hb hnull hnull' hbracket htie => ?_
    obtain ⟨op, ⟨hop, hholds⟩, -⟩ := h a b ha hb hnull hnull' hbracket
    exact beq_of_holds htie hop hholds
  · exact existsUnique_holds hnull hbracket
      ⟨equal_of_compare_eq hfinite hzero ha hb, compare_eq_of_equal hfinite ha hb⟩

/-- Over one, two, one and a half and the zero with a sign all laws hold. -/
theorem order_lawful_iff_halves :
    (∀ x, x ∈ [⟨0x3FF8000000000000⟩, Binary64.negativeZero] → x.isFinite) ∧
      (∀ a b c : Value, a.IsOver (· ∈ [1, 2]) (· ∈ [⟨0x3FF8000000000000⟩, .negativeZero]) →
        b.IsOver (· ∈ [1, 2]) (· ∈ [⟨0x3FF8000000000000⟩, .negativeZero]) →
        c.IsOver (· ∈ [1, 2]) (· ∈ [⟨0x3FF8000000000000⟩, .negativeZero]) →
          (compare a b).isLE → (compare b c).isLE → (compare a c).isLE) ∧
      ∀ a b : Value, a.IsOver (· ∈ [1, 2]) (· ∈ [⟨0x3FF8000000000000⟩, .negativeZero]) →
        b.IsOver (· ∈ [1, 2]) (· ∈ [⟨0x3FF8000000000000⟩, .negativeZero]) →
          compare a b = .eq → (a == b) = true := by
  have hfinite : ∀ x, x ∈ [⟨0x3FF8000000000000⟩, Binary64.negativeZero] → x.isFinite := by
    decide
  have hdiscern : Discern (· ∈ [1, 2]) (· ∈ [⟨0x3FF8000000000000⟩, .negativeZero]) := by
    intro i j x hi hj hx
    simp only [List.mem_cons, List.not_mem_nil, or_false] at hi hj hx
    rcases hi with rfl | rfl <;> rcases hj with rfl | rfl <;> rcases hx with rfl | rfl <;>
      decide +kernel
  have hzero : OneZero (· ∈ [1, 2]) (· ∈ [⟨0x3FF8000000000000⟩, .negativeZero]) :=
    fun _ => by decide
  obtain ⟨-, hchains, hties, -⟩ := order_lawful_iff hfinite
  exact ⟨hfinite, hchains.2 hdiscern, hties.2 hzero⟩

end DualQuery.Value
