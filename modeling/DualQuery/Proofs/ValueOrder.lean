import DualQuery.Proofs.RoundedOrder
import DualQuery.Proofs.StableSort
import DualQuery.Record

/-!
# The order of values

Integers are compared as integers and other pairs of numbers as doubles, so the order of all values
is not transitive: two integers may be rounded to one double, which then ties with both of them.
Among values with finite doubles none of which does that, at whatever depth they are held, the order
is a total preorder. Sorting by keys whose values hold no double is then lawful.

A chain `a ≤ b ≤ c` is compared at its ends as the first of its two steps that is strict says. This
law, `Composes`, goes through lexicographic comparison, so that it holds of items, fields and keys
as soon as it holds of values.

## Key results

- `Value.compare_swap`: the order read backwards
- `Value.compare_composes`: chains of values whose doubles discern their integers
- `Record.strictWeakOn_compareBy`: sorting by values without doubles is lawful
-/

namespace DualQuery

/-- A chain of two steps is compared at its ends as its first strict step says. -/
def Composes (ab bc ac : Ordering) : Prop := ab.isLE → bc.isLE → ac = ab.then bc

namespace Composes

variable {ab bc ac ab' bc' ac' : Ordering}

/-- The law goes through lexicographic comparison. -/
theorem lex (h : Composes ab bc ac) (h' : Composes ab' bc' ac') :
    Composes (ab.then ab') (bc.then bc') (ac.then ac') := by
  unfold Composes at *
  cases ab <;> cases bc <;> cases ab' <;> simp_all

/-- Where an order is transitive the law holds. -/
theorem of_transCmp {α : Type} (cmp : α → α → Ordering) [Std.TransCmp cmp] (a b c : α) :
    Composes (cmp a b) (cmp b c) (cmp a c) := by
  intro hab hbc
  -- the outcome of the composition is read off the two comparisons, case by case
  cases h : cmp a b with
  | gt => simp [h] at hab
  | lt =>
    cases h' : cmp b c with
    | gt => simp [h'] at hbc
    | lt => exact Std.TransCmp.lt_trans h h'
    | eq => exact Std.TransCmp.lt_of_lt_of_eq h h'
  | eq =>
    cases h' : cmp b c with
    | gt => simp [h'] at hbc
    | lt => exact Std.TransCmp.lt_of_eq_of_lt h h'
    | eq => exact Std.TransCmp.eq_trans h h'

/-- The law of comparisons of integers. -/
theorem of_int {m n k l p q : Int}
    (h : m ≤ n → k ≤ l → p ≤ q ∧ (p = q ↔ m = n ∧ k = l)) :
    Composes (Ord.compare m n) (Ord.compare k l) (Ord.compare p q) := by
  intro hab hbc
  have hmn : m ≤ n := Int.isLE_compare.1 hab
  have hkl : k ≤ l := Int.isLE_compare.1 hbc
  obtain ⟨hle, heq⟩ := h hmn hkl
  -- a strict step decides; an equal one leaves it to the second comparison
  rcases Int.lt_or_eq_of_le hmn with hlt | rfl
  · rw [Int.compare_eq_lt.2 hlt, Int.compare_eq_lt.2 (by omega)]
    rfl
  · rw [Std.compare_self, Ordering.eq_then]
    rcases Int.lt_or_eq_of_le hkl with hlt | rfl
    · rw [Int.compare_eq_lt.2 hlt, Int.compare_eq_lt.2 (by omega)]
    · rw [Std.compare_self, heq.2 ⟨rfl, rfl⟩, Std.compare_self]

/-- The steps of a chain may be read in either order. -/
theorem comm (h : Composes ab bc ac) : Composes bc ab ac := by
  unfold Composes at *
  cases ab <;> cases bc <;> simp_all

end Composes

namespace Value

mutual
/-- Whether a value holds no double at any depth. -/
def isFloatFree : Value → Bool
  | float _ => false
  | array items => areFloatFreeItems items
  | object fields => areFloatFreeFields fields
  | _ => true

/-- Whether all items of a list hold no double. -/
def areFloatFreeItems : List Value → Bool
  | [] => true
  | item :: items => isFloatFree item && areFloatFreeItems items

/-- Whether all values of a list of fields hold no double. -/
def areFloatFreeFields : List (String × Value) → Bool
  | [] => true
  | (_, value) :: fields => isFloatFree value && areFloatFreeFields fields
end

mutual
/-- Whether the integers and doubles that a value holds, at any depth, are of two sets. -/
def IsOver (ints : Int64 → Prop) (doubles : Binary64 → Prop) : Value → Prop
  | int i | timestamp i => ints i
  | float x => doubles x
  | array items => ItemsAreOver ints doubles items
  | object fields => FieldsAreOver ints doubles fields
  | null | bool _ | string _ => True

/-- `IsOver` of every item. -/
def ItemsAreOver (ints : Int64 → Prop) (doubles : Binary64 → Prop) : List Value → Prop
  | [] => True
  | item :: items => IsOver ints doubles item ∧ ItemsAreOver ints doubles items

/-- `IsOver` of the value of every field. -/
def FieldsAreOver (ints : Int64 → Prop) (doubles : Binary64 → Prop) :
    List (String × Value) → Prop
  | [] => True
  | (_, value) :: fields => IsOver ints doubles value ∧ FieldsAreOver ints doubles fields
end

/-- Whether no double of a set ties with two integers of another one. -/
def Discern (ints : Int64 → Prop) (doubles : Binary64 → Prop) : Prop :=
  ∀ i j x, ints i → ints j → doubles x →
    compare (int i) (float x) = .eq → compare (int j) (float x) = .eq → i = j

variable {ints : Int64 → Prop} {doubles : Binary64 → Prop}

mutual
/-- A value without doubles is one over all integers and no double. -/
theorem isOver_of_isFloatFree : (a : Value) → a.isFloatFree →
    a.IsOver (fun _ => True) fun _ => False
  | null, _ | bool _, _ | string _, _ | int _, _ | timestamp _, _ => trivial
  | float _, h => nomatch h
  | array items, h => itemsAreOver_of_areFloatFreeItems items h
  | object fields, h => fieldsAreOver_of_areFloatFreeFields fields h

/-- So are items without doubles. -/
theorem itemsAreOver_of_areFloatFreeItems : (items : List Value) → areFloatFreeItems items →
    ItemsAreOver (fun _ => True) (fun _ => False) items
  | [], _ => trivial
  | item :: items, h => by
    rw [areFloatFreeItems, Bool.and_eq_true] at h
    exact ⟨isOver_of_isFloatFree item h.1, itemsAreOver_of_areFloatFreeItems items h.2⟩

/-- And fields without doubles. -/
theorem fieldsAreOver_of_areFloatFreeFields : (fields : List (String × Value)) →
    areFloatFreeFields fields → FieldsAreOver (fun _ => True) (fun _ => False) fields
  | [], _ => trivial
  | (_, value) :: fields, h => by
    rw [areFloatFreeFields, Bool.and_eq_true] at h
    exact ⟨isOver_of_isFloatFree value h.1, fieldsAreOver_of_areFloatFreeFields fields h.2⟩
end

/-! ## Single values -/

/-- Values of different brackets are ordered by bracket alone. -/
theorem compare_of_bracket_ne {a b : Value} (h : a.bracket ≠ b.bracket) :
    compare a b = Ord.compare a.bracket b.bracket := by
  cases a <;> cases b <;> first | exact absurd rfl h | rfl

/-- What comes first in the order has no later bracket. -/
theorem bracket_le_of_isLE {a b : Value} (h : (compare a b).isLE) : a.bracket ≤ b.bracket := by
  by_cases hbracket : a.bracket = b.bracket
  · omega
  · rw [compare_of_bracket_ne hbracket] at h
    exact Nat.isLE_compare.1 h

/-- Chains that leave a bracket. -/
private theorem composes_of_bracket {a b c : Value}
    (h : a.bracket ≠ b.bracket ∨ b.bracket ≠ c.bracket) :
    Composes (compare a b) (compare b c) (compare a c) := by
  intro hab hbc
  have hle := bracket_le_of_isLE hab
  have hle' := bracket_le_of_isLE hbc
  -- the bracket grows at one of the two steps, and decides the comparison of the ends
  have hac : compare a c = .lt := by
    rw [compare_of_bracket_ne (by omega)]
    exact Nat.compare_eq_lt.2 (by omega)
  rw [hac]
  by_cases hbracket : a.bracket = b.bracket
  · have hlt : compare b c = .lt := by
      rw [compare_of_bracket_ne (h.resolve_left (not_not_intro hbracket))]
      exact Nat.compare_eq_lt.2 (by omega)
    rw [hlt]
    -- the first two may tie or not, the last step is strict
    cases hcompare : compare a b with
    | gt => simp [hcompare] at hab
    | lt => rfl
    | eq => rfl
  · have hlt : compare a b = .lt := by
      rw [compare_of_bracket_ne hbracket]
      exact Nat.compare_eq_lt.2 (by omega)
    rw [hlt]
    rfl

/-! ## Numbers -/

/-- Numbers are compared as numbers. -/
theorem compare_of_number {a b : Value} (ha : a.bracket = 2) (hb : b.bracket = 2) :
    compare a b = compareNumbers a b := by
  cases a <;> cases ha <;> cases b <;> cases hb <;> rfl

/-- The comparison of numbers is the swapped one read backwards. -/
theorem compareNumbers_swap {a b : Value} (ha : a.bracket = 2) (hb : b.bracket = 2) :
    compareNumbers b a = (compareNumbers a b).swap := by
  cases a <;> cases ha <;> cases b <;> cases hb <;>
    first | exact Binary64.compare_swap _ _ | exact Std.OrientedOrd.eq_swap

/-- Integers and timestamps are compared as integers. -/
theorem compare_of_integral? {a b : Value} {i j : Int64} (ha : a.integral? = some i)
    (hb : b.integral? = some j) : compare a b = Ord.compare i.toInt j.toInt := by
  cases a <;> simp only [integral?, Option.some.injEq, reduceCtorEq] at ha <;>
    cases b <;> simp only [integral?, Option.some.injEq, reduceCtorEq] at hb <;>
      simp only [compare, compareNumbers, integral?, ha, hb]

/-- An integer and a double are compared as doubles. -/
theorem compare_integral_float {a : Value} {i : Int64} (ha : a.integral? = some i) {x : Binary64}
    (hx : x.isFinite) : compare a (float x) = Ord.compare (Binary64.ofInt64 i).key x.key := by
  rw [← Binary64.compare_of_isFinite (Binary64.isFinite_ofInt64 i) hx]
  cases a <;> simp only [integral?, Option.some.injEq, reduceCtorEq] at ha <;>
    simp only [compare, compareNumbers, integral?, double?, ha]

/-- A double and an integer are compared as doubles. -/
theorem compare_float_integral {a : Value} {i : Int64} (ha : a.integral? = some i) {x : Binary64}
    (hx : x.isFinite) : compare (float x) a = Ord.compare x.key (Binary64.ofInt64 i).key := by
  rw [← Binary64.compare_of_isFinite hx (Binary64.isFinite_ofInt64 i)]
  cases a <;> simp only [integral?, Option.some.injEq, reduceCtorEq] at ha <;>
    simp only [compare, compareNumbers, integral?, double?, ha]

/-- Finite doubles are compared by their keys. -/
theorem compare_float {x y : Binary64} (hx : x.isFinite) (hy : y.isFinite) :
    compare (float x) (float y) = Ord.compare x.key y.key :=
  Binary64.compare_of_isFinite hx hy

/-- A number is an integer or a double. -/
theorem number_cases {a : Value} (h : a.bracket = 2) (ha : a.IsOver ints doubles) :
    (∃ i, ints i ∧ a.integral? = some i) ∨ ∃ x, doubles x ∧ a = float x := by
  cases a with
  | int i | timestamp i => exact .inl ⟨i, ha, rfl⟩
  | float x => exact .inr ⟨x, ha, rfl⟩
  | null | bool _ | string _ | array _ | object _ => cases h

/-- Integers that are rounded to one double of the set are the same. -/
theorem Discern.toInt_eq (h : Discern ints doubles) {i j : Int64} {x : Binary64} (hi : ints i)
    (hj : ints j) (hx : doubles x) (hfinite : x.isFinite)
    (hix : (Binary64.ofInt64 i).key = x.key) (hjx : (Binary64.ofInt64 j).key = x.key) :
    i.toInt = j.toInt := by
  refine congrArg Int64.toInt (h i j x hi hj hx ?_ ?_)
  · rw [compare_integral_float rfl hfinite, hix, Std.compare_self]
  · rw [compare_integral_float rfl hfinite, hjx, Std.compare_self]

/-- Chains of numbers. -/
private theorem composes_of_number (hfinite : ∀ x, doubles x → x.isFinite)
    (hdiscern : Discern ints doubles) {a b c : Value} (ha : a.IsOver ints doubles)
    (hb : b.IsOver ints doubles) (hc : c.IsOver ints doubles) (hanumber : a.bracket = 2)
    (hbnumber : b.bracket = 2) (hcnumber : c.bracket = 2) :
    Composes (compare a b) (compare b c) (compare a c) := by
  have hmono (i j : Int64) := @Binary64.key_ofInt64_mono i j
  rcases number_cases hanumber ha with ⟨i, hi, hai⟩ | ⟨x, hx, rfl⟩ <;>
    rcases number_cases hbnumber hb with ⟨j, hj, hbj⟩ | ⟨y, hy, rfl⟩ <;>
      rcases number_cases hcnumber hc with ⟨k, hk, hck⟩ | ⟨z, hz, rfl⟩
  · rw [compare_of_integral? hai hbj, compare_of_integral? hbj hck, compare_of_integral? hai hck]
    exact .of_transCmp Ord.compare _ _ _
  · -- two integers and a double: only where they are equal do both tie with it
    have hdiscern := hdiscern.toInt_eq hi hj hz (hfinite z hz)
    rw [compare_of_integral? hai hbj, compare_integral_float hbj (hfinite z hz),
      compare_integral_float hai (hfinite z hz)]
    have := hmono i j
    have := hmono j i
    exact .of_int (by omega)
  · -- a double between two integers: where it ties with both they are one
    have hdiscern := hdiscern.toInt_eq hi hk hy (hfinite y hy)
    rw [compare_integral_float hai (hfinite y hy), compare_float_integral hck (hfinite y hy),
      compare_of_integral? hai hck]
    have := hmono i k
    have := hmono k i
    exact .of_int (by omega)
  · rw [compare_integral_float hai (hfinite y hy), compare_float (hfinite y hy) (hfinite z hz),
      compare_integral_float hai (hfinite z hz)]
    exact .of_transCmp Ord.compare _ _ _
  · have hdiscern := hdiscern.toInt_eq hj hk hx (hfinite x hx)
    rw [compare_float_integral hbj (hfinite x hx), compare_of_integral? hbj hck,
      compare_float_integral hck (hfinite x hx)]
    have := hmono j k
    have := hmono k j
    exact .of_int (by omega)
  · rw [compare_float_integral hbj (hfinite x hx), compare_integral_float hbj (hfinite z hz),
      compare_float (hfinite x hx) (hfinite z hz)]
    exact .of_transCmp Ord.compare _ _ _
  · rw [compare_float (hfinite x hx) (hfinite y hy), compare_float_integral hck (hfinite y hy),
      compare_float_integral hck (hfinite x hx)]
    exact .of_transCmp Ord.compare _ _ _
  · rw [compare_float (hfinite x hx) (hfinite y hy), compare_float (hfinite y hy) (hfinite z hz),
      compare_float (hfinite x hx) (hfinite z hz)]
    exact .of_transCmp Ord.compare _ _ _

/-! ## Nested values -/

mutual
/-- The order of values is the swapped one read backwards. -/
theorem compare_swap : (a b : Value) → compare b a = (compare a b).swap
  | a, b => by
    by_cases hbracket : a.bracket = b.bracket
    · by_cases hnumber : a.bracket = 2
      · rw [compare_of_number hnumber (hbracket ▸ hnumber),
          compare_of_number (hbracket ▸ hnumber) hnumber,
          compareNumbers_swap hnumber (hbracket ▸ hnumber)]
      -- within any other bracket there is one constructor
      · cases a with
        | null => cases b <;> cases hbracket; rfl
        | bool x => cases b <;> cases hbracket; exact Std.OrientedOrd.eq_swap
        | string x => cases b <;> cases hbracket; exact Std.OrientedOrd.eq_swap
        | array as =>
          cases b <;> cases hbracket
          exact compareItems_swap as _
        | object as =>
          cases b <;> cases hbracket
          exact compareFields_swap as _
        | int _ | float _ | timestamp _ => exact absurd rfl hnumber
    · rw [compare_of_bracket_ne hbracket, compare_of_bracket_ne (Ne.symm hbracket)]
      exact Std.OrientedCmp.eq_swap

/-- So is the order of items. -/
theorem compareItems_swap : (as bs : List Value) →
    compareItems bs as = (compareItems as bs).swap
  | [], [] | [], _ :: _ | _ :: _, [] => rfl
  | a :: as, b :: bs => by
    rw [compareItems, compareItems, Ordering.swap_then, compare_swap a b, compareItems_swap as bs]

/-- And that of fields. -/
theorem compareFields_swap : (as bs : List (String × Value)) →
    compareFields bs as = (compareFields as bs).swap
  | [], [] | [], _ :: _ | _ :: _, [] => rfl
  | (j, a) :: as, (k, b) :: bs => by
    rw [compareFields, compareFields, Ordering.swap_then, Ordering.swap_then,
      compare_swap a b, compareFields_swap as bs, Std.OrientedOrd.eq_swap (a := k)]
end

mutual
/-- The order of values whose doubles discern their integers composes. -/
theorem compare_composes (hfinite : ∀ x, doubles x → x.isFinite)
    (hdiscern : Discern ints doubles) : (a b c : Value) → a.IsOver ints doubles →
      b.IsOver ints doubles → c.IsOver ints doubles →
        Composes (compare a b) (compare b c) (compare a c)
  | a, b, c, ha, hb, hc => by
    -- a step out of a bracket decides alone; within one bracket the kinds of all three values
    -- agree
    by_cases hab : a.bracket = b.bracket
    · by_cases hbc : b.bracket = c.bracket
      · by_cases hnumber : a.bracket = 2
        · exact composes_of_number hfinite hdiscern ha hb hc hnumber (hab ▸ hnumber)
            (hbc ▸ hab ▸ hnumber)
        · cases a with
          | null =>
            cases b <;> cases hab
            cases c <;> cases hbc
            exact fun _ _ => rfl
          | bool x =>
            cases b <;> cases hab
            cases c <;> cases hbc
            exact .of_transCmp Ord.compare x _ _
          | string x =>
            cases b <;> cases hab
            cases c <;> cases hbc
            exact .of_transCmp Ord.compare x _ _
          | array as =>
            cases b <;> cases hab
            cases c <;> cases hbc
            exact compareItems_composes hfinite hdiscern as _ _ ha hb hc
          | object as =>
            cases b <;> cases hab
            cases c <;> cases hbc
            exact compareFields_composes hfinite hdiscern as _ _ ha hb hc
          | int _ | float _ | timestamp _ => exact absurd rfl hnumber
      · exact composes_of_bracket (.inr hbc)
    · exact composes_of_bracket (.inl hab)

/-- Chains of items compose, item by item. -/
theorem compareItems_composes (hfinite : ∀ x, doubles x → x.isFinite)
    (hdiscern : Discern ints doubles) : (as bs cs : List Value) → ItemsAreOver ints doubles as →
      ItemsAreOver ints doubles bs → ItemsAreOver ints doubles cs →
        Composes (compareItems as bs) (compareItems bs cs) (compareItems as cs)
  | [], [], [], _, _, _ | [], [], _ :: _, _, _, _ | [], _ :: _, _ :: _, _, _, _ =>
    fun _ _ => rfl
  | _ :: _, [], _, _, _, _ => fun h _ => by cases h
  | _, _ :: _, [], _, _, _ => fun _ h => by cases h
  | a :: as, b :: bs, c :: cs, ha, hb, hc =>
    (compare_composes hfinite hdiscern a b c ha.1 hb.1 hc.1).lex
      (compareItems_composes hfinite hdiscern as bs cs ha.2 hb.2 hc.2)

/-- Chains of fields compose, by names and then by values. -/
theorem compareFields_composes (hfinite : ∀ x, doubles x → x.isFinite)
    (hdiscern : Discern ints doubles) : (as bs cs : List (String × Value)) →
      FieldsAreOver ints doubles as → FieldsAreOver ints doubles bs →
        FieldsAreOver ints doubles cs →
          Composes (compareFields as bs) (compareFields bs cs) (compareFields as cs)
  | [], [], [], _, _, _ | [], [], _ :: _, _, _, _ | [], _ :: _, _ :: _, _, _, _ =>
    fun _ _ => rfl
  | _ :: _, [], _, _, _, _ => fun h _ => by cases h
  | _, _ :: _, [], _, _, _ => fun _ h => by cases h
  | (j, a) :: as, (k, b) :: bs, (l, c) :: cs, ha, hb, hc =>
    ((Composes.of_transCmp Ord.compare j k l).lex
      (compare_composes hfinite hdiscern a b c ha.1 hb.1 hc.1)).lex
        (compareFields_composes hfinite hdiscern as bs cs ha.2 hb.2 hc.2)
end

/-- The order of values without doubles composes. -/
theorem compare_composes_of_isFloatFree {a b c : Value} (ha : a.isFloatFree) (hb : b.isFloatFree)
    (hc : c.isFloatFree) : Composes (compare a b) (compare b c) (compare a c) :=
  compare_composes (fun _ h => h.elim) (fun _ _ _ _ _ h => h.elim) a b c
    (isOver_of_isFloatFree a ha) (isOver_of_isFloatFree b hb) (isOver_of_isFloatFree c hc)

end Value

/-! ## Records -/

namespace Record

/-- Whether a record holds no double in the values that it is sorted by. -/
def hasFloatFreeKeys (keys : List SortKey) (record : Record) : Bool :=
  keys.all fun key => (valueAt record key.path).isFloatFree

/-- Sorting by keys read backwards. -/
theorem compareBy_swap (keys : List SortKey) (a b : Record) :
    compareBy keys b a = (compareBy keys a b).swap := by
  induction keys with
  | nil => rfl
  | cons key keys ih =>
    rw [compareBy, compareBy, Ordering.swap_then, ih, SortKey.compare, SortKey.compare]
    congr 1
    -- a descending key swaps its comparison, so it swaps back
    rw [Value.compare_swap (valueAt a key.path)]
    split <;> rfl

/-- Chains of records compose, key by key. -/
theorem compareBy_composes {keys : List SortKey} {a b c : Record} (ha : a.hasFloatFreeKeys keys)
    (hb : b.hasFloatFreeKeys keys) (hc : c.hasFloatFreeKeys keys) :
    Composes (compareBy keys a b) (compareBy keys b c) (compareBy keys a c) := by
  induction keys with
  | nil => exact fun _ _ => rfl
  | cons key keys ih =>
    rw [hasFloatFreeKeys, List.all_cons, Bool.and_eq_true] at ha hb hc
    refine Composes.lex ?_ (ih ha.2 hb.2 hc.2)
    rw [SortKey.compare, SortKey.compare, SortKey.compare]
    split
    · -- a descending chain is an ascending one read backwards
      rw [← Value.compare_swap, ← Value.compare_swap, ← Value.compare_swap]
      exact (Value.compare_composes_of_isFloatFree hc.1 hb.1 ha.1).comm
    · exact Value.compare_composes_of_isFloatFree ha.1 hb.1 hc.1

/-- Sorting by values without doubles is lawful. -/
theorem strictWeakOn_compareBy {keys : List SortKey} {records : List Record}
    (h : ∀ record ∈ records, record.hasFloatFreeKeys keys) :
    StrictWeakOn (fun a b => (compareBy keys a b).isLT) records where
  asymm a ha b hb hlt := by
    rw [compareBy_swap keys a b]
    cases hcompare : compareBy keys a b <;> simp_all
  negTrans a ha b hb c hc hab hbc := by
    -- neither step is strict, so read backwards the records are a chain
    rw [compareBy_swap keys b a] at hab
    rw [compareBy_swap keys c b] at hbc
    rw [compareBy_swap keys c a]
    have hcomposes := compareBy_composes (h c hc) (h b hb) (h a ha)
    cases hcb : compareBy keys c b <;> cases hba : compareBy keys b a <;>
      simp_all [Composes]

end Record

end DualQuery
