import DualQuery.Partition
import DualQuery.Value.Order

/-!
# Equal values and their hashes

Equal values feed equal sequences to a hash: every number feeds the bits of its double, and numbers
are equal only if these are. So equal values have one hash and share a partition, whatever the
number of partitions.

## Key results

- `Value.feed_eq_of_equal`: equal values feed equal sequences
- `Value.partition_eq_of_beq`: equal values share a partition
- `Value.equal_values_share_partition`: both, for any number of partitions
-/

namespace DualQuery.Value

open HashItem (word)

/-- The double of an integer or a timestamp is that of its number. -/
theorem double?_of_integral? {a : Value} {i : Int64} (h : a.integral? = some i) :
    a.double? = some (.ofInt64 i) := by
  cases a <;> simp only [integral?, Option.some.injEq, reduceCtorEq] at h <;> rw [h, double?]

/-- A number feeds the bits of its double. -/
theorem feed_of_double? {a : Value} {x : Binary64} (h : a.double? = some x) :
    feed a = [word 2, word x.bits] := by
  cases a <;> simp only [double?, Option.some.injEq, reduceCtorEq] at h <;> rw [feed, ← h] <;> rfl

/-- Equal numbers feed alike. -/
theorem feed_eq_of_equalNumbers {a b : Value} (h : equalNumbers a b) : feed a = feed b := by
  unfold equalNumbers at h
  -- integers are compared as such, but feed the bits of their doubles all the same
  split at h
  next i j hi hj =>
    rw [feed_of_double? (double?_of_integral? hi), feed_of_double? (double?_of_integral? hj),
      beq_iff_eq.1 h]
  next =>
    split at h
    next x y hx hy => rw [feed_of_double? hx, feed_of_double? hy, beq_iff_eq.1 h]
    next => cases h

mutual
/-- Equal values feed equal sequences. -/
theorem feed_eq_of_equal : (a b : Value) → equal a b → feed a = feed b
  | .array as, .array bs, h => by
    rw [equal] at h
    obtain ⟨hlength, hfeed⟩ := feedItems_eq_of_equalItems as bs h
    simp only [feed, bracket, hlength, hfeed]
  | .object as, .object bs, h => by
    rw [equal] at h
    obtain ⟨hlength, hfeed⟩ := feedFields_eq_of_equalFields as bs h
    simp only [feed, bracket, hlength, hfeed]
  | .null, b, h | .bool _, b, h | .string _, b, h => by
    cases b <;> simp_all [equal, equalNumbers, integral?, double?, feed]
  | .int _, b, h | .float _, b, h | .timestamp _, b, h => by
    -- two numbers are the only values of different constructors that can be equal
    cases b <;> exact feed_eq_of_equalNumbers (by simpa only [equal] using h)
  | .array _, .null, h | .array _, .bool _, h | .array _, .int _, h | .array _, .float _, h
  | .array _, .string _, h | .array _, .timestamp _, h | .array _, .object _, h => by
    simp [equal, equalNumbers, integral?, double?] at h
  | .object _, .null, h | .object _, .bool _, h | .object _, .int _, h | .object _, .float _, h
  | .object _, .string _, h | .object _, .timestamp _, h | .object _, .array _, h => by
    simp [equal, equalNumbers, integral?, double?] at h

/-- Equal arrays have one length and feed alike. -/
theorem feedItems_eq_of_equalItems : (as bs : List Value) → equalItems as bs →
    as.length = bs.length ∧ feedItems as = feedItems bs
  | [], [], _ => ⟨rfl, rfl⟩
  | [], _ :: _, h | _ :: _, [], h => by simp [equalItems] at h
  | a :: as, b :: bs, h => by
    rw [equalItems, Bool.and_eq_true] at h
    obtain ⟨hlength, hfeed⟩ := feedItems_eq_of_equalItems as bs h.2
    simp only [List.length_cons, hlength, feedItems, feed_eq_of_equal a b h.1, hfeed, and_self]

/-- Equal records have one length and feed alike. -/
theorem feedFields_eq_of_equalFields : (as bs : List (String × Value)) → equalFields as bs →
    as.length = bs.length ∧ feedFields as = feedFields bs
  | [], [], _ => ⟨rfl, rfl⟩
  | [], _ :: _, h | _ :: _, [], h => by simp [equalFields] at h
  | (j, a) :: as, (k, b) :: bs, h => by
    rw [equalFields, Bool.and_eq_true, Bool.and_eq_true, beq_iff_eq] at h
    obtain ⟨hlength, hfeed⟩ := feedFields_eq_of_equalFields as bs h.2
    simp only [List.length_cons, hlength, feedFields, h.1.1, feed_eq_of_equal a b h.1.2, hfeed,
      and_self]
end

/-- Equal values share a partition. -/
theorem partition_eq_of_beq {a b : Value} (h : (a == b) = true) (partitions : Nat) :
    a.partition partitions = b.partition partitions := by
  rw [partition, partition, hash, hash, feed_eq_of_equal a b h]

/-- Where no partition is asked for there is one all the same. -/
theorem partition_lt_max (v : Value) (partitions : Nat) :
    v.partition partitions < max 1 partitions :=
  Nat.mod_lt _ (Nat.lt_of_lt_of_le Nat.one_pos (Nat.le_max_left _ _))

/-- A value is put in one of the partitions. -/
theorem partition_lt (v : Value) {partitions : Nat} (h : 1 ≤ partitions) :
    v.partition partitions < partitions := by
  have hlt := v.partition_lt_max partitions
  rwa [Nat.max_eq_right h] at hlt

/-- Equal values give a hash the same words and bytes to work on, and are put in the same partition,
which is one of those that there are. -/
theorem equal_values_share_partition {a b : Value} (h : (a == b) = true) :
    a.feed = b.feed ∧
      ∀ partitions, a.partition partitions = b.partition partitions ∧
        a.partition partitions < max 1 partitions :=
  ⟨feed_eq_of_equal a b h, fun partitions =>
    ⟨partition_eq_of_beq h partitions, a.partition_lt_max partitions⟩⟩

/-- Numbers of the three kinds, under keys and in lists. -/
theorem equal_values_share_partition_three :
    (array [object [("n", int 3)], timestamp 3] ==
        array [object [("n", timestamp 3)], float ⟨0x4008000000000000⟩]) = true ∧
      (array [object [("n", int 3)], timestamp 3]).feed =
        (array [object [("n", timestamp 3)], float ⟨0x4008000000000000⟩]).feed ∧
      (array [object [("n", int 3)], timestamp 3]).partition 5 =
        (array [object [("n", timestamp 3)], float ⟨0x4008000000000000⟩]).partition 5 ∧
      (array [object [("n", int 3)], timestamp 3]).partition 5 < 5 := by
  have heq : (array [object [("n", int 3)], timestamp 3] ==
      array [object [("n", timestamp 3)], float ⟨0x4008000000000000⟩]) = true := by
    decide +kernel
  obtain ⟨hfeed, hpartition⟩ := equal_values_share_partition heq
  exact ⟨heq, hfeed, (hpartition 5).1, (hpartition 5).2⟩

end DualQuery.Value
