import DualQuery.Proofs.JoinRows
import DualQuery.Proofs.TimestampOperands
import DualQuery.Proofs.ValueOrder

/-!
# Keys without doubles

Equality of values is no equivalence as long as doubles take part: two integers may equal one double
and differ. Among values without doubles it is one, the equality of what is left when timestamps are
written as integers. A hash map whose keys are such values then holds under each key what was put
under the keys that equal it, and nothing else, whatever the hashing.

## Key results

- `Value.equal_iff_untimed_eq`: equality without doubles
- `Indexed.IsLawful.hasLawfulKeys`: keys without doubles are lawful
- `Indexed.IsLawful.find?_alter_of_beq`, `Indexed.IsLawful.find?_alter_of_not_beq`: what is found
  after a map was changed
-/

namespace DualQuery

/-! ## Equality without doubles -/

namespace Value

mutual
/-- Values without doubles are equal where they are the same but for timestamps. -/
theorem equal_iff_untimed_eq : (a b : Value) → a.isFloatFree → b.isFloatFree →
    (equal a b = true ↔ a.untimed = b.untimed)
  | .array as, .array bs, ha, hb => by
    rw [equal, equalItems_iff_untimedItems_eq as bs ha hb, untimed, untimed, array.injEq]
  | .object as, .object bs, ha, hb => by
    rw [equal, equalFields_iff_untimedFields_eq as bs ha hb, untimed, untimed, object.injEq]
  | .float _, _, ha, _ => by cases ha
  | .null, b, _, hb | .bool _, b, _, hb | .string _, b, _, hb | .int _, b, _, hb
  | .timestamp _, b, _, hb => by
    -- numbers are integers and timestamps here, which equal each other where the integers do
    cases b <;> simp_all [equal, equalNumbers, integral?, double?, untimed, isFloatFree]
  | .array _, .null, _, _ | .array _, .bool _, _, _ | .array _, .int _, _, _
  | .array _, .float _, _, _ | .array _, .string _, _, _ | .array _, .timestamp _, _, _
  | .array _, .object _, _, _ => by simp [equal, equalNumbers, integral?, double?, untimed]
  | .object _, .null, _, _ | .object _, .bool _, _, _ | .object _, .int _, _, _
  | .object _, .float _, _, _ | .object _, .string _, _, _ | .object _, .timestamp _, _, _
  | .object _, .array _, _, _ => by simp [equal, equalNumbers, integral?, double?, untimed]

/-- Arrays without doubles are equal where they are the same but for timestamps. -/
theorem equalItems_iff_untimedItems_eq : (as bs : List Value) → areFloatFreeItems as →
    areFloatFreeItems bs → (equalItems as bs = true ↔ untimedItems as = untimedItems bs)
  | [], [], _, _ => by simp [equalItems, untimedItems]
  | [], _ :: _, _, _ | _ :: _, [], _, _ => by simp [equalItems, untimedItems]
  | a :: as, b :: bs, ha, hb => by
    rw [areFloatFreeItems, Bool.and_eq_true] at ha hb
    rw [equalItems, Bool.and_eq_true, equal_iff_untimed_eq a b ha.1 hb.1,
      equalItems_iff_untimedItems_eq as bs ha.2 hb.2, untimedItems, untimedItems, List.cons.injEq]

/-- Records without doubles are equal where they are the same but for timestamps. -/
theorem equalFields_iff_untimedFields_eq : (as bs : List (String × Value)) →
    areFloatFreeFields as → areFloatFreeFields bs →
      (equalFields as bs = true ↔ untimedFields as = untimedFields bs)
  | [], [], _, _ => by simp [equalFields, untimedFields]
  | [], _ :: _, _, _ | _ :: _, [], _, _ => by simp [equalFields, untimedFields]
  | (j, a) :: as, (k, b) :: bs, ha, hb => by
    rw [areFloatFreeFields, Bool.and_eq_true] at ha hb
    rw [equalFields, Bool.and_eq_true, Bool.and_eq_true, beq_iff_eq,
      equal_iff_untimed_eq a b ha.1 hb.1, equalFields_iff_untimedFields_eq as bs ha.2 hb.2,
      untimedFields, untimedFields, List.cons.injEq, Prod.mk.injEq]
end

end Value

/-! ## Hash maps -/

namespace Indexed

variable {κ γ α : Type} [BEq κ]

/-- Whether the equality of keys is the equality of what is seen of them, among some keys. -/
def IsLawful (view : κ → γ) (isKey : κ → Prop) : Prop :=
  ∀ a b, isKey a → isKey b → ((a == b) = true ↔ view a = view b)

section Equivalence

variable {view : κ → γ} {isKey : κ → Prop} (hlaw : IsLawful view isKey)

include hlaw

/-- A lawful key equals itself. -/
theorem IsLawful.refl {a : κ} (ha : isKey a) : (a == a) = true :=
  (hlaw a a ha ha).2 rfl

/-- Equality of lawful keys is symmetric. -/
theorem IsLawful.comm {a b : κ} (ha : isKey a) (hb : isKey b) : (a == b) = (b == a) := by
  rw [Bool.eq_iff_iff, hlaw a b ha hb, hlaw b a hb ha, eq_comm]

/-- Equal keys are equal to the same keys. -/
theorem IsLawful.congr {a b c : κ} (ha : isKey a) (hb : isKey b) (hc : isKey c)
    (hab : (a == b) = true) : (c == a) = (c == b) := by
  rw [Bool.eq_iff_iff, hlaw c a hc ha, hlaw c b hc hb, (hlaw a b ha hb).1 hab]

/-- Keys of which equality is an equivalence leave hash maps no choice. -/
theorem IsLawful.hasLawfulKeys {keys probes : List κ} (hkeys : ∀ key ∈ keys ++ probes, isKey key) :
    HasLawfulKeys keys probes := by
  intro probe hprobe a ha b hb hequal hequal'
  have hisKey := hkeys probe hprobe
  have hisKeyA := hkeys a (List.mem_append_left _ ha)
  have hisKeyB := hkeys b (List.mem_append_left _ hb)
  -- both keys that answer are seen as the probe is, so they are seen alike
  exact (hlaw a b hisKeyA hisKeyB).2
    (((hlaw a probe hisKeyA hisKey).1 hequal).trans ((hlaw b probe hisKeyB hisKey).1 hequal').symm)

/-- A key of which equality is an equivalence as well can be looked up among them. -/
theorem IsLawful.hasLawfulKeys_lookup {keys : List κ} (hkeys : ∀ key ∈ keys, isKey key) {other : κ}
    (hother : isKey other) : HasLawfulKeys keys [other] :=
  hlaw.hasLawfulKeys <| List.forall_mem_append.2 ⟨hkeys, List.forall_mem_singleton.2 hother⟩

section Alter

variable [Hashing] {keys : List κ} (hkeys : ∀ key ∈ keys, isKey key) {index : Indexed κ α}
  (h : index.Over keys) {key other : κ} (hkey : key ∈ keys) (hother : isKey other) (fresh : α)
  (change : α → α)

include hkeys h hkey hother

/-- A change under a key is found under the keys that equal it. -/
theorem IsLawful.find?_alter_of_beq (hequal : (key == other) = true) :
    (index.alter fresh change key).find? other =
      some (change ((index.find? other).getD fresh)) := by
  have hlawful := hlaw.hasLawfulKeys_lookup hkeys hother
  have hprobe : other ∈ keys ++ [other] := List.mem_append_right _ (List.mem_singleton_self other)
  have hchanged := h.alter hkey fresh change
  rcases lookup_cases fresh change key index with
    ⟨front, entry, back, hindex, hentry, -, halter⟩ | ⟨hnone, -, halter⟩
  · -- the entry that is changed is found under the keys that equal the changed one
    have hmem : entry ∈ index := hindex ▸ List.mem_append_right _ List.mem_cons_self
    have hfound : (entry.1 == other) = true := by
      rw [← hlaw.congr (hkeys _ hkey) hother (hkeys _ (h.mem _ hmem)) hequal]
      exact hentry
    have hnew : (entry.1, change entry.2) ∈ index.alter fresh change key :=
      halter ▸ List.mem_append_right _ List.mem_cons_self
    rw [h.find?_of_mem hlawful hprobe hmem hfound, Option.getD_some]
    exact hchanged.find?_of_mem hlawful hprobe hnew hfound
  · -- nothing was under the key, nor under one that equals it
    have hfresh : index.find? other = none := by
      rw [Option.eq_none_iff_forall_ne_some]
      intro a ha
      obtain ⟨k, hmem, hk⟩ := exists_mem_of_find?_eq_some ha
      rw [← hlaw.congr (hkeys _ hkey) hother (hkeys _ (h.mem _ hmem)) hequal,
        hnone (k, a) hmem] at hk
      cases hk
    have hnew : (key, change fresh) ∈ index.alter fresh change key :=
      halter ▸ List.mem_append_right _ (List.mem_singleton_self _)
    rw [hfresh, Option.getD_none]
    exact hchanged.find?_of_mem hlawful hprobe hnew hequal

/-- A change under a key leaves what is found under the keys that do not equal it. -/
theorem IsLawful.find?_alter_of_not_beq (hequal : (key == other) = false) :
    (index.alter fresh change key).find? other = index.find? other := by
  have hlawful := hlaw.hasLawfulKeys_lookup hkeys hother
  have hprobe : other ∈ keys ++ [other] := List.mem_append_right _ (List.mem_singleton_self other)
  refine (h.alter hkey fresh change).find?_congr h hlawful hprobe fun found hfound => ?_
  rcases lookup_cases fresh change key index with
    ⟨front, entry, back, hindex, hentry, -, halter⟩ | ⟨-, -, halter⟩
  · -- the key of the changed entry does not equal the other one
    have hmem : entry.1 ∈ keys :=
      h.mem entry (hindex ▸ List.mem_append_right _ List.mem_cons_self)
    have hne : (entry.1 == other) = false := by
      rw [hlaw.comm (hkeys _ hmem) hother, hlaw.congr (hkeys _ hmem) (hkeys _ hkey) hother hentry,
        hlaw.comm hother (hkeys _ hkey), hequal]
    have hfoundNe : ∀ a, found ≠ (entry.1, a) := by
      rintro a rfl
      rw [hne] at hfound
      cases hfound
    rw [halter, hindex]
    simp [hfoundNe]
  · -- the key is new, and its entry does not answer the other one
    have hne : found ≠ (key, change fresh) := by
      rintro rfl
      rw [hequal] at hfound
      cases hfound
    rw [halter]
    simp [hne]

end Alter

end Equivalence

end Indexed

namespace Record

/-- Whether a value is a key of which equality is lawful. -/
abbrev IsKey (v : Value) : Prop := v.isFloatFree = true

/-- Equality of values without doubles is lawful: they are seen as what is left without
timestamps. -/
theorem isLawful_isKey : Indexed.IsLawful Value.untimed IsKey := Value.equal_iff_untimed_eq

/-- Whether values are free of doubles. -/
abbrev IsKeyList (key : List Value) : Prop := ∀ value ∈ key, value.isFloatFree = true

/-- Items are free of doubles where each of them is. -/
theorem areFloatFreeItems_iff {key : List Value} :
    Value.areFloatFreeItems key = true ↔ IsKeyList key := by
  induction key with
  | nil => simp [Value.areFloatFreeItems, IsKeyList]
  | cons value key ih =>
    rw [Value.areFloatFreeItems, Bool.and_eq_true, ih]
    simp only [IsKeyList, List.forall_mem_cons]

/-- Lists of values are compared item by item. -/
theorem beq_eq_equalItems (a b : List Value) : (a == b) = Value.equalItems a b := by
  induction a generalizing b with
  | nil => cases b <;> rfl
  | cons value a ih =>
    cases b with
    | nil => rfl
    | cons other b => rw [Value.equalItems, ← ih, List.cons_beq_cons]; rfl

/-- Equality of lists of values without doubles is lawful. -/
theorem isLawful_isKeyList : Indexed.IsLawful Value.untimedItems IsKeyList := by
  intro a b ha hb
  rw [beq_eq_equalItems]
  exact Value.equalItems_iff_untimedItems_eq a b (areFloatFreeItems_iff.2 ha)
    (areFloatFreeItems_iff.2 hb)

end Record

end DualQuery
