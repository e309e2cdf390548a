import Mathlib.Data.List.Basic
import Mathlib.Data.List.Induction

/-!
# First occurrences

What is left of a list when each member is kept at its first place only: `List.eraseDups`, from the
last member on. A member at the end is kept if it is not there before.

## Key results

- `List.eraseDups_concat`: one more member
- `List.nodup_eraseDups`, `List.eraseDups_sublist`: no member twice, and all of them in order
- `List.pairwise_idxOf_eraseDups`: the order is that of the first places
- `List.eraseDups_eraseDups_append`: repeats may as well be dropped before more members come
- `List.length_eraseDups_eq_iff`: nothing is dropped of lists without repeats only
-/

namespace List

variable {α : Type} [BEq α] [LawfulBEq α]

/-- A member at the end is kept if it is new. -/
theorem eraseDups_concat (as : List α) (a : α) :
    (as ++ [a]).eraseDups = if a ∈ as then as.eraseDups else as.eraseDups ++ [a] := by
  rw [eraseDups_append]
  split
  next hmem => simp [removeAll, hmem]
  next hmem => simp [removeAll, hmem, eraseDups_cons]

/-- No member is kept twice. -/
theorem nodup_eraseDups (as : List α) : as.eraseDups.Nodup := by
  induction as using reverseRecOn with
  | nil => exact nodup_nil
  | append_singleton as a ih =>
    rw [eraseDups_concat]
    split
    next => exact ih
    next hmem =>
      have hnew : ∀ b ∈ as, ¬ b = a := fun b hb heq => hmem (heq ▸ hb)
      simpa [nodup_append, ih, mem_eraseDups] using hnew

/-- Members that are kept stay in their order. -/
theorem eraseDups_sublist (as : List α) : as.eraseDups.Sublist as := by
  induction as using reverseRecOn with
  | nil => exact Sublist.refl []
  | append_singleton as a ih =>
    rw [eraseDups_concat]
    split
    next => exact ih.trans (sublist_append_left as [a])
    next => exact ih.append (Sublist.refl [a])

/-- A list without repeats is kept as it is. -/
theorem eraseDups_of_nodup {as : List α} (h : as.Nodup) : as.eraseDups = as := by
  induction as using reverseRecOn with
  | nil => rfl
  | append_singleton as a ih =>
    have hmem : a ∉ as := fun hmem => (nodup_append.1 h).2.2 a hmem a mem_cons_self rfl
    rw [eraseDups_concat, if_neg hmem, ih (nodup_append.1 h).1]

/-- Members stand in the order of their first places. -/
theorem pairwise_idxOf_eraseDups (as : List α) :
    as.eraseDups.Pairwise fun a b => as.idxOf a < as.idxOf b := by
  induction as using reverseRecOn with
  | nil => exact .nil
  | append_singleton as a ih =>
    -- the first place of a member is not changed by what comes behind
    have hplace : ∀ b ∈ as.eraseDups, (as ++ [a]).idxOf b = as.idxOf b := fun b hb =>
      idxOf_append_of_mem (mem_eraseDups.1 hb)
    have hkept : as.eraseDups.Pairwise fun b c => (as ++ [a]).idxOf b < (as ++ [a]).idxOf c :=
      ih.imp_of_mem fun hb hc hlt => by rwa [hplace _ hb, hplace _ hc]
    rw [eraseDups_concat]
    split
    next => exact hkept
    next hmem =>
      refine pairwise_append.2 ⟨hkept, pairwise_singleton _ _, fun b hb c hc => ?_⟩
      rw [mem_singleton.1 hc, hplace b hb, idxOf_append_of_notMem hmem]
      exact Nat.lt_add_right _ (idxOf_lt_length_iff.2 (mem_eraseDups.1 hb))

/-- Only a list without repeats keeps its length. -/
theorem length_eraseDups_eq_iff {as : List α} : as.eraseDups.length = as.length ↔ as.Nodup := by
  constructor
  · intro hlength
    rw [← (eraseDups_sublist as).eq_of_length hlength]
    exact nodup_eraseDups as
  · intro h
    rw [eraseDups_of_nodup h]

/-- Repeats may as well be dropped before more members come. -/
theorem eraseDups_eraseDups_append (as bs : List α) :
    (as.eraseDups ++ bs).eraseDups = (as ++ bs).eraseDups := by
  have hkept : bs.removeAll as.eraseDups = bs.removeAll as := by
    simp only [removeAll, elem_eq_contains]
    refine filter_congr fun b _ => ?_
    rw [Bool.eq_iff_iff]
    simp [mem_eraseDups]
  rw [eraseDups_append, eraseDups_append, hkept, eraseDups_of_nodup (nodup_eraseDups as)]

end List
