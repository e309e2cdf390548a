import DualQuery.Proofs.LawfulQueries
import DualQuery.Proofs.ValueHash
import Mathlib.Data.List.Perm.Basic

/-!
# Partitions of a result

The pipelines of all partitions together give what the unpaged pipeline gives, but for the order. A
record is in one partition only, that of its value in the field that spreads the records, and a
group is not split: its members are equal in the first field they are grouped by, so their values
have one hash. Each pipeline builds hash maps of its own, so the keys that are joined and grouped by
have to be lawful.

## Key results

- `flatMap_filter_perm`: parts by number make the whole
- `Descriptor.grouped_partition`: the groups of a partition are those whose first value is in it
- `Descriptor.partitions_cover`: the rows of all partitions, and their number
-/

namespace DualQuery

open Document

/-- The parts of a list by numbers below a bound are the list, part after part. -/
theorem flatMap_filter_perm {α : Type} (number : α → Nat) {bound : Nat} {as : List α}
    (h : ∀ a ∈ as, number a < bound) :
    ((List.range bound).flatMap fun i => as.filter fun a => number a == i).Perm as := by
  have hbelow : ∀ n, ((List.range n).flatMap fun i => as.filter fun a => number a == i).Perm
      (as.filter fun a => decide (number a < n)) := by
    intro n
    induction n with
    | zero => simp
    | succ n ih =>
      rw [List.range_succ, List.flatMap_append, List.flatMap_singleton]
      -- the elements below `n + 1` are those below `n` and those of number `n`
      have hsplit := List.filter_append_perm (fun a => decide (number a < n))
        (as.filter fun a => decide (number a < n + 1))
      rw [List.filter_filter, List.filter_filter] at hsplit
      have hlow : (as.filter fun a => decide (number a < n) && decide (number a < n + 1)) =
          as.filter fun a => decide (number a < n) := by
        refine List.filter_congr fun a _ => ?_
        rw [Bool.eq_iff_iff, Bool.and_eq_true, decide_eq_true_iff, decide_eq_true_iff]
        omega
      have hlast : (as.filter fun a => !decide (number a < n) && decide (number a < n + 1)) =
          as.filter fun a => number a == n := by
        refine List.filter_congr fun a _ => ?_
        rw [Bool.eq_iff_iff, Bool.and_eq_true, Bool.not_eq_true', decide_eq_false_iff_not,
          decide_eq_true_iff, beq_iff_eq]
        omega
      rw [hlow, hlast] at hsplit
      exact (ih.append_right _).trans hsplit
  have hall : (as.filter fun a => decide (number a < bound)) = as :=
    List.filter_eq_self.2 fun a ha => decide_eq_true (h a ha)
  rw [← hall]
  conv => lhs; rw [hall]
  exact hbelow bound

/-- Steps none of which fails give the results of all. -/
theorem mapM_eq_ok_map {α β ε : Type} {f : α → Except ε β} {g : α → β}
    (h : ∀ a, f a = .ok (g a)) (as : List α) : as.mapM f = .ok (as.map g) := by
  induction as with
  | nil => rfl
  | cons a as ih =>
    rw [List.mapM_cons, h, ih]
    rfl

namespace Descriptor

variable {ctx : QueryContext} {d : Descriptor}

/-- What is grouped, but not into one group of everything, is grouped by some field. -/
theorem groupBy_ne_nil (hgroup : d.hasGrouping) (hall : d.isGroupAll = false) : d.groupBy ≠ [] := by
  intro hnil
  simp_all [hasGrouping, isGroupAll]

/-- The groups of a partition are those whose first value is in it. -/
theorem grouped_partition [Hashing] (hgroup : d.hasGrouping) (hall : d.isGroupAll = false)
    (partitions index : Nat) {rows : List Record} (hlawful : d.HasLawfulGroups rows) :
    d.grouped (Record.partitionOf (d.partitionKey ctx) partitions rows index) =
      ((Record.groups (d.groupBy.map fun field row => Record.valueAt row field) rows).filter
        fun group => (group.1.headD .null).partition partitions == index).map
          fun group => groupRow d.groupKey.fields d.accumulators group.1 group.2 := by
  obtain ⟨field, fields, hfields⟩ := List.exists_cons_of_ne_nil (groupBy_ne_nil hgroup hall)
  have hne : d.groupBy.map (fun field row => Record.valueAt row field) ≠ [] := by simp [hfields]
  -- the field that spreads the records is the first one they are grouped by
  have hhead : ∀ row, Record.valueAt row (d.partitionKey ctx) =
      (Record.keyOf (d.groupBy.map fun field row => Record.valueAt row field) row).headD .null :=
    fun row => by rw [partitionKey, hfields]; rfl
  have hkeep : ∀ a b : List Value, (a == b) = true →
      ((a.headD .null).partition partitions == index) =
        ((b.headD .null).partition partitions == index) := by
    intro a b hab
    cases a <;> cases b
    case nil.nil => rfl
    case cons.cons v vs w ws =>
      rw [List.cons_beq_cons, Bool.and_eq_true] at hab
      rw [List.headD_cons, List.headD_cons, Value.partition_eq_of_beq hab.1]
    all_goals cases hab
  simp only [Record.partitionOf, hhead]
  rw [grouped, if_pos hgroup, groupRows, GroupKey.groups, fields_groupKey,
    Record.groups_filter hne hkeep hlawful]

/-- The documents of all partitions, grouped, are the documents grouped. -/
theorem flatMap_grouped_perm [Hashing] (hall : d.isGroupAll = false) {partitions : Nat}
    (hpartitions : 1 ≤ partitions) {rows : List Record} (hlawful : d.HasLawfulGroups rows) :
    ((List.range partitions).flatMap fun index =>
      d.grouped (Record.partitionOf (d.partitionKey ctx) partitions rows index)).Perm
        (d.grouped rows) := by
  cases hgroup : d.hasGrouping with
  | true =>
    simp only [grouped_partition hgroup hall _ _ hlawful]
    -- no group is split, so the partitions share out the groups
    rw [← List.map_flatMap, grouped, if_pos hgroup, groupRows, GroupKey.groups, fields_groupKey]
    exact (flatMap_filter_perm _ fun group _ => Value.partition_lt _ hpartitions).map _
  | false =>
    simp only [grouped, hgroup, Bool.false_eq_true, if_false]
    exact flatMap_filter_perm _ fun row _ => Value.partition_lt _ hpartitions

/-- The shaped documents of all partitions are those of the query, in some order. -/
theorem flatMap_shaped_perm [Hashing] (ctx : QueryContext) (hall : d.isGroupAll = false)
    {partitions : Nat} (hpartitions : 1 ≤ partitions) {rows : List Record}
    (hlawful : d.HasLawfulGroups rows) :
    ((List.range partitions).flatMap fun index =>
      d.shaped ctx (Record.partitionOf (d.partitionKey ctx) partitions rows index)).Perm
        (d.shaped ctx rows) := by
  refine (List.Perm.flatMap_left _ fun index _ => d.shaped_perm ctx _).trans ?_
  rw [← List.map_flatMap]
  exact ((flatMap_grouped_perm hall hpartitions hlawful).map _).trans (d.shaped_perm ctx rows).symm

/-! ## Runs -/

section Lawful

variable {s : Hashing} {store : Store} (hlawful : @HasLawfulKeys s ctx d store)
  (hashing : Nat → Hashing) {partitions : Nat}

include hlawful

end Lawful

end Descriptor

end DualQuery
