import DualQuery.Proofs.CompiledPipelines
import DualQuery.Proofs.CompiledPlans
import DualQuery.Proofs.LawfulKeys
import Mathlib.Algebra.BigOperators.Ring.Finset
import Mathlib.Data.List.Pairwise

/-!
# Groups are a partition

Grouping goes through the records once. What it has made of the records so far is said by `Gathers`:
a group holds all of them that have its values, the values of no two groups are equal, and the
groups stand in the order in which their values came up. One more record keeps all this, whether it
joins a group or starts one, as long as equality of values is an equivalence, which it is without
doubles.

## Key results

- `Record.Gathers.add`, `Record.gathers_groups`: one more record, and all records
- `Record.isPartition_groups`: the groups of records
- `Descriptor.grouping_partitions_rows`: the groups of plans and pipelines, and how many there are
-/

namespace DualQuery

open Document Relational

namespace Indexed

/-- A change adds at most one key. -/
theorem length_alter_le {κ α : Type} [BEq κ] [Hashing] (fresh : α) (change : α → α) (key : κ)
    (index : Indexed κ α) : (index.alter fresh change key).length ≤ index.length + 1 := by
  rcases index.lookup_cases fresh change key with
    ⟨front, entry, back, rfl, -, -, halter⟩ | ⟨-, -, halter⟩
  · rw [halter]
    simp
  · rw [halter, List.length_append, List.length_singleton]

end Indexed

namespace Record

open Indexed (IsLawful)

variable {values : List (Record → Value)} {records : List Record} {groups : Groups}

/-! ## One more record -/

/-- The position of the first record with given values. -/
def firstPosition (values : List (Record → Value)) (records : List Record) (key : List Value) :
    Nat :=
  records.findIdx fun record => keyOf values record == key

/-- What grouping has made of some records. -/
structure Gathers (values : List (Record → Value)) (records : List Record) (groups : Groups) :
    Prop where
  /-- The values of a group are those of a record. -/
  taken : ∀ key ∈ groups.map (·.1), ∃ record ∈ records, keyOf values record = key
  /-- Every record has the values of some group. -/
  covers : ∀ record ∈ records, ∃ key ∈ groups.map (·.1), (keyOf values record == key) = true
  /-- The groups stand in the order of their first records. -/
  ordered : (groups.map (·.1)).Pairwise fun a b =>
    firstPosition values records a < firstPosition values records b
  /-- A group holds the records with its values, in their order. -/
  members : ∀ group ∈ groups, group.2 = records.filter fun record =>
    keyOf values record == group.1

/-- Records that are added do not change the position of the first one. -/
theorem firstPosition_append {record : Record} (hrecord : record ∈ records) {key : List Value}
    (hkey : (keyOf values record == key) = true) (more : List Record) :
    firstPosition values (records ++ more) key = firstPosition values records key := by
  rw [firstPosition, List.findIdx_append, if_pos]
  · rfl
  · exact List.findIdx_lt_length_of_exists ⟨record, hrecord, hkey⟩

/-- Equal values come up at the same position. -/
theorem firstPosition_congr {records : List Record}
    (hrecords : ∀ record ∈ records, IsKeyList (keyOf values record)) {a b : List Value}
    (ha : IsKeyList a) (hb : IsKeyList b) (hequal : (a == b) = true) :
    firstPosition values records a = firstPosition values records b := by
  induction records with
  | nil => rfl
  | cons record records ih =>
    rw [List.forall_mem_cons] at hrecords
    have hsame := isLawful_isKeyList.congr ha hb hrecords.1 hequal
    simp only [firstPosition] at ih
    rw [firstPosition, firstPosition, List.findIdx_cons, List.findIdx_cons, hsame,
      ih hrecords.2]

section Add

variable {record : Record} (h : Gathers values records groups)
  (hrecords : ∀ other ∈ records, IsKeyList (keyOf values other))
  (hrecord : IsKeyList (keyOf values record))

include h hrecords

namespace Gathers

/-- The values of a group are keys of which equality is lawful. -/
theorem isKeyList {key : List Value} (hkey : key ∈ groups.map (·.1)) : IsKeyList key := by
  obtain ⟨record, hrecord, rfl⟩ := h.taken key hkey
  exact hrecords record hrecord

/-- No two groups have equal values. -/
theorem distinct : (groups.map (·.1)).Pairwise fun a b => (a == b) = false := by
  refine h.ordered.imp_of_mem fun {a b} ha hb hlt => ?_
  by_contra hequal
  rw [Bool.not_eq_false] at hequal
  have hsame := firstPosition_congr hrecords (h.isKeyList hrecords ha) (h.isKeyList hrecords hb)
    hequal
  omega

/-- A group that holds a record is not in front of another one that does. -/
theorem not_lt_of_mem {record : Record} {i j : Nat} (hi : i < groups.length)
    (hj : j < groups.length) (hin : record ∈ groups[i].2) (hin' : record ∈ groups[j].2) :
    ¬ i < j := by
  intro hlt
  have hdistinct := h.distinct hrecords
  rw [List.pairwise_map, List.pairwise_iff_getElem] at hdistinct
  have hmem := List.getElem_mem hi
  have hmem' := List.getElem_mem hj
  rw [h.members _ hmem, List.mem_filter] at hin
  rw [h.members _ hmem', List.mem_filter] at hin'
  -- both groups have the values of the record
  have hkey := h.isKeyList hrecords (List.mem_map_of_mem hmem)
  have hkey' := h.isKeyList hrecords (List.mem_map_of_mem hmem')
  have hrecord := hrecords record hin.1
  have hequal := isLawful_isKeyList.congr hrecord hkey' hkey hin'.2
  rw [isLawful_isKeyList.comm hkey hrecord, hin.2, hdistinct i j hi hj hlt] at hequal
  cases hequal

omit hrecords in
/-- A group holds the records whose values equal its own. -/
theorem mem_iff {group : List Value × List Record} (hgroup : group ∈ groups) {record : Record}
    (hrecord : record ∈ records) :
    record ∈ group.2 ↔ (keyOf values record == group.1) = true := by
  rw [h.members group hgroup, List.mem_filter, and_iff_right hrecord]

omit hrecords in
/-- Every record is in a group. -/
theorem exists_mem {record : Record} (hrecord : record ∈ records) :
    ∃ group ∈ groups, record ∈ group.2 := by
  obtain ⟨key, hkey, hequal⟩ := h.covers record hrecord
  obtain ⟨group, hgroup, rfl⟩ := List.mem_map.1 hkey
  exact ⟨group, hgroup, (h.mem_iff hgroup hrecord).2 hequal⟩

/-- A record is in one group. -/
theorem existsUnique {record : Record} (hrecord : record ∈ records) :
    ∃! i : Fin groups.length, record ∈ groups[i].2 := by
  obtain ⟨group, hgroup, hin⟩ := h.exists_mem hrecord
  obtain ⟨i, hi, rfl⟩ := List.mem_iff_getElem.1 hgroup
  refine ⟨⟨i, hi⟩, hin, fun j hj => ?_⟩
  -- of two groups that hold the record neither is in front of the other
  have hle : j.1 ≤ i := Nat.le_of_not_lt (h.not_lt_of_mem hrecords hi j.2 hin hj)
  have hge : i ≤ j.1 := Nat.le_of_not_lt (h.not_lt_of_mem hrecords j.2 hi hj hin)
  exact Fin.ext (Nat.le_antisymm hle hge)

/-- Two records share a group if their values are equal. -/
theorem exists_mem_iff {a b : Record} (ha : a ∈ records) (hb : b ∈ records) :
    (∃ group ∈ groups, a ∈ group.2 ∧ b ∈ group.2) ↔
      (keyOf values a == keyOf values b) = true := by
  -- whether `a` has the values of a group that holds `b` is whether it has those of `b`
  have hsame : ∀ group ∈ groups, b ∈ group.2 →
      (keyOf values a == keyOf values b) = (keyOf values a == group.1) := by
    intro group hgroup hin
    have hkey := h.isKeyList hrecords (List.mem_map_of_mem hgroup)
    exact isLawful_isKeyList.congr (hrecords b hb) hkey (hrecords a ha)
      ((h.mem_iff hgroup hb).1 hin)
  constructor
  · rintro ⟨group, hgroup, hina, hinb⟩
    rw [hsame group hgroup hinb]
    exact (h.mem_iff hgroup ha).1 hina
  · intro hequal
    obtain ⟨group, hgroup, hinb⟩ := h.exists_mem hb
    rw [hsame group hgroup hinb] at hequal
    exact ⟨group, hgroup, (h.mem_iff hgroup ha).2 hequal, hinb⟩

/-- The groups stay in their order when a record is added. -/
theorem ordered_append (more : List Record) :
    (groups.map (·.1)).Pairwise fun a b =>
      firstPosition values (records ++ more) a < firstPosition values (records ++ more) b := by
  have hkeep : ∀ key ∈ groups.map (·.1),
      firstPosition values (records ++ more) key = firstPosition values records key := by
    intro key hkey
    obtain ⟨first, hfirst, rfl⟩ := h.taken key hkey
    exact firstPosition_append hfirst (isLawful_isKeyList.refl (hrecords first hfirst)) more
  refine h.ordered.imp_of_mem fun {a b} ha hb hlt => ?_
  rw [hkeep a ha, hkeep b hb]
  exact hlt

omit hrecords in
/-- A group without the values of a record stays as it is. -/
theorem members_append {group : List Value × List Record} (hgroup : group ∈ groups)
    (hne : (keyOf values record == group.1) = false) :
    group.2 = (records ++ [record]).filter fun other => keyOf values other == group.1 := by
  rw [List.filter_append, List.filter_cons_of_neg (by simp [hne]), List.filter_nil,
    List.append_nil, h.members group hgroup]

include hrecord

/-- A record joins the group that has its values. -/
theorem add_of_mem {front back : Groups} {group : List Value × List Record}
    (hgroups : groups = front ++ group :: back) (hgroup : (group.1 == keyOf values record) = true) :
    Gathers values (records ++ [record]) (front ++ (group.1, group.2 ++ [record]) :: back) := by
  subst hgroups
  have hkeys : (front ++ (group.1, group.2 ++ [record]) :: back).map (·.1) =
      (front ++ group :: back).map (·.1) := by simp
  have hmem : group.1 ∈ (front ++ group :: back).map (·.1) := by simp
  have hlawful := h.isKeyList hrecords hmem
  -- equality of keys is symmetric here, as keys are lawful
  have hsame : (keyOf values record == group.1) = true := by
    rwa [isLawful_isKeyList.comm hrecord hlawful]
  refine ⟨?_, ?_, ?_, ?_⟩
  · intro key hkey
    obtain ⟨first, hfirst, rfl⟩ := h.taken key (hkeys ▸ hkey)
    exact ⟨first, List.mem_append_left _ hfirst, rfl⟩
  · rw [hkeys]
    intro other hother
    rcases List.mem_append.1 hother with hother | hother
    · exact h.covers other hother
    · rw [List.mem_singleton.1 hother]
      exact ⟨group.1, hmem, hsame⟩
  · rw [hkeys]
    exact h.ordered_append hrecords [record]
  · -- the other groups have other values than the group that the record joins
    have hdistinct := h.distinct hrecords
    rw [List.map_append, List.map_cons, List.pairwise_append, List.pairwise_cons] at hdistinct
    have hother : ∀ other ∈ front ++ group :: back, (other.1 == group.1) = false →
        other.2 = (records ++ [record]).filter fun old => keyOf values old == other.1 := by
      intro other hmem hne
      have hkey := h.isKeyList hrecords (List.mem_map_of_mem hmem)
      refine h.members_append hmem ?_
      rw [isLawful_isKeyList.comm hrecord hkey,
        isLawful_isKeyList.congr hrecord hlawful hkey hsame, hne]
    intro changed hchanged
    rcases List.mem_append.1 hchanged with hfront | hback
    · exact hother changed (List.mem_append_left _ hfront)
        (hdistinct.2.2 _ (List.mem_map_of_mem hfront) _ List.mem_cons_self)
    rcases List.mem_cons.1 hback with rfl | hback
    · have hjoins : [record].filter (fun old => keyOf values old == group.1) = [record] := by
        simp [hsame]
      rw [List.filter_append, hjoins, h.members group (by simp)]
    · have hmem : changed ∈ front ++ group :: back := by simp [hback]
      refine hother changed hmem ?_
      rw [isLawful_isKeyList.comm (h.isKeyList hrecords (List.mem_map_of_mem hmem)) hlawful]
      exact hdistinct.2.1.1 _ (List.mem_map_of_mem hback)

/-- A record whose values no group has starts one behind all others. -/
theorem add_of_not_mem (hnone : ∀ group ∈ groups, (group.1 == keyOf values record) = false) :
    Gathers values (records ++ [record]) (groups ++ [(keyOf values record, [record])]) := by
  have hself := isLawful_isKeyList.refl hrecord
  -- no record so far has the values
  have hfresh : ∀ other ∈ records, (keyOf values other == keyOf values record) = false := by
    intro other hother
    obtain ⟨key, hkey, hequal⟩ := h.covers other hother
    obtain ⟨group, hgroup, rfl⟩ := List.mem_map.1 hkey
    have hlawful := isLawful_isKeyList.congr (hrecords other hother) (h.isKeyList hrecords hkey)
      hrecord hequal
    rw [isLawful_isKeyList.comm (hrecords other hother) hrecord, hlawful,
      isLawful_isKeyList.comm hrecord (h.isKeyList hrecords hkey), hnone group hgroup]
  refine ⟨?_, ?_, ?_, ?_⟩
  · intro key hkey
    rw [List.map_append, List.mem_append] at hkey
    rcases hkey with hkey | hkey
    · obtain ⟨first, hfirst, rfl⟩ := h.taken key hkey
      exact ⟨first, List.mem_append_left _ hfirst, rfl⟩
    · exact ⟨record, by simp, (List.mem_singleton.1 hkey).symm⟩
  · intro other hother
    rw [List.map_append]
    rcases List.mem_append.1 hother with hother | hother
    · obtain ⟨key, hkey, hequal⟩ := h.covers other hother
      exact ⟨key, List.mem_append_left _ hkey, hequal⟩
    · rw [List.mem_singleton.1 hother]
      exact ⟨_, List.mem_append_right _ List.mem_cons_self, hself⟩
  · rw [List.map_append, List.pairwise_append]
    refine ⟨h.ordered_append hrecords [record], List.pairwise_singleton _ _, ?_⟩
    -- the values of a group come up before the new record does
    intro key hkey other hother
    obtain rfl : other = keyOf values record := List.mem_singleton.1 hother
    obtain ⟨first, hfirst, rfl⟩ := h.taken key hkey
    have hfound := isLawful_isKeyList.refl (hrecords first hfirst)
    have hold : firstPosition values records (keyOf values first) < records.length :=
      List.findIdx_lt_length_of_exists ⟨first, hfirst, hfound⟩
    have hnew :
        records.length ≤ firstPosition values (records ++ [record]) (keyOf values record) := by
      have hlast : (records.findIdx fun other => keyOf values other == keyOf values record) =
          records.length := List.findIdx_eq_length.2 hfresh
      rw [firstPosition, List.findIdx_append, if_neg (by omega)]
      exact Nat.le_add_left _ _
    rw [firstPosition_append hfirst hfound]
    exact Nat.lt_of_lt_of_le hold hnew
  · intro group hgroup
    rcases List.mem_append.1 hgroup with hgroup | hgroup
    · refine h.members_append hgroup ?_
      rw [isLawful_isKeyList.comm hrecord (h.isKeyList hrecords (List.mem_map_of_mem hgroup)),
        hnone group hgroup]
    · rw [List.mem_singleton.1 hgroup]
      have hnil : (records.filter fun other => keyOf values other == keyOf values record) = [] :=
        List.filter_eq_nil_iff.2 fun other hother => by simp [hfresh other hother]
      rw [List.filter_append, hnil, List.nil_append]
      simp [hself]

/-- One more record keeps what grouping has made of the records. -/
theorem add [Hashing] : Gathers values (records ++ [record])
    (Indexed.alter [] (· ++ [record]) (keyOf values record) groups) := by
  rcases Indexed.lookup_cases [] (· ++ [record]) (keyOf values record) groups with
    ⟨front, group, back, hgroups, hgroup, -, halter⟩ | ⟨hnone, -, halter⟩
  · rw [halter]
    exact h.add_of_mem hrecords hrecord hgroups hgroup
  · rw [halter]
    exact h.add_of_not_mem hrecords hrecord hnone

end Gathers

end Add

/-! ## All records -/

section All

variable [Hashing]

/-- More records keep what grouping has made of those before them. -/
theorem gathers_groupInto {done more : List Record} (h : Gathers values done groups)
    (hrecords : ∀ record ∈ done ++ more, IsKeyList (keyOf values record)) :
    Gathers values (done ++ more) (groupInto values groups more) := by
  induction more generalizing done groups with
  | nil => simpa [groupInto] using h
  | cons record more ih =>
    have hdone : ∀ other ∈ done, IsKeyList (keyOf values other) := fun other hother =>
      hrecords other (List.mem_append_left _ hother)
    -- the record moves from the front of what is left to the end of what is done
    have hadd := h.add hdone (hrecords record (by simp))
    rw [List.append_cons] at hrecords ⊢
    exact ih hadd hrecords

/-- Grouping gathers all records. -/
theorem gathers_groups (hne : values ≠ [])
    (hrecords : ∀ record ∈ records, IsKeyList (keyOf values record)) :
    Gathers values records (Record.groups values records) := by
  rw [groups_of_ne_nil hne, ← List.nil_append records]
  refine gathers_groupInto ⟨?_, ?_, List.Pairwise.nil, ?_⟩ hrecords
  all_goals exact fun _ h => nomatch h

/-- Each record goes into one group. -/
theorem flatMap_groupInto_perm (records : List Record) (groups : Groups) :
    ((groupInto values groups records).flatMap (·.2)).Perm (groups.flatMap (·.2) ++ records) := by
  induction records generalizing groups with
  | nil => simp [groupInto]
  | cons record records ih =>
    rw [groupInto, List.foldl_cons, ← groupInto]
    refine (ih _).trans ?_
    rw [List.append_cons]
    refine List.Perm.append_right records ?_
    -- the record goes behind the members of one group, or into a new group behind all others
    rcases Indexed.lookup_cases [] (· ++ [record]) (keyOf values record) groups with
      ⟨front, group, back, rfl, -, -, halter⟩ | ⟨-, -, halter⟩
    · rw [halter]
      simp only [List.flatMap_append, List.flatMap_cons, List.append_assoc]
      exact List.Perm.append_left _ (List.Perm.append_left _ List.perm_append_comm)
    · rw [halter, List.flatMap_append]
      simp

/-- The sizes of the groups add up to the number of the records. -/
theorem sum_length_groups (hne : values ≠ []) (records : List Record) :
    ((Record.groups values records).map fun group => group.2.length).sum = records.length := by
  rw [← List.length_flatMap, groups_of_ne_nil hne]
  exact (flatMap_groupInto_perm records []).length_eq

/-- Each record makes at most one new group. -/
theorem length_groupInto_le (values : List (Record → Value)) (records : List Record)
    (groups : Groups) :
    (groupInto values groups records).length ≤ groups.length + records.length := by
  induction records generalizing groups with
  | nil => exact Nat.le_refl _
  | cons record records ih =>
    rw [groupInto, List.foldl_cons, ← groupInto, List.length_cons]
    have hrest := ih (Indexed.alter [] (· ++ [record]) (keyOf values record) groups)
    have hfirst := Indexed.length_alter_le [] (· ++ [record]) (keyOf values record) groups
    omega

/-- There are no more groups than records. -/
theorem length_groups_le (hne : values ≠ []) (records : List Record) :
    (Record.groups values records).length ≤ records.length := by
  simpa [groups_of_ne_nil hne] using length_groupInto_le values records []

end All

/-! ## The partition -/

/-- The number of all members of a group. -/
def countAll (group : List Value × List Record) : Int64 :=
  ((AggregateOp.count.over none none group.2).integer?).getD 0

/-- The count of a group is its size as a word. -/
theorem countAll_eq (group : List Value × List Record) :
    countAll group = Int64.ofNat group.2.length := by
  simp [countAll, AggregateOp.over, AggregateOp.evaluate, Value.integer?]

/-- Groups that are a partition of records by some of their values. -/
structure IsPartition (values : List (Record → Value)) (records : List Record)
    (groups : Groups) : Prop where
  /-- A record belongs to one group. -/
  unique : ∀ record ∈ records, ∃! i : Fin groups.length, record ∈ groups[i].2
  /-- The records of a group are those with equal values. -/
  together : ∀ a ∈ records, ∀ b ∈ records,
    (∃ group ∈ groups, a ∈ group.2 ∧ b ∈ group.2) ↔ (keyOf values a == keyOf values b) = true
  /-- A group has the values of its first member. -/
  first : ∀ group ∈ groups, group.2.head?.map (keyOf values) = some group.1
  /-- Groups stand in the order in which their values come up. -/
  ordered : groups.Pairwise fun g h =>
    firstPosition values records g.1 < firstPosition values records h.1
  /-- Members stand in the order of the records, each as often as it is there. -/
  members : ∀ group ∈ groups, group.2 = records.filter fun record =>
    keyOf values record == group.1
  /-- The sizes of the groups add up. -/
  sizes : (groups.map fun group => group.2.length).sum = records.length
  /-- So do the counts, which are words. -/
  counts : records.length < 2 ^ 63 →
    (groups.map fun group => (countAll group).toInt).sum = records.length

/-- Groups by values without doubles are a partition of the records. -/
theorem isPartition_groups [Hashing] (hne : values ≠ [])
    (hrecords : ∀ record ∈ records, IsKeyList (keyOf values record)) :
    IsPartition values records (Record.groups values records) := by
  have h := gathers_groups hne hrecords
  have hordered := h.ordered
  rw [List.pairwise_map] at hordered
  refine ⟨?_, ?_, ?_, hordered, h.members, sum_length_groups hne records, ?_⟩
  · intro record hrecord
    exact h.existsUnique hrecords hrecord
  · intro a ha b hb
    exact h.exists_mem_iff hrecords ha hb
  · intro group hgroup
    obtain ⟨first, rest, hmembers, hvalues⟩ := exists_first_of_mem_groups hne hgroup
    rw [hmembers, hvalues]
    rfl
  · intro hsize
    rw [← sum_length_groups hne records, Nat.cast_list_sum, List.map_map]
    congr 1
    refine List.map_congr_left fun group hgroup => ?_
    -- a group is no larger than all records, so its count fits a word
    have hle : group.2.length ≤ records.length := by
      rw [h.members group hgroup]
      exact List.length_filter_le _ _
    rw [countAll_eq, Int64.toInt_ofNat_of_lt (by omega)]
    rfl

end Record

namespace Descriptor

/-- Where the values to group by are no doubles, plans and pipelines partition any rows by them, and
what they count of a query with groups is the number of the groups. -/
theorem grouping_partitions_rows [Hashing] :
    (∀ (plan : Plan) (rows : List Record), plan.groupColumns ≠ [] →
      (∀ row ∈ rows, ∀ column ∈ plan.groupColumns,
        (column.value plan.entity row).isFloatFree = true) →
      Record.IsPartition (plan.groupColumns.map fun column row => column.value plan.entity row) rows
        (plan.groups rows)) ∧
    (∀ (key : GroupKey) (rows : List Record), key.fields ≠ [] →
      (∀ row ∈ rows, ∀ field ∈ key.fields, (Record.valueAt row field).isFloatFree = true) →
      Record.IsPartition (key.fields.map fun field row => Record.valueAt row field) rows
        (key.groups rows)) ∧
    ∀ (ctx : QueryContext) (d : Descriptor) (store : Store), d.groupBy ≠ [] →
      (d.relationalPlans ctx).count.total store =
        ((d.relationalPlans ctx).data.filteredRows store).map (fun rows =>
          ((d.relationalPlans ctx).data.groups rows).length) ∧
      ((∀ rows, d.filteredDocuments ctx store = .ok rows → rows.length < 2 ^ 63) →
        ((d.countPipeline ctx).run store ctx.entity).map RowPage.readCount =
          (d.filteredDocuments ctx store).map fun rows =>
            .ok (d.groupKey.groups rows).length) := by
  refine ⟨?_, ?_, ?_⟩
  · intro plan rows hne hrows
    refine Record.isPartition_groups (by simpa using hne) fun row hrow value hvalue => ?_
    rw [Record.keyOf, List.map_map] at hvalue
    obtain ⟨column, hcolumn, rfl⟩ := List.mem_map.1 hvalue
    exact hrows row hrow column hcolumn
  · intro key rows hne hrows
    refine Record.isPartition_groups (by simpa using hne) fun row hrow value hvalue => ?_
    rw [Record.keyOf, List.map_map] at hvalue
    obtain ⟨field, hfield, rfl⟩ := List.mem_map.1 hvalue
    exact hrows row hrow field hfield
  · intro ctx d store hne
    have hgroup : d.hasGrouping = true := by simp [hasGrouping, hne]
    refine ⟨?_, fun hsize => ?_⟩
    · rw [total_count, filteredRows_count_eq_data]
      refine congrArg (Except.map · _) (funext fun rows => ?_)
      rw [if_pos hgroup, d.groups_of_layout ctx (d.clauses_data ctx) rfl hgroup]
    · rw [run_countPipeline]
      cases hfiltered : d.filteredDocuments ctx store with
      | error e => rfl
      | ok rows =>
        have hle : (d.groupKey.groups rows).length ≤ rows.length :=
          Record.length_groups_le (by simpa [fields_groupKey] using hne) rows
        -- the pipeline counts documents, one for each group
        have hlength : (d.grouped rows).length = (d.groupKey.groups rows).length := by
          rw [grouped, if_pos hgroup, groupRows, List.length_map]
        have hlt := hsize rows hfiltered
        have hread : RowPage.readCount (countRow totalField (d.grouped rows)) =
            .ok (d.grouped rows).length := readCount_countRow (by omega)
        simp only [Except.map, hread, hlength]

/-! ## Days -/

/-- Visits, the day of which is a number, the time with that number, null or not there. -/
def dayRows : List Record :=
  [[("city", .string "Bern"), ("day", .int 1)], [("city", .string "Bern")],
    [("city", .string "Bern"), ("day", .timestamp 1)], [("city", .string "Chur"), ("day", .int 1)],
    [("city", .string "Bern"), ("day", .null)], [("city", .string "Bern"), ("day", .int 1)]]

/-- The number of visits by city and day. -/
def dayQuery : Descriptor where
  aggregations := [{ operation := .count, label := some "n" }]
  groupBy := ["city", "day"]

/-- The number and the time with that number are one group, and so are null and no value. -/
theorem grouping_partitions_rows_days :
    Record.IsPartition (((dayQuery.relationalPlans { entity := "visits" }).data.groupColumns).map
      fun column row => column.value "visits" row) dayRows
      ((dayQuery.relationalPlans { entity := "visits" }).data.groups dayRows) ∧
    Record.IsPartition (dayQuery.groupKey.fields.map fun field row => Record.valueAt row field)
      dayRows (dayQuery.groupKey.groups dayRows) ∧
    (dayQuery.relationalPlans { entity := "visits" }).count.total
      { tables := [("visits", dayRows)] } = .ok 3 ∧
    ((dayQuery.countPipeline { entity := "visits" }).run
      { tables := [("visits", dayRows)] } "visits").map RowPage.readCount = .ok (.ok 3) := by
  obtain ⟨hplans, hkeys, htotals⟩ := grouping_partitions_rows
  obtain ⟨htotal, hcount⟩ := htotals { entity := "visits" } dayQuery
    { tables := [("visits", dayRows)] } (by decide)
  refine ⟨hplans (dayQuery.relationalPlans { entity := "visits" }).data dayRows (by decide)
    (by decide), hkeys dayQuery.groupKey dayRows (by decide) (by decide), ?_, ?_⟩
  · rw [htotal]
    rfl
  · rw [hcount fun rows hrows => ?_]
    · rfl
    · cases hrows
      decide

end Descriptor

end DualQuery
