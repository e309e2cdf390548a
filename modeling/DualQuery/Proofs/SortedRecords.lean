import DualQuery.Proofs.ValueOrder

/-!
# Sorted records

What `Record.sort` gives where the values at the paths of the keys hold no double: the records in an
order in which none belongs behind a later one, and those that no key tells apart as they stood.
Which of two records belongs behind the other is said by the first key that tells them apart; a
value that is missing counts as null, which is the least.

## Key results

- `Record.compareBy_eq_gt_iff`, `Record.compareBy_eq_eq_iff`: the comparison key by key
- `Record.sort_sorts_stably`: the sort as a whole
-/

namespace DualQuery.Record

/-! ## Key by key -/

/-- Whether a key does not tell two records apart. -/
def SortKey.ties (key : SortKey) (a b : Record) : Bool :=
  ((valueAt a key.path).compare (valueAt b key.path)).isEq

/-- Whether a record belongs behind another one by a key: its value is larger, or smaller where
larger ones come first. -/
def SortKey.Exceeds (key : SortKey) (a b : Record) : Prop :=
  (valueAt a key.path).compare (valueAt b key.path) = if key.descending then .lt else .gt

/-- Whether no key tells two records apart. -/
def ties (keys : List SortKey) (a b : Record) : Bool := keys.all fun key => key.ties a b

/-- Whether a record belongs behind another one by the first key that tells them apart. -/
def Exceeds (keys : List SortKey) (a b : Record) : Prop :=
  ∃ earlier key later, keys = earlier ++ key :: later ∧ ties earlier a b = true ∧ key.Exceeds a b

variable {keys : List SortKey} {key : SortKey} {a b : Record}

/-- A key compares as equal where it does not tell the records apart. -/
theorem SortKey.compare_eq_eq_iff : key.compare a b = .eq ↔ key.ties a b = true := by
  rw [SortKey.compare, SortKey.ties]
  cases (valueAt a key.path).compare (valueAt b key.path) <;> cases key.descending <;> simp

/-- A key compares as greater where the record belongs behind the other. -/
theorem SortKey.compare_eq_gt_iff : key.compare a b = .gt ↔ key.Exceeds a b := by
  rw [SortKey.compare, SortKey.Exceeds]
  cases (valueAt a key.path).compare (valueAt b key.path) <;> cases key.descending <;> simp

/-- Keys compare as equal where none of them tells the records apart. -/
theorem compareBy_eq_eq_iff : compareBy keys a b = .eq ↔ ties keys a b = true := by
  induction keys with
  | nil => simp [compareBy, ties]
  | cons key keys ih =>
    rw [compareBy, Ordering.then_eq_eq, ih, SortKey.compare_eq_eq_iff, ties, ties, List.all_cons,
      Bool.and_eq_true]

/-- The first key decides, unless it ties. -/
theorem exceeds_cons : Exceeds (key :: keys) a b ↔
    key.Exceeds a b ∨ (key.ties a b = true ∧ Exceeds keys a b) := by
  constructor
  · rintro ⟨earlier, decisive, later, hkeys, hties, hexceeds⟩
    -- the decisive key is the first one, or stands among the others behind a tie
    cases earlier with
    | nil =>
      obtain ⟨rfl, -⟩ := List.cons.inj hkeys
      exact .inl hexceeds
    | cons first earlier =>
      obtain ⟨rfl, rfl⟩ := List.cons.inj hkeys
      rw [ties, List.all_cons, Bool.and_eq_true] at hties
      exact .inr ⟨hties.1, earlier, decisive, later, rfl, hties.2, hexceeds⟩
  · rintro (hexceeds | ⟨hties, earlier, decisive, later, rfl, hearlier, hexceeds⟩)
    · exact ⟨[], key, keys, rfl, rfl, hexceeds⟩
    · refine ⟨key :: earlier, decisive, later, rfl, ?_, hexceeds⟩
      rw [ties, List.all_cons, hties, Bool.true_and]
      exact hearlier

/-- Keys compare as greater where the first that tells the records apart does. -/
theorem compareBy_eq_gt_iff : compareBy keys a b = .gt ↔ Exceeds keys a b := by
  induction keys with
  | nil => simp [compareBy, Exceeds]
  | cons key keys ih =>
    rw [compareBy, Ordering.then_eq_gt, ih, SortKey.compare_eq_gt_iff, SortKey.compare_eq_eq_iff,
      exceeds_cons]

/-! ## The sort -/

/-- Records that tie with one record tie with each other. -/
theorem ties_trans {c : Record} (ha : a.hasFloatFreeKeys keys) (hb : b.hasFloatFreeKeys keys)
    (hc : c.hasFloatFreeKeys keys) (hca : ties keys c a = true) (hcb : ties keys c b = true) :
    ties keys a b = true := by
  -- the comparison composes as long as no double is compared
  rw [← compareBy_eq_eq_iff] at hca hcb ⊢
  have hac : compareBy keys a c = .eq := by rw [compareBy_swap keys c a, hca, Ordering.swap_eq]
  rw [compareBy_composes ha hc hb (hac ▸ rfl) (hcb ▸ rfl), hac, hcb, Ordering.eq_then]

/-- A missing value is not larger than any value. -/
theorem isLE_compare_of_missing {path : String} (h : getPath? a path = none) (value : Value) :
    ((valueAt a path).compare value).isLE := by
  rw [valueAt, h, Option.getD_none]
  cases value <;> rfl

/-- Sorting by values without doubles permutes the records, puts none in front of one that it
belongs behind, and leaves records that no key tells apart as they stood. Missing values are the
least. -/
theorem sort_sorts_stably {records : List Record}
    (h : ∀ record ∈ records, record.hasFloatFreeKeys keys) :
    (sort keys records).Perm records ∧
      (sort keys records).Pairwise (fun earlier later => ¬ Exceeds keys earlier later) ∧
      (∀ record ∈ records,
        (sort keys records).filter (ties keys record) = records.filter (ties keys record)) ∧
      ∀ (record : Record) (path : String) (value : Value), getPath? record path = none →
        ((valueAt record path).compare value).isLE := by
  have hpairwise := pairwise_stableSort (strictWeakOn_compareBy h)
  refine ⟨stableSort_perm _ _, hpairwise.imp_of_mem fun {a b} ha hb hlt => ?_,
    fun record hrecord => filter_stableSort fun a ha b hb htiesa htiesb => ?_,
    fun record path value hmissing => isLE_compare_of_missing hmissing value⟩
  · -- a record that belongs behind a later one would be preceded by it
    rw [sort, mem_stableSort] at ha hb
    rw [← compareBy_eq_gt_iff, compareBy_swap keys b a]
    intro hgt
    rw [Ordering.swap_eq_gt] at hgt
    rw [hgt] at hlt
    cases hlt
  · -- two records that tie with a third compare as equal, so neither goes in front
    have hties := ties_trans (h a ha) (h b hb) (h record hrecord) htiesa htiesb
    rw [compareBy_eq_eq_iff.2 hties]
    rfl

/-- Players by rank, the highest first, and by name. -/
def rankKeys : List SortKey := [⟨"rank", true⟩, ⟨"name", false⟩]

/-- Players, the last one without a rank and two of them with one rank and name. -/
def players : List Record :=
  [[("id", .int 1), ("name", .string "Bo"), ("rank", .int 1)],
    [("id", .int 2), ("name", .string "Al"), ("rank", .timestamp 1)],
    [("id", .int 3), ("name", .string "Cy"), ("rank", .int 2)],
    [("id", .int 4), ("name", .string "Al"), ("rank", .int 1)],
    [("id", .int 5), ("name", .string "Di")]]

/-- A time counts as the number of its milliseconds, and a missing rank comes last. -/
theorem sort_sorts_stably_players :
    (∀ record ∈ players, record.hasFloatFreeKeys rankKeys) ∧
      (sort rankKeys players).Perm players ∧
      (sort rankKeys players).Pairwise (fun earlier later => ¬ Exceeds rankKeys earlier later) ∧
      ∀ record ∈ players,
        (sort rankKeys players).filter (ties rankKeys record) =
          players.filter (ties rankKeys record) := by
  have h : ∀ record ∈ players, record.hasFloatFreeKeys rankKeys := by decide +kernel
  obtain ⟨hperm, hpairwise, hstable, -⟩ := sort_sorts_stably h
  exact ⟨h, hperm, hpairwise, hstable⟩

example : (sort rankKeys players).map (valueAt · "id") =
    [.int 3, .int 2, .int 4, .int 1, .int 5] := rfl

end DualQuery.Record
