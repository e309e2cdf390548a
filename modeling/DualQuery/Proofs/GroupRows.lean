import DualQuery.Proofs.JoinRows

/-!
# Groups of records

Groups come from one pass over the records, each of which goes behind the others of its group. So a
group stands under the values of its first member. Where the values are lawful, the groups of some
of the records are some of the groups, as long as equal values are kept or dropped together.

## Key results

- `Record.exists_first_of_mem_groups`: the values of a group are those of its first member
- `Record.mem_of_mem_groups`: members are records
- `Record.groups_filter`: the groups of the records that the values of a group tell to keep
- `AggregateOp.isCanonical_over`: what is aggregated
-/

namespace DualQuery

namespace Record

variable [Hashing]

/-- The values by which a record is grouped. -/
def keyOf (values : List (Record → Value)) (record : Record) : List Value :=
  values.map fun value => value record

/-- Groups with more records, each in the group of its values. -/
def groupInto (values : List (Record → Value)) (groups : Groups) (records : List Record) : Groups :=
  records.foldl (fun groups record =>
    Indexed.alter [] (· ++ [record]) (keyOf values record) groups) groups

/-- Where there is something to group by, all records are put into groups. -/
theorem groups_of_ne_nil {values : List (Record → Value)} (hne : values ≠ [])
    (records : List Record) : groups values records = groupInto values [] records := by
  rw [groups, if_neg (by simpa using hne)]
  rfl

/-! ## Members -/

/-- A group that a record has just joined, or that was there before. -/
private def WellFormed (values : List (Record → Value)) (records : List Record)
    (groups : Groups) : Prop :=
  ∀ group ∈ groups, (∃ first rest, group.2 = first :: rest ∧ group.1 = keyOf values first) ∧
    ∀ member ∈ group.2, member ∈ records

/-- Records that are put into well formed groups leave them well formed. -/
private theorem wellFormed_groupInto {values : List (Record → Value)} {all : List Record}
    (records : List Record) (hrecords : ∀ record ∈ records, record ∈ all) {acc : Groups}
    (h : WellFormed values all acc) : WellFormed values all (groupInto values acc records) := by
  induction records generalizing acc with
  | nil => exact h
  | cons record records ih =>
    rw [List.forall_mem_cons] at hrecords
    refine ih hrecords.2 fun group hgroup => ?_
    rcases Indexed.mem_alter hgroup with hold | ⟨old, hold, rfl⟩ | rfl
    · exact h group hold
    · -- the record goes behind the members that were there, the first of them stays
      obtain ⟨⟨first, rest, hmembers, hkey⟩, hmem⟩ := h old hold
      refine ⟨⟨first, rest ++ [record], by rw [hmembers, List.cons_append], hkey⟩, ?_⟩
      intro member hmember
      rcases List.mem_append.1 hmember with hmember | hmember
      · exact hmem member hmember
      · rw [List.mem_singleton.1 hmember]
        exact hrecords.1
    · -- the record is the first of a new group
      refine ⟨⟨record, [], rfl, rfl⟩, fun member hmember => ?_⟩
      rw [List.mem_singleton.1 hmember]
      exact hrecords.1

/-- Groups are well formed. -/
private theorem wellFormed_groups {values : List (Record → Value)} (hne : values ≠ [])
    (records : List Record) : WellFormed values records (groups values records) := by
  rw [groups_of_ne_nil hne]
  refine wellFormed_groupInto records (fun _ h => h) fun group hgroup => ?_
  cases hgroup

/-- The values of a group are those of its first member. -/
theorem exists_first_of_mem_groups {values : List (Record → Value)} (hne : values ≠ [])
    {records : List Record} {group : List Value × List Record}
    (h : group ∈ groups values records) :
    ∃ first rest, group.2 = first :: rest ∧ group.1 = keyOf values first :=
  (wellFormed_groups hne records group h).1

/-- The members of a group are records that were grouped. -/
theorem mem_of_mem_groups {values : List (Record → Value)} {records : List Record}
    {group : List Value × List Record} (h : group ∈ groups values records) :
    ∀ member ∈ group.2, member ∈ records := by
  by_cases hne : values = []
  · rw [groups, hne, List.isEmpty_nil, if_pos rfl, List.mem_singleton] at h
    rw [h]
    exact fun _ hmember => hmember
  · exact (wellFormed_groups hne records group h).2

/-! ## Some of the groups -/

/-- Whether records are dropped before or groups after makes no difference, if equal values are
dropped together. -/
private theorem groupInto_filter {values : List (Record → Value)} {keys : List (List Value)}
    (hlawful : Indexed.HasLawfulKeys keys []) {keep : List Value → Bool}
    (hkeep : ∀ a b, (a == b) = true → keep a = keep b) (records : List Record)
    (hrecords : ∀ record ∈ records, keyOf values record ∈ keys) {acc : Groups}
    (h : Indexed.Over keys acc) :
    groupInto values (acc.filter fun group => keep group.1)
        (records.filter fun record => keep (keyOf values record)) =
      (groupInto values acc records).filter fun group => keep group.1 := by
  induction records generalizing acc with
  | nil => rfl
  | cons record records ih =>
    rw [List.forall_mem_cons] at hrecords
    have hkey := List.mem_append_left [] hrecords.1
    rw [groupInto, groupInto, List.foldl_cons, ← groupInto, ← groupInto,
      ← ih hrecords.2 (h.alter hrecords.1 [] _), h.filter_alter hlawful hkey hkeep]
    -- a record that is dropped changes no group that is kept
    cases hrecord : keep (keyOf values record) <;> simp [groupInto, hrecord]

/-- The records of some groups have just these groups, if equal values are kept or dropped
together and the values are lawful. -/
theorem groups_filter {values : List (Record → Value)} (hne : values ≠ [])
    {keep : List Value → Bool} (hkeep : ∀ a b, (a == b) = true → keep a = keep b)
    {records : List Record}
    (hlawful : Indexed.HasLawfulKeys (records.map (keyOf values)) []) :
    groups values (records.filter fun record => keep (keyOf values record)) =
      (groups values records).filter fun group => keep group.1 := by
  rw [groups_of_ne_nil hne, groups_of_ne_nil hne]
  exact groupInto_filter hlawful hkeep records (fun _ h => List.mem_map_of_mem h)
    (Indexed.over_nil _)

end Record

/-! ## Aggregates -/

namespace Value

/-- A fold that goes on with its value so far or with the next one. -/
private theorem isCanonical_foldl_choice (keeps : Value → Value → Bool) {values : List Value}
    (h : ∀ value ∈ values, value.isCanonical) :
    (values.foldl (fun current value =>
      if value.isNull then current
      else if keeps current value then current
      else value) null).isCanonical := by
  refine List.foldlRecOn (motive := fun value : Value => value.isCanonical) values _ rfl
    fun current hcurrent value hvalue => ?_
  split
  · exact hcurrent
  · split
    · exact hcurrent
    · exact h value hvalue

/-- The least of canonical values is canonical. -/
theorem isCanonical_least {values : List Value} (h : ∀ value ∈ values, value.isCanonical) :
    (least values).isCanonical :=
  isCanonical_foldl_choice
    (fun current value => !current.isNull && (value.compare current).isGE) h

/-- The greatest of canonical values is canonical. -/
theorem isCanonical_greatest {values : List Value} (h : ∀ value ∈ values, value.isCanonical) :
    (greatest values).isCanonical :=
  isCanonical_foldl_choice
    (fun current value => !current.isNull && (value.compare current).isLE) h

end Value

/-- What is aggregated over canonical values is canonical. -/
theorem AggregateOp.isCanonical_evaluate (op : AggregateOp) (everyRow : Bool) {values : List Value}
    (h : ∀ value ∈ values, value.isCanonical) : (op.evaluate everyRow values).isCanonical := by
  -- only the least and the greatest give a value of the rows; the others make a number or a text
  cases op with
  | count => rfl
  | sum =>
    rw [evaluate, Value.sum]
    split
    · rfl
    · split <;> rfl
  | avg =>
    rw [evaluate, Value.average]
    split <;> rfl
  | min => exact Value.isCanonical_least h
  | max => exact Value.isCanonical_greatest h
  | concat =>
    rw [evaluate, Value.concatenate]
    split <;> rfl

/-- What is aggregated over canonical fields of records is canonical. -/
theorem AggregateOp.isCanonical_over (op : AggregateOp) {value : Option (Record → Value)}
    {condition : Option (Record → Bool)} {members : List Record}
    (h : ∀ read, value = some read → ∀ member ∈ members, (read member).isCanonical) :
    (op.over value condition members).isCanonical := by
  refine isCanonical_evaluate op _ fun v hv => ?_
  obtain ⟨member, hmember, rfl⟩ := List.mem_map.1 hv
  -- a condition only drops members
  have hmem : member ∈ members := by
    cases condition with
    | none => exact hmember
    | some passes => exact (List.mem_filter.1 hmember).1
  cases hvalue : value with
  | none => rfl
  | some read => exact h read hvalue member hmem

end DualQuery
