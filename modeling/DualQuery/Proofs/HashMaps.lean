import DualQuery.Value.Index

/-!
# Look-ups in hash maps

Whatever the hashing, a key is answered for by a key that equals it, and it is new to the map only
where there is none (`lookup_cases`). Which of several keys answers is up to the hashing. No two
keys of a map are equal (`Over.distinct`), so the hashing has a choice only where a key that is
looked up equals two keys that differ, which an equivalence rules out. `HasLawfulKeys` asks no more
than that of the keys at hand, and then every hashing finds the same (`Over.position?_eq`).

## Key results

- `Indexed.lookup_cases`: what answers for a key
- `Indexed.Over.alter`: the keys of a map stay apart
- `Indexed.Over.find?_eq`, `Indexed.Over.alter_eq`: lawful keys leave the hashing no choice
- `Indexed.find?_depends_on_hashing`: what goes wrong without them
-/

namespace DualQuery.Indexed

variable {κ α : Type} [BEq κ]

/-! ## What answers for a key -/

/-- The positions at which a key may be found are those of the keys that equal it. -/
theorem mem_positions_iff {index : Indexed κ α} {key : κ} {position : Nat} :
    position ∈ index.positions key ↔
      ∃ entry, index[position]? = some entry ∧ (entry.1 == key) = true := by
  rw [positions, List.mem_map]
  constructor
  · rintro ⟨⟨entry, position⟩, hmem, rfl⟩
    obtain ⟨hentry, hequal⟩ := List.mem_filter.1 hmem
    exact ⟨entry, List.mem_zipIdx_iff_getElem?.1 hentry, hequal⟩
  · rintro ⟨entry, hentry, hequal⟩
    exact ⟨(entry, position),
      List.mem_filter.2 ⟨List.mem_zipIdx_iff_getElem?.2 hentry, hequal⟩, rfl⟩

section Answer

variable [Hashing] {index : Indexed κ α} {key : κ}

/-- The key that answers equals the one that is looked up. -/
theorem exists_of_position?_eq_some {position : Nat} (h : index.position? key = some position) :
    ∃ entry, index[position]? = some entry ∧ (entry.1 == key) = true :=
  mem_positions_iff.1 (List.mem_of_getElem? h)

/-- No key answers only where none equals the one that is looked up. -/
theorem beq_eq_false_of_position?_eq_none (h : index.position? key = none) :
    ∀ entry ∈ index, (entry.1 == key) = false := by
  intro entry hentry
  rw [← Bool.not_eq_true]
  intro hequal
  obtain ⟨position, hposition⟩ := List.mem_iff_getElem?.1 hentry
  have hmem : position ∈ index.positions key := mem_positions_iff.2 ⟨entry, hposition, hequal⟩
  -- the number of the key that answers is counted around, so there is such a key
  rw [position?, List.getElem?_eq_none_iff] at h
  exact absurd (Nat.mod_lt _ (List.length_pos_of_mem hmem)) (Nat.not_lt.2 h)

/-- A key is answered for by a key that equals it, whose entry a change is made to, or it is new to
the map and comes last. -/
theorem lookup_cases (fresh : α) (change : α → α) (key : κ) (index : Indexed κ α) :
    (∃ front entry back, index = front ++ entry :: back ∧ (entry.1 == key) = true ∧
      index.find? key = some entry.2 ∧
      index.alter fresh change key = front ++ (entry.1, change entry.2) :: back) ∨
    (∀ entry ∈ index, (entry.1 == key) = false) ∧ index.find? key = none ∧
      index.alter fresh change key = index ++ [(key, change fresh)] := by
  cases hposition : index.position? key with
  | none =>
    exact .inr ⟨beq_eq_false_of_position?_eq_none hposition, by rw [find?, hposition]; rfl,
      by rw [alter, hposition]⟩
  | some position =>
    obtain ⟨entry, hentry, hequal⟩ := exists_of_position?_eq_some hposition
    obtain ⟨hlt, rfl⟩ := List.getElem?_eq_some_iff.1 hentry
    -- the entry at the position that answers, with what stands in front of it and behind
    refine .inl ⟨index.take position, index[position], index.drop (position + 1),
      ?_, hequal, ?_, ?_⟩
    · rw [List.getElem_cons_drop, List.take_append_drop]
    · rw [find?, hposition, Option.bind_some, hentry, Option.map_some]
    · rw [alter, hposition]
      exact List.modify_eq_take_cons_drop hlt

/-- What is found stands under a key that equals the one that is looked up. -/
theorem exists_mem_of_find?_eq_some {a : α} (h : index.find? key = some a) :
    ∃ k, (k, a) ∈ index ∧ (k == key) = true := by
  rcases lookup_cases a id key index with
    ⟨front, entry, back, rfl, hequal, hfind, -⟩ | ⟨-, hfind, -⟩
  · rw [hfind] at h
    cases h
    exact ⟨entry.1, List.mem_append_right _ List.mem_cons_self, hequal⟩
  · rw [hfind] at h
    cases h

/-- An entry of a changed map is an old one, an old one changed, or a new one. -/
theorem mem_alter {fresh : α} {change : α → α} {entry : κ × α}
    (h : entry ∈ index.alter fresh change key) :
    entry ∈ index ∨ (∃ old ∈ index, entry = (old.1, change old.2)) ∨
      entry = (key, change fresh) := by
  -- only the entry that answers is changed, and only a new key adds one
  rcases lookup_cases fresh change key index with
    ⟨front, old, back, hindex, -, -, halter⟩ | ⟨-, -, halter⟩
  · rw [halter] at h
    rw [hindex]
    rcases List.mem_append.1 h with h | h
    · exact .inl (List.mem_append_left _ h)
    · rcases List.mem_cons.1 h with rfl | h
      · exact .inr (.inl ⟨old, List.mem_append_right _ List.mem_cons_self, rfl⟩)
      · exact .inl (List.mem_append_right _ (List.mem_cons_of_mem _ h))
  · rw [halter] at h
    rcases List.mem_append.1 h with h | h
    · exact .inl h
    · exact .inr (.inr (List.mem_singleton.1 h))

end Answer

/-! ## The keys of a map -/

/-- A map over some keys: it has no others, and no two of its keys are equal. -/
structure Over (keys : List κ) (index : Indexed κ α) : Prop where
  /-- The keys of the map are among the given ones. -/
  mem : ∀ entry ∈ index, entry.1 ∈ keys
  /-- No key equals one behind it. -/
  distinct : (index.map (·.1)).Pairwise fun a b => (a == b) = false

/-- An empty map is a map over any keys. -/
theorem over_nil (keys : List κ) : Over keys ([] : Indexed κ α) :=
  ⟨fun _ h => (nomatch h), .nil⟩

/-- A change keeps the keys of a map apart: only a key that none equals is added. -/
theorem Over.alter [Hashing] {keys : List κ} {index : Indexed κ α} (h : index.Over keys) {key : κ}
    (hkey : key ∈ keys) (fresh : α) (change : α → α) :
    (index.alter fresh change key).Over keys := by
  rcases lookup_cases fresh change key index with
    ⟨front, old, back, rfl, -, -, halter⟩ | ⟨hnone, -, halter⟩
  · -- a changed entry keeps its key, so the keys are what they were
    have hkeys : (front ++ (old.1, change old.2) :: back).map (·.1) =
        (front ++ old :: back).map (·.1) := by simp
    rw [halter]
    refine ⟨fun entry hentry => ?_, hkeys ▸ h.distinct⟩
    have hmem := List.mem_map_of_mem (f := (·.1)) hentry
    rw [hkeys] at hmem
    obtain ⟨same, hsame, heq⟩ := List.mem_map.1 hmem
    exact heq ▸ h.mem same hsame
  · rw [halter]
    constructor
    · intro entry hentry
      rcases List.mem_append.1 hentry with hentry | hentry
      · exact h.mem entry hentry
      · rw [List.mem_singleton.1 hentry]
        exact hkey
    · rw [List.map_append, List.pairwise_append]
      refine ⟨h.distinct, List.pairwise_singleton _ _, fun a ha b hb => ?_⟩
      obtain ⟨entry, hentry, rfl⟩ := List.mem_map.1 ha
      rw [List.mem_singleton.1 hb]
      exact hnone entry hentry

/-- A map stays one over its keys when entries are dropped. -/
theorem Over.filter {keys : List κ} {index : Indexed κ α} (h : index.Over keys)
    (p : κ × α → Bool) : Over keys (index.filter p) :=
  ⟨fun entry hentry => h.mem entry (List.mem_filter.1 hentry).1,
    h.distinct.sublist (List.filter_sublist.map _)⟩

/-! ## Lawful keys -/

/-- Whether no key that is put in or looked up equals two of the keys that are put in and differ. -/
def HasLawfulKeys (keys probes : List κ) : Prop :=
  ∀ probe ∈ keys ++ probes, ∀ a ∈ keys, ∀ b ∈ keys,
    (a == probe) = true → (b == probe) = true → (a == b) = true

instance (keys probes : List κ) : Decidable (HasLawfulKeys keys probes) :=
  inferInstanceAs (Decidable (∀ probe ∈ keys ++ probes, ∀ a ∈ keys, ∀ b ∈ keys,
    (a == probe) = true → (b == probe) = true → (a == b) = true))

/-- Fewer keys are lawful as well. -/
theorem HasLawfulKeys.mono {keys keys' probes probes' : List κ} (h : HasLawfulKeys keys probes)
    (hkeys : keys' ⊆ keys) (hprobes : probes' ⊆ probes) : HasLawfulKeys keys' probes' :=
  fun probe hprobe a ha b hb => h probe
    (List.append_subset.2 ⟨fun _ h => List.mem_append_left _ (hkeys h),
      fun _ h => List.mem_append_right _ (hprobes h)⟩ hprobe) a (hkeys ha) b (hkeys hb)

section Lawful

variable {keys probes : List κ} {index : Indexed κ α} {key : κ}

/-- Two keys of a map that equal one that is looked up stand at the same position. -/
theorem Over.eq_of_beq (h : index.Over keys) (hlawful : HasLawfulKeys keys probes)
    (hkey : key ∈ keys ++ probes) {i j : Nat} {a b : κ × α} (hi : index[i]? = some a)
    (hj : index[j]? = some b) (ha : (a.1 == key) = true) (hb : (b.1 == key) = true) : i = j := by
  have hdistinct := h.distinct
  rw [List.pairwise_map, List.pairwise_iff_getElem] at hdistinct
  have hequal : ∀ {a b : κ × α}, a ∈ index → b ∈ index → (a.1 == key) = true →
      (b.1 == key) = true → (a.1 == b.1) = true := fun ha hb =>
    hlawful key hkey _ (h.mem _ ha) _ (h.mem _ hb)
  have hain := List.mem_of_getElem? hi
  have hbin := List.mem_of_getElem? hj
  obtain ⟨hilt, rfl⟩ := List.getElem?_eq_some_iff.1 hi
  obtain ⟨hjlt, rfl⟩ := List.getElem?_eq_some_iff.1 hj
  -- neither of the two can stand behind the other
  rcases Nat.lt_trichotomy i j with hlt | rfl | hlt
  · exact absurd (hequal hain hbin ha hb) (Bool.eq_false_iff.1 (hdistinct i j hilt hjlt hlt))
  · rfl
  · exact absurd (hequal hbin hain hb ha) (Bool.eq_false_iff.1 (hdistinct j i hjlt hilt hlt))

/-- With lawful keys the only key that equals one that is looked up answers for it. -/
theorem Over.position?_eq_some [Hashing] (h : index.Over keys)
    (hlawful : HasLawfulKeys keys probes) (hkey : key ∈ keys ++ probes) {position : Nat}
    {entry : κ × α} (hentry : index[position]? = some entry) (hequal : (entry.1 == key) = true) :
    index.position? key = some position := by
  -- some key answers, as one that equals it is there, and no two of those that could differ
  cases hanswer : index.position? key with
  | none =>
    rw [beq_eq_false_of_position?_eq_none hanswer _ (List.mem_of_getElem? hentry)] at hequal
    cases hequal
  | some other =>
    obtain ⟨found, hfound, hequal'⟩ := exists_of_position?_eq_some hanswer
    rw [h.eq_of_beq hlawful hkey hfound hentry hequal' hequal]

/-- With lawful keys, what stands under a key that equals the one looked up is found. -/
theorem Over.find?_of_mem [Hashing] (h : index.Over keys) (hlawful : HasLawfulKeys keys probes)
    (hkey : key ∈ keys ++ probes) {entry : κ × α} (hentry : entry ∈ index)
    (hequal : (entry.1 == key) = true) : index.find? key = some entry.2 := by
  obtain ⟨position, hposition⟩ := List.mem_iff_getElem?.1 hentry
  rw [find?, h.position?_eq_some hlawful hkey hposition hequal, Option.bind_some, hposition]
  rfl

/-- With lawful keys, what is found is what stands under a key that equals the one looked up. -/
theorem Over.find?_eq_some_iff [Hashing] (h : index.Over keys) (hlawful : HasLawfulKeys keys probes)
    (hkey : key ∈ keys ++ probes) {a : α} :
    index.find? key = some a ↔ ∃ k, (k, a) ∈ index ∧ (k == key) = true :=
  ⟨exists_mem_of_find?_eq_some, fun ⟨_, hmem, hequal⟩ => h.find?_of_mem hlawful hkey hmem hequal⟩

/-- Maps with the same entries under the keys that equal one that is looked up answer alike. -/
theorem Over.find?_congr [Hashing] {other : Indexed κ α} (h : index.Over keys)
    (hother : other.Over keys) (hlawful : HasLawfulKeys keys probes) (hkey : key ∈ keys ++ probes)
    (hsame : ∀ entry : κ × α, (entry.1 == key) = true → (entry ∈ index ↔ entry ∈ other)) :
    index.find? key = other.find? key := by
  ext a
  rw [h.find?_eq_some_iff hlawful hkey, hother.find?_eq_some_iff hlawful hkey]
  exact exists_congr fun k => and_congr_left fun hequal => hsame (k, a) hequal

/-- With lawful keys a change is made to the entry whose key equals the one that is changed. -/
theorem Over.alter_of_beq [Hashing] {front back : Indexed κ α} {entry : κ × α}
    (h : (front ++ entry :: back).Over keys) (hlawful : HasLawfulKeys keys probes)
    (hkey : key ∈ keys ++ probes) (hequal : (entry.1 == key) = true) (fresh : α)
    (change : α → α) : Indexed.alter fresh change key (front ++ entry :: back) =
      front ++ (entry.1, change entry.2) :: back := by
  have hentry : (front ++ entry :: back)[front.length]? = some entry := by simp
  rw [Indexed.alter, h.position?_eq_some hlawful hkey hentry hequal]
  dsimp only
  rw [List.modify_eq_take_cons_drop (by simp)]
  simp

/-- Entries may be dropped before or after a change, if equal keys are dropped together. -/
theorem Over.filter_alter [Hashing] (h : index.Over keys) (hlawful : HasLawfulKeys keys probes)
    (hkey : key ∈ keys ++ probes) {keep : κ → Bool}
    (hkeep : ∀ a b, (a == b) = true → keep a = keep b) (fresh : α) (change : α → α) :
    (index.alter fresh change key).filter (fun entry => keep entry.1) =
      if keep key then Indexed.alter fresh change key (index.filter fun entry => keep entry.1)
      else index.filter fun entry => keep entry.1 := by
  rcases lookup_cases fresh change key index with
    ⟨front, entry, back, rfl, hequal, -, halter⟩ | ⟨hnone, -, halter⟩
  · have hsame := hkeep _ _ hequal
    have hkept := h.filter fun entry => keep entry.1
    rw [halter]
    cases hkeepKey : keep key with
    | true =>
      -- the entry that is changed is kept, and its key answers among the kept ones as well
      rw [hkeepKey] at hsame
      rw [List.filter_append, List.filter_cons_of_pos (by exact hsame)] at hkept ⊢
      rw [if_pos rfl, List.filter_append, List.filter_cons_of_pos (by exact hsame),
        hkept.alter_of_beq hlawful hkey hequal]
    | false =>
      rw [hkeepKey] at hsame
      simp [hsame]
  · rw [halter, List.filter_append]
    cases hkeepKey : keep key with
    | true =>
      rw [if_pos rfl, List.filter_cons_of_pos (by exact hkeepKey), List.filter_nil]
      rcases lookup_cases fresh change key (index.filter fun entry => keep entry.1) with
        ⟨front, entry, back, hindex, hequal, -, -⟩ | ⟨-, -, halter'⟩
      · have hmem : entry ∈ index.filter fun entry => keep entry.1 := by
          rw [hindex]
          exact List.mem_append_right _ List.mem_cons_self
        rw [hnone entry (List.mem_filter.1 hmem).1] at hequal
        cases hequal
      · exact halter'.symm
    | false =>
      rw [if_neg Bool.false_ne_true, List.filter_cons_of_neg (by simp [hkeepKey]),
        List.filter_nil, List.append_nil]

/-- With lawful keys the hashing has no choice. -/
theorem Over.position?_eq (h : index.Over keys) (hlawful : HasLawfulKeys keys probes)
    (hkey : key ∈ keys ++ probes) (s t : Hashing) :
    @position? κ α _ s index key = @position? κ α _ t index key := by
  cases ht : @position? κ α _ t index key with
  | some position =>
    obtain ⟨entry, hentry, hequal⟩ := @exists_of_position?_eq_some κ α _ t _ _ _ ht
    exact @position?_eq_some κ α _ keys probes index key s h hlawful hkey _ _ hentry hequal
  | none =>
    cases hs : @position? κ α _ s index key with
    | none => rfl
    | some position =>
      obtain ⟨entry, hentry, hequal⟩ := @exists_of_position?_eq_some κ α _ s _ _ _ hs
      rw [@beq_eq_false_of_position?_eq_none κ α _ t _ _ ht _ (List.mem_of_getElem? hentry)]
        at hequal
      cases hequal

/-- With lawful keys the same is found under all hashings. -/
theorem Over.find?_eq (h : index.Over keys) (hlawful : HasLawfulKeys keys probes)
    (hkey : key ∈ keys ++ probes) (s t : Hashing) :
    @find? κ α _ s index key = @find? κ α _ t index key := by
  unfold find?
  rw [h.position?_eq hlawful hkey s t]

/-- With lawful keys a change leaves the same map under all hashings. -/
theorem Over.alter_eq (h : index.Over keys) (hlawful : HasLawfulKeys keys probes)
    (hkey : key ∈ keys ++ probes) (fresh : α) (change : α → α) (s t : Hashing) :
    @Indexed.alter κ α _ s fresh change key index =
      @Indexed.alter κ α _ t fresh change key index := by
  unfold Indexed.alter
  rw [h.position?_eq hlawful hkey s t]

/-- A map that is filled step by step comes out the same under all hashings if each step does. -/
theorem Over.foldl_eq {β : Type} (step : Hashing → Indexed κ α → β → Indexed κ α)
    {items : List β} (hover : ∀ s (index : Indexed κ α), index.Over keys → ∀ item ∈ items,
      (step s index item).Over keys)
    (hstep : ∀ s t (index : Indexed κ α), index.Over keys → ∀ item ∈ items,
      step s index item = step t index item) (h : index.Over keys) (s t : Hashing) :
    items.foldl (step s) index = items.foldl (step t) index ∧
      (items.foldl (step s) index).Over keys := by
  induction items generalizing index with
  | nil => exact ⟨rfl, h⟩
  | cons item items ih =>
    -- the first step gives one map under both hashings, over the same keys as before
    rw [List.foldl_cons, List.foldl_cons, ← hstep s t index h item List.mem_cons_self]
    exact ih (fun s index h other hother => hover s index h other (List.mem_cons_of_mem _ hother))
      (fun s t index h other hother => hstep s t index h other (List.mem_cons_of_mem _ hother))
      (hover s index h item List.mem_cons_self)

end Lawful

/-! ## Keys that are not lawful -/

/-- Hash maps in which the key that came up last answers, if all keys could. -/
@[reducible]
def lastFound : Hashing where
  pick keys _ := keys.length - 1

/-- Two integers that no double tells apart. -/
def twins : Indexed Value String :=
  [(.int 9007199254740992, "even"), (.int 9007199254740993, "odd")]

/-- Under a double that equals two keys, what is found depends on the hashing. -/
theorem find?_depends_on_hashing :
    @find? _ _ _ .firstFound twins (.float ⟨0x4340000000000000⟩) = some "even" ∧
      @find? _ _ _ lastFound twins (.float ⟨0x4340000000000000⟩) = some "odd" := by
  decide +kernel

end DualQuery.Indexed
