import DualQuery.Keyed

/-!
# Lists in increasing order of keys

`Keyed.Sorted` says that the keys of a list increase strictly. Writing and removing keep a list
sorted, and a sorted list is known by what is read from it.

## Key results

- `Sorted.insert`, `Sorted.erase`, `sorted_ofList`: what keeps a list sorted
- `Sorted.ext`: two sorted lists that give the same value to every key are equal
- `Sorted.insert_of_get?`: writing what is there already changes nothing
- `Sorted.insert_comm`: two writes under different keys
- `Sorted.insert_perm`, `Sorted.perm_cons_erase`: one key and the rest of a list
- `get?_eq_of_perm`: reading does not depend on the order of entries under different keys
- `get?_foldl_insert`: what is read after a run of writes
- `foldl_insert_filter_eq`: a list put in place of another one, entry by entry
- `mem_ofList`, `Sorted.ofList_eq`: the list of a run of writes
-/

namespace DualQuery.Keyed

variable {α : Type}

/-- The keys increase strictly. -/
def Sorted (entries : Keyed α) : Prop :=
  entries.Pairwise fun a b => Ord.compare a.1 b.1 = .lt

instance (entries : Keyed α) : Decidable (Sorted entries) :=
  inferInstanceAs (Decidable (List.Pairwise _ entries))

/-- The empty list is sorted. -/
@[simp] theorem sorted_nil : Sorted ([] : Keyed α) := List.Pairwise.nil

/-- A list is sorted if its first key is in front of the others and the others are sorted. -/
theorem sorted_cons {entry : String × α} {entries : Keyed α} :
    Sorted (entry :: entries) ↔
      (∀ e ∈ entries, Ord.compare entry.1 e.1 = .lt) ∧ Sorted entries :=
  List.pairwise_cons

/-! ## Reading -/

/-- What is read under a key is an entry. -/
theorem mem_of_get?_eq_some {entries : Keyed α} {key : String} {value : α}
    (h : get? entries key = some value) : (key, value) ∈ entries := by
  induction entries with
  | nil => simp [get?] at h
  | cons entry entries ih =>
    simp only [get?] at h
    split at h
    · rename_i hkey
      cases h
      simp [← hkey]
    · exact List.mem_cons_of_mem _ (ih h)

/-- Nothing is read under a key that no entry has. -/
theorem get?_eq_none_iff {entries : Keyed α} {key : String} :
    get? entries key = none ↔ ∀ e ∈ entries, e.1 ≠ key := by
  induction entries with
  | nil => simp [get?]
  | cons entry entries ih =>
    simp only [get?, List.forall_mem_cons]
    split <;> simp_all

/-- A key in front of all keys of a list is not among them. -/
theorem get?_eq_none_of_lt {entries : Keyed α} {key : String}
    (h : ∀ e ∈ entries, Ord.compare key e.1 = .lt) : get? entries key = none := by
  rw [get?_eq_none_iff]
  intro e he heq
  have hlt := h e he
  rw [heq, Std.compare_self] at hlt
  cases hlt

/-- Leaving out entries by their keys leaves out what is read under these keys. -/
theorem get?_filter (entries : Keyed α) (keep : String → Bool) (key : String) :
    get? (entries.filter fun entry => keep entry.1) key =
      if keep key then get? entries key else none := by
  induction entries with
  | nil => simp [get?]
  | cons entry entries ih =>
    by_cases hkey : entry.1 = key
    · subst hkey
      cases hkeep : keep entry.1 <;> simp_all [get?]
    · cases hkeep : keep entry.1 <;> simp_all [get?]

/-- A key that was removed is not read, all others are as before. -/
@[simp] theorem get?_erase (entries : Keyed α) (key other : String) :
    get? (erase entries key) other = if other = key then none else get? entries other := by
  rw [erase, get?_filter entries (fun k => decide (k ≠ key))]
  by_cases h : other = key <;> simp [h]

/-- What is read under a key does not depend on the order of the entries if no key stands twice. -/
theorem get?_eq_of_perm {as bs : Keyed α} (h : as.Perm bs) (hnodup : (bs.map (·.1)).Nodup)
    (key : String) : get? as key = get? bs key := by
  induction h with
  | nil => rfl
  | cons entry _ ih =>
    rw [List.map_cons, List.nodup_cons] at hnodup
    simp only [get?, ih hnodup.2]
  | swap first second entries =>
    simp only [List.map_cons, List.nodup_cons, List.mem_cons, not_or] at hnodup
    have hne : first.1 ≠ second.1 := hnodup.1.1
    by_cases hkey : first.1 = key
    · subst hkey
      simp [get?, hne.symm]
    · simp [get?, hkey]
  | trans _ hlast ihFirst ihLast =>
    exact (ihFirst ((hlast.map _).nodup_iff.2 hnodup)).trans (ihLast hnodup)

/-! ## Writing -/

/-- After a write there is the new entry beside old ones. -/
theorem mem_insert {entries : Keyed α} {key : String} {value : α} {e : String × α}
    (h : e ∈ insert entries key value) : e = (key, value) ∨ e ∈ entries := by
  induction entries with
  | nil => simpa [insert] using h
  | cons entry entries ih =>
    simp only [insert] at h
    split at h <;> simp only [List.mem_cons] at h ⊢
    · exact h
    · exact h.imp_right .inr
    · rcases h with rfl | h
      · exact .inr (.inl rfl)
      · exact (ih h).imp_right .inr

/-- A write adds one entry at most. -/
theorem length_insert_le (entries : Keyed α) (key : String) (value : α) :
    (insert entries key value).length ≤ entries.length + 1 := by
  induction entries with
  | nil => exact Nat.le_refl _
  | cons entry entries ih =>
    simp only [insert]
    split <;> simp only [List.length_cons] <;> omega

/-- A write keeps a list sorted. -/
theorem Sorted.insert {entries : Keyed α} (h : Sorted entries) (key : String) (value : α) :
    Sorted (Keyed.insert entries key value) := by
  induction entries with
  | nil => simp [Keyed.insert, Sorted]
  | cons entry entries ih =>
    obtain ⟨hfirst, hrest⟩ := sorted_cons.1 h
    simp only [Keyed.insert]
    split
    next hlt =>
      -- the new entry stands in front of all others
      refine sorted_cons.2 ⟨fun e he => ?_, h⟩
      rcases List.mem_cons.1 he with rfl | he
      · exact hlt
      · exact Std.TransCmp.lt_trans hlt (hfirst e he)
    next heq =>
      have hkey : key = entry.1 := Std.compare_eq_iff_eq.1 heq
      subst hkey
      exact sorted_cons.2 ⟨hfirst, hrest⟩
    next hgt =>
      -- the new entry stands somewhere behind the first one
      refine sorted_cons.2 ⟨fun e he => ?_, ih hrest⟩
      rcases mem_insert he with rfl | he
      · exact Std.OrientedCmp.lt_of_gt hgt
      · exact hfirst e he

/-- Leaving out entries keeps a list sorted. -/
theorem Sorted.filter {entries : Keyed α} (h : Sorted entries) (keep : String × α → Bool) :
    Sorted (entries.filter keep) :=
  List.Pairwise.filter keep h

/-- So does removing a key. -/
theorem Sorted.erase {entries : Keyed α} (h : Sorted entries) (key : String) :
    Sorted (Keyed.erase entries key) :=
  h.filter _

/-- A run of writes keeps a list sorted. -/
theorem sorted_foldl_insert (entries : List (String × α)) {acc : Keyed α} (h : Sorted acc) :
    Sorted (entries.foldl (fun acc entry => insert acc entry.1 entry.2) acc) := by
  induction entries generalizing acc with
  | nil => exact h
  | cons entry entries ih => exact ih (h.insert _ _)

/-- The list of a run of writes is sorted. -/
theorem sorted_ofList (entries : List (String × α)) : Sorted (ofList entries) :=
  sorted_foldl_insert entries sorted_nil

/-- The entries of a list are in its order by keys, and no others. -/
theorem mem_ofList {entries : List (String × α)} {e : String × α} (h : e ∈ ofList entries) :
    e ∈ entries := by
  have hfold : ∀ (entries : List (String × α)) (acc : Keyed α),
      e ∈ entries.foldl (fun acc entry => insert acc entry.1 entry.2) acc →
        e ∈ entries ∨ e ∈ acc := by
    intro entries
    induction entries with
    | nil => exact fun _ h => .inr h
    | cons entry entries ih =>
      intro acc h
      rcases ih _ h with h | h
      · exact .inl (List.mem_cons_of_mem _ h)
      · rcases mem_insert h with rfl | h
        · exact .inl List.mem_cons_self
        · exact .inr h
  exact (hfold entries [] h).resolve_right List.not_mem_nil

/-- Two sorted lists from which the same is read under every key are equal. -/
theorem Sorted.ext {as bs : Keyed α} (ha : Sorted as) (hb : Sorted bs)
    (h : ∀ key, get? as key = get? bs key) : as = bs := by
  induction as generalizing bs with
  | nil =>
    cases bs with
    | nil => rfl
    | cons b bs => simpa [get?] using h b.1
  | cons a as ih =>
    obtain ⟨hfirst, hrest⟩ := sorted_cons.1 ha
    cases bs with
    | nil => simpa [get?] using h a.1
    | cons b bs =>
      obtain ⟨hfirst', hrest'⟩ := sorted_cons.1 hb
      -- the first key of either list is read from the other one, so neither precedes the other
      have hkey : a.1 = b.1 := by
        cases hcmp : Ord.compare a.1 b.1 with
        | eq => exact Std.compare_eq_iff_eq.1 hcmp
        | lt =>
          have hnone : get? (b :: bs) a.1 = none := get?_eq_none_of_lt fun e he => by
            rcases List.mem_cons.1 he with rfl | he
            · exact hcmp
            · exact Std.TransCmp.lt_trans hcmp (hfirst' e he)
          rw [← h a.1] at hnone
          simp [get?] at hnone
        | gt =>
          have hlt : Ord.compare b.1 a.1 = .lt := Std.OrientedCmp.lt_of_gt hcmp
          have hnone : get? (a :: as) b.1 = none := get?_eq_none_of_lt fun e he => by
            rcases List.mem_cons.1 he with rfl | he
            · exact hlt
            · exact Std.TransCmp.lt_trans hlt (hfirst e he)
          rw [h b.1] at hnone
          simp [get?] at hnone
      have hvalue : a.2 = b.2 := by simpa [get?, hkey] using h a.1
      -- neither tail has the first key, and every other key is read from the tails
      have htail : as = bs := by
        refine ih hrest hrest' fun key => ?_
        by_cases hk : a.1 = key
        · subst hk
          rw [get?_eq_none_of_lt hfirst, hkey, get?_eq_none_of_lt hfirst']
        · have hk' : b.1 ≠ key := hkey ▸ hk
          simpa [get?, hk, hk'] using h key
      rw [htail, Prod.ext hkey hvalue]

/-- Writing what is there already changes nothing. -/
theorem Sorted.insert_of_get? {entries : Keyed α} (h : Sorted entries) {key : String} {value : α}
    (hget : get? entries key = some value) : Keyed.insert entries key value = entries := by
  refine (h.insert key value).ext h fun other => ?_
  by_cases hkey : key = other
  · subst hkey
    rw [get?_insert_self, hget]
  · rw [get?_insert_of_ne entries value hkey]

/-- Removing a key that is not there changes nothing. -/
theorem erase_of_get?_eq_none {entries : Keyed α} {key : String} (h : get? entries key = none) :
    erase entries key = entries := by
  rw [erase, List.filter_eq_self]
  intro e he
  exact decide_eq_true (get?_eq_none_iff.1 h e he)

/-- A write takes the place of what was under the key and leaves the rest. -/
theorem Sorted.insert_perm {entries : Keyed α} (h : Sorted entries) (key : String) (value : α) :
    (Keyed.insert entries key value).Perm ((key, value) :: Keyed.erase entries key) := by
  induction entries with
  | nil => exact .refl _
  | cons entry entries ih =>
    obtain ⟨hfirst, hrest⟩ := sorted_cons.1 h
    simp only [Keyed.insert]
    split
    next hlt =>
      -- the key is in front of all keys that are there
      have hnone : get? (entry :: entries) key = none := get?_eq_none_of_lt fun e he => by
        rcases List.mem_cons.1 he with rfl | he
        · exact hlt
        · exact Std.TransCmp.lt_trans hlt (hfirst e he)
      rw [erase_of_get?_eq_none hnone]
    next heq =>
      have hkey : key = entry.1 := Std.compare_eq_iff_eq.1 heq
      have hnone : get? entries key = none := get?_eq_none_of_lt (hkey ▸ hfirst)
      have herase : Keyed.erase (entry :: entries) key = Keyed.erase entries key := by
        simp [Keyed.erase, hkey]
      rw [herase, erase_of_get?_eq_none hnone]
    next hgt =>
      have hne : entry.1 ≠ key := by
        intro heq
        rw [heq, Std.compare_self] at hgt
        cases hgt
      have herase : Keyed.erase (entry :: entries) key = entry :: Keyed.erase entries key := by
        simp [Keyed.erase, hne]
      rw [herase]
      exact ((ih hrest).cons entry).trans (.swap _ _ _)

/-- What is under a key and the rest make the whole list. -/
theorem Sorted.perm_cons_erase {entries : Keyed α} (h : Sorted entries) {key : String} {value : α}
    (hget : get? entries key = some value) :
    entries.Perm ((key, value) :: Keyed.erase entries key) := by
  have hperm := h.insert_perm key value
  rwa [h.insert_of_get? hget] at hperm

/-- A key that is removed may as well not have been written. -/
theorem erase_insert (entries : Keyed α) (key : String) (value : α) :
    erase (insert entries key value) key = erase entries key := by
  induction entries with
  | nil => simp [insert, erase]
  | cons entry entries ih =>
    simp only [insert]
    split
    · simp [erase]
    next heq =>
      have hkey : key = entry.1 := Std.compare_eq_iff_eq.1 heq
      simp [erase, hkey]
    · simp only [erase, List.filter_cons] at ih ⊢
      rw [ih]

/-- After a run of writes under different keys what was written counts, else what was there. -/
theorem get?_foldl_insert_of_nodup {entries : List (String × α)} (h : (entries.map (·.1)).Nodup)
    (acc : Keyed α) (key : String) :
    get? (entries.foldl (fun acc entry => insert acc entry.1 entry.2) acc) key =
      (get? entries key).or (get? acc key) := by
  induction entries generalizing acc with
  | nil => simp [get?]
  | cons entry entries ih =>
    rw [List.map_cons, List.nodup_cons] at h
    rw [List.foldl_cons, ih h.2]
    by_cases hkey : entry.1 = key
    · have hnone : get? entries key = none := get?_eq_none_iff.2 fun e he heq =>
        h.1 (List.mem_map.2 ⟨e, he, heq.trans hkey.symm⟩)
      subst hkey
      simp [hnone, get?_insert_self, get?]
    · simp [get?, hkey, get?_insert_of_ne acc entry.2 hkey]

/-- No key of a sorted list stands twice. -/
theorem Sorted.nodup {entries : Keyed α} (h : Sorted entries) : (entries.map (·.1)).Nodup := by
  rw [List.Nodup, List.pairwise_map]
  refine List.Pairwise.imp (fun {a b} hlt heq => ?_) h
  rw [heq, Std.compare_self] at hlt
  cases hlt

/-- After the entries of a sorted list were written, they count, else what was there. -/
theorem get?_foldl_insert {entries : Keyed α} (h : Sorted entries) (acc : Keyed α) (key : String) :
    get? (entries.foldl (fun acc entry => insert acc entry.1 entry.2) acc) key =
      (get? entries key).or (get? acc key) :=
  get?_foldl_insert_of_nodup h.nodup acc key

/-- Writing all entries of a list, in any order, over those entries whose keys it has gives the list
itself. -/
theorem foldl_insert_filter_eq {entries target : Keyed α} (h : Sorted entries)
    (htarget : Sorted target) {order : List (String × α)} (horder : order.Perm target) :
    order.foldl (fun acc entry => insert acc entry.1 entry.2)
      (entries.filter fun entry => (order.map (·.1)).contains entry.1) = target := by
  have hnames : (order.map (·.1)).Nodup := (horder.map _).nodup_iff.2 htarget.nodup
  refine (sorted_foldl_insert order (h.filter _)).ext htarget fun key => ?_
  rw [get?_foldl_insert_of_nodup hnames, get?_eq_of_perm horder htarget.nodup,
    get?_filter entries (order.map (·.1)).contains]
  cases hget : get? target key with
  | some value => rfl
  | none =>
    -- what is not in the list has been left out
    have hnone : ¬ (order.map (·.1)).contains key := fun hmem => by
      obtain ⟨entry, hentry, rfl⟩ := List.mem_map.1 (List.contains_iff_mem.1 hmem)
      exact get?_eq_none_iff.1 hget entry (horder.mem_iff.1 hentry) rfl
    rw [if_neg hnone, Option.or_none]

/-- A sorted list is in the order of its keys already. -/
theorem Sorted.ofList_eq {entries : Keyed α} (h : Sorted entries) : ofList entries = entries := by
  refine (sorted_ofList entries).ext h fun key => ?_
  rw [ofList, get?_foldl_insert h, get?, Option.or_none]

end DualQuery.Keyed
