import DualQuery.Proofs.CacheAccounts
import DualQuery.Proofs.CachedEntries
import Mathlib.Data.List.Nodup

/-!
# What eviction takes out

Eviction first takes out what has expired and then, batch by batch, what was accessed least
recently. That the order of accesses decides rests on the accounts of the cache: the readings of
its clock are all different, so a batch is older than what it leaves. The entry that was written
last has the latest reading, so a batch could only take it where it takes all, and no batch does: a
batch of one is everything only if there is one entry, and a single entry is within the limits.

`Cache.Evicts` says what all phases have in common.

## Key results

- `Cache.Accounts.lastAccess_lt_of_batch`: one batch
- `Cache.Accounts.lastAccess_lt_of_shrink`, `Cache.Accounts.mem_shrink_of_newest`: all batches
- `Cache.put_evicts_least_recent`: a write
-/

namespace DualQuery.Cache

variable {maxEntries maxBytes : Nat} {cache : Cache}

/-- Whether calls lead from an empty cache to a cache. -/
def IsReachable (cache : Cache) : Prop :=
  ∃ maxEntries maxBytes defaultTtl calls,
    (withLimits maxEntries maxBytes defaultTtl).run calls = cache

/-! ## Taking out by keys -/

/-- Taking out an entry leaves those of other keys. -/
theorem entries_remove (cache : Cache) (key : String) :
    (cache.remove key).entries = Keyed.erase cache.entries key := by
  unfold remove
  split
  next => rfl
  next hget => exact (Keyed.erase_of_get?_eq_none hget).symm

/-- Steps that take out one key each leave the entries under all other keys. -/
theorem entries_foldl_erase {step : Cache → String → Cache}
    (hstep : ∀ cache key, (step cache key).entries = Keyed.erase cache.entries key)
    (keys : List String) (cache : Cache) :
    (keys.foldl step cache).entries =
      cache.entries.filter fun entry => !keys.contains entry.1 := by
  induction keys generalizing cache with
  | nil => exact (List.filter_eq_self.2 fun _ _ => rfl).symm
  | cons key keys ih =>
    rw [List.foldl_cons, ih, hstep, Keyed.erase, List.filter_filter]
    refine List.filter_congr fun entry _ => ?_
    by_cases hkey : entry.1 = key <;> simp [hkey]

/-- Taking out entries leaves those of other keys. -/
theorem entries_removeAll (keys : List String) (cache : Cache) :
    (cache.removeAll keys).entries =
      cache.entries.filter fun entry => !keys.contains entry.1 := by
  refine entries_foldl_erase (fun cache key => ?_) keys cache
  -- whether the key is there or not, the entries left are those under other keys
  split
  next => exact entries_remove cache key
  next hkey =>
    rw [Keyed.contains, Option.not_isSome_iff_eq_none] at hkey
    exact (Keyed.erase_of_get?_eq_none hkey).symm

/-- An entry is left exactly when it was there and its key is not taken out. -/
theorem mem_entries_removeAll {keys : List String} {entry : String × CacheEntry} :
    entry ∈ (cache.removeAll keys).entries ↔ entry ∈ cache.entries ∧ entry.1 ∉ keys := by
  rw [entries_removeAll, List.mem_filter, Bool.not_eq_true', ← Bool.not_eq_true,
    List.contains_iff_mem]

/-- Entries were taken out of a cache by their keys, and each of them was counted. -/
structure Evicts (cache after : Cache) : Prop where
  entries : ∃ keeps : String → Bool,
    after.entries = cache.entries.filter fun entry => keeps entry.1
  count : after.evictions + after.size = cache.evictions + cache.size

/-- Nothing is taken out. -/
theorem Evicts.refl (cache : Cache) : cache.Evicts cache where
  entries := ⟨fun _ => true, (List.filter_eq_self.2 fun _ _ => rfl).symm⟩
  count := rfl

/-- Two phases one after the other take out what each of them does. -/
theorem Evicts.trans {first second : Cache} (h : cache.Evicts first) (h' : first.Evicts second) :
    cache.Evicts second := by
  obtain ⟨keeps, hkeeps⟩ := h.entries
  obtain ⟨keeps', hkeeps'⟩ := h'.entries
  refine ⟨⟨fun key => keeps key && keeps' key, ?_⟩, h'.count.trans h.count⟩
  rw [hkeeps', hkeeps, List.filter_filter]
  simp only [Bool.and_comm]

/-- No entry is added or changed. -/
theorem Evicts.subset {after : Cache} (h : cache.Evicts after) : after.entries ⊆ cache.entries := by
  obtain ⟨keeps, hkeeps⟩ := h.entries
  rw [hkeeps]
  exact List.filter_sublist.subset

/-! ## The newest entry -/

/-- A cache that is over its limits has another entry beside one that is within them. -/
theorem two_le_size_of_isOverCapacity (h : Accounts maxEntries maxBytes cache)
    (hentries : 1 ≤ maxEntries) {newest : String × CacheEntry} (hmem : newest ∈ cache.entries)
    (hbytes : newest.2.size ≤ maxBytes) (hover : cache.isOverCapacity = true) : 2 ≤ cache.size := by
  -- a single entry is within the limits
  refine Nat.lt_of_not_le fun hsize => ?_
  obtain ⟨entry, hentry⟩ := List.length_eq_one_iff.1
    (Nat.le_antisymm hsize (List.length_pos_of_mem hmem))
  have hnewest : newest = entry := by
    rw [hentry] at hmem
    exact List.mem_singleton.1 hmem
  have htotal : cache.totalBytes = newest.2.size := by
    rw [h.total, hentry, hnewest]
    exact Nat.add_zero _
  have hlimits : cache.isOverCapacity = false := by
    rw [not_isOverCapacity_iff, h.maxEntries_eq, h.maxBytes_eq, htotal]
    exact ⟨Nat.le_trans hsize hentries, hbytes⟩
  rw [hlimits] at hover
  cases hover

/-- A batch does not take everything, where there are two entries at least. -/
theorem batchSize_lt {count : Nat} (hcount : 2 ≤ count) : batchSize count < count := by
  rw [batchSize]
  omega

namespace Accounts

/-- An entry is known by its key. -/
theorem eq_of_key_eq (h : Accounts maxEntries maxBytes cache) {a b : String × CacheEntry}
    (ha : a ∈ cache.entries) (hb : b ∈ cache.entries) (hkey : a.1 = b.1) : a = b :=
  List.inj_on_of_nodup_map h.sorted.nodup ha hb hkey

/-- An entry is known by its last access. -/
theorem eq_of_lastAccess_eq (h : Accounts maxEntries maxBytes cache) {a b : String × CacheEntry}
    (ha : a ∈ cache.entries) (hb : b ∈ cache.entries)
    (haccess : a.2.lastAccess = b.2.lastAccess) : a = b :=
  List.inj_on_of_nodup_map h.distinct ha hb haccess

/-- A removal that is counted takes one entry. -/
theorem evicts_removeAll (h : Accounts maxEntries maxBytes cache) (keys : List String) :
    cache.Evicts (cache.removeAll keys) := by
  refine ⟨⟨fun key => !keys.contains key, entries_removeAll keys cache⟩, ?_⟩
  -- evictions counted and entries left add up to the same number before and after each key
  induction keys generalizing cache with
  | nil => rfl
  | cons key keys ih =>
    rw [Cache.removeAll, List.foldl_cons]
    split
    next hkey =>
      obtain ⟨entry, hget⟩ := Option.isSome_iff_exists.1 hkey
      have hlength := (h.sorted.perm_cons_erase hget).length_eq
      rw [List.length_cons, ← entries_remove] at hlength
      have hnext : Accounts maxEntries maxBytes
          { cache.remove key with evictions := cache.evictions + 1 } := { h.remove key with }
      refine (ih hnext).trans ?_
      show cache.evictions + 1 + (cache.remove key).entries.length =
        cache.evictions + cache.entries.length
      omega
    next => exact ih h

/-- Batches take out entries by their keys and count them. -/
theorem evicts_shrink (h : Accounts maxEntries maxBytes cache) (fuel : Nat) :
    cache.Evicts (Cache.shrink fuel cache) := by
  induction fuel generalizing cache with
  | zero => exact .refl cache
  | succ fuel ih =>
    unfold Cache.shrink
    split
    · exact (h.evicts_removeAll _).trans (ih (h.removeAll _))
    · exact .refl cache

/-! ## Batches -/

/-- What a batch takes was accessed before what it leaves. -/
theorem lastAccess_lt_of_batch (h : Accounts maxEntries maxBytes cache) {count : Nat}
    {taken kept : String × CacheEntry} (htaken : taken ∈ cache.entries)
    (hkept : kept ∈ cache.entries) (hin : taken.1 ∈ cache.keysByAccess.take count)
    (hout : kept.1 ∉ cache.keysByAccess.take count) :
    taken.2.lastAccess < kept.2.lastAccess := by
  let older : String × CacheEntry → String × CacheEntry → Bool :=
    fun a b => decide (a.2.lastAccess < b.2.lastAccess)
  -- the order by last access is a weak one, so what is sorted is in order pairwise: the taken entry
  -- stands in the batch, the other one behind it
  have hweak : StrictWeakOn older cache.entries := by
    constructor
    · intro a _ b _ hab
      simp only [older, decide_eq_true_eq, decide_eq_false_iff_not] at hab ⊢
      omega
    · intro a _ b _ c _ hab hbc
      simp only [older, decide_eq_false_iff_not] at hab hbc ⊢
      omega
  have hpairwise := pairwise_stableSort hweak
  rw [← List.take_append_drop count (stableSort older cache.entries), List.pairwise_append]
    at hpairwise
  rw [keysByAccess, ← List.map_take] at hin hout
  have hfront : taken ∈ (stableSort older cache.entries).take count := by
    obtain ⟨entry, hentry, hkey⟩ := List.mem_map.1 hin
    have hmem := mem_stableSort.1 (List.mem_of_mem_take hentry)
    exact h.eq_of_key_eq hmem htaken hkey ▸ hentry
  have hback : kept ∈ (stableSort older cache.entries).drop count := by
    have hmem : kept ∈ stableSort older cache.entries := mem_stableSort.2 hkept
    rw [← List.take_append_drop count (stableSort older cache.entries)] at hmem
    exact (List.mem_append.1 hmem).resolve_left fun hfront =>
      hout (List.mem_map_of_mem hfront)
  have hle := hpairwise.2.2 taken hfront kept hback
  have hne : taken.2.lastAccess ≠ kept.2.lastAccess := fun heq =>
    hout (h.eq_of_lastAccess_eq htaken hkept heq ▸ hin)
  simp only [older, decide_eq_false_iff_not] at hle
  omega

/-- A batch that is smaller than the cache leaves an entry. -/
theorem exists_left_of_batch (h : Accounts maxEntries maxBytes cache) {count : Nat}
    (hcount : count < cache.size) :
    ∃ kept ∈ cache.entries, kept.1 ∉ cache.keysByAccess.take count := by
  have hlength : cache.keysByAccess.length = cache.size := by
    rw [keysByAccess, List.length_map, length_stableSort, size]
  have hnodup : cache.keysByAccess.Nodup :=
    ((stableSort_perm _ _).map _).nodup_iff.2 h.sorted.nodup
  rw [← List.take_append_drop count cache.keysByAccess, List.nodup_append] at hnodup
  have hpos : 0 < (cache.keysByAccess.drop count).length := by
    rw [List.length_drop]
    omega
  obtain ⟨key, hkey⟩ := List.exists_mem_of_length_pos hpos
  obtain ⟨kept, hkept, rfl⟩ := List.mem_map.1 (List.mem_of_mem_drop hkey)
  exact ⟨kept, mem_stableSort.1 hkept, fun htake => hnodup.2.2 _ htake _ hkey rfl⟩

/-- What eviction by access takes was accessed before what it leaves. -/
theorem lastAccess_lt_of_shrink (h : Accounts maxEntries maxBytes cache) (fuel : Nat)
    {taken kept : String × CacheEntry} (htaken : taken ∈ cache.entries)
    (hgone : taken ∉ (Cache.shrink fuel cache).entries)
    (hkept : kept ∈ (Cache.shrink fuel cache).entries) :
    taken.2.lastAccess < kept.2.lastAccess := by
  induction fuel generalizing cache with
  | zero => exact absurd htaken hgone
  | succ fuel ih =>
    unfold Cache.shrink at hgone hkept
    split at hgone
    next hguard =>
      rw [if_pos hguard] at hkept
      by_cases hnext :
          taken ∈ (cache.removeAll (cache.keysByAccess.take (batchSize cache.size))).entries
      · exact ih (h.removeAll _) hnext hgone hkept
      · -- it went with the first batch, which left whatever is left in the end
        have hrest := mem_entries_removeAll.1 (entries_shrink_subset _ _ hkept)
        have hin : taken.1 ∈ cache.keysByAccess.take (batchSize cache.size) := by
          by_contra hout
          exact hnext (mem_entries_removeAll.2 ⟨htaken, hout⟩)
        exact h.lastAccess_lt_of_batch htaken hrest.1 hin hrest.2
    next => exact absurd htaken hgone

/-- Eviction by access leaves the entry that was accessed last, if that one is within the limits. -/
theorem mem_shrink_of_newest (h : Accounts maxEntries maxBytes cache) (hentries : 1 ≤ maxEntries)
    {newest : String × CacheEntry} (hmem : newest ∈ cache.entries)
    (hbytes : newest.2.size ≤ maxBytes)
    (hlast : ∀ entry ∈ cache.entries, entry.2.lastAccess ≤ newest.2.lastAccess) (fuel : Nat) :
    newest ∈ (Cache.shrink fuel cache).entries := by
  induction fuel generalizing cache with
  | zero => exact hmem
  | succ fuel ih =>
    unfold Cache.shrink
    split
    next hguard =>
      rw [Bool.and_eq_true] at hguard
      have hsize := two_le_size_of_isOverCapacity h hentries hmem hbytes hguard.1
      obtain ⟨kept, hkept, hleft⟩ := h.exists_left_of_batch (batchSize_lt hsize)
      -- what the batch leaves would have to be newer than the newest entry
      have hout : newest.1 ∉ cache.keysByAccess.take (batchSize cache.size) := fun hin => by
        have hlt := h.lastAccess_lt_of_batch hmem hkept hin hleft
        have hle := hlast kept hkept
        omega
      exact ih (h.removeAll _) (mem_entries_removeAll.2 ⟨hmem, hout⟩) fun entry hentry =>
        hlast entry (entries_removeAll_subset _ _ hentry)
    next => exact hmem

/-! ## Writing -/

/-- Both phases of eviction take out entries by their keys and count them. -/
theorem evicts_evict (h : Accounts maxEntries maxBytes cache) (now : Nat) :
    cache.Evicts (cache.evict now) :=
  (h.evicts_removeAll _).trans ((h.removeAll _).evicts_shrink _)

/-- The key of an entry is among those that have expired only if the entry has. -/
theorem expired_of_mem (h : Accounts maxEntries maxBytes cache) {now : Nat}
    {entry : String × CacheEntry} (hmem : entry ∈ cache.entries)
    (hkey : entry.1 ∈ cache.expiredKeys now) : entry.2.expiresAt ≤ now := by
  obtain ⟨other, hother, hkey⟩ := List.mem_map.1 hkey
  obtain ⟨hother, hexpired⟩ := List.mem_filter.1 hother
  rw [h.eq_of_key_eq hother hmem hkey] at hexpired
  exact of_decide_eq_true hexpired

/-- What eviction takes had expired, or was accessed before all that it leaves. -/
theorem lastAccess_lt_of_evict (h : Accounts maxEntries maxBytes cache) {now : Nat}
    {taken : String × CacheEntry} (htaken : taken ∈ cache.entries)
    (hgone : taken ∉ (cache.evict now).entries) :
    taken.2.expiresAt ≤ now ∨
      ∀ kept ∈ (cache.evict now).entries, taken.2.lastAccess < kept.2.lastAccess := by
  by_cases hnext : taken ∈ (cache.removeAll (cache.expiredKeys now)).entries
  · exact .inr fun kept hkept =>
      (h.removeAll _).lastAccess_lt_of_shrink _ hnext hgone hkept
  · refine .inl (h.expired_of_mem htaken ?_)
    by_contra hlive
    exact hnext (mem_entries_removeAll.2 ⟨htaken, hlive⟩)

/-- Eviction leaves the entry that was accessed last, if it has not expired and is within the
limits. -/
theorem mem_evict_of_newest (h : Accounts maxEntries maxBytes cache) (hentries : 1 ≤ maxEntries)
    {newest : String × CacheEntry} (hmem : newest ∈ cache.entries)
    (hbytes : newest.2.size ≤ maxBytes)
    (hlast : ∀ entry ∈ cache.entries, entry.2.lastAccess ≤ newest.2.lastAccess) {now : Nat}
    (hlive : now < newest.2.expiresAt) : newest ∈ (cache.evict now).entries := by
  refine (h.removeAll _).mem_shrink_of_newest hentries ?_ hbytes
    (fun entry hentry => hlast entry (entries_removeAll_subset _ _ hentry)) _
  exact mem_entries_removeAll.2
    ⟨hmem, fun hin => absurd (h.expired_of_mem hmem hin) (Nat.not_le.2 hlive)⟩

end Accounts

/-- The accounts and the limits of every cache that calls lead to. -/
theorem IsReachable.accounts (h : cache.IsReachable) :
    Accounts cache.maxEntries cache.maxBytes cache ∧ 1 ≤ cache.maxEntries ∧
      cache.isOverCapacity = false := by
  obtain ⟨maxEntries, maxBytes, defaultTtl, calls, rfl⟩ := h
  have hstart : (withLimits maxEntries maxBytes defaultTtl).isOverCapacity = false :=
    not_isOverCapacity_iff.2 ⟨Nat.zero_le _, Nat.zero_le _⟩
  obtain ⟨haccounts, hlimits, -⟩ :=
    run_of_accounts (accounts_withLimits maxEntries maxBytes defaultTtl) hstart
      (Nat.lt_succ_self _) calls
  refine ⟨?_, ?_, hlimits⟩
  · rw [haccounts.maxEntries_eq, haccounts.maxBytes_eq]
    exact haccounts
  · rw [haccounts.maxEntries_eq]
    exact Nat.le_max_left 1 maxEntries

/-- The entry of a write. -/
def writtenEntry (cache : Cache) (now : Nat) (result : ResultPage) (ttl : Option Nat) :
    CacheEntry :=
  ⟨result, cache.expiry now ttl, cache.clock, 0, result.approxSize⟩

/-- The entries of other keys that a write to a key takes out. -/
def evictedBy (before after : Cache) (key : CacheKey) : Keyed CacheEntry :=
  (Keyed.erase before.entries key.text).filter fun entry => !Keyed.contains after.entries entry.1

section Put

variable {before : Cache} {now : Nat} {key : CacheKey} {result : ResultPage} {ttl : Option Nat}

/-- A write that is not refused writes, and evicts where that leaves the cache over its limits. -/
theorem put_eq_of_admitted (hadmits : before.refuses now result ttl = false) :
    before.put now key result ttl =
      if (before.written now key result ttl).isOverCapacity then
        (before.written now key result ttl).evict now
      else before.written now key result ttl := by
  rw [put_eq, if_neg (Bool.eq_false_iff.1 hadmits)]

/-- The entry of a write is there before eviction. -/
theorem mem_written : (key.text, before.writtenEntry now result ttl) ∈
    (before.written now key result ttl).entries :=
  Keyed.mem_of_get?_eq_some (Keyed.get?_insert_self _ _ _)

namespace Accounts

variable (h : Accounts maxEntries maxBytes before)

include h

/-- No entry was accessed after the one that was just written. -/
theorem lastAccess_le_of_mem_written {entry : String × CacheEntry}
    (hmem : entry ∈ (before.written now key result ttl).entries) :
    entry.2.lastAccess ≤ (before.writtenEntry now result ttl).lastAccess :=
  Nat.le_of_lt_succ ((h.written now key result ttl).before entry hmem)

/-- What a write does behind the new entry is to evict. -/
theorem evicts_put (hadmits : before.refuses now result ttl = false) :
    (before.written now key result ttl).Evicts (before.put now key result ttl) := by
  rw [put_eq_of_admitted hadmits]
  split
  · exact (h.written now key result ttl).evicts_evict now
  · exact .refl _

/-- What a write takes out had expired, or was accessed before all that it leaves. -/
theorem lastAccess_lt_of_put (hadmits : before.refuses now result ttl = false)
    {taken : String × CacheEntry} (htaken : taken ∈ (before.written now key result ttl).entries)
    (hgone : taken ∉ (before.put now key result ttl).entries) :
    taken.2.expiresAt ≤ now ∨ ∀ kept ∈ (before.put now key result ttl).entries,
      taken.2.lastAccess < kept.2.lastAccess := by
  rw [put_eq_of_admitted hadmits] at hgone ⊢
  split at hgone
  next hover =>
    rw [if_pos hover]
    exact (h.written now key result ttl).lastAccess_lt_of_evict htaken hgone
  next => exact absurd htaken hgone

/-- The entry of a write is there after eviction, unless it expires at once. -/
theorem mem_put (hentries : 1 ≤ maxEntries) (hadmits : before.refuses now result ttl = false)
    (hlive : 0 < ttl.getD before.defaultTtl) :
    (key.text, before.writtenEntry now result ttl) ∈ (before.put now key result ttl).entries := by
  rw [put_eq_of_admitted hadmits]
  split
  · have hsize := (refuses_eq_false_iff.1 hadmits).1
    have hexpires : now < (before.writtenEntry now result ttl).expiresAt :=
      Nat.lt_add_of_pos_right hlive
    exact (h.written now key result ttl).mem_evict_of_newest hentries mem_written
      (h.maxBytes_eq ▸ hsize) (fun _ => h.lastAccess_le_of_mem_written) hexpires
  · exact mem_written

end Accounts

/-- Where the entry that was written is left, the evicted ones are those that are not. -/
theorem Evicts.count_evictedBy (hsorted : Keyed.Sorted before.entries) {after : Cache}
    (hevicts : (before.written now key result ttl).Evicts after)
    (hmem : (key.text, before.writtenEntry now result ttl) ∈ after.entries) :
    (∀ entry ∈ before.entries, entry.1 ≠ key.text →
        entry ∈ after.entries ∨ entry ∈ before.evictedBy after key) ∧
      (∀ entry ∈ before.evictedBy after key,
        entry ∈ (before.written now key result ttl).entries ∧ entry ∉ after.entries) ∧
      after.evictions = before.evictions + (before.evictedBy after key).length := by
  obtain ⟨keeps, hkeeps⟩ := hevicts.entries
  have hperm : (before.written now key result ttl).entries.Perm
      ((key.text, before.writtenEntry now result ttl) :: Keyed.erase before.entries key.text) :=
    hsorted.insert_perm key.text _
  have hothers : ∀ entry ∈ Keyed.erase before.entries key.text,
      entry ∈ (before.written now key result ttl).entries := fun entry hentry =>
    hperm.mem_iff.2 (List.mem_cons_of_mem _ hentry)
  have hcontains : ∀ entry ∈ Keyed.erase before.entries key.text,
      Keyed.contains after.entries entry.1 = keeps entry.1 := by
    intro entry hentry
    rw [Keyed.contains, hkeeps, Keyed.get?_filter]
    cases hkeep : keeps entry.1 with
    | false => rfl
    | true =>
      rw [if_pos rfl, Option.isSome_iff_ne_none, ne_eq, Keyed.get?_eq_none_iff]
      exact fun hnone => hnone entry (hothers entry hentry) rfl
  have hevicted : before.evictedBy after key =
      (Keyed.erase before.entries key.text).filter fun entry => !keeps entry.1 :=
    List.filter_congr fun entry hentry => by rw [hcontains entry hentry]
  refine ⟨fun entry hentry hne => ?_, fun entry hentry => ?_, ?_⟩
  · have hother : entry ∈ Keyed.erase before.entries key.text :=
      List.mem_filter.2 ⟨hentry, decide_eq_true hne⟩
    rw [hevicted, hkeeps, List.mem_filter, List.mem_filter]
    cases hkeep : keeps entry.1 with
    | true => exact .inl ⟨hothers entry hother, rfl⟩
    | false => exact .inr ⟨hother, rfl⟩
  · rw [hevicted, List.mem_filter] at hentry
    refine ⟨hothers entry hentry.1, ?_⟩
    rw [hkeeps, List.mem_filter]
    exact fun hkept => by simp [hkept.2] at hentry
  · -- what is left of the others and what is not make all of them
    have hself : keeps key.text = true := by
      rw [hkeeps, List.mem_filter] at hmem
      exact hmem.2
    have hafter := (hperm.filter fun entry => keeps entry.1).length_eq
    rw [← hkeeps, List.filter_cons_of_pos (by exact hself), List.length_cons] at hafter
    have hbefore := hperm.length_eq
    rw [List.length_cons] at hbefore
    have hsplit := List.length_eq_length_filter_add (l := Keyed.erase before.entries key.text)
      fun entry => keeps entry.1
    rw [← hevicted] at hsplit
    have hcount := hevicts.count
    rw [size, size, show (before.written now key result ttl).evictions = before.evictions from rfl]
      at hcount
    omega

end Put

/-- A result that is not larger than the cache may be, and expires neither at once nor behind the
end of the clock, is there after it was written, and is read as long as it has not expired. Its
cache is within its limits. Entries of other keys are what they were, but for those that were
evicted: each of them had expired or was accessed before all entries that are left, all of them are
counted, and there are none as long as the cache with the new entry is within its limits. -/
theorem put_evicts_least_recent {before : Cache} (hbefore : before.IsReachable) (now : Nat)
    (key : CacheKey) (result : ResultPage) (ttl : Option Nat)
    (hsize : result.approxSize ≤ before.maxBytes) (hlive : 0 < ttl.getD before.defaultTtl)
    (htime : now + ttl.getD before.defaultTtl < endOfTime) :
    let after := before.put now key result ttl
    after.entry? key = some (before.writtenEntry now result ttl) ∧
      (∀ later, later < now + ttl.getD before.defaultTtl → (after.get later key).1 = some result) ∧
      after.size ≤ before.maxEntries ∧ after.totalBytes ≤ before.maxBytes ∧
      (∀ entry ∈ before.entries, entry.1 ≠ key.text →
        entry ∈ after.entries ∨ entry ∈ before.evictedBy after key) ∧
      (∀ entry ∈ after.entries, entry.1 ≠ key.text → entry ∈ before.entries) ∧
      (∀ entry ∈ before.evictedBy after key, entry.2.expiresAt ≤ now ∨
        ∀ kept ∈ after.entries, entry.2.lastAccess < kept.2.lastAccess) ∧
      after.evictions = before.evictions + (before.evictedBy after key).length ∧
      ((before.written now key result ttl).isOverCapacity = false →
        before.evictedBy after key = []) := by
  intro after
  obtain ⟨haccounts, hentries, hlimits⟩ := hbefore.accounts
  have hadmits : before.refuses now result ttl = false := refuses_eq_false_iff.2 ⟨hsize, htime⟩
  -- everything but the last part is about the cache with the new entry and what eviction makes of
  -- it
  have hevicts : (before.written now key result ttl).Evicts after := haccounts.evicts_put hadmits
  have hmem : (key.text, before.writtenEntry now result ttl) ∈ after.entries :=
    haccounts.mem_put hentries hadmits hlive
  have hafter : Accounts before.maxEntries before.maxBytes after :=
    haccounts.put now key result ttl
  obtain ⟨hkept, htaken, hcount⟩ := hevicts.count_evictedBy haccounts.sorted hmem
  have hentry : after.entry? key = some (before.writtenEntry now result ttl) := by
    cases hget : after.entry? key with
    | none => exact absurd rfl (Keyed.get?_eq_none_iff.1 hget _ hmem)
    | some entry =>
      have heq := hafter.eq_of_key_eq (Keyed.mem_of_get?_eq_some hget) hmem rfl
      rw [(Prod.mk.inj heq).2]
  have hover := haccounts.not_isOverCapacity_put hlimits now key result ttl
  rw [not_isOverCapacity_iff, hafter.maxEntries_eq, hafter.maxBytes_eq] at hover
  refine ⟨hentry, fun later hlater => ?_, hover.1, hover.2, hkept, fun entry hleft hne => ?_,
    fun entry hevicted => ?_, hcount, fun hwithin => ?_⟩
  · rw [get, hentry]
    have hlive : ¬ (before.writtenEntry now result ttl).expiresAt ≤ later := Nat.not_le.2 hlater
    simp only [if_neg hlive]
    rfl
  · exact (Keyed.mem_insert (hevicts.subset hleft)).resolve_left fun heq =>
      hne (congrArg Prod.fst heq)
  · obtain ⟨hin, hout⟩ := htaken entry hevicted
    exact haccounts.lastAccess_lt_of_put hadmits hin hout
  · have hall : after = before.written now key result ttl := by
      show before.put now key result ttl = _
      rw [put_eq_of_admitted hadmits, hwithin]
      rfl
    refine List.eq_nil_iff_forall_not_mem.2 fun entry hevicted => ?_
    obtain ⟨hin, hout⟩ := htaken entry hevicted
    exact hout (hall ▸ hin)

/-- A cache of two entries that holds the results of two keys, the first of which was read last. -/
def pairCache : Cache :=
  (withLimits 2 1000 60).run
    [(0, .put ⟨"a:0"⟩ default none), (1, .put ⟨"b:0"⟩ default none), (2, .get ⟨"a:0"⟩)]

/-- A third result in a cache of two entries: the one that was read least recently is evicted. -/
theorem put_evicts_least_recent_third :
    (default : ResultPage).approxSize ≤ pairCache.maxBytes ∧
      0 < (none : Option Nat).getD pairCache.defaultTtl ∧
      3 + (none : Option Nat).getD pairCache.defaultTtl < endOfTime ∧
      (pairCache.evictedBy (pairCache.put 3 ⟨"c:0"⟩ default none) ⟨"c:0"⟩).map (·.1) = ["b:0"] ∧
      (pairCache.put 3 ⟨"c:0"⟩ default none).evictions = pairCache.evictions + 1 ∧
      ((pairCache.put 3 ⟨"c:0"⟩ default none).get 62 ⟨"c:0"⟩).1 = some default := by
  have hsize : (default : ResultPage).approxSize ≤ pairCache.maxBytes := by decide
  have hlive : 0 < (none : Option Nat).getD pairCache.defaultTtl := by decide
  have htime : 3 + (none : Option Nat).getD pairCache.defaultTtl < endOfTime := by decide
  have hreachable : pairCache.IsReachable := ⟨2, 1000, 60, _, rfl⟩
  obtain ⟨-, hread, -, -, -, -, -, hcount, -⟩ :=
    put_evicts_least_recent hreachable 3 ⟨"c:0"⟩ default none hsize hlive htime
  have hevicted :
      (pairCache.evictedBy (pairCache.put 3 ⟨"c:0"⟩ default none) ⟨"c:0"⟩).map (·.1) = ["b:0"] := by
    decide
  have hone := congrArg List.length hevicted
  rw [List.length_map] at hone
  exact ⟨hsize, hlive, htime, hevicted, by rw [hcount, hone]; rfl, hread 62 (by decide)⟩

end DualQuery.Cache
