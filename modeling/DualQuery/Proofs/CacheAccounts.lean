import Mathlib.Algebra.Ring.Nat
import DualQuery.Cache.Basic
import DualQuery.Proofs.KeyedOrder
import DualQuery.Proofs.StableSort

/-!
# The accounts of a cache

A cache counts the bytes of its entries beside the entries, and tells the order of accesses by a
clock of its own. Entries and counts are changed apart from each other: a write takes the place of
an older entry, a read takes out what has expired, eviction goes through two phases. `Accounts` is
what all of them keep, and the limits hold after each call because eviction goes on until they do.

Subtraction of natural numbers stops at zero, and the rounds of eviction are bounded by the number
of entries, so neither an account that is overdrawn nor a loop without end would show in the cache.
`Cache.perform?` therefore is a second way to carry out a call, which fails where more is taken off
the account than is there, or where eviction is not over after a number of rounds.

## Key results

- `Cache.Accounts.remove`, `Cache.Accounts.shrink`, `Cache.Accounts.put`: what one step keeps
- `Cache.Accounts.shrink?_eq`: eviction ends
- `Cache.Accounts.perform?_eq`: no account is overdrawn
- `Cache.accounts_run`: the accounts of every cache that a run of calls leads to
-/

namespace DualQuery.Cache

/-! ## Calls -/

/-- A call of a cache. -/
inductive Call where
  | put (key : CacheKey) (result : ResultPage) (ttl : Option Nat)
  | get (key : CacheKey)
  | invalidateEntity (entity : String)
  | clear
  deriving Repr, Inhabited

/-- The cache after a call at a time. -/
def apply (cache : Cache) (now : Nat) : Call → Cache
  | .put key result ttl => cache.put now key result ttl
  | .get key => (cache.get now key).2
  | .invalidateEntity entity => cache.invalidateEntity entity
  | .clear => cache.clear

/-- The cache after calls, each at its time. -/
def run (cache : Cache) (calls : List (Nat × Call)) : Cache :=
  calls.foldl (fun cache call => cache.apply call.1 call.2) cache

/-- The size of the entry that a write to a key replaces. -/
def replacedSize (cache : Cache) (key : CacheKey) : Nat :=
  match cache.entry? key with
  | some previous => previous.size
  | none => 0

/-- The cache with a result written, before its limits are looked at. -/
def written (cache : Cache) (now : Nat) (key : CacheKey) (result : ResultPage)
    (ttl : Option Nat) : Cache :=
  { cache with
    entries := Keyed.insert cache.entries key.text
      ⟨result, cache.expiry now ttl, cache.clock, 0, result.approxSize⟩
    clock := cache.clock + 1
    totalBytes := cache.totalBytes - cache.replacedSize key + result.approxSize }

/-- A write refuses, writes, or writes and evicts. -/
theorem put_eq (cache : Cache) (now : Nat) (key : CacheKey) (result : ResultPage)
    (ttl : Option Nat) :
    cache.put now key result ttl =
      if cache.refuses now result ttl then cache
      else if (cache.written now key result ttl).isOverCapacity then
        (cache.written now key result ttl).evict now
      else cache.written now key result ttl :=
  rfl

/-! ## Calls that watch the account -/

/-- Take an entry out, if its size can be taken off the account. -/
def remove? (cache : Cache) (key : String) : Option Cache :=
  match Keyed.get? cache.entries key with
  | some entry => if entry.size ≤ cache.totalBytes then some (cache.remove key) else none
  | none => some cache

/-- Take entries out one after the other and count those that were there. -/
def removeAll? (cache : Cache) (keys : List String) : Option Cache :=
  keys.foldlM (fun cache key =>
    if Keyed.contains cache.entries key then
      (cache.remove? key).map fun rest => { rest with evictions := cache.evictions + 1 }
    else some cache) cache

/-- Take out batches of the least recently accessed entries until both limits hold, which must be
after at most `rounds` batches. -/
def shrink? (rounds : Nat) (cache : Cache) : Option Cache :=
  if cache.isOverCapacity && !cache.entries.isEmpty then
    match rounds with
    | 0 => none
    | rounds + 1 =>
      (cache.removeAll? (cache.keysByAccess.take (batchSize cache.size))).bind (shrink? rounds)
  else some cache

/-- Take out expired entries and then the least recently accessed ones until both limits hold. -/
def evict? (rounds : Nat) (cache : Cache) (now : Nat) : Option Cache :=
  (cache.removeAll? (cache.expiredKeys now)).bind (shrink? rounds)

/-- Keep a result under a key. -/
def put? (rounds : Nat) (cache : Cache) (now : Nat) (key : CacheKey) (result : ResultPage)
    (ttl : Option Nat) : Option Cache :=
  if cache.refuses now result ttl then some cache
  else if cache.totalBytes < cache.replacedSize key then none
  else if (cache.written now key result ttl).isOverCapacity then
    (cache.written now key result ttl).evict? rounds now
  else some (cache.written now key result ttl)

/-- Read the result under a key at a time. -/
def get? (cache : Cache) (now : Nat) (key : CacheKey) : Option Cache :=
  match cache.entry? key with
  | some entry =>
    if entry.expiresAt ≤ now then
      (cache.remove? key.text).map fun rest => { rest with misses := cache.misses + 1 }
    else some (cache.get now key).2
  | none => some (cache.get now key).2

/-- Take out the results of an entity. -/
def invalidateEntity? (cache : Cache) (entity : String) : Option Cache :=
  ((Keyed.keys cache.entries).filter fun key => (CacheKey.mk key).entity == entity).foldlM
    remove? cache

/-- The cache after a call at a time; none where an account is overdrawn or eviction takes more than
some rounds. -/
def perform? (rounds : Nat) (cache : Cache) (now : Nat) : Call → Option Cache
  | .put key result ttl => cache.put? rounds now key result ttl
  | .get key => cache.get? now key
  | .invalidateEntity entity => cache.invalidateEntity? entity
  | .clear => some cache.clear

/-- The cache after calls, each at its time. -/
def run? (rounds : Nat) (cache : Cache) (calls : List (Nat × Call)) : Option Cache :=
  calls.foldlM (fun cache call => cache.perform? rounds call.1 call.2) cache

/-! ## Accounts -/

/-- The counts of a cache agree with its entries. -/
structure Accounts (maxEntries maxBytes : Nat) (cache : Cache) : Prop where
  maxEntries_eq : cache.maxEntries = maxEntries
  maxBytes_eq : cache.maxBytes = maxBytes
  sorted : Keyed.Sorted cache.entries
  total : cache.totalBytes = (cache.entries.map (·.2.size)).sum
  measured : ∀ entry ∈ cache.entries, entry.2.size = entry.2.result.approxSize
  distinct : (cache.entries.map (·.2.lastAccess)).Nodup
  before : ∀ entry ∈ cache.entries, entry.2.lastAccess < cache.clock

variable {maxEntries maxBytes : Nat} {cache : Cache}

/-! ### The number of entries -/

/-- Taking out an entry that is there makes the cache smaller. -/
theorem size_remove_lt {key : String} (hkey : Keyed.contains cache.entries key = true) :
    (cache.remove key).size < cache.size := by
  obtain ⟨entry, hget⟩ := Option.isSome_iff_exists.1 hkey
  have hmem := Keyed.mem_of_get?_eq_some hget
  unfold Cache.remove
  rw [hget]
  refine List.length_filter_lt_length_iff_exists.2 ⟨(key, entry), hmem, ?_⟩
  simp

/-- Taking out entries never makes the cache larger. -/
theorem size_removeAll_le (cache : Cache) (keys : List String) :
    (cache.removeAll keys).size ≤ cache.size := by
  -- the induction is on the keys, for every cache: each step goes on with what is left
  induction keys generalizing cache with
  | nil => exact Nat.le_refl _
  | cons key keys ih =>
    rw [Cache.removeAll, List.foldl_cons]
    split
    next hkey =>
      have hrest := ih { cache.remove key with evictions := cache.evictions + 1 }
      have hremove := size_remove_lt hkey
      exact Nat.le_trans hrest (Nat.le_of_lt hremove)
    next => exact ih cache

/-- A batch of a cache that is not empty takes out one entry at least. -/
theorem size_removeAll_lt (hne : cache.entries ≠ []) :
    (cache.removeAll (cache.keysByAccess.take (batchSize cache.size))).size < cache.size := by
  have hbatch : 0 < batchSize cache.size := Nat.lt_of_lt_of_le Nat.one_pos (Nat.le_max_left _ _)
  obtain ⟨key, keys, hkeys⟩ :
      ∃ key keys, cache.keysByAccess.take (batchSize cache.size) = key :: keys := by
    refine List.exists_cons_of_ne_nil fun hnil => ?_
    rcases List.take_eq_nil_iff.1 hnil with hzero | hempty
    · omega
    · have hlength := congrArg List.length hempty
      rw [keysByAccess, List.length_map, length_stableSort] at hlength
      exact hne (List.eq_nil_of_length_eq_zero hlength)
  -- the first key of the batch is that of an entry
  have hmem : key ∈ cache.keysByAccess :=
    List.mem_of_mem_take (hkeys ▸ List.mem_cons_self)
  obtain ⟨entry, hentry, hkey⟩ := List.mem_map.1 hmem
  have hcontains : Keyed.contains cache.entries key = true := by
    rw [Keyed.contains, Option.isSome_iff_ne_none, ne_eq, Keyed.get?_eq_none_iff]
    exact fun hnone => hnone entry (mem_stableSort.1 hentry) hkey
  rw [hkeys, Cache.removeAll, List.foldl_cons, if_pos hcontains]
  exact Nat.lt_of_le_of_lt (size_removeAll_le _ keys) (size_remove_lt hcontains)

/-! ### The limits -/

/-- A cache is within its limits when both its counts are. -/
theorem not_isOverCapacity_iff :
    cache.isOverCapacity = false ↔
      cache.size ≤ cache.maxEntries ∧ cache.totalBytes ≤ cache.maxBytes := by
  rw [isOverCapacity, decide_eq_false_iff_not, not_or, Nat.not_lt, Nat.not_lt]

/-- With fewer entries and bytes the limits hold as before. -/
theorem not_isOverCapacity_of_le {after : Cache} (h : cache.isOverCapacity = false)
    (hsize : after.size ≤ cache.size) (htotal : after.totalBytes ≤ cache.totalBytes)
    (hmaxEntries : after.maxEntries = cache.maxEntries)
    (hmaxBytes : after.maxBytes = cache.maxBytes) : after.isOverCapacity = false := by
  rw [not_isOverCapacity_iff] at h ⊢
  omega

/-- Taking out one entry keeps the limits. -/
theorem not_isOverCapacity_remove (h : cache.isOverCapacity = false) (key : String) :
    (cache.remove key).isOverCapacity = false := by
  unfold remove
  split
  · exact not_isOverCapacity_of_le h (List.length_filter_le _ _) (Nat.sub_le _ _) rfl rfl
  · exact h

/-- Taking out several entries keeps the limits. -/
theorem not_isOverCapacity_foldl_remove (h : cache.isOverCapacity = false) (keys : List String) :
    (keys.foldl remove cache).isOverCapacity = false := by
  induction keys generalizing cache with
  | nil => exact h
  | cons key keys ih => exact ih (not_isOverCapacity_remove h key)

/-! ### One step -/

/-- A new cache has its accounts in order. -/
theorem accounts_withLimits (maxEntries maxBytes defaultTtl : Nat) :
    Accounts (max 1 maxEntries) maxBytes (withLimits maxEntries maxBytes defaultTtl) where
  maxEntries_eq := rfl
  maxBytes_eq := rfl
  sorted := Keyed.sorted_nil
  total := rfl
  measured := fun _ h => nomatch h
  distinct := List.nodup_nil
  before := fun _ h => nomatch h

namespace Accounts

/-- The size of an entry and those of the others make the total. -/
theorem size_add_sum_erase (h : Accounts maxEntries maxBytes cache) {key : String}
    {entry : CacheEntry} (hget : Keyed.get? cache.entries key = some entry) :
    entry.size + ((Keyed.erase cache.entries key).map (·.2.size)).sum = cache.totalBytes := by
  have hperm := (h.sorted.perm_cons_erase hget).map (·.2.size)
  rw [h.total, hperm.sum_nat, List.map_cons, List.sum_cons]

/-- The account covers the size of every entry. -/
theorem size_le (h : Accounts maxEntries maxBytes cache) {key : String} {entry : CacheEntry}
    (hget : Keyed.get? cache.entries key = some entry) : entry.size ≤ cache.totalBytes := by
  have hsum := h.size_add_sum_erase hget
  omega

/-- Taking out an entry takes its size off the account. -/
theorem remove (h : Accounts maxEntries maxBytes cache) (key : String) :
    Accounts maxEntries maxBytes (cache.remove key) := by
  unfold Cache.remove
  split
  next entry hget =>
    have hsum := h.size_add_sum_erase hget
    have hsublist : (Keyed.erase cache.entries key).Sublist cache.entries := List.filter_sublist
    -- what is left is a part of the entries, so what holds of each entry goes on to hold
    constructor
    · exact h.maxEntries_eq
    · exact h.maxBytes_eq
    · exact h.sorted.erase key
    · show cache.totalBytes - entry.size = ((Keyed.erase cache.entries key).map (·.2.size)).sum
      omega
    · exact fun e he => h.measured e (hsublist.subset he)
    · exact h.distinct.sublist (hsublist.map _)
    · exact fun e he => h.before e (hsublist.subset he)
  next => exact h

/-- So taking out an entry never overdraws the account. -/
theorem remove?_eq (h : Accounts maxEntries maxBytes cache) (key : String) :
    cache.remove? key = some (cache.remove key) := by
  cases hget : Keyed.get? cache.entries key with
  | none => simp only [remove?, Cache.remove, hget]
  | some entry => simp only [remove?, hget, if_pos (h.size_le hget)]

/-! ### Eviction -/

/-- Taking out entries one after the other keeps the accounts. -/
theorem removeAll (h : Accounts maxEntries maxBytes cache) (keys : List String) :
    Accounts maxEntries maxBytes (cache.removeAll keys) := by
  induction keys generalizing cache with
  | nil => exact h
  | cons key keys ih =>
    rw [Cache.removeAll, List.foldl_cons]
    refine ih ?_
    split
    · exact { h.remove key with }
    · exact h

/-- And overdraws no account on the way. -/
theorem removeAll?_eq (h : Accounts maxEntries maxBytes cache) (keys : List String) :
    cache.removeAll? keys = some (cache.removeAll keys) := by
  induction keys generalizing cache with
  | nil => rfl
  | cons key keys ih =>
    rw [removeAll?, List.foldlM_cons, Cache.removeAll, List.foldl_cons, h.remove?_eq]
    split
    · exact ih { h.remove key with }
    · exact ih h

/-- Batches of evictions keep the accounts, however many there are. -/
theorem shrink (h : Accounts maxEntries maxBytes cache) (fuel : Nat) :
    Accounts maxEntries maxBytes (shrink fuel cache) := by
  induction fuel generalizing cache with
  | zero => exact h
  | succ fuel ih =>
    unfold Cache.shrink
    split
    · exact ih (h.removeAll _)
    · exact h

/-- Eviction ends: after as many rounds as there are entries the limits hold. -/
theorem shrink?_eq (h : Accounts maxEntries maxBytes cache) {rounds fuel : Nat}
    (hrounds : cache.size ≤ rounds) (hfuel : cache.size ≤ fuel) :
    cache.shrink? rounds = some (Cache.shrink fuel cache) := by
  -- on the fuel: each round leaves fewer entries
  induction fuel generalizing cache rounds with
  | zero =>
    have hempty : cache.entries = [] := List.eq_nil_of_length_eq_zero (Nat.le_zero.1 hfuel)
    unfold shrink?
    simp [hempty, Cache.shrink]
  | succ fuel ih =>
    unfold shrink? Cache.shrink
    split
    next hguard =>
      rw [Bool.and_eq_true, Bool.not_eq_true', List.isEmpty_eq_false_iff] at hguard
      have hround := size_removeAll_lt hguard.2
      cases rounds with
      | zero => omega
      | succ rounds =>
        simp only [h.removeAll?_eq, Option.bind_some]
        exact ih (h.removeAll _) (by omega) (by omega)
    next => rfl

/-! ### Reading and writing -/

/-- An entry that is written or read takes the clock's reading, and the clock goes on. -/
theorem insert (h : Accounts maxEntries maxBytes cache) {after : Cache} {key : String}
    {entry : CacheEntry} (hentries : after.entries = Keyed.insert cache.entries key entry)
    (htotal : after.totalBytes =
      entry.size + ((Keyed.erase cache.entries key).map (·.2.size)).sum)
    (hclock : after.clock = cache.clock + 1) (haccess : entry.lastAccess = cache.clock)
    (hmeasured : entry.size = entry.result.approxSize)
    (hmaxEntries : after.maxEntries = cache.maxEntries)
    (hmaxBytes : after.maxBytes = cache.maxBytes) : Accounts maxEntries maxBytes after := by
  have hperm := h.sorted.insert_perm key entry
  have hsublist : (Keyed.erase cache.entries key).Sublist cache.entries := List.filter_sublist
  constructor
  · rw [hmaxEntries, h.maxEntries_eq]
  · rw [hmaxBytes, h.maxBytes_eq]
  · rw [hentries]
    exact h.sorted.insert key entry
  · rw [htotal, hentries, (hperm.map (·.2.size)).sum_nat, List.map_cons, List.sum_cons]
  · rw [hentries]
    intro e he
    rcases Keyed.mem_insert he with rfl | he
    · exact hmeasured
    · exact h.measured e he
  · rw [hentries, (hperm.map (·.2.lastAccess)).nodup_iff, List.map_cons, List.nodup_cons, haccess]
    refine ⟨fun hmem => ?_, h.distinct.sublist (hsublist.map _)⟩
    obtain ⟨e, he, heq⟩ := List.mem_map.1 hmem
    have hbefore := h.before e (hsublist.subset he)
    omega
  · rw [hentries, hclock]
    intro e he
    -- the entry that is written is the newest, all others were before the clock already
    rcases Keyed.mem_insert he with rfl | he
    · show entry.lastAccess < cache.clock + 1
      omega
    · have hbefore := h.before e he
      omega

/-- A read keeps the accounts: it takes out what has expired or writes the entry back with a new
access. -/
theorem get (h : Accounts maxEntries maxBytes cache) (now : Nat) (key : CacheKey) :
    Accounts maxEntries maxBytes (cache.get now key).2 := by
  unfold Cache.get
  split
  next entry hget =>
    split
    · exact { h.remove key.text with }
    · exact h.insert rfl (h.size_add_sum_erase hget).symm rfl rfl
        (h.measured _ (Keyed.mem_of_get?_eq_some hget)) rfl rfl
  next => exact { h with }

/-- A read overdraws no account. -/
theorem get?_eq (h : Accounts maxEntries maxBytes cache) (now : Nat) (key : CacheKey) :
    cache.get? now key = some (cache.get now key).2 := by
  unfold Cache.get?
  split
  next entry hget =>
    split
    next hexpired =>
      rw [h.remove?_eq, Cache.get, hget]
      simp only [if_pos hexpired, Option.map_some]
    next => rfl
  next => rfl

/-- The entry that is replaced and the others make the total. -/
theorem replacedSize_add_sum_erase (h : Accounts maxEntries maxBytes cache) (key : CacheKey) :
    cache.replacedSize key + ((Keyed.erase cache.entries key.text).map (·.2.size)).sum =
      cache.totalBytes := by
  unfold replacedSize
  split
  next previous hget => exact h.size_add_sum_erase hget
  next hget => rw [Keyed.erase_of_get?_eq_none hget, Nat.zero_add, h.total]

/-- Writing a result keeps the accounts: the replaced entry's size is taken off, the new one's is
added. -/
theorem written (h : Accounts maxEntries maxBytes cache) (now : Nat) (key : CacheKey)
    (result : ResultPage) (ttl : Option Nat) :
    Accounts maxEntries maxBytes (cache.written now key result ttl) := by
  have hsum := h.replacedSize_add_sum_erase key
  refine h.insert rfl ?_ rfl rfl rfl rfl rfl
  show cache.totalBytes - cache.replacedSize key + result.approxSize =
    result.approxSize + ((Keyed.erase cache.entries key.text).map (·.2.size)).sum
  omega

/-- A write keeps the accounts, whether it refuses, writes or evicts. -/
theorem put (h : Accounts maxEntries maxBytes cache) (now : Nat) (key : CacheKey)
    (result : ResultPage) (ttl : Option Nat) :
    Accounts maxEntries maxBytes (cache.put now key result ttl) := by
  rw [put_eq]
  split
  · exact h
  · split
    · exact ((h.written now key result ttl).removeAll _).shrink _
    · exact h.written now key result ttl

/-- A write overdraws no account, and its eviction ends within the rounds. -/
theorem put?_eq (h : Accounts maxEntries maxBytes cache) (hlimits : cache.isOverCapacity = false)
    {rounds : Nat} (hrounds : maxEntries < rounds) (now : Nat) (key : CacheKey)
    (result : ResultPage) (ttl : Option Nat) :
    cache.put? rounds now key result ttl = some (cache.put now key result ttl) := by
  have hreplaced : ¬ cache.totalBytes < cache.replacedSize key := by
    have hsum := h.replacedSize_add_sum_erase key
    omega
  have hwritten := h.written now key result ttl
  -- a write adds one entry at most, so there is a round for each entry
  have hsize : (cache.written now key result ttl).size ≤ rounds := by
    have hinsert := Keyed.length_insert_le cache.entries key.text
      (⟨result, cache.expiry now ttl, cache.clock, 0, result.approxSize⟩ : CacheEntry)
    have hcount := (not_isOverCapacity_iff.1 hlimits).1
    rw [h.maxEntries_eq] at hcount
    exact Nat.le_trans hinsert (by rw [size] at hcount; omega)
  -- a refusal and a plain write take no rounds, so eviction is the case that counts
  rw [put_eq]
  unfold put?
  simp only [if_neg hreplaced]
  split
  · rfl
  · split
    · rw [evict?, hwritten.removeAll?_eq, Option.bind_some]
      refine (hwritten.removeAll _).shrink?_eq ?_ (Nat.le_refl _)
      exact Nat.le_trans (size_removeAll_le _ _) hsize
    · rfl

/-! ### The limits after a call -/

/-- A cache without entries is within its limits. -/
theorem not_isOverCapacity_of_empty (h : Accounts maxEntries maxBytes cache)
    (hempty : cache.entries = []) : cache.isOverCapacity = false := by
  have htotal := h.total
  rw [hempty, List.map_nil, List.sum_nil] at htotal
  rw [not_isOverCapacity_iff, size, hempty, htotal]
  exact ⟨Nat.zero_le _, Nat.zero_le _⟩

/-- Eviction goes on until the limits hold. -/
theorem not_isOverCapacity_shrink (h : Accounts maxEntries maxBytes cache) {fuel : Nat}
    (hfuel : cache.size ≤ fuel) : (Cache.shrink fuel cache).isOverCapacity = false := by
  induction fuel generalizing cache with
  | zero =>
    exact h.not_isOverCapacity_of_empty (List.eq_nil_of_length_eq_zero (Nat.le_zero.1 hfuel))
  | succ fuel ih =>
    unfold Cache.shrink
    split
    next hguard =>
      rw [Bool.and_eq_true, Bool.not_eq_true', List.isEmpty_eq_false_iff] at hguard
      have hround := size_removeAll_lt hguard.2
      exact ih (h.removeAll _) (by omega)
    next hguard =>
      -- the loop stops within the limits or at a cache without entries
      rw [Bool.not_eq_true, Bool.and_eq_false_iff, Bool.not_eq_false', List.isEmpty_iff] at hguard
      exact hguard.elim id h.not_isOverCapacity_of_empty

/-- After a write the limits hold, if they held before. -/
theorem not_isOverCapacity_put (h : Accounts maxEntries maxBytes cache)
    (hlimits : cache.isOverCapacity = false) (now : Nat) (key : CacheKey) (result : ResultPage)
    (ttl : Option Nat) : (cache.put now key result ttl).isOverCapacity = false := by
  rw [put_eq]
  split
  · exact hlimits
  · split
    · exact ((h.written now key result ttl).removeAll _).not_isOverCapacity_shrink (Nat.le_refl _)
    next hover => exact Bool.not_eq_true _ ▸ hover

/-- After a read the limits hold, if they held before. -/
theorem not_isOverCapacity_get (h : Accounts maxEntries maxBytes cache)
    (hlimits : cache.isOverCapacity = false) (now : Nat) (key : CacheKey) :
    (cache.get now key).2.isOverCapacity = false := by
  unfold Cache.get
  split
  next entry hget =>
    split
    · exact not_isOverCapacity_remove hlimits key.text
    · -- the entry that is read is written back in its place
      have hbefore := (h.sorted.perm_cons_erase hget).length_eq
      have hafter := (h.sorted.insert_perm key.text
        { entry with hits := entry.hits + 1, lastAccess := cache.clock }).length_eq
      rw [List.length_cons] at hbefore hafter
      refine not_isOverCapacity_of_le hlimits ?_ (Nat.le_refl _) rfl rfl
      exact Nat.le_of_eq (hafter.trans hbefore.symm)
  next => exact hlimits

/-! ### Taking out by keys -/

/-- Taking out entries by their keys keeps the accounts. -/
theorem foldl_remove (h : Accounts maxEntries maxBytes cache) (keys : List String) :
    Accounts maxEntries maxBytes (keys.foldl Cache.remove cache) := by
  induction keys generalizing cache with
  | nil => exact h
  | cons key keys ih => exact ih (h.remove key)

/-- And overdraws no account. -/
theorem foldlM_remove? (h : Accounts maxEntries maxBytes cache) (keys : List String) :
    keys.foldlM remove? cache = some (keys.foldl Cache.remove cache) := by
  induction keys generalizing cache with
  | nil => rfl
  | cons key keys ih =>
    rw [List.foldlM_cons, h.remove?_eq]
    exact ih (h.remove key)

/-- A cleared cache has its accounts in order. -/
theorem clear (h : Accounts maxEntries maxBytes cache) :
    Accounts maxEntries maxBytes cache.clear where
  maxEntries_eq := h.maxEntries_eq
  maxBytes_eq := h.maxBytes_eq
  sorted := Keyed.sorted_nil
  total := rfl
  measured := fun _ h => nomatch h
  distinct := List.nodup_nil
  before := fun _ h => nomatch h

/-! ### Calls -/

/-- Every call keeps the accounts. -/
theorem apply (h : Accounts maxEntries maxBytes cache) (now : Nat) (call : Call) :
    Accounts maxEntries maxBytes (cache.apply now call) := by
  cases call with
  | put key result ttl => exact h.put now key result ttl
  | get key => exact h.get now key
  | invalidateEntity entity => exact h.foldl_remove _
  | clear => exact h.clear

/-- No call overdraws the account, and eviction ends. -/
theorem perform?_eq (h : Accounts maxEntries maxBytes cache)
    (hlimits : cache.isOverCapacity = false)
    {rounds : Nat} (hrounds : maxEntries < rounds) (now : Nat) (call : Call) :
    cache.perform? rounds now call = some (cache.apply now call) := by
  cases call with
  | put key result ttl => exact h.put?_eq hlimits hrounds now key result ttl
  | get key => exact h.get?_eq now key
  | invalidateEntity entity => exact h.foldlM_remove? _
  | clear => rfl

/-- Every call leaves the cache within its limits. -/
theorem not_isOverCapacity_apply (h : Accounts maxEntries maxBytes cache)
    (hlimits : cache.isOverCapacity = false) (now : Nat) (call : Call) :
    (cache.apply now call).isOverCapacity = false := by
  cases call with
  | put key result ttl => exact h.not_isOverCapacity_put hlimits now key result ttl
  | get key => exact h.not_isOverCapacity_get hlimits now key
  | invalidateEntity entity => exact not_isOverCapacity_foldl_remove hlimits _
  | clear => exact not_isOverCapacity_of_le hlimits (Nat.zero_le _) (Nat.zero_le _) rfl rfl

end Accounts

/-- A run of calls keeps the accounts and the limits, and overdraws no account. -/
theorem run_of_accounts (h : Accounts maxEntries maxBytes cache)
    (hlimits : cache.isOverCapacity = false) {rounds : Nat} (hrounds : maxEntries < rounds)
    (calls : List (Nat × Call)) :
    Accounts maxEntries maxBytes (cache.run calls) ∧ (cache.run calls).isOverCapacity = false ∧
      cache.run? rounds calls = some (cache.run calls) := by
  induction calls generalizing cache with
  | nil => exact ⟨h, hlimits, rfl⟩
  | cons call calls ih =>
    rw [run, List.foldl_cons, run?, List.foldlM_cons, h.perform?_eq hlimits hrounds]
    exact ih (h.apply _ _) (h.not_isOverCapacity_apply hlimits _ _)

/-- Whatever is asked of a cache and whenever: its total is the sum of the sizes of its entries,
each of which is the size of its result; it has no more entries and bytes than it may have; the
readings of the clock at the last accesses are all different and before the clock; and nothing that
was taken off the account on the way was more than was there, while each eviction ended after at
most one round more than the cache may have entries. -/
theorem accounts_run (maxEntries maxBytes defaultTtl : Nat) (calls : List (Nat × Call)) :
    let cache := (withLimits maxEntries maxBytes defaultTtl).run calls
    cache.totalBytes = (cache.entries.map (·.2.size)).sum ∧
      (∀ entry ∈ cache.entries, entry.2.size = entry.2.result.approxSize) ∧
      cache.size ≤ max 1 maxEntries ∧ cache.totalBytes ≤ maxBytes ∧
      (cache.entries.map (·.2.lastAccess)).Nodup ∧
      (∀ entry ∈ cache.entries, entry.2.lastAccess < cache.clock) ∧
      (withLimits maxEntries maxBytes defaultTtl).run? (max 1 maxEntries + 1) calls =
        some cache := by
  -- a new cache is empty and so within its limits; the rest is the run from there
  have hstart : (withLimits maxEntries maxBytes defaultTtl).isOverCapacity = false :=
    not_isOverCapacity_iff.2 ⟨Nat.zero_le _, Nat.zero_le _⟩
  obtain ⟨haccounts, hlimits, hrun⟩ :=
    run_of_accounts (accounts_withLimits maxEntries maxBytes defaultTtl) hstart
      (Nat.lt_succ_self _) calls
  obtain ⟨hcount, hbytes⟩ := not_isOverCapacity_iff.1 hlimits
  rw [haccounts.maxEntries_eq] at hcount
  rw [haccounts.maxBytes_eq] at hbytes
  exact ⟨haccounts.total, haccounts.measured, hcount, hbytes, haccounts.distinct,
    haccounts.before, hrun⟩

end DualQuery.Cache
