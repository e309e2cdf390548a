import DualQuery.Cache.Basic
import DualQuery.Proofs.KeyedOrder

/-!
# What a cache holds

Reading, expiry and eviction change no result under a key, and only a write adds one. A relation
between keys and results that every write respects, `Cache.Holds`, is therefore kept by a cache,
whatever its limits and times are, and what is read from the cache is in that relation to its key.

## Key results

- `Cache.entries_evict_subset`: eviction only takes entries out
- `Cache.Holds.get`, `Cache.of_get_eq_some`: reading
- `Cache.Holds.put`, `Cache.fst_get_put`: writing
-/

namespace DualQuery.Cache

variable {P : String → ResultPage → Prop} {cache : Cache}

/-- Every result is in a relation to the key that it is held under. -/
def Holds (P : String → ResultPage → Prop) (cache : Cache) : Prop :=
  ∀ entry ∈ cache.entries, P entry.1 entry.2.result

/-- An empty cache holds whatever it should. -/
theorem holds_of_entries_eq_nil (h : cache.entries = []) : cache.Holds P := by
  intro entry hentry
  rw [h] at hentry
  cases hentry

/-- A cache with fewer entries holds as well. -/
theorem Holds.of_subset {cache' : Cache} (h : cache.Holds P)
    (hsub : cache'.entries ⊆ cache.entries) : cache'.Holds P :=
  fun entry hentry => h entry (hsub hentry)

/-! ## Taking out -/

/-- Taking out a key takes entries out. -/
theorem entries_remove_subset (cache : Cache) (key : String) :
    (cache.remove key).entries ⊆ cache.entries := by
  unfold remove
  split
  · exact List.filter_sublist.subset
  · exact List.Subset.refl _

/-- Taking out several keys takes entries out. -/
theorem entries_removeAll_subset (keys : List String) (cache : Cache) :
    (cache.removeAll keys).entries ⊆ cache.entries := by
  induction keys generalizing cache with
  | nil => exact List.Subset.refl _
  | cons key keys ih =>
    rw [removeAll, List.foldl_cons]
    refine List.Subset.trans (ih _) ?_
    split
    · exact entries_remove_subset cache key
    · exact List.Subset.refl _

/-- Shrinking only takes entries out. -/
theorem entries_shrink_subset (fuel : Nat) (cache : Cache) :
    (shrink fuel cache).entries ⊆ cache.entries := by
  -- on the fuel: each round takes out some entries more
  induction fuel generalizing cache with
  | zero => exact List.Subset.refl _
  | succ fuel ih =>
    unfold shrink
    split
    · exact List.Subset.trans (ih _) (entries_removeAll_subset _ cache)
    · exact List.Subset.refl _

/-- Eviction only takes entries out. -/
theorem entries_evict_subset (cache : Cache) (now : Nat) :
    (cache.evict now).entries ⊆ cache.entries :=
  List.Subset.trans (entries_shrink_subset _ _) (entries_removeAll_subset _ cache)

/-! ## Reading -/

/-- What is read is in the relation to the key it is read under. -/
theorem of_get_eq_some (h : cache.Holds P) {now : Nat} {key : CacheKey} {page : ResultPage}
    (hget : (cache.get now key).1 = some page) : P key.text page := by
  unfold get at hget
  split at hget
  next entry hentry =>
    split at hget
    · cases hget
    · obtain rfl := Option.some.inj hget
      exact h _ (Keyed.mem_of_get?_eq_some hentry)
  next => cases hget

/-- Reading keeps the results under their keys. -/
theorem Holds.get (h : cache.Holds P) (now : Nat) (key : CacheKey) :
    (cache.get now key).2.Holds P := by
  unfold Cache.get
  split
  next entry hentry =>
    split
    · exact h.of_subset (entries_remove_subset cache key.text)
    · -- the entry is written back with its accounts changed and its result as it was
      intro written hwritten
      rcases Keyed.mem_insert hwritten with rfl | hwritten
      · have hread : P key.text entry.result := h _ (Keyed.mem_of_get?_eq_some hentry)
        exact hread
      · exact h written hwritten
  next => exact h

/-! ## Writing -/

/-- A result is put in if it is no larger than the cache and there is a time at which it expires. -/
theorem refuses_eq_false_iff {cache : Cache} {now : Nat} {result : ResultPage}
    {ttl : Option Nat} : cache.refuses now result ttl = false ↔
      result.approxSize ≤ cache.maxBytes ∧ cache.expiry now ttl < endOfTime := by
  rw [refuses, decide_eq_false_iff_not, not_or, Nat.not_lt, Nat.not_le]

/-- A write adds nothing but what is written, and evicts if it has to. -/
theorem Holds.put (h : cache.Holds P) {key : CacheKey} {page : ResultPage}
    (hpage : P key.text page) (now : Nat) (ttl : Option Nat) :
    (cache.put now key page ttl).Holds P := by
  have hwritten : ∀ {written : Cache} {entry : CacheEntry}, entry.result = page →
      written.entries = Keyed.insert cache.entries key.text entry → written.Holds P := by
    intro written entry hentry hentries added hadded
    rw [hentries] at hadded
    rcases Keyed.mem_insert hadded with rfl | hadded
    · exact hentry ▸ hpage
    · exact h added hadded
  -- eviction may take out anything, the entry that was just written included
  have hlimited : ∀ {written : Cache}, written.Holds P →
      Holds P (if written.isOverCapacity then written.evict now else written) := by
    intro written hwritten
    split
    · exact hwritten.of_subset (entries_evict_subset written now)
    · exact hwritten
  unfold Cache.put
  simp only
  split
  · exact h
  · exact hlimited (hwritten rfl rfl)

/-- What is written is read until it expires, if there is room for it. -/
theorem fst_get_put {now now' : Nat} {key : CacheKey} {page : ResultPage} {ttl : Option Nat}
    (hentries : cache.size < cache.maxEntries)
    (hbytes : cache.totalBytes + page.approxSize ≤ cache.maxBytes)
    (hclock : cache.expiry now ttl < endOfTime) (htime : now' < cache.expiry now ttl) :
    ((cache.put now key page ttl).get now' key).1 = some page := by
  have hput : (cache.put now key page ttl).entries = Keyed.insert cache.entries key.text
      ⟨page, cache.expiry now ttl, cache.clock, 0, page.approxSize⟩ := by
    have hlength := Keyed.length_insert_le cache.entries key.text
      (⟨page, cache.expiry now ttl, cache.clock, 0, page.approxSize⟩ : CacheEntry)
    have hadmits : cache.refuses now page ttl = false :=
      refuses_eq_false_iff.2 ⟨by omega, hclock⟩
    -- an entry under the same key is replaced, which takes less room than is counted here
    have hlimits : ∀ {written : Cache}, written.size ≤ cache.size + 1 →
        written.totalBytes ≤ cache.totalBytes + page.approxSize →
        written.maxEntries = cache.maxEntries → written.maxBytes = cache.maxBytes →
        written.isOverCapacity = false := by
      intro written hsize htotal hmaxEntries hmaxBytes
      rw [isOverCapacity, decide_eq_false_iff_not]
      omega
    unfold Cache.put
    rw [if_neg (Bool.eq_false_iff.1 hadmits)]
    simp only
    rw [if_neg]
    rw [Bool.not_eq_true]
    exact hlimits hlength (Nat.add_le_add_right (Nat.sub_le _ _) _) rfl rfl
  rw [Cache.get, entry?, hput, Keyed.get?_insert_self]
  simp only
  rw [if_neg (Nat.not_le.2 htime)]

end DualQuery.Cache
