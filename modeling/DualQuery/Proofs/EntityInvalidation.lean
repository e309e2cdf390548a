import DualQuery.Proofs.KeyMaterial
import DualQuery.Proofs.SupersededResults

/-!
# Taking out the results of an entity

A derived key ends in a colon and hexadecimal digits, none of which is a colon. What stands before
the last colon is the entity, therefore, whatever colons the entity has itself. A cache that is
written under derived keys only holds entries of no other keys, so asking the keys for their entity
finds the entries of the entity and no others.

## Key results

- `CacheKey.entity_derive`: the entity of a derived key
- `Cache.entries_invalidateEntity`: what is left
- `Cache.Accounts.totalBytes_invalidateEntity`: the bytes that are taken off the account
- `Cache.invalidateEntity_exact`: all of it for derived keys
-/

namespace DualQuery

namespace CacheKey

/-! ## The entity of a key -/

/-- No hexadecimal digit is a colon. -/
theorem digitChar_ne_colon : ∀ n < 16, Nat.digitChar n ≠ ':' := by decide

/-- A written digest has no colon. -/
theorem colon_not_mem_hexDigits (digest : UInt64) : ':' ∉ hexDigits digest := by
  intro hmem
  obtain ⟨i, -, hdigit⟩ := List.mem_map.1 hmem
  -- every digit stands for four bits
  have hlt : (digest.toNat >>> (4 * (15 - i))) % 16 < 16 := Nat.mod_lt _ (by decide)
  rw [Nat.toDigits_of_lt_base hlt] at hdigit
  exact digitChar_ne_colon _ hlt hdigit

/-- The entity is read back from a key, colons of its own included. -/
theorem entity_ofDigest (entity : String) (digest : UInt64) :
    (ofDigest entity digest).entity = entity := by
  have hdigits : ∀ c ∈ (hexDigits digest).reverse, decide (c ≠ ':') = true := fun c hc =>
    decide_eq_true fun heq => colon_not_mem_hexDigits digest (heq ▸ List.mem_reverse.1 hc)
  -- the last colon is the first one from behind
  have hreverse : (ofDigest entity digest).text.toList.reverse =
      (hexDigits digest).reverse ++ ':' :: entity.toList.reverse := by
    simp [ofDigest]
  rw [CacheKey.entity, hreverse, List.dropWhile_append_of_pos hdigits,
    List.dropWhile_cons_of_neg (by simp), List.drop_one, List.tail_cons, List.reverse_reverse,
    String.ofList_toList]

/-- The entity of a derived key is that of the context. -/
theorem entity_derive (ctx : QueryContext) (d : Descriptor) : (derive ctx d).entity = ctx.entity :=
  entity_ofDigest _ _

end CacheKey

namespace Cache

variable {cache : Cache}

/-! ## What is left -/

/-- The entries that are left are those whose keys are of other entities. -/
theorem entries_invalidateEntity (cache : Cache) (entity : String) :
    (cache.invalidateEntity entity).entries =
      cache.entries.filter fun entry => (CacheKey.mk entry.1).entity != entity := by
  rw [invalidateEntity, entries_foldl_remove]
  refine List.filter_congr fun entry hentry => ?_
  have hkey : entry.1 ∈ Keyed.keys cache.entries := List.mem_map_of_mem hentry
  cases hentity : (CacheKey.mk entry.1).entity == entity <;> simp [bne, hentity, hkey]

/-- What is read under a key of another entity is there as before, and nothing is under the keys of
the entity. -/
theorem entry_invalidateEntity (cache : Cache) (entity : String) (key : CacheKey) :
    Cache.entry? (cache.invalidateEntity entity) key =
      if key.entity = entity then none else cache.entry? key := by
  rw [Cache.entry?, entries_invalidateEntity,
    Keyed.get?_filter cache.entries fun key => (CacheKey.mk key).entity != entity]
  by_cases hentity : key.entity = entity <;> simp [hentity, Cache.entry?]

/-- Taking out keys changes nothing but the entries and the account. -/
theorem foldl_remove_eq (keys : List String) (cache : Cache) :
    ∃ entries totalBytes, keys.foldl remove cache =
      { cache with entries := entries, totalBytes := totalBytes } := by
  induction keys generalizing cache with
  | nil => exact ⟨_, _, rfl⟩
  | cons key keys ih =>
    obtain ⟨entries, totalBytes, hrest⟩ := ih (cache.remove key)
    refine ⟨entries, totalBytes, hrest.trans ?_⟩
    unfold remove
    split <;> rfl

/-- Taking out the results of an entity changes nothing but the entries and the account of their
bytes. -/
theorem invalidateEntity_eq (cache : Cache) (entity : String) :
    cache.invalidateEntity entity =
      { cache with
        entries := (cache.invalidateEntity entity).entries
        totalBytes := (cache.invalidateEntity entity).totalBytes } := by
  obtain ⟨entries, totalBytes, heq⟩ := foldl_remove_eq
    ((Keyed.keys cache.entries).filter fun key => (CacheKey.mk key).entity == entity) cache
  rw [invalidateEntity, heq]

/-! ## The account -/

/-- The entries of a cache under whose keys another cache has none. -/
def missingIn (cache after : Cache) : Keyed CacheEntry :=
  cache.entries.filter fun entry => !Keyed.contains after.entries entry.1

/-- What is gone once the results of an entity are taken out are the entries of its keys. -/
theorem missingIn_invalidateEntity (cache : Cache) (entity : String) :
    cache.missingIn (cache.invalidateEntity entity) =
      cache.entries.filter fun entry => !((CacheKey.mk entry.1).entity != entity) := by
  refine List.filter_congr fun entry hentry => ?_
  -- an entry of the cache is found under its own key, since reading asks by key
  have hthere : cache.entry? ⟨entry.1⟩ ≠ none := fun hnone =>
    Keyed.get?_eq_none_iff.1 hnone entry hentry rfl
  show (!(Cache.entry? (cache.invalidateEntity entity) ⟨entry.1⟩).isSome) = _
  rw [entry_invalidateEntity]
  by_cases hentity : (CacheKey.mk entry.1).entity = entity
  · simp [hentity]
  · simp [hentity, Option.isSome_iff_ne_none.2 hthere]

/-- The sizes of the entries that are taken out are taken off the account. -/
theorem Accounts.totalBytes_invalidateEntity {maxEntries maxBytes : Nat}
    (h : Accounts maxEntries maxBytes cache) (entity : String) :
    (cache.invalidateEntity entity).totalBytes +
        ((cache.missingIn (cache.invalidateEntity entity)).map (·.2.size)).sum =
      cache.totalBytes := by
  have hafter : Accounts maxEntries maxBytes (cache.invalidateEntity entity) := h.foldl_remove _
  have hsplit := List.filter_append_perm
    (fun entry : String × CacheEntry => (CacheKey.mk entry.1).entity != entity) cache.entries
  rw [hafter.total, entries_invalidateEntity, missingIn_invalidateEntity, h.total,
    ← List.sum_append, ← List.map_append, (hsplit.map (·.2.size)).sum_nat]

/-! ## Derived keys -/

/-- Whether all writes among calls are to derived keys. -/
def WritesDerived (calls : List (Nat × Call)) : Prop :=
  ∀ call ∈ calls, ∀ key result ttl, call.2 = .put key result ttl →
    ∃ ctx d, key = CacheKey.derive ctx d

/-- A cache that is written under derived keys has entries of no other keys. -/
theorem exists_derive_of_mem_run {maxEntries maxBytes defaultTtl : Nat}
    {calls : List (Nat × Call)} (hcalls : WritesDerived calls) {entry : String × CacheEntry}
    (hentry : entry ∈ ((withLimits maxEntries maxBytes defaultTtl).run calls).entries) :
    ∃ ctx d, entry.1 = (CacheKey.derive ctx d).text := by
  rcases mem_run hentry with ⟨old, hold, -⟩ | ⟨call, hcall, key, ttl, hput, hkey⟩
  · cases hold
  · obtain ⟨ctx, d, hderived⟩ := hcalls call hcall _ _ _ hput
    exact ⟨ctx, d, by rw [← hkey, hderived]⟩

/-- In a cache that is written under derived keys only, taking out the results of an entity leaves
no entry that was derived for it, and every other entry as it was. The account drops by the sizes
of the entries that are gone, and nothing else changes. -/
theorem invalidateEntity_exact (maxEntries maxBytes defaultTtl : Nat)
    {calls : List (Nat × Call)} (hcalls : WritesDerived calls) (entity : String) :
    let before := (withLimits maxEntries maxBytes defaultTtl).run calls
    let after := before.invalidateEntity entity
    (∀ ctx d, after.entry? (.derive ctx d) =
      if ctx.entity = entity then none else before.entry? (.derive ctx d)) ∧
      (∀ entry ∈ before.entries, (∃ ctx d, entry.1 = (CacheKey.derive ctx d).text) ∧
        ∀ ctx d, entry.1 = (CacheKey.derive ctx d).text →
          (entry ∈ after.entries ↔ ctx.entity ≠ entity)) ∧
      after.entries.Sublist before.entries ∧
      after.totalBytes + ((before.missingIn after).map (·.2.size)).sum = before.totalBytes ∧
      after = { before with entries := after.entries, totalBytes := after.totalBytes } := by
  intro before after
  have hreachable : before.IsReachable := ⟨maxEntries, maxBytes, defaultTtl, calls, rfl⟩
  have hentries : after.entries =
      before.entries.filter fun entry => (CacheKey.mk entry.1).entity != entity :=
    entries_invalidateEntity before entity
  refine ⟨fun ctx d => ?_, fun entry hentry =>
      ⟨exists_derive_of_mem_run hcalls hentry, fun ctx d hkey => ?_⟩, ?_,
    hreachable.accounts.1.totalBytes_invalidateEntity entity, invalidateEntity_eq before entity⟩
  · rw [entry_invalidateEntity, CacheKey.entity_derive]
  · -- the key of the entry may be derived in several ways, but its entity is read off the text
    have hentity : (CacheKey.mk entry.1).entity = ctx.entity := by
      rw [hkey]
      exact CacheKey.entity_derive ctx d
    rw [hentries, List.mem_filter, hentity]
    simp [hentry]
  · rw [hentries]
    exact List.filter_sublist

/-- Writes of an empty page to two keys, one after the other. -/
def pairCalls (first second : CacheKey) : List (Nat × Call) :=
  [(0, .put first default none), (1, .put second default none)]

/-- The key of all records of an entity. -/
def tenantKey : CacheKey := .derive { entity := "tenant" } {}

/-- The key of all records of another entity, whose name begins with that of the first and a
colon. -/
def tenantOrdersKey : CacheKey := .derive { entity := "tenant:orders" } {}

/-- The second of two writes is there. -/
theorem exists_entry_pairCalls (first second : CacheKey) :
    ∃ entry, Cache.entry? ((withLimits 10 1000 60).run (pairCalls first second)) second =
      some entry := by
  have hread : ((((withLimits 10 1000 60).put 0 first default none).put 1 second default none).get 2
      second).1 = some default :=
    fst_get_put (show 1 < 10 by decide) (show 208 + 208 ≤ 1000 by decide)
      (show 1 + 60 < endOfTime by decide) (show 2 < 1 + 60 by decide)
  obtain ⟨entry, hentry, -⟩ := fst_get_eq_some_iff.1 hread
  exact ⟨entry, hentry⟩

/-- An entity whose name leads on from another one with a colon keeps its results. -/
theorem invalidateEntity_exact_tenant :
    let before := (withLimits 10 1000 60).run (pairCalls tenantKey tenantOrdersKey)
    let after := before.invalidateEntity "tenant"
    WritesDerived (pairCalls tenantKey tenantOrdersKey) ∧ after.entry? tenantKey = none ∧
      ∃ entry, before.entry? tenantOrdersKey = some entry ∧
        after.entry? tenantOrdersKey = some entry := by
  intro before after
  have hcalls : WritesDerived (pairCalls tenantKey tenantOrdersKey) := by
    intro call hcall key result ttl hput
    simp only [pairCalls, List.mem_cons, List.not_mem_nil, or_false] at hcall
    rcases hcall with rfl | rfl <;> obtain ⟨rfl, -, -⟩ := Call.put.inj hput <;> exact ⟨_, _, rfl⟩
  obtain ⟨hentries, -⟩ := invalidateEntity_exact 10 1000 60 hcalls "tenant"
  have htenant := hentries { entity := "tenant" } {}
  have horders := hentries { entity := "tenant:orders" } {}
  rw [if_pos rfl] at htenant
  rw [if_neg (by decide)] at horders
  obtain ⟨entry, hentry⟩ := exists_entry_pairCalls tenantKey tenantOrdersKey
  exact ⟨hcalls, htenant, entry, hentry, horders.trans hentry⟩

end Cache

end DualQuery
