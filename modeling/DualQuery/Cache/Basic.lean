import DualQuery.Cache.Key
import DualQuery.Result

/-!
# The result cache

Results are kept for a time, up to a number of entries and of bytes. When a result put in goes
beyond either limit, expired entries go first and then, by fifths, those that were read or written
least recently. Times are given by the caller, in milliseconds of a clock that never goes back; the
order of accesses is kept by a clock of the cache's own.

The accounts are natural numbers here. In a program they are words of 64 bits, which no run fills:
the cache's own clock goes on by one with each access, so at a billion accesses a second it would
come around after five centuries. Times to live are another matter, since the caller chooses them:
`put` says what becomes of one that leads past the end of the clock.
-/

namespace DualQuery

/-- A cached result. -/
structure CacheEntry where
  result : ResultPage
  /-- The time from which the entry counts no more. -/
  expiresAt : Nat
  /-- The reading of the cache's clock at the last read or write. -/
  lastAccess : Nat
  hits : Nat
  size : Nat
  deriving Repr, Inhabited

/-- Cached results with their accounts. -/
structure Cache where
  entries : Keyed CacheEntry := []
  totalBytes : Nat := 0
  /-- The number of reads that found a result and of writes so far. -/
  clock : Nat := 0
  maxEntries : Nat
  maxBytes : Nat
  /-- How long a result is kept by default, in milliseconds. -/
  defaultTtl : Nat
  hits : Nat := 0
  misses : Nat := 0
  evictions : Nat := 0
  deriving Repr, Inhabited

namespace Cache

/-- An empty cache; at least one entry is admitted. -/
def withLimits (maxEntries maxBytes defaultTtl : Nat) : Cache :=
  { maxEntries := max 1 maxEntries, maxBytes := maxBytes, defaultTtl := defaultTtl }

/-- The empty cache of a configuration. -/
def ofConfig (c : Config) : Cache :=
  withLimits c.cacheMaxEntries c.cacheMaxBytes (c.cacheTtlSecs * 1000)

/-- The number of entries. -/
def size (cache : Cache) : Nat := cache.entries.length

/-- The entry under a key, expired or not. -/
def entry? (cache : Cache) (key : CacheKey) : Option CacheEntry :=
  Keyed.get? cache.entries key.text

/-- Whether there is an entry under a key, expired or not. -/
def contains (cache : Cache) (key : CacheKey) : Bool := (cache.entry? key).isSome

/-- Take an entry out, and its size off the account. -/
def remove (cache : Cache) (key : String) : Cache :=
  match Keyed.get? cache.entries key with
  | some entry =>
    { cache with
      entries := Keyed.erase cache.entries key
      totalBytes := cache.totalBytes - entry.size }
  | none => cache

/-- Read the result under a key at a time. An expired entry is taken out. -/
def get (cache : Cache) (now : Nat) (key : CacheKey) : Option ResultPage × Cache :=
  match cache.entry? key with
  | some entry =>
    if entry.expiresAt ≤ now then
      (none, { cache.remove key.text with misses := cache.misses + 1 })
    else
      let entry := { entry with hits := entry.hits + 1, lastAccess := cache.clock }
      (some entry.result,
        { cache with
          entries := Keyed.insert cache.entries key.text entry
          clock := cache.clock + 1
          hits := cache.hits + 1 })
  | none => (none, { cache with misses := cache.misses + 1 })

/-- Whether a limit is passed. -/
def isOverCapacity (cache : Cache) : Bool :=
  decide (cache.maxEntries < cache.size ∨ cache.maxBytes < cache.totalBytes)

/-- Take entries out one after the other and count those that were there. -/
def removeAll (cache : Cache) (keys : List String) : Cache :=
  keys.foldl (fun cache key =>
    if Keyed.contains cache.entries key then
      { cache.remove key with evictions := cache.evictions + 1 }
    else cache) cache

/-- The keys of entries that have expired. -/
def expiredKeys (cache : Cache) (now : Nat) : List String :=
  (cache.entries.filter fun entry => decide (entry.2.expiresAt ≤ now)).map (·.1)

/-- The number of entries to take out at once: a fifth, rounded up, and at least one. -/
def batchSize (count : Nat) : Nat := max 1 ((count + 4) / 5)

/-- The keys of the entries, the one accessed least recently first. -/
def keysByAccess (cache : Cache) : List String :=
  (stableSort (fun a b => decide (a.2.lastAccess < b.2.lastAccess)) cache.entries).map (·.1)

/-- Take out batches of the least recently accessed entries until both limits hold, at most `fuel`
batches. -/
def shrink : Nat → Cache → Cache
  | 0, cache => cache
  | fuel + 1, cache =>
    if cache.isOverCapacity && !cache.entries.isEmpty then
      shrink fuel (cache.removeAll (cache.keysByAccess.take (batchSize cache.size)))
    else cache

/-- Take out expired entries and then the least recently accessed ones until both limits hold. -/
def evict (cache : Cache) (now : Nat) : Cache :=
  let cache := cache.removeAll (cache.expiredKeys now)
  shrink cache.size cache

/-- The end of the clock, whose seconds are counted in 63 bits. -/
def endOfTime : Nat := 0x8000000000000000 * 1000

/-- The time from which a result that is put in counts no more. -/
def expiry (cache : Cache) (now : Nat) (ttl : Option Nat) : Nat := now + ttl.getD cache.defaultTtl

/-- Whether a result cannot be put in at a time: it is larger than the cache, or it would expire
behind the end of the clock. -/
def refuses (cache : Cache) (now : Nat) (result : ResultPage) (ttl : Option Nat) : Bool :=
  decide (cache.maxBytes < result.approxSize ∨ endOfTime ≤ cache.expiry now ttl)

/-- Keep a result under a key, unless it is refused. A result that is too large is passed over; one
whose end the clock cannot tell breaks the call off, before it has stored anything. -/
def put (cache : Cache) (now : Nat) (key : CacheKey) (result : ResultPage) (ttl : Option Nat) :
    Cache :=
  if cache.refuses now result ttl then cache
  else
    let size := result.approxSize
    let entry : CacheEntry := ⟨result, cache.expiry now ttl, cache.clock, 0, size⟩
    -- what an older result under the key took is given back
    let previous := match cache.entry? key with
      | some previous => previous.size
      | none => 0
    let cache :=
      { cache with
        entries := Keyed.insert cache.entries key.text entry
        clock := cache.clock + 1
        totalBytes := cache.totalBytes - previous + size }
    if cache.isOverCapacity then cache.evict now else cache

/-- Take out the results of an entity. -/
def invalidateEntity (cache : Cache) (entity : String) : Cache :=
  let keys := (Keyed.keys cache.entries).filter fun key => (CacheKey.mk key).entity == entity
  keys.foldl remove cache

/-- Take out all results. -/
def clear (cache : Cache) : Cache := { cache with entries := [], totalBytes := 0 }

/-- The share of reads that found a result. -/
def hitRate (cache : Cache) : Binary64 :=
  if cache.hits + cache.misses = 0 then .zero
  else (Binary64.ofNat cache.hits).div (.ofNat (cache.hits + cache.misses))

/-- The JSON form of the accounts. -/
def statsToJson (cache : Cache) : Json :=
  .obj [("hits", .ofNat cache.hits), ("misses", .ofNat cache.misses),
    ("hit_rate", .num (.float cache.hitRate)), ("entry_count", .ofNat cache.size),
    ("total_bytes", .ofNat cache.totalBytes), ("evictions", .ofNat cache.evictions),
    ("ttl_secs", .ofNat (cache.defaultTtl / 1000))]

end Cache

end DualQuery
