import DualQuery.Proofs.CacheEviction

/-!
# Where the entries of a cache come from

Of an entry, reading changes the accounts only, and whatever else is asked of a cache takes entries
out. So an entry has its result and its time of expiry from the last write to its key
(`mem_run`), and what is read under a key between two writes to it was left there by the first of
them.

A write that is carried out leaves nothing else under its key. A result larger than the cache may be
is not written, however, nor is one that would expire behind the end of the clock, and what was
under the key before stays there: it is read on until it expires.

## Key results

- `Cache.mem_apply`, `Cache.mem_run`: one call, and a run of calls
- `Cache.Accounts.result_eq_of_mem_put`: what a write leaves under its key
- `Cache.put_supersedes_iff`: when nothing older is read after a write
-/

namespace DualQuery

namespace Keyed

variable {α : Type}

/-- Where keys are not repeated, a value is under its key where the two are an entry. -/
theorem Sorted.get?_eq_some_iff {entries : Keyed α} (h : Sorted entries) {key : String}
    {value : α} : get? entries key = some value ↔ (key, value) ∈ entries := by
  refine ⟨mem_of_get?_eq_some, fun hmem => ?_⟩
  -- the entry that is found has the same key, and keys are not repeated
  cases hget : get? entries key with
  | none => exact absurd rfl (get?_eq_none_iff.1 hget _ hmem)
  | some found =>
    have heq := List.inj_on_of_nodup_map h.nodup (mem_of_get?_eq_some hget) hmem rfl
    rw [(Prod.mk.inj heq).2]

end Keyed

namespace Cache

variable {cache : Cache}

/-! ## One call -/

/-- Taking out keys leaves the entries under other keys. -/
theorem entries_foldl_remove (keys : List String) (cache : Cache) :
    (keys.foldl remove cache).entries =
      cache.entries.filter fun entry => !keys.contains entry.1 :=
  entries_foldl_erase entries_remove keys cache

/-- The result and the time of expiry of an entry are those of an older entry under its key. -/
def Keeps (old entry : String × CacheEntry) : Prop :=
  old.1 = entry.1 ∧ old.2.result = entry.2.result ∧ old.2.expiresAt = entry.2.expiresAt

/-- An entry keeps what it has. -/
theorem Keeps.refl (entry : String × CacheEntry) : Keeps entry entry := ⟨rfl, rfl, rfl⟩

/-- What is kept twice is kept. -/
theorem Keeps.trans {a b c : String × CacheEntry} (h : Keeps a b) (h' : Keeps b c) : Keeps a c :=
  ⟨h.1.trans h'.1, h.2.1.trans h'.2.1, h.2.2.trans h'.2.2⟩

/-- Reading leaves entries with their results and times of expiry. -/
theorem mem_get {now : Nat} {key : CacheKey} {entry : String × CacheEntry}
    (h : entry ∈ (cache.get now key).2.entries) : ∃ old ∈ cache.entries, Keeps old entry := by
  unfold get at h
  split at h
  next found hfound =>
    split at h
    · exact ⟨entry, entries_remove_subset cache key.text h, .refl entry⟩
    · -- the entry that is read is written back with its accounts changed
      rcases Keyed.mem_insert h with rfl | h
      · exact ⟨(key.text, found), Keyed.mem_of_get?_eq_some hfound, rfl, rfl, rfl⟩
      · exact ⟨entry, h, .refl entry⟩
  next => exact ⟨entry, h, .refl entry⟩

/-- A write adds its own entry and no other. -/
theorem mem_put {now : Nat} {key : CacheKey} {result : ResultPage} {ttl : Option Nat}
    {entry : String × CacheEntry} (h : entry ∈ (cache.put now key result ttl).entries) :
    entry = (key.text, cache.writtenEntry now result ttl) ∨ entry ∈ cache.entries := by
  rw [put_eq] at h
  split at h
  · exact .inr h
  · refine Keyed.mem_insert ?_
    split at h
    · exact entries_evict_subset _ now h
    · exact h

/-- After a call an entry is an older one, but for its accounts, or what the call wrote. -/
theorem mem_apply {now : Nat} {call : Call} {entry : String × CacheEntry}
    (h : entry ∈ (cache.apply now call).entries) :
    (∃ old ∈ cache.entries, Keeps old entry) ∨ ∃ key result ttl,
      call = .put key result ttl ∧ entry = (key.text, cache.writtenEntry now result ttl) := by
  cases call with
  | put key result ttl =>
    rcases mem_put h with rfl | h
    · exact .inr ⟨key, result, ttl, rfl, rfl⟩
    · exact .inl ⟨entry, h, .refl entry⟩
  | get key => exact .inl (mem_get h)
  | invalidateEntity entity =>
    rw [apply, invalidateEntity, entries_foldl_remove] at h
    exact .inl ⟨entry, (List.mem_filter.1 h).1, .refl entry⟩
  | clear => cases h

/-! ## Runs of calls -/

/-- After calls an entry is one of those before them, but for its accounts, or one of the calls was
a write of its result to its key. -/
theorem mem_run {calls : List (Nat × Call)} {entry : String × CacheEntry}
    (h : entry ∈ (cache.run calls).entries) :
    (∃ old ∈ cache.entries, Keeps old entry) ∨ ∃ call ∈ calls, ∃ key ttl,
      call.2 = .put key entry.2.result ttl ∧ key.text = entry.1 := by
  induction calls generalizing cache with
  | nil => exact .inl ⟨entry, h, .refl entry⟩
  | cons call calls ih =>
    -- trace the entry back to the time after the first call, then through that call
    rcases ih h with ⟨old, hold, hkeeps⟩ | ⟨later, hlater, hput⟩
    · rcases mem_apply hold with ⟨older, holder, hkeeps'⟩ | ⟨key, result, ttl, hcall, rfl⟩
      · exact .inl ⟨older, holder, hkeeps'.trans hkeeps⟩
      · obtain ⟨hkey, hresult, -⟩ := hkeeps
        exact .inr ⟨call, List.mem_cons_self, key, ttl, hresult ▸ hcall, hkey⟩
    · exact .inr ⟨later, List.mem_cons_of_mem _ hlater, hput⟩

/-- Whether a call writes to a key. -/
def Call.writesTo (key : CacheKey) : Call → Bool
  | put other _ _ => decide (other = key)
  | _ => false

/-- Without a write to it, nothing comes under a key. -/
theorem mem_run_of_unwritten {calls : List (Nat × Call)} {key : CacheKey}
    (hcalls : ∀ call ∈ calls, call.2.writesTo key = false) {entry : CacheEntry}
    (h : (key.text, entry) ∈ (cache.run calls).entries) :
    ∃ old, (key.text, old) ∈ cache.entries ∧ old.result = entry.result ∧
      old.expiresAt = entry.expiresAt := by
  rcases mem_run h with ⟨⟨_, old⟩, hold, rfl, hkeeps⟩ | ⟨call, hcall, other, ttl, hput, hkey⟩
  · exact ⟨old, hold, hkeeps⟩
  · have hother : other = key := congrArg CacheKey.mk hkey
    have hwrites := hcalls call hcall
    rw [hput, hother, Call.writesTo, decide_eq_true rfl] at hwrites
    cases hwrites

/-! ## Reading after a write -/

/-- What is read is the result of an entry that has not expired. -/
theorem fst_get_eq_some_iff {now : Nat} {key : CacheKey} {result : ResultPage} :
    (cache.get now key).1 = some result ↔
      ∃ entry, cache.entry? key = some entry ∧ now < entry.expiresAt ∧ entry.result = result := by
  unfold get
  split
  next entry hentry =>
    split
    next hexpired => simp [hentry, Nat.not_lt.2 hexpired]
    next hlive => simp [hentry, Nat.not_le.1 hlive]
  next hnone => simp [hnone]

/-- A write that is carried out leaves nothing but its result under its key. -/
theorem Accounts.result_eq_of_mem_put {maxEntries maxBytes : Nat}
    (h : Accounts maxEntries maxBytes cache) {now : Nat} {key : CacheKey} {result : ResultPage}
    {ttl : Option Nat} (hadmits : cache.refuses now result ttl = false) {entry : CacheEntry}
    (hentry : (key.text, entry) ∈ (cache.put now key result ttl).entries) :
    entry.result = result := by
  have hwritten := (h.evicts_put hadmits).subset hentry
  have heq := (h.written now key result ttl).eq_of_key_eq hwritten mem_written rfl
  rw [(Prod.mk.inj heq).2]
  rfl

/-- After a write, and before the next one to its key, only its result is read under the key, if
any: just where the result is put in, being no larger than the cache and expiring before the end of
the clock, or nothing else could be read at the time of the write. -/
theorem put_supersedes_iff {before : Cache} (hbefore : before.IsReachable) (now : Nat)
    (key : CacheKey) (result : ResultPage) (ttl : Option Nat) :
    (∀ calls : List (Nat × Call), (∀ call ∈ calls, call.2.writesTo key = false) →
      ∀ later, now ≤ later →
        let read := (((before.put now key result ttl).run calls).get later key).1
        read = none ∨ read = some result) ↔
      (result.approxSize ≤ before.maxBytes ∧ now + ttl.getD before.defaultTtl < endOfTime) ∨
        (before.get now key).1 = none ∨ (before.get now key).1 = some result := by
  have haccounts := hbefore.accounts.1
  by_cases hadmits : before.refuses now result ttl = false
  · refine iff_of_true (fun calls hcalls later _ => ?_) (.inl (refuses_eq_false_iff.1 hadmits))
    refine or_iff_not_imp_left.2 fun hread => ?_
    obtain ⟨page, hpage⟩ := Option.ne_none_iff_exists'.1 hread
    obtain ⟨entry, hentry, -, hresult⟩ := fst_get_eq_some_iff.1 hpage
    obtain ⟨old, hold, hsame, -⟩ :=
      mem_run_of_unwritten hcalls (Keyed.mem_of_get?_eq_some hentry)
    rw [hpage, ← hresult, ← hsame, haccounts.result_eq_of_mem_put hadmits hold]
  · have hput : before.put now key result ttl = before := by
      rw [put_eq, if_pos (Bool.not_eq_false _ ▸ hadmits)]
    rw [hput]
    constructor
    · -- the read that follows at once is one of those that are promised
      exact fun h => .inr (h [] (fun _ hcall => nomatch hcall) now (Nat.le_refl now))
    · intro h calls hcalls later hlater
      refine or_iff_not_imp_left.2 fun hread => ?_
      obtain ⟨page, hpage⟩ := Option.ne_none_iff_exists'.1 hread
      obtain ⟨entry, hentry, hlive, hresult⟩ := fst_get_eq_some_iff.1 hpage
      obtain ⟨old, hold, hsame, hexpires⟩ :=
        mem_run_of_unwritten hcalls (Keyed.mem_of_get?_eq_some hentry)
      -- what is read later could be read at the time of the write already
      have hnow : (before.get now key).1 = some page :=
        fst_get_eq_some_iff.2 ⟨old, haccounts.sorted.get?_eq_some_iff.2 hold,
          by rw [hexpires]; exact Nat.lt_of_le_of_lt hlater hlive, hsame.trans hresult⟩
      rw [hpage, ← hnow]
      rcases h with hfits | hnone | hsome
      · exact absurd (refuses_eq_false_iff.2 hfits) hadmits
      · rw [hnone] at hnow
        cases hnow
      · exact hsome

/-- A cache of three hundred bytes that holds an empty page under a key. -/
def scantCache : Cache := (withLimits 2 300 60).run [(0, .put ⟨"a:0"⟩ default none)]

/-- A page with one record, which is larger than that cache may be. -/
def largePage : ResultPage :=
  { items := [[("visits", .array (List.replicate 20 (.int 0)))]], total := 1, page := 1, limit := 1,
    totalPages := 1, hasNext := false, hasPrevious := false, metadata := {} }

/-- The large page is not written, and the empty one is still read after it: what the write of a
page that has room promises fails here. -/
theorem put_supersedes_iff_large :
    scantCache.IsReachable ∧ scantCache.maxBytes < largePage.approxSize ∧
      (scantCache.get 1 ⟨"a:0"⟩).1 = some default ∧
      ¬ ∀ calls : List (Nat × Call), (∀ call ∈ calls, call.2.writesTo ⟨"a:0"⟩ = false) →
        ∀ later, 1 ≤ later →
          let read := (((scantCache.put 1 ⟨"a:0"⟩ largePage none).run calls).get later ⟨"a:0"⟩).1
          read = none ∨ read = some largePage := by
  have hreachable : scantCache.IsReachable := ⟨2, 300, 60, _, rfl⟩
  have hsize : scantCache.maxBytes < largePage.approxSize := by decide
  have hread : (scantCache.get 1 ⟨"a:0"⟩).1 = some default := rfl
  refine ⟨hreachable, hsize, hread, fun hpromise => ?_⟩
  rcases (put_supersedes_iff hreachable 1 ⟨"a:0"⟩ largePage none).1 hpromise with
    ⟨hfits, -⟩ | hnone | hlarge
  · exact absurd hfits (Nat.not_le.2 hsize)
  · rw [hread] at hnone
    cases hnone
  · rw [hread] at hlarge
    cases hlarge

end Cache

end DualQuery
