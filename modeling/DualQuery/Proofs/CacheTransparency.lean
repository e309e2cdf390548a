import Mathlib
import DualQuery.Proofs.CachedRequests
import DualQuery.Proofs.RepeatedOperators

/-!
# Transparency of the cache

A request is answered the same whether it looks into the cache or not, after any other requests, at
any time and with any limits of the cache: the items, the total and the place of the page are those
of a run, and so is an error. What this takes is that keys tell queries apart. They do as far as the
hash does, for descriptors that are read from texts, save where a text repeats the name of an
operator: the condition is then a bare value, its JSON form is that of a set of operators, and the
answer to the one is taken for an answer to the other. And they do not show hash maps, so the keys
that a request looks up have to be lawful.

## Key results

- `Session.content_find_eq_uncached`: the cache is transparent
- `Session.repeated_operator_shares_answer`: not so where the name of an operator is repeated
-/

namespace DualQuery

open MemoryBackend

/-- A request that leaves the strategy open and whose descriptor is read from a text in which no
bare value is disguised as a set of operators. The conditions of the server are told by their JSON
forms. -/
structure Request.IsRead (request : Request) : Prop where
  strategy : request.options.strategy = none
  parsed : ∃ text, Descriptor.parse text = .ok request.descriptor
  undisguised : ∀ condition ∈ request.descriptor.allConditions, condition.isDisguised = false
  serverConditions : Conditions.ReadBack request.serverConditions

namespace Session

section Transparent

variable [Machine] [Hashing] {config : Config} {session : Session MemoryBackend}

/-- A request that does not look into the cache is answered by a run. -/
theorem fst_find_uncached (hcalm : session.backend.store.faults = []) (request : Request)
    (now : Nat) :
    (documents.find config now request.uncached session).1 = session.answer config request :=
  fst_find hcalm rfl now

/-- What is asked of a call for the cache not to show in its answer. -/
structure Allows (config : Config) (session : Session MemoryBackend) (call : TimedRequest) :
    Prop where
  /-- The request tells its query by the text of its key. -/
  isRead : call.request.IsRead
  /-- Without the cache the request does not run out of time. -/
  inTime : ∀ now entity,
    (documents.find config now call.request.uncached session).1 ≠ .error (.timeout entity)
  /-- No value that is looked up equals two keys that differ. -/
  lawful : session.HasLawfulKeys config call.request
  /-- The clock can tell when the answer expires. -/
  expires : call.now + call.request.options.cacheTtl.getD session.cache.defaultTtl <
    Cache.endOfTime

/-- A request that is allowed is told by its key. -/
theorem Allows.admits (hcalm : session.backend.store.faults = []) {call : TimedRequest}
    (hallows : session.Allows config call) : session.Admits config call.request where
  strategy := hallows.isRead.strategy
  inTime entity := by
    rw [← fst_find_uncached hcalm call.request 0]
    exact hallows.inTime 0 entity
  readsBack := by
    obtain ⟨text, hparse⟩ := hallows.isRead.parsed
    exact ⟨Descriptor.readsBack_of_parse hparse hallows.isRead.undisguised,
      hallows.isRead.serverConditions⟩
  lawful := hallows.lawful

/-- A request is answered with the same items, total and place of the page, or the same error,
whether it looks into the cache or not, whatever requests were made before and whatever hash maps
each of them had. The cache is empty in the beginning, no fault is set, no request runs out of time,
looks up a value that equals two keys that differ or is kept past the end of the clock, and hashes
collide for none of them. -/
theorem content_find_eq_uncached (config : Config) (session : Session MemoryBackend)
    (hcalm : session.backend.store.faults = []) (hempty : session.cache.entries = [])
    (before : List TimedRequest) (call : TimedRequest)
    (hallows : ∀ made ∈ call :: before, session.Allows config made)
    (hhash : NoCollision ((call :: before).map (·.request))) :
    (call.find config (session.after config before)).1.map ResultPage.content =
      (documents.find config call.now call.request.uncached (session.after config before)).1.map
        ResultPage.content := by
  have hadmits : ∀ request ∈ (call :: before).map (·.request), session.Admits config request := by
    intro request hrequest
    obtain ⟨made, hmade, rfl⟩ := List.mem_map.1 hrequest
    exact (hallows made hmade).admits hcalm
  have hlater : session.Recalls config ((call :: before).map (·.request))
      (session.after config before) :=
    (recalls_self hempty).after hcalm hadmits fun made hmade =>
      List.mem_map_of_mem (List.mem_cons_of_mem _ hmade)
  have hcalm' : (session.after config before).backend.store.faults = [] := by
    rw [hlater.agrees.store, hcalm]
  -- both sides are the answer of the session as it was at first
  calc (call.find config (session.after config before)).1.map ResultPage.content
      = (session.answer config call.request).map ResultPage.content :=
        hlater.content_find hcalm hadmits hhash (List.mem_map_of_mem List.mem_cons_self)
    _ = ((session.after config before).answer config call.request).map ResultPage.content := by
        rw [answer_congr hlater.agrees]
    _ = (documents.find config call.now call.request.uncached
          (session.after config before)).1.map ResultPage.content := by
        rw [fst_find_uncached hcalm']

end Transparent

/-! ## Two users -/

/-- A session over two users, one with a number and one with an object in its place. -/
def numberedSession : Session MemoryBackend where
  backend.store := { tables := [("users",
    [[("n", .int 1)], [("n", .object [("eq", .int 1)])]])] }
  catalog := {}
  cache := .ofConfig {}

/-- The users whose number is one. -/
def numberOne : Request where
  entity := "users"
  descriptor := { conditions := [("n", .operators { eq := some (.int 1) })] }

/-- The request is what is parsed of its text. -/
theorem parse_numberOne :
    Descriptor.parse "\x7b\"conditions\":\x7b\"n\":\x7b\"eq\":1\x7d\x7d\x7d" =
      .ok numberOne.descriptor := by
  cbv

/-- The same request, whose answer is kept for a second. -/
def numberOneForSecond : Request := { numberOne with options := { cacheTtl := some 1000 } }

/-- A request that is made at a time. -/
def asked (now : Nat) (request : Request) : TimedRequest := ⟨.firstFound, now, request⟩

/-- While the answer to a request is kept, the request is answered as without the cache. -/
theorem content_find_eq_uncached_number :
    ((asked 1 numberOne).find default
        (numberedSession.after default [asked 0 numberOneForSecond])).1.map ResultPage.content =
      (documents.find default 1 numberOne.uncached
        (numberedSession.after default [asked 0 numberOneForSecond])).1.map ResultPage.content ∧
      (documents.find default 1 numberOne.uncached
        (numberedSession.after default [asked 0 numberOneForSecond])).1.map ResultPage.items =
          .ok [[("n", .int 1)]] := by
  have hundisguised : ∀ condition ∈ numberOne.descriptor.allConditions,
      condition.isDisguised = false := by decide
  have hallows : ∀ made ∈ [asked 1 numberOne, asked 0 numberOneForSecond],
      numberedSession.Allows default made := by
    intro made hmade
    obtain rfl | rfl : made = asked 1 numberOne ∨ made = asked 0 numberOneForSecond := by
      simpa using hmade
    all_goals
      refine ⟨⟨rfl, ⟨_, parse_numberOne⟩, hundisguised, fun entry hentry => nomatch hentry⟩, ?_,
        by decide, by decide⟩
      intro now entity h
      cases h
  -- both requests are hashed from one text, so there is no collision to speak of
  have hmaterial : ∀ request ∈ [numberOne, numberOneForSecond],
      request.material = numberOne.material := by
    intro request hrequest
    obtain rfl | rfl : request = numberOne ∨ request = numberOneForSecond := by
      simpa using hrequest
    all_goals rfl
  refine ⟨content_find_eq_uncached default numberedSession rfl rfl [asked 0 numberOneForSecond]
    (asked 1 numberOne) hallows ?_, rfl⟩
  intro request hrequest request' hrequest' _
  rw [hmaterial request hrequest, hmaterial request' hrequest']

/-- The users that have an object in place of the number. -/
def objectOne : Request where
  entity := "users"
  descriptor := { conditions := [("n", .equals (.object [("eq", .int 1)]))] }

/-- The name of the operator is repeated, so the condition is a bare value. -/
theorem parse_objectOne :
    Descriptor.parse "\x7b\"conditions\":\x7b\"n\":\x7b\"eq\":1,\"eq\":1\x7d\x7d\x7d" =
      .ok objectOne.descriptor := by
  cbv

/-- The repeated operator does not show in the key. -/
theorem key_objectOne : objectOne.key = numberOne.key := rfl

/-- A request with a repeated operator is answered from the cache with the answer to the request
that has the operator once, and otherwise without the cache. -/
theorem repeated_operator_shares_answer :
    ((asked 1 objectOne).find default (numberedSession.after default [asked 0 numberOne])).1.map
        ResultPage.items = .ok [[("n", .int 1)]] ∧
      (documents.find default 1 objectOne.uncached
        (numberedSession.after default [asked 0 numberOne])).1.map ResultPage.items =
          .ok [[("n", .object [("eq", .int 1)])]] := by
  refine ⟨?_, rfl⟩
  obtain ⟨page, hpage, hitems, hsize⟩ : ∃ page,
      numberedSession.answer default numberOne = .ok page ∧
      page.items = [[("n", .int 1)]] ∧ page.approxSize ≤ 1000 := ⟨_, rfl, rfl, by decide⟩
  -- the first request finds nothing, and its answer is kept under its key
  have hcache : (numberedSession.after default [asked 0 numberOne]).cache =
      keep (numberedSession.lookup 0 numberOne).2 0 numberOne
        (numberedSession.answer default numberOne) := (find_of_lookup_eq_none rfl rfl rfl).2
  rw [hpage] at hcache
  -- the second one has the same key
  have hlookup : ((numberedSession.after default [asked 0 numberOne]).lookup 1 objectOne).1 =
      some page := by
    have hroom : (numberedSession.lookup 0 numberOne).2.totalBytes + page.approxSize ≤
        (numberedSession.lookup 0 numberOne).2.maxBytes := by
      change 0 + page.approxSize ≤ 64 * 1024 * 1024
      omega
    have hlive : 1 < (numberedSession.lookup 0 numberOne).2.expiry 0
        numberOne.options.cacheTtl := by
      change 1 < 0 + 300 * 1000
      omega
    have hends : (numberedSession.lookup 0 numberOne).2.expiry 0
        numberOne.options.cacheTtl < Cache.endOfTime := by
      change 0 + 300 * 1000 < Cache.endOfTime
      decide
    have huse : objectOne.options.useCache = true := rfl
    rw [lookup, if_pos huse, hcache, key_objectOne]
    exact Cache.fst_get_put (by decide) hroom hends hlive
  have hfind : ((asked 1 objectOne).find default
      (numberedSession.after default [asked 0 numberOne])).1 =
        .ok { page with metadata := { page.metadata with cacheHit := true } } :=
    (find_of_lookup_eq_some rfl hlookup).1
  rw [hfind]
  exact congrArg Except.ok hitems

end Session

end DualQuery
