import DualQuery.Proofs.CachedEntries
import DualQuery.Proofs.KeyMaterial
import DualQuery.Proofs.LawfulRequests
import DualQuery.Proofs.ResultContent
import DualQuery.Proofs.SessionState

/-!
# Requests that share a cache

Every result in the cache of a session is what one of the requests made so far was answered,
`Session.Recalls`. A request that finds a result under its key shares the key with the request that
was answered with it; if keys come together only where the texts do that they are hashed from, both
are the same query, and the result has the content of an answer to either. Each call has hash maps
of its own, which do not show as long as the keys that it looks up are lawful.

## Key results

- `Session.content_answer_of_key_eq`: requests with one key have answers of one content
- `Session.Recalls.find`: what one call leaves in the cache
- `Session.Recalls.after`: what a run of calls leaves in the cache
- `Session.Recalls.content_find`: the answer to a call, whether it is in the cache or not
-/

namespace DualQuery

open MemoryBackend

namespace Request

/-- The same request, which does not look into the cache. -/
def uncached (request : Request) : Request :=
  { request with options := { request.options with useCache := false } }

/-- The text that the key of a request is hashed from. -/
def material (request : Request) : String :=
  CacheKey.material
    { entity := request.entity
      serverConditions := request.serverConditions
      searchConfig := request.searchConfig } request.descriptor

/-- The hash of the text. -/
def digest (request : Request) : UInt64 :=
  HashItem.hash (HashItem.ofBytes (HashItem.utf8 request.material))

/-- The key of a request. -/
def key (request : Request) : CacheKey := .ofDigest request.entity request.digest

/-- The key of a prepared request is told by the request alone. -/
theorem derive_preparedBy (request : Request) (catalog : Catalog) :
    CacheKey.derive (request.preparedBy catalog).ctx request.descriptor = request.key := by
  have hmaterial : CacheKey.material (request.preparedBy catalog).ctx request.descriptor =
      request.material := rfl
  rw [CacheKey.derive, hmaterial]
  rfl

/-- The conditions of a request are told by their JSON forms. -/
structure ReadsBack (request : Request) : Prop where
  descriptor : request.descriptor.ReadsBack
  serverConditions : Conditions.ReadBack request.serverConditions

/-- What is looked up for a request hangs on its query alone. -/
theorem untimed_preparedBy {request request' : Request} (catalog : Catalog)
    (hentity : request.entity = request'.entity)
    (hdescriptor : request.descriptor.untimed = request'.descriptor.untimed)
    (hserver : Conditions.untimed request.serverConditions =
      Conditions.untimed request'.serverConditions)
    (hsearch : request.searchConfig = request'.searchConfig) :
    (request.preparedBy catalog).ctx.untimed = (request'.preparedBy catalog).ctx.untimed := by
  have hrelations : request.descriptor.untimed.relations =
      request'.descriptor.untimed.relations := by rw [hdescriptor]
  change request.descriptor.relations = request'.descriptor.relations at hrelations
  simp only [preparedBy, QueryContext.untimed, hentity, hserver, hsearch, hrelations]

end Request

/-- Timestamps make no difference to whether a descriptor is valid. -/
theorem Descriptor.validate_untimed (d : Descriptor) : d.untimed.validate = d.validate := rfl

/-- Hashes of the texts of some requests come together only where the texts do. -/
def NoCollision (requests : List Request) : Prop :=
  ∀ request ∈ requests, ∀ request' ∈ requests,
    request.digest = request'.digest → request.material = request'.material

namespace Session

variable [Machine] [Hashing] {config : Config} {session : Session MemoryBackend}

/-- A request that leaves the strategy open, is answered in time, is told by its key and looks up
lawful keys. -/
structure Admits (config : Config) (session : Session MemoryBackend) (request : Request) :
    Prop where
  strategy : request.options.strategy = none
  inTime : ∀ entity, session.answer config request ≠ .error (.timeout entity)
  readsBack : request.ReadsBack
  lawful : session.HasLawfulKeys config request

/-! ## One key -/

/-- The content of an answer in time. -/
theorem content_answer {request : Request} (hadmits : session.Admits config request) :
    (session.answer config request).toOption.map ResultPage.content =
      if request.descriptor.validate = .ok () then
        contentOf session.backend.store (request.preparedBy session.catalog).ctx
          request.descriptor config {}
      else none := by
  -- a descriptor that is refused has no content, whatever the store holds
  cases hprepared : request.prepare session.catalog with
  | error e =>
    have hvalidate : request.descriptor.validate ≠ .ok () := by
      intro hvalidate
      rw [Request.prepare_eq_ok_iff.2 ⟨hvalidate, rfl⟩] at hprepared
      cases hprepared
    rw [answer, hprepared, if_neg hvalidate]
    rfl
  | ok prepared =>
    obtain ⟨hvalidate, rfl⟩ := Request.prepare_eq_ok_iff.1 hprepared
    -- an answer in time is the result, of which only the metadata show the other options
    have hanswer : session.answer config request =
        resultOf session.backend.store config (request.preparedBy session.catalog) request := by
      have htime := hadmits.inTime request.entity
      rw [answer, hprepared] at htime ⊢
      simp only at htime ⊢
      split
      next hexpires =>
        rw [if_pos hexpires] at htime
        exact absurd rfl htime
      next => rfl
    have hcontent := contentOf_untimed session.backend.store
      (request.preparedBy session.catalog).ctx request.descriptor config
    rw [hanswer, if_pos hvalidate, toOption_resultOf _ rfl, ← hcontent {} {} rfl]
    exact (hcontent request.options {} hadmits.strategy.symm).symm

/-- Requests with one key have answers of one content. -/
theorem content_answer_of_key_eq {request request' : Request}
    (hadmits : session.Admits config request) (hadmits' : session.Admits config request')
    (hhash : request.digest = request'.digest → request.material = request'.material)
    (hkey : request.key = request'.key) :
    (session.answer config request).toOption.map ResultPage.content =
      (session.answer config request').toOption.map ResultPage.content := by
  obtain ⟨-, hdigest⟩ := CacheKey.ofDigest_inj hkey
  obtain ⟨hentity, hdescriptor, hserver, hsearch⟩ :=
    CacheKey.material_inj hadmits.readsBack.descriptor hadmits'.readsBack.descriptor
      hadmits.readsBack.serverConditions hadmits'.readsBack.serverConditions (hhash hdigest)
  have hctx := Request.untimed_preparedBy session.catalog hentity hdescriptor hserver hsearch
  have hcontent (request : Request) := contentOf_untimed session.backend.store
    (request.preparedBy session.catalog).ctx request.descriptor config {} {} rfl
  -- both contents are those of one query, the one in which integers stand for timestamps
  rw [content_answer hadmits, content_answer hadmits', ← hcontent request, ← hcontent request',
    ← request.descriptor.validate_untimed, ← request'.descriptor.validate_untimed, hctx,
    hdescriptor]

/-! ## Looking into the cache -/

/-- What a request finds in the cache, if it looks into it, and the cache that this leaves. -/
def lookup (session : Session MemoryBackend) (now : Nat) (request : Request) :
    Option ResultPage × Cache :=
  if request.options.useCache then session.cache.get now request.key else (none, session.cache)

/-- The cache after a request that was not answered from it. -/
def keep (cache : Cache) (now : Nat) (request : Request) : Except ExecuteError ResultPage → Cache
  | .ok page =>
    if request.options.useCache then cache.put now request.key page request.options.cacheTtl
    else cache
  | .error _ => cache

variable {request : Request}

/-- A request that finds a result is answered with it. -/
theorem find_of_lookup_eq_some (hvalid : request.descriptor.validate = .ok ()) {now : Nat}
    {page : ResultPage} (hlookup : (session.lookup now request).1 = some page) :
    (documents.find config now request session).1 =
        .ok { page with metadata := { page.metadata with cacheHit := true } } ∧
      (documents.find config now request session).2.cache = (session.lookup now request).2 := by
  have hprepared : request.prepare session.catalog = .ok (request.preparedBy session.catalog) :=
    Request.prepare_eq_ok_iff.2 ⟨hvalid, rfl⟩
  rw [lookup] at hlookup ⊢
  simp only [DocumentBackend.find, hprepared, Request.derive_preparedBy, hlookup, and_self]

/-- A request that finds nothing is run, and its answer may be kept. -/
theorem find_of_lookup_eq_none (hcalm : session.backend.store.faults = [])
    (hvalid : request.descriptor.validate = .ok ()) {now : Nat}
    (hlookup : (session.lookup now request).1 = none) :
    (documents.find config now request session).1 = session.answer config request ∧
      (documents.find config now request session).2.cache =
        keep (session.lookup now request).2 now request (session.answer config request) := by
  have hprepared : request.prepare session.catalog = .ok (request.preparedBy session.catalog) :=
    Request.prepare_eq_ok_iff.2 ⟨hvalid, rfl⟩
  have hrun : ((documents.runRequest config (request.preparedBy session.catalog) request).within
      request.entity (request.timeout? config) session.backend).1 =
        session.answer config request := (within_runRequest hcalm hprepared).1
  rw [lookup] at hlookup ⊢
  simp only [DocumentBackend.find, hprepared, Request.derive_preparedBy, hlookup, hrun, true_and]
  cases session.answer config request <;> rfl

/-- An invalid request is refused before the cache is asked. -/
theorem find_of_validate_ne_ok (hvalid : request.descriptor.validate ≠ .ok ()) (now : Nat) :
    (documents.find config now request session).1 = session.answer config request ∧
      (documents.find config now request session).2 = session := by
  cases hprepared : request.prepare session.catalog with
  | ok prepared => exact absurd (Request.prepare_eq_ok_iff.1 hprepared).1 hvalid
  | error e => simp only [DocumentBackend.find, answer, hprepared, and_self]

/-! ## What the cache recalls -/

/-- A session later in a run of requests: its store and catalog are as they were in the beginning,
and every result in its cache is the answer to one of the requests under the key of that request. -/
structure Recalls (config : Config) (session : Session MemoryBackend) (requests : List Request)
    (later : Session MemoryBackend) : Prop where
  agrees : session.Agrees later
  cache : later.cache.Holds fun key page =>
    ∃ request ∈ requests, request.key.text = key ∧ session.answer config request = .ok page

variable {requests : List Request} {later : Session MemoryBackend}

/-- A session with an empty cache recalls what it would answer. -/
theorem recalls_self (hempty : session.cache.entries = []) :
    session.Recalls config requests session :=
  ⟨Agrees.refl session, Cache.holds_of_entries_eq_nil hempty⟩

/-- Looking into the cache leaves nothing new in it. -/
theorem Recalls.holds_lookup (hrecalls : session.Recalls config requests later) (now : Nat) :
    (later.lookup now request).2.Holds fun key page =>
      ∃ request ∈ requests, request.key.text = key ∧ session.answer config request = .ok page := by
  unfold lookup
  split
  · exact hrecalls.cache.get now request.key
  · exact hrecalls.cache

end Session

/-! ## Runs of requests -/

/-- A request that is made at a time, with hash maps of its own. -/
structure TimedRequest where
  hashing : Hashing
  now : Nat
  request : Request

/-- Find the page of a request in a session. -/
def TimedRequest.find [Machine] (call : TimedRequest) (config : Config)
    (session : Session MemoryBackend) : Outcome MemoryBackend ResultPage :=
  (@documents call.hashing).find config call.now call.request session

namespace Session

variable [Machine] [Hashing] {config : Config} {session later : Session MemoryBackend}
  {requests : List Request} {call : TimedRequest}

/-- What a call is answered without the cache, whatever its hash maps and however late it comes. -/
theorem Recalls.answer_eq (hrecalls : session.Recalls config requests later)
    (hadmits : session.Admits config call.request) :
    @answer _ call.hashing later config call.request = session.answer config call.request := by
  obtain ⟨-, -, -, hlawful⟩ := hadmits
  rw [@answer_congr config call.request session _ call.hashing later hrecalls.agrees]
  exact (answer_eq_of_lawful hlawful call.hashing).symm

/-- A call leaves in the cache what was there, or its own answer. -/
theorem Recalls.find (hcalm : session.backend.store.faults = [])
    (hrecalls : session.Recalls config requests later) (hrequest : call.request ∈ requests)
    (hadmits : session.Admits config call.request) :
    session.Recalls config requests (call.find config later).2 := by
  have hcalm' : later.backend.store.faults = [] := by rw [hrecalls.agrees.store, hcalm]
  have hanswer := hrecalls.answer_eq hadmits
  have htime : ∀ entity,
      @answer _ call.hashing later config call.request ≠ .error (.timeout entity) := by
    rw [hanswer]
    exact hadmits.inTime
  unfold TimedRequest.find
  refine ⟨hrecalls.agrees.trans
    (@agrees_find config call.request later _ call.hashing hcalm' htime call.now), ?_⟩
  -- a request that is refused leaves the cache alone
  by_cases hvalid : call.request.descriptor.validate = .ok ()
  · cases hlookup : (later.lookup call.now call.request).1 with
    | some page =>
      rw [(@find_of_lookup_eq_some _ call.hashing _ _ _ hvalid _ _ hlookup).2]
      exact hrecalls.holds_lookup call.now
    | none =>
      -- what is kept is the request's own answer, under its own key
      rw [(@find_of_lookup_eq_none _ call.hashing _ _ _ hcalm' hvalid _ hlookup).2, hanswer]
      unfold keep
      split
      next page hpage =>
        split
        · exact (hrecalls.holds_lookup call.now).put ⟨call.request, hrequest, rfl, hpage⟩ _ _
        · exact hrecalls.holds_lookup call.now
      next => exact hrecalls.holds_lookup call.now
  · rw [(@find_of_validate_ne_ok _ call.hashing _ _ _ hvalid call.now).2]
    exact hrecalls.cache

/-- The session after calls. -/
def after (config : Config) (calls : List TimedRequest) (session : Session MemoryBackend) :
    Session MemoryBackend :=
  calls.foldl (fun session call => (call.find config session).2) session

/-- A run of calls leaves in the cache nothing but their answers. -/
theorem Recalls.after (hcalm : session.backend.store.faults = [])
    (hrecalls : session.Recalls config requests later)
    (hadmits : ∀ request ∈ requests, session.Admits config request) {calls : List TimedRequest}
    (hcalls : ∀ call ∈ calls, call.request ∈ requests) :
    session.Recalls config requests (later.after config calls) := by
  -- on the calls that are still to be made, from any session that recalls the ones before
  induction calls generalizing later with
  | nil => exact hrecalls
  | cons call calls ih =>
    rw [List.forall_mem_cons] at hcalls
    exact ih (hrecalls.find hcalm hcalls.1 (hadmits _ hcalls.1)) hcalls.2

/-- A call has an answer of one content, whether it finds a result in the cache or not. -/
theorem Recalls.content_find (hcalm : session.backend.store.faults = [])
    (hrecalls : session.Recalls config requests later)
    (hadmits : ∀ request ∈ requests, session.Admits config request)
    (hhash : NoCollision requests) (hrequest : call.request ∈ requests) :
    (call.find config later).1.map ResultPage.content =
      (session.answer config call.request).map ResultPage.content := by
  have hcalm' : later.backend.store.faults = [] := by rw [hrecalls.agrees.store, hcalm]
  have hanswer := hrecalls.answer_eq (hadmits _ hrequest)
  unfold TimedRequest.find
  by_cases hvalid : call.request.descriptor.validate = .ok ()
  · cases hlookup : (later.lookup call.now call.request).1 with
    | some page =>
      have hget : call.request.options.useCache = true ∧
          (later.cache.get call.now call.request.key).1 = some page := by
        rw [lookup] at hlookup
        split at hlookup
        next hcache => exact ⟨hcache, hlookup⟩
        next => cases hlookup
      -- the request that was answered with the page has the same key
      obtain ⟨request, hmem, hkey, hpage⟩ := Cache.of_get_eq_some hrecalls.cache hget.2
      have hkey' : call.request.key = request.key := congrArg CacheKey.mk hkey.symm
      have hcontent := content_answer_of_key_eq (hadmits _ hrequest) (hadmits request hmem)
        (hhash _ hrequest request hmem) hkey'
      rw [hpage] at hcontent
      rw [(@find_of_lookup_eq_some _ call.hashing _ _ _ hvalid _ _ hlookup).1]
      -- the page was made by a request with the same content, so a failure is ruled out
      cases hown : session.answer config call.request with
      | error e =>
        rw [hown] at hcontent
        cases hcontent
      | ok own =>
        rw [hown] at hcontent
        exact congrArg Except.ok (Option.some.inj hcontent).symm
    | none =>
      rw [(@find_of_lookup_eq_none _ call.hashing _ _ _ hcalm' hvalid _ hlookup).1, hanswer]
  · rw [(@find_of_validate_ne_ok _ call.hashing _ _ _ hvalid call.now).1, hanswer]

end Session

end DualQuery
