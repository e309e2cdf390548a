import DualQuery.Proofs.LawfulQueries
import DualQuery.Proofs.LawfulRelations
import DualQuery.Proofs.SessionState

/-!
# Requests with lawful keys

A request to either backend looks up what its query joins and groups by and what its relations refer
to. Where all these keys are lawful the answer is the same under all hashings, so that two runs of
one request, each with hash maps of its own, answer alike.

## Key results

- `MemoryBackend.pageBy_eq_of_lawful`: the page of a plan, whatever its strategy
- `Session.answer_eq_of_lawful`: the answer of the document backend
- `Session.relationalAnswer_eq_of_lawful`: the answer of the relational backend
-/

namespace DualQuery

open Document

namespace MemoryBackend

/-- Steps that agree at all items give the same results. -/
private theorem mapM_congr {α β ε : Type} {f g : α → Except ε β} {as : List α}
    (h : ∀ a ∈ as, f a = g a) : as.mapM f = as.mapM g := by
  induction as with
  | nil => rfl
  | cons a as ih =>
    rw [List.forall_mem_cons] at h
    rw [List.mapM_cons, List.mapM_cons, h.1, ih h.2]

/-! ## The document backend -/

section Page

variable {s t : Hashing} {store : Store} {collection : String} {pipeline : Pipeline}
  (h : @Pipeline.run s pipeline store collection = @Pipeline.run t pipeline store collection)

include h

/-- The documents of a pipeline are those of its run. -/
private theorem documentsOf_eq_of_run :
    @documentsOf s store collection pipeline = @documentsOf t store collection pipeline := by
  unfold documentsOf
  rw [h]

/-- The number that a pipeline counts is read from its run. -/
private theorem countOf_eq_of_run :
    @countOf s store collection pipeline = @countOf t store collection pipeline := by
  unfold countOf
  rw [documentsOf_eq_of_run h]

/-- The rows that are streamed are those of the run, chunk by chunk. -/
private theorem streamedOf_eq_of_run (size : Nat) (pagination : Option Pagination) :
    @streamedOf s store collection pipeline size pagination =
      @streamedOf t store collection pipeline size pagination := by
  unfold streamedOf chunksOf
  rw [h]

end Page

section Plan

variable {s : Hashing} {store : Store} {ctx : QueryContext} {d : Descriptor}
  (h : @Descriptor.HasLawfulKeys s ctx d store) (t : Hashing)

include h

/-- The page of a query with lawful keys is the same under all hashings, whatever the strategy. -/
theorem pageBy_eq_of_lawful (plan : StrategyPlan) :
    @pageBy s store plan ctx d = @pageBy t store plan ctx d := by
  have hpart : ∀ pipeline ∈ partitionsOf plan ctx d,
      @documentsOf s store ctx.entity pipeline = @documentsOf t store ctx.entity pipeline := by
    intro pipeline hpipeline
    obtain ⟨index, -, rfl⟩ := List.mem_map.1 hpipeline
    exact documentsOf_eq_of_run (Descriptor.run_partitionPipeline_eq_of_lawful h t _ _ index)
  unfold pageBy
  -- the strategies differ in the pipelines that they run, each of which is the same under all
  -- hashings
  cases plan.strategy with
  | memory | hybrid =>
    simp only
    rw [documentsOf_eq_of_run (Descriptor.run_pipeline_eq_of_lawful h t)]
  | streaming =>
    simp only
    rw [streamedOf_eq_of_run (Descriptor.run_unpagedPipeline_eq_of_lawful h t),
      countOf_eq_of_run (Descriptor.run_countPipeline_eq_of_lawful h t)]
  | distributed =>
    simp only
    rw [mapM_congr hpart]

/-- A query with lawful keys is planned alike under all hashings. -/
theorem planOf_eq_of_lawful [Machine] (config : Config) (options : QueryOptions) :
    @planOf s _ store config ctx d options = @planOf t _ store config ctx d options := by
  unfold planOf
  rw [countOf_eq_of_run (Descriptor.run_estimatePipeline_eq_of_lawful h t)]

end Plan

/-- Whether a prepared request to the document backend looks up lawful keys. -/
structure HasLawfulKeys [Machine] [Hashing] (store : Store) (config : Config) (prepared : Prepared)
    (request : Request) : Prop where
  /-- What the query joins and groups by is lawful. -/
  query : request.descriptor.HasLawfulKeys prepared.ctx store
  /-- What the relations of a page refer to is lawful. -/
  relations : ∀ page, pageBy store
      (planOf store config prepared.ctx request.descriptor request.options) prepared.ctx
      request.descriptor = .ok page →
    Populate.HasLawfulKeys store request.entity page.items prepared.ctx.populate

instance [Machine] [Hashing] (store : Store) (config : Config) (prepared : Prepared)
    (request : Request) : Decidable (HasLawfulKeys store config prepared request) :=
  decidable_of_iff (request.descriptor.HasLawfulKeys prepared.ctx store ∧
      ∀ page, pageBy store
          (planOf store config prepared.ctx request.descriptor request.options) prepared.ctx
          request.descriptor = .ok page →
        Populate.HasLawfulKeys store request.entity page.items prepared.ctx.populate)
    ⟨fun h => ⟨h.1, h.2⟩, fun h => ⟨h.1, h.2⟩⟩

section Request

variable [Machine] {s : Hashing} {store : Store} {config : Config} {prepared : Prepared}
  {request : Request} (h : @HasLawfulKeys _ s store config prepared request) (t : Hashing)

include h

/-- The result of a request with lawful keys is the same under all hashings. -/
theorem resultOf_eq_of_lawful :
    @resultOf s _ store config prepared request = @resultOf t _ store config prepared request := by
  obtain ⟨hquery, hrelations⟩ := h
  unfold resultOf
  simp only
  rw [← planOf_eq_of_lawful hquery t, ← pageBy_eq_of_lawful hquery t]
  cases hpage : @pageBy s store (@planOf s _ store config prepared.ctx request.descriptor
    request.options) prepared.ctx request.descriptor with
  | error e => simp only [Except.map]
  | ok page =>
    simp only [Except.map]
    -- the keys of the relations are asked of the page that is the same by now
    rw [Populate.populate_eq_of_lawful (hrelations page hpage) t]

/-- The time of a request with lawful keys is the same under all hashings. -/
theorem timeOf_eq_of_lawful :
    @timeOf s _ store config prepared request = @timeOf t _ store config prepared request := by
  obtain ⟨hquery, -⟩ := h
  unfold timeOf
  rw [← planOf_eq_of_lawful hquery t, ← pageBy_eq_of_lawful hquery t]

end Request

/-! ## The relational backend -/

/-- Whether a prepared request to the relational backend looks up lawful keys. -/
structure HasLawfulPlanKeys [Hashing] (store : Store) (prepared : Prepared)
    (request : Request) : Prop where
  /-- What the plans join and group by is lawful. -/
  plan : (request.descriptor.relationalPlans prepared.ctx).data.HasLawfulKeys store
  /-- What the relations of the rows refer to is lawful. -/
  relations : ∀ rows, (request.descriptor.relationalPlans prepared.ctx).data.rows store = .ok rows →
    Populate.HasLawfulKeys store request.entity rows prepared.ctx.populate

/-- Rows are found with a total where both plans give a result. -/
theorem rowsAndTotalOf_eq_ok_iff [Hashing] {store : Store} {plans : Relational.Plans}
    {rows : List Record} {total : Nat} :
    rowsAndTotalOf store plans = .ok (rows, total) ↔
      plans.data.rows store = .ok rows ∧ plans.count.total store = .ok total := by
  unfold rowsAndTotalOf rowsOf totalOf
  cases plans.data.rows store with
  | error e => simp [Except.bind, Except.mapError]
  | ok found =>
    cases plans.count.total store <;> simp [Except.bind, Except.mapError, Except.map]

/-- The rows and the total of plans with lawful keys are the same under all hashings. -/
theorem rowsAndTotalOf_eq_of_lawful {s : Hashing} {store : Store} {ctx : QueryContext}
    {d : Descriptor} (h : @Relational.Plan.HasLawfulKeys s (d.relationalPlans ctx).data store)
    (t : Hashing) :
    @rowsAndTotalOf s store (d.relationalPlans ctx) =
      @rowsAndTotalOf t store (d.relationalPlans ctx) := by
  unfold rowsAndTotalOf rowsOf totalOf
  rw [Relational.Plan.rows_eq_of_lawful h t,
    Relational.Plan.total_eq_of_lawful (@Descriptor.hasLawfulKeys_count ctx d store s h) t]

end MemoryBackend

/-! ## Sessions -/

namespace Session

/-- Whether a request to the document backend, if it can be prepared, looks up lawful keys. -/
def HasLawfulKeys [Machine] [Hashing] (session : Session MemoryBackend) (config : Config)
    (request : Request) : Prop :=
  ∀ prepared, request.prepare session.catalog = .ok prepared →
    MemoryBackend.HasLawfulKeys session.backend.store config prepared request

instance [Machine] [Hashing] (session : Session MemoryBackend) (config : Config)
    (request : Request) : Decidable (session.HasLawfulKeys config request) :=
  inferInstanceAs (Decidable (∀ prepared, request.prepare session.catalog = .ok prepared →
    MemoryBackend.HasLawfulKeys session.backend.store config prepared request))

/-- Whether a request to the relational backend, if it can be prepared, looks up lawful keys. -/
def HasLawfulPlanKeys [Hashing] (session : Session MemoryBackend) (request : Request) : Prop :=
  ∀ prepared, request.prepare session.catalog = .ok prepared →
    MemoryBackend.HasLawfulPlanKeys session.backend.store prepared request

variable {session : Session MemoryBackend} {request : Request} {s : Hashing}

/-- The document backend answers a request with lawful keys alike under all hashings. -/
theorem answer_eq_of_lawful [Machine] {config : Config}
    (h : @HasLawfulKeys _ s session config request) (t : Hashing) :
    @answer _ s session config request = @answer _ t session config request := by
  unfold answer
  cases hprepared : request.prepare session.catalog with
  | error e => simp only
  | ok prepared =>
    have hlawful := h prepared hprepared
    simp only
    rw [MemoryBackend.timeOf_eq_of_lawful hlawful t, MemoryBackend.resultOf_eq_of_lawful hlawful t]

/-- The relational backend answers a request with lawful keys alike under all hashings. -/
theorem relationalAnswer_eq_of_lawful {config : Config}
    (h : @HasLawfulPlanKeys s session request) (t : Hashing) :
    @relationalAnswer s session config request = @relationalAnswer t session config request := by
  unfold relationalAnswer
  cases hprepared : request.prepare session.catalog with
  | error e => simp only
  | ok prepared =>
    obtain ⟨hplan, hrelations⟩ := h prepared hprepared
    simp only
    rw [← MemoryBackend.rowsAndTotalOf_eq_of_lawful hplan t]
    -- the relations are loaded into rows that are the same by now
    cases hfound : @MemoryBackend.rowsAndTotalOf s session.backend.store
      (request.descriptor.relationalPlans prepared.ctx) with
    | error e => simp only [Except.map]
    | ok found =>
      obtain ⟨rows, total⟩ := found
      obtain ⟨hrows, -⟩ := (@MemoryBackend.rowsAndTotalOf_eq_ok_iff s _ _ _ _).1 hfound
      simp only [Except.map]
      rw [Populate.populate_eq_of_lawful (hrelations rows hrows) t]

end Session

end DualQuery
