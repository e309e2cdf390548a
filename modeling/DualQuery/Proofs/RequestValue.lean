import DualQuery.Engine.Relational
import DualQuery.Proofs.CompiledPipelines
import DualQuery.Proofs.RunValue

/-!
# The value of a request

What requests give over a store in which no fault is set. Every call leaves the store as it is, so
the value of a run is a function of the store, the plan and the descriptor; how a request is to be
run, how much time it has and what other requests have left behind do not come into it.

`MemoryBackend.Serves` says of a backend what store it has and how many chunks it has handed out,
which only a streamed page changes.

## Key results

- `MemoryBackend.gives_runPlan`: the pipelines of a plan, whatever its strategy
- `MemoryBackend.gives_runRequest`: a whole request to the document backend
- `Session.gives_runPlans`: a whole request to the relational backend
-/

namespace DualQuery

open Document Run

/-! ## Prepared requests -/

/-- A descriptor is valid if its pages and limits count from one and no search field is blank. -/
theorem Descriptor.validate_eq_ok_iff (d : Descriptor) :
    d.validate = .ok () ↔ (∀ p, d.pagination = some p → 1 ≤ p.page ∧ 1 ≤ p.limit) ∧
      ∀ search, d.search = some search → search.fields.any Text.allBlank = false := by
  -- the page is looked at before the limit, and both before the fields of a search
  unfold validate
  split
  next limit hpage => simp [hpage]
  next page hpage => simp [hpage]
  next hpage hlimit =>
    have hcounts : ∀ p, d.pagination = some p → 1 ≤ p.page ∧ 1 ≤ p.limit := by
      rintro ⟨page, limit⟩ hp
      have hpage' : page ≠ 0 := fun h => hpage limit (h ▸ hp)
      have hlimit' : limit ≠ 0 := fun h => hlimit page (h ▸ hp)
      exact ⟨Nat.one_le_iff_ne_zero.2 hpage', Nat.one_le_iff_ne_zero.2 hlimit'⟩
    rw [and_iff_right hcounts]
    cases d.search with
    | none => simp
    | some search =>
      simp only [Option.some.injEq, forall_eq']
      cases search.fields.any Text.allBlank <;> simp

namespace Request

/-- A request with what was looked up for it. -/
def preparedBy (request : Request) (catalog : Catalog) : Prepared where
  ctx := {
    entity := request.entity
    primaryKey := (catalog.entry request.entity).primaryKey
    serverConditions := request.serverConditions
    searchConfig := request.searchConfig
    populate :=
      (resolveRelations catalog request.entity request.descriptor.relations).populate }
  resolution := resolveRelations catalog request.entity request.descriptor.relations
  search := SearchPlan.of? request.descriptor.search request.searchConfig

variable {request : Request} {catalog : Catalog} {prepared : Prepared}

/-- A request is prepared where its descriptor is valid, and then in one way. -/
theorem prepare_eq_ok_iff : request.prepare catalog = .ok prepared ↔
    request.descriptor.validate = .ok () ∧ prepared = request.preparedBy catalog := by
  unfold prepare
  cases request.descriptor.validate with
  | error e => simp
  | ok _ => simp [preparedBy, eq_comm]

/-- A prepared request is about the entity that was asked for. -/
theorem entity_of_prepare (h : request.prepare catalog = .ok prepared) :
    prepared.ctx.entity = request.entity := by
  rw [(prepare_eq_ok_iff.1 h).2]
  rfl

end Request

namespace MemoryBackend

variable {store : Store} {served : Nat}

/-- A backend with a store, which has handed out some number of chunks. -/
def Serves (store : Store) (served : Nat) (backend : MemoryBackend) : Prop :=
  backend.store = store ∧ backend.chunksServed = served

/-! ## Answers of calls -/

/-- The failure of an operation for want of a table, with what was run as its context. -/
def failure (operation collection context : String) (e : StoreError) : ExecuteError :=
  .backend ((e.toBackend operation collection).withContext context)

/-- The rows of a page from chunks, and the number of chunks it takes. -/
def collected (pagination : Option Pagination) (parts : List (List Record)) :
    Except ExecuteError (List Record) × Nat :=
  RowPage.collect ((pagination.map Pagination.skip).getD 0) (pagination.map Pagination.limit) 0 []
    (parts.map .ok)

/-- Where no faults are set none is taken. -/
private theorem takeFault_of_nil (hcalm : store.faults = []) (operation : String) :
    store.takeFault operation = (none, store) :=
  Store.takeFault_of_get?_eq_none (by rw [hcalm]; rfl)

/-- A call that reads the store gives what there is to read. -/
theorem answers_readWith {α : Type} (hcalm : store.faults = []) (operation entity context : String)
    (work : Store → Except StoreError α) {start : MemoryBackend → MemoryBackend} :
    Call.Answers (Serves store served)
      { call (Store.readWith operation entity context work) with start := start }
      ((work store).mapError (failure operation entity context)) (Serves store served) := by
  rintro ⟨_, _, _⟩ ⟨rfl, hserved⟩
  simp only [call, Store.readWith, Store.read, Store.answer, takeFault_of_nil hcalm]
  cases work _ with
  | error e => exact ⟨rfl, rfl, hserved⟩
  | ok a => exact ⟨rfl, rfl, hserved⟩

/-- An answer that is read. -/
theorem answers_reading {σ α β : Type} {pre post : σ → Prop} {c : Call σ α}
    {value : Except ExecuteError α} (read : α → Except ExecuteError β)
    (h : c.Answers pre value post) :
    (DocumentBackend.reading c read).Answers pre (value.bind read) post := by
  intro s hs
  obtain ⟨hvalue, hpost⟩ := h s hs
  exact ⟨congrArg (·.bind read) hvalue, hpost⟩

variable [Hashing]

/-- The documents of a pipeline. -/
def documentsOf (store : Store) (collection : String) (pipeline : Pipeline) :
    Except ExecuteError (List Record) :=
  (pipeline.run store collection).mapError (failure "aggregate" collection pipeline.toJson.text)

/-- The number of documents that a pipeline counts. -/
def countOf (store : Store) (collection : String) (pipeline : Pipeline) :
    Except ExecuteError Nat :=
  (documentsOf store collection pipeline).bind RowPage.readCount

/-- The documents of a pipeline in chunks. -/
def chunksOf (store : Store) (collection : String) (pipeline : Pipeline) (size : Nat) :
    Except ExecuteError (List (List Record)) :=
  ((pipeline.run store collection).map (chunks size)).mapError
    (failure "open_cursor" collection pipeline.toJson.text)

/-- The rows of a page that is taken from a cursor. -/
def streamedOf (store : Store) (collection : String) (pipeline : Pipeline) (size : Nat)
    (pagination : Option Pagination) : Except ExecuteError (List Record) :=
  (chunksOf store collection pipeline size).bind fun parts => (collected pagination parts).1

/-- The number of chunks that a cursor hands out for a page. -/
def servedOf (store : Store) (collection : String) (pipeline : Pipeline) (size : Nat)
    (pagination : Option Pagination) : Nat :=
  match chunksOf store collection pipeline size with
  | .ok parts => (collected pagination parts).2
  | .error _ => 0

/-- A pipeline is answered by its documents. -/
theorem answers_aggregate (hcalm : store.faults = []) (collection : String)
    (pipeline : Pipeline) :
    (aggregate collection pipeline).Answers (Serves store served)
      (documentsOf store collection pipeline) (Serves store served) :=
  answers_readWith hcalm "aggregate" collection _ fun store => pipeline.run store collection

/-- Relations are answered by the records with what is loaded into them. -/
theorem answers_load (hcalm : store.faults = []) (entity : String) (records : List Record)
    (chains : List Chain) :
    (load entity records chains).Answers (Serves store served)
      (.ok (populate store entity records chains)) (Serves store served) := by
  rintro ⟨_, _, _⟩ ⟨rfl, hserved⟩
  simp only [load, call, Store.read, Store.answer, takeFault_of_nil hcalm, true_and]
  exact ⟨rfl, hserved⟩

/-- A pipeline that counts is answered by the number it counts. -/
theorem answers_countCall (hcalm : store.faults = []) (collection : String)
    (pipeline : Pipeline) :
    (documents.countCall collection pipeline).Answers (Serves store served)
      (countOf store collection pipeline) (Serves store served) :=
  answers_reading RowPage.readCount (answers_aggregate hcalm collection pipeline)

/-- A cursor is answered by the documents in chunks, none of which fails. -/
theorem answers_openCursor (hcalm : store.faults = []) (collection : String)
    (pipeline : Pipeline) (options : PipelineOptions) :
    (openCursor collection pipeline options).Answers (Serves store served)
      ((chunksOf store collection pipeline (options.batchSize.getD defaultBatchSize)).map
        (·.map .ok)) (Serves store served) := by
  have h : (openCursor collection pipeline options).Answers (Serves store served) _
      (Serves store served) :=
    answers_readWith hcalm "open_cursor" collection pipeline.toJson.text fun store => do
      let rows ← pipeline.run store collection
      return (chunks (options.batchSize.getD defaultBatchSize) rows).map Except.ok
  -- cutting the rows into chunks does not touch a failure
  have hvalue : ∀ run : Except StoreError (List Record),
      (run.bind fun rows => .ok ((chunks (options.batchSize.getD defaultBatchSize) rows).map
          Except.ok)).mapError (failure "open_cursor" collection pipeline.toJson.text) =
        (((run.map (chunks (options.batchSize.getD defaultBatchSize))).mapError
          (failure "open_cursor" collection pipeline.toJson.text)).map
            (·.map .ok) : Except ExecuteError (List (Except ExecuteError (List Record)))) := by
    intro run
    cases run <;> rfl
  rw [chunksOf, ← hvalue]
  exact h

/-- A page is taken from a cursor with as few chunks as it takes. -/
theorem answers_pageCall (hcalm : store.faults = []) (collection : String) (pipeline : Pipeline)
    (options : PipelineOptions) (pagination : Option Pagination) :
    (documents.pageCall collection pipeline options pagination).Answers (Serves store served)
      (streamedOf store collection pipeline (options.batchSize.getD defaultBatchSize) pagination)
      (Serves store (served +
        servedOf store collection pipeline (options.batchSize.getD defaultBatchSize)
          pagination)) := by
  intro backend hbackend
  -- only the number of chunks moves on; the store that the cursor left is still the one it was
  -- opened on
  obtain ⟨hvalue, hstore, hserved⟩ :=
    answers_openCursor hcalm collection pipeline options backend hbackend
  have hcursor : documents.openCursor collection pipeline options =
      openCursor collection pipeline options := rfl
  rw [streamedOf, servedOf]
  simp only [DocumentBackend.pageCall, hcursor, hvalue]
  cases chunksOf store collection pipeline (options.batchSize.getD defaultBatchSize) with
  | error e => exact ⟨rfl, hstore, hserved⟩
  | ok parts => exact ⟨rfl, hstore, congrArg (· + (collected pagination parts).2) hserved⟩

/-! ## Plans of a request -/

/-- The pipelines of all partitions of a plan. -/
def partitionsOf (plan : StrategyPlan) (ctx : QueryContext) (d : Descriptor) : List Pipeline :=
  (List.range (max 1 plan.parallelism)).map
    (d.partitionPipeline ctx (plan.partitionKey.getD ctx.primaryKey) (max 1 plan.parallelism))

/-- The plan of a request whose rows were counted, or not. -/
def planBy [Machine] (config : Config) (ctx : QueryContext) (d : Descriptor)
    (options : QueryOptions) (rows : Option Nat) : StrategyPlan :=
  let estimate : RowEstimate := match rows with
    | some rows => ⟨rows, false⟩
    | none => ⟨config.fallbackEstimate, true⟩
  .make config ctx d estimate options.strategy
    (options.memoryCeiling.getD config.memoryCeilingBytes)

/-- The plan of a request. Its rows are not counted where that would take too long or a table is
missing. -/
def planOf [Machine] (store : Store) (config : Config) (ctx : QueryContext) (d : Descriptor)
    (options : QueryOptions) : StrategyPlan :=
  planBy config ctx d options <|
    if config.estimateTimeoutMs < store.latency then none
    else (countOf store ctx.entity (d.estimatePipeline ctx)).toOption

/-- The page that the pipelines of a plan give. -/
def pageBy (store : Store) (plan : StrategyPlan) (ctx : QueryContext) (d : Descriptor) :
    Except ExecuteError RowPage :=
  match plan.strategy with
  | .memory | .hybrid =>
    (documentsOf store ctx.entity (d.pipeline ctx)).bind (RowPage.readAnswer (d.pipeline ctx))
  | .streaming =>
    (streamedOf store ctx.entity (d.unpagedPipeline ctx) plan.chunkSize d.pagination).bind
      fun items => (countOf store ctx.entity (d.countPipeline ctx)).map fun total => ⟨items, total⟩
  | .distributed =>
    ((partitionsOf plan ctx d).mapM (documentsOf store ctx.entity)).map
      (RowPage.merge (((partitionsOf plan ctx d).head?.map Pipeline.sortKeys).getD []) d.pagination)

/-- The number of chunks that the pipelines of a plan hand out. -/
def servedBy (store : Store) (plan : StrategyPlan) (ctx : QueryContext) (d : Descriptor) : Nat :=
  match plan.strategy with
  | .streaming =>
    servedOf store ctx.entity (d.unpagedPipeline ctx) plan.chunkSize d.pagination
  | .memory | .hybrid | .distributed => 0

section Runs

variable {config : Config} {prepared : Prepared} {request : Request}

/-- A request is planned by the count of its rows, or by the fallback where the count is given
up. -/
theorem gives_planRun [Machine] (hcalm : store.faults = [])
    (hentity : prepared.ctx.entity = request.entity) :
    Gives (Serves store served) (documents.planRun config prepared request)
      (min store.latency config.estimateTimeoutMs)
      (.ok (planOf store config prepared.ctx request.descriptor request.options))
      (Serves store served) := by
  have hrun : documents.planRun config prepared request =
      state >>= fun backend => attempt (documents.latency backend) config.estimateTimeoutMs
        (documents.countCall request.entity
          (request.descriptor.estimatePipeline prepared.ctx)) >>= fun rows =>
            pure (planBy config prepared.ctx request.descriptor request.options rows) := rfl
  rw [hrun, planOf, hentity]
  refine gives_state fun backend hbackend => ?_
  have hlatency : documents.latency backend = store.latency := congrArg Store.latency hbackend.1
  rw [hlatency]
  -- a count that is given up, for want of time or of a table, is no failure of the plan
  have hcount : (documents.countCall request.entity
      (request.descriptor.estimatePipeline prepared.ctx)).Answers (Serves store served)
        (countOf store request.entity (request.descriptor.estimatePipeline prepared.ctx))
        (Serves store served) := answers_countCall hcalm request.entity _
  exact (gives_attempt (fun _ hs => hs) hcount).map
    (planBy config prepared.ctx request.descriptor request.options)

/-- The pipelines of a plan give its page, whatever its strategy. -/
theorem gives_runPlan (hcalm : store.faults = []) (hentity : prepared.ctx.entity = request.entity)
    (plan : StrategyPlan) :
    Gives (Serves store served) (documents.runPlan plan prepared request) store.latency
      (pageBy store plan prepared.ctx request.descriptor)
      (Serves store (served + servedBy store plan prepared.ctx request.descriptor)) := by
  have hlatency : ∀ backend, Serves store served backend →
      documents.latency backend = store.latency := fun _ h => congrArg Store.latency h.1
  unfold DocumentBackend.runPlan pageBy servedBy
  rw [hentity]
  -- one case for each way of calling: once, two calls together, one for each partition
  cases hstrategy : plan.strategy
  case memory | hybrid =>
    refine gives_state fun backend hbackend => ?_
    rw [hlatency backend hbackend]
    exact gives_call (fun _ hs => hs)
      (answers_reading _ (answers_aggregate hcalm request.entity _))
  case streaming =>
    refine gives_state fun backend hbackend => ?_
    rw [hlatency backend hbackend]
    have hitems : (documents.pageCall request.entity
        (request.descriptor.unpagedPipeline prepared.ctx)
        { allowDiskUse := plan.allowDiskUse
          parallelLookups := plan.parallelLookups
          batchSize := some plan.chunkSize } request.descriptor.pagination).Answers
            (Serves store served) _ _ := answers_pageCall hcalm request.entity _ _ _
    have hboth : Gives (Serves store served) (both store.latency _ _) _ _ _ :=
      gives_both (fun _ hs => hs) (fun _ hs => hs) (fun _ hs => hs) hitems
        (answers_countCall hcalm request.entity (request.descriptor.countPipeline prepared.ctx))
        fun _ _ _ hs => hs
    have hpage := hboth.map fun page => (⟨page.1, page.2⟩ : RowPage)
    rw [Option.getD_some] at hpage
    -- the page is made of both results, and the first failure is the one that is reported
    have hvalue : ∀ (items : Except ExecuteError (List Record)) (total : Except ExecuteError Nat),
        (items.bind fun items => total.map fun total => (items, total)).map
            (fun page => (⟨page.1, page.2⟩ : RowPage)) =
          items.bind fun items => total.map fun total => ⟨items, total⟩ := fun items total => by
      cases items with
      | error e => rfl
      | ok items => cases total <;> rfl
    rw [hvalue] at hpage
    exact hpage
  case distributed =>
    refine gives_state fun backend hbackend => ?_
    rw [hlatency backend hbackend]
    have hall : Gives (Serves store served)
        (all store.latency ((partitionsOf plan prepared.ctx request.descriptor).map fun pipeline =>
          aggregate request.entity pipeline)) _ _ (Serves store served) :=
      gives_all (fun _ _ _ hs => hs)
        fun pipeline _ => answers_aggregate hcalm request.entity pipeline
    exact hall.map _

/-! ## Whole requests -/

/-- The result of a request to the document backend. -/
def resultOf [Machine] (store : Store) (config : Config) (prepared : Prepared) (request : Request) :
    Except ExecuteError ResultPage :=
  let plan := planOf store config prepared.ctx request.descriptor request.options
  (pageBy store plan prepared.ctx request.descriptor).map fun page =>
    let populated := populate store request.entity page.items prepared.ctx.populate
    .make populated.records page.total request.descriptor.pagination
      { prepared.metadata request populated.errors with
        strategy := some plan.strategy
        estimatedRows := some plan.estimate.rows
        suggestions :=
          plan.tuningSuggestions 0 config.slowQueryMs (Record.approxSize populated.records) }

/-- The time that a request to the document backend takes. -/
def timeOf [Machine] (store : Store) (config : Config) (prepared : Prepared)
    (request : Request) : Nat :=
  min store.latency config.estimateTimeoutMs + (store.latency + nextMs
    (pageBy store (planOf store config prepared.ctx request.descriptor request.options)
      prepared.ctx request.descriptor) store.latency)

/-- Relations are loaded into the items of a page, which changes nothing of the store. -/
theorem gives_populate (hcalm : store.faults = []) (entity : String) (records : List Record)
    (chains : List Chain) :
    Gives (Serves store served)
      (state >>= fun backend => Run.call (documents.latency backend)
        (documents.populate entity records chains))
      store.latency (.ok (populate store entity records chains))
      (fun backend => backend.store = store) := by
  refine gives_state fun backend hbackend => ?_
  have hlatency : documents.latency backend = store.latency := congrArg Store.latency hbackend.1
  have hanswers : (documents.populate entity records chains).Answers (Serves store served) _
      (fun backend => backend.store = store) := fun backend hbackend =>
    have h := answers_load hcalm entity records chains backend hbackend
    ⟨h.1, h.2.1⟩
  rw [hlatency]
  exact gives_call (fun _ hs => hs) hanswers

/-- A whole request to the document backend. -/
theorem gives_runRequest [Machine] (hcalm : store.faults = [])
    (hentity : prepared.ctx.entity = request.entity) :
    Gives (Serves store served) (documents.runRequest config prepared request)
      (timeOf store config prepared request) (resultOf store config prepared request)
      (fun backend => backend.store = store) := by
  have hplan : Gives (Serves store served) (documents.planRun config prepared request) _ _
      (Serves store served) := gives_planRun hcalm hentity
  refine hplan.andThen ?_
  -- the plan is a value by now, so that what follows does not depend on how it was found
  set plan := planOf store config prepared.ctx request.descriptor request.options
  have hpage : Gives (Serves store served) (documents.runPlan plan prepared request)
      store.latency (pageBy store plan prepared.ctx request.descriptor)
      (Serves store (served + servedBy store plan prepared.ctx request.descriptor)) :=
    gives_runPlan hcalm hentity plan
  -- loading relations reports its failures in the page and never fails itself
  have hload (page : RowPage) : Gives
      (Serves store (served + servedBy store plan prepared.ctx request.descriptor)) _ _ _ _ :=
    gives_populate hcalm request.entity page.items prepared.ctx.populate
  have hrest := hpage.bind (fun page _ => (hload page).map fun populated => ResultPage.make
    populated.records page.total request.descriptor.pagination
      { prepared.metadata request populated.errors with
        strategy := some plan.strategy
        estimatedRows := some plan.estimate.rows
        suggestions :=
          plan.tuningSuggestions 0 config.slowQueryMs (Record.approxSize populated.records) })
    fun _ _ _ hs => hs.1
  have hvalue : resultOf store config prepared request =
      (pageBy store plan prepared.ctx request.descriptor).bind fun page => .ok (ResultPage.make
        (populate store request.entity page.items prepared.ctx.populate).records page.total
          request.descriptor.pagination
          { prepared.metadata request
              (populate store request.entity page.items prepared.ctx.populate).errors with
            strategy := some plan.strategy
            estimatedRows := some plan.estimate.rows
            suggestions := plan.tuningSuggestions 0 config.slowQueryMs (Record.approxSize
              (populate store request.entity page.items prepared.ctx.populate).records) }) := by
    rw [resultOf]
    cases pageBy store plan prepared.ctx request.descriptor <;> rfl
  rw [hvalue]
  exact hrest

end Runs

/-! ## Relational plans -/

/-- The rows of a plan. -/
def rowsOf (store : Store) (plan : Relational.Plan) : Except ExecuteError (List Record) :=
  (plan.rows store).mapError (failure "fetch" plan.entity plan.sql)

/-- The total of a plan. -/
def totalOf (store : Store) (plan : Relational.Plan) : Except ExecuteError Nat :=
  (plan.total store).mapError (failure "count" plan.entity plan.sql)

/-- The rows of the one plan and the total of the other. -/
def rowsAndTotalOf (store : Store) (plans : Relational.Plans) :
    Except ExecuteError (List Record × Nat) :=
  (rowsOf store plans.data).bind fun rows =>
    (totalOf store plans.count).map fun total => (rows, total)

end MemoryBackend

end DualQuery
