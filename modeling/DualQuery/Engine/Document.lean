import DualQuery.Document.Compile
import DualQuery.Engine.Session

/-!
# The document executor

A request is answered from the cache if it can be. Else its rows are estimated, a strategy is chosen
and its pipelines are run; whatever the strategy, the result is the page with the total.
-/

namespace DualQuery

open Document (Pipeline PipelineOptions totalField)

/-- A page of rows and the total. -/
structure RowPage where
  items : List Record
  total : Nat
  deriving Repr, Inhabited

namespace RowPage

/-- The total in the answer of a count. -/
def readTotal (row : Record) : Except ExecuteError Nat :=
  match (Keyed.get? row totalField).bind Value.integer? with
  | some n =>
    if 0 ≤ n.toInt then .ok n.toInt.toNat
    else .error (.malformed ("no '" ++ totalField ++ "' in count output"))
  | none => .error (.malformed ("no '" ++ totalField ++ "' in count output"))

/-- The total in the answer of a pipeline that counts; no row means none. -/
def readCount (rows : List Record) : Except ExecuteError Nat :=
  match rows with
  | row :: _ => readTotal row
  | [] => .ok 0

/-- The page in the answer of a pipeline that gives page and total together. -/
def readFacet (rows : List Record) : Except ExecuteError RowPage :=
  match rows with
  | [] => .ok ⟨[], 0⟩
  | facet :: _ => do
    let items ← match Keyed.get? facet "data" with
      | some (.array items) => items.mapM fun item =>
        match item with
        | .object record => .ok record
        | other =>
          .error (.malformed ("facet item is " ++ other.typeName ++ ", expected an object"))
      | _ => .error (.malformed "facet is missing 'data'")
    match Keyed.get? facet totalField with
    | some (.array []) => return ⟨items, 0⟩
    | some (.array (.object count :: _)) => return ⟨items, ← readTotal count⟩
    | some (.array (other :: _)) => .error (.malformed ("facet total is " ++ other.typeName))
    | _ => .error (.malformed "facet is missing 'total'")

/-- The page in the answer of a pipeline, which gives the page with the total, or all rows. -/
def readAnswer (pipeline : Pipeline) (rows : List Record) : Except ExecuteError RowPage :=
  if pipeline.isPaginated then readFacet rows else .ok ⟨rows, rows.length⟩

/-- The page of rows from partitions: sorted again, then cut. -/
def merge (keys : List Record.SortKey) (pagination : Option Pagination)
    (parts : List (List Record)) : RowPage :=
  let rows := Record.sort keys parts.flatten
  let items := match pagination with
    | some p => (rows.drop p.skip).take p.limit
    | none => rows
  ⟨items, rows.length⟩

/-- The rows of a page from chunks, with the number of chunks taken. No chunk is taken once the page
is full or a chunk failed; `seen` rows came before, and `items` are the rows of the page so far. -/
def collect (skip : Nat) (limit : Option Nat) :
    Nat → List Record → List (Except ExecuteError (List Record)) →
      Except ExecuteError (List Record) × Nat
  | _, items, [] => (.ok items, 0)
  | _, _, .error e :: _ => (.error e, 0)
  | seen, items, .ok chunk :: rest =>
    let fresh := chunk.drop (skip - seen)
    match limit with
    | some n =>
      let items := items ++ fresh.take (n - items.length)
      if n ≤ items.length then (.ok items, 1)
      else
        let (result, taken) := collect skip limit (seen + chunk.length) items rest
        (result, taken + 1)
    | none =>
      let (result, taken) := collect skip limit (seen + chunk.length) (items ++ fresh) rest
      (result, taken + 1)

end RowPage

namespace DocumentBackend

variable {σ : Type} (backend : DocumentBackend σ)

/-- Read the answer of a call. -/
def reading {α β : Type} (call : Call σ α) (read : α → Except ExecuteError β) : Call σ β where
  start := call.start
  answer state :=
    let (result, state) := call.answer state
    (result.bind read, state)

/-- Count the documents of a pipeline. -/
def countCall (collection : String) (pipeline : Pipeline) : Call σ Nat :=
  reading (backend.aggregate collection pipeline {}) RowPage.readCount

/-- Run one pipeline and read its answer. -/
def runFaceted (collection : String) (pipeline : Pipeline) (options : PipelineOptions) :
    Run σ RowPage := do
  let ms := backend.latency (← Run.state)
  Run.call ms <| reading (backend.aggregate collection pipeline options)
    (RowPage.readAnswer pipeline)

/-- Take the rows of a page from a cursor. -/
def pageCall (collection : String) (pipeline : Pipeline) (options : PipelineOptions)
    (pagination : Option Pagination) : Call σ (List Record) :=
  let cursor := backend.openCursor collection pipeline options
  { start := cursor.start
    answer := fun state =>
      let (result, state) := cursor.answer state
      match result with
      | .error e => (.error e, state)
      | .ok chunks =>
        let (items, taken) := RowPage.collect ((pagination.map Pagination.skip).getD 0)
          (pagination.map Pagination.limit) 0 [] chunks
        (items, backend.takeChunks taken state) }

/-- Take the page from a cursor and count the rows at the same time. -/
def runStreaming (collection : String) (data count : Pipeline) (options : PipelineOptions)
    (pagination : Option Pagination) : Run σ RowPage := do
  let ms := backend.latency (← Run.state)
  let (items, total) ← Run.both ms (backend.pageCall collection data options pagination)
    (backend.countCall collection count)
  return ⟨items, total⟩

/-- Run the pipelines of all partitions together and merge their rows. -/
def runDistributed (collection : String) (pipelines : List Pipeline) (options : PipelineOptions)
    (pagination : Option Pagination) : Run σ RowPage := do
  let ms := backend.latency (← Run.state)
  let parts ← Run.all ms
    (pipelines.map fun pipeline => backend.aggregate collection pipeline options)
  return RowPage.merge ((pipelines.head?.map Pipeline.sortKeys).getD []) pagination parts

variable [Machine]

/-- Plan the execution of a request by an estimate of its rows. -/
def planRun (config : Config) (prepared : Prepared) (request : Request) : Run σ StrategyPlan := do
  let ms := backend.latency (← Run.state)
  let pipeline := request.descriptor.estimatePipeline prepared.ctx
  let rows ← Run.attempt ms config.estimateTimeoutMs (backend.countCall request.entity pipeline)
  let estimate : RowEstimate := match rows with
    | some rows => ⟨rows, false⟩
    | none => ⟨config.fallbackEstimate, true⟩
  return .make config prepared.ctx request.descriptor estimate request.options.strategy
    (request.options.memoryCeiling.getD config.memoryCeilingBytes)

/-- Run the pipelines of a plan. -/
def runPlan (plan : StrategyPlan) (prepared : Prepared) (request : Request) : Run σ RowPage :=
  let d := request.descriptor
  let ctx := prepared.ctx
  let options : PipelineOptions := {
    allowDiskUse := plan.allowDiskUse
    parallelLookups := plan.parallelLookups
    batchSize := if plan.strategy = .streaming then some plan.chunkSize else none }
  match plan.strategy with
  | .memory | .hybrid => backend.runFaceted request.entity (d.pipeline ctx) options
  | .streaming =>
    backend.runStreaming request.entity (d.unpagedPipeline ctx) (d.countPipeline ctx) options
      d.pagination
  | .distributed =>
    let key := plan.partitionKey.getD ctx.primaryKey
    -- there is always a partition to ask
    let partitions := max 1 plan.parallelism
    backend.runDistributed request.entity
      ((List.range partitions).map (d.partitionPipeline ctx key partitions)) options d.pagination

/-- Find a page by pipelines. -/
def runRequest (config : Config) (prepared : Prepared) (request : Request) : Run σ ResultPage := do
  let plan ← backend.planRun config prepared request
  let page ← backend.runPlan plan prepared request
  let ms := backend.latency (← Run.state)
  let populated ← Run.call ms (backend.populate request.entity page.items prepared.ctx.populate)
  let metadata := { prepared.metadata request populated.errors with
    strategy := some plan.strategy
    estimatedRows := some plan.estimate.rows
    suggestions :=
      plan.tuningSuggestions 0 config.slowQueryMs (Record.approxSize populated.records) }
  return .make populated.records page.total request.descriptor.pagination metadata

/-- Find a page, in the cache if it is there. Entries are read and written at time `now`. -/
def find (config : Config) (now : Nat) (request : Request) (session : Session σ) :
    Outcome σ ResultPage :=
  match request.prepare session.catalog with
  | .error e => (.error e, session)
  | .ok prepared =>
    let session := { session with catalog := session.catalog.visit request.entity }
    let key := CacheKey.derive prepared.ctx request.descriptor
    let (cached, cache) :=
      if request.options.useCache then session.cache.get now key else (none, session.cache)
    match cached with
    | some page =>
      (.ok { page with metadata := { page.metadata with cacheHit := true } },
        { session with cache := cache })
    | none =>
      let (result, state) := (backend.runRequest config prepared request).within request.entity
        (request.timeout? config) session.backend
      -- failures are not kept
      let cache := match result with
        | .ok page =>
          if request.options.useCache then cache.put now key page request.options.cacheTtl
          else cache
        | .error _ => cache
      (result, { session with backend := state, cache := cache })

/-- Plan the execution of a request without running it. -/
def plan (config : Config) (request : Request) (session : Session σ) : Outcome σ StrategyPlan :=
  match request.prepare session.catalog with
  | .error e => (.error e, session)
  | .ok prepared =>
    let (result, state) :=
      (backend.planRun config prepared request).within request.entity none session.backend
    (result, { session with backend := state, catalog := session.catalog.visit request.entity })

end DocumentBackend

end DualQuery
