import DualQuery.Proofs.DistributedRun
import DualQuery.Proofs.RequestValue
import DualQuery.Proofs.TimestampOperands

/-!
# The content of a result

What a page says beside its metadata: the items, the total and the place of the page in the whole
result. Where the caller leaves the strategy open, the content of a result is a function of the
store, the configuration and the query, in which a timestamp counts as the integer it is written
as. Which memory the request is given, how long it may take and whether it is cached only show in
the metadata, if at all.

Failures are told with the text of a pipeline, in which timestamps and integers differ. Results are
therefore compared through `Except.toOption`.

## Key results

- `MemoryBackend.toOption_pageBy_untimed`: the page of a plan
- `MemoryBackend.toOption_resultOf`: the content of a result
- `MemoryBackend.contentOf_untimed`: what the content depends on
-/

namespace DualQuery

open Document

namespace ResultPage

/-- A page without its metadata. -/
def content (page : ResultPage) : ResultPage := { page with metadata := {} }

/-- The content of a page that holds the given items. -/
theorem content_make (items : List Record) (total : Nat) (pagination : Option Pagination)
    (metadata metadata' : Metadata) :
    (make items total pagination metadata).content =
      (make items total pagination metadata').content := by
  cases pagination <;> rfl

end ResultPage

/-! ## Results that may fail -/

section Optional

variable {ε ε' α β : Type}

/-- The wording of a failure is not seen. -/
theorem toOption_mapError (f : ε → ε') (x : Except ε α) : (x.mapError f).toOption = x.toOption := by
  cases x <;> rfl

/-- A change of the result is made to what is seen of it. -/
theorem toOption_map (f : α → β) (x : Except ε α) : (x.map f).toOption = x.toOption.map f := by
  cases x <;> rfl

/-- What comes next is seen where the first result is. -/
theorem toOption_bind (f : α → Except ε β) (x : Except ε α) :
    (x.bind f).toOption = x.toOption.bind fun a => (f a).toOption := by
  cases x <;> rfl

/-- Results that are seen one by one are seen together. -/
theorem toOption_mapM (f : α → Except ε β) (as : List α) :
    (as.mapM f).toOption = as.mapM fun a => (f a).toOption := by
  induction as with
  | nil => rfl
  | cons a as ih =>
    rw [List.mapM_cons, List.mapM_cons, ← ih]
    cases f a with
    | error e => rfl
    | ok b => cases List.mapM f as <;> rfl

end Optional

/-! ## Plans -/

namespace Descriptor

variable (ctx : QueryContext) (d : Descriptor)

/-- Whether all rows form one group shows in the names of fields. -/
theorem isGroupAll_untimed : d.untimed.isGroupAll = d.isGroupAll := by
  rw [isGroupAll, isGroupAll, untimed]
  cases d.aggregations <;> rfl

/-- A plan for a query, as far as the pipelines are run by it. -/
theorem make_untimed [Machine] (config : Config) (estimate : RowEstimate) (choice : Option Strategy)
    (ceiling ceiling' : Nat) :
    { StrategyPlan.make config ctx d estimate choice ceiling with
        suggestedIndexes := d.untimed.suggestedIndexes ctx.untimed
        memoryBudget := .split ceiling' } =
      StrategyPlan.make config ctx.untimed d.untimed estimate choice ceiling' := by
  -- conditions are only looked at for the indexes that are suggested
  simp only [StrategyPlan.make, selectStrategy, isGroupAll_untimed]
  rfl

variable [Hashing]

/-- What is answered from the filtered documents does not tell timestamps from integers. -/
theorem answer_untimed (rows : List Record) :
    d.untimed.answer ctx.untimed rows = d.answer ctx rows := by
  simp only [answer, shaped_untimed]
  rfl

/-- Pipelines that make the same of the filtered documents give the same. -/
theorem run_untimed {store : Store} {pipeline pipeline' : Pipeline}
    {result result' : List Record → List Record}
    (hrun : pipeline.run store ctx.entity = (d.filteredDocuments ctx store).map result)
    (hrun' : pipeline'.run store ctx.untimed.entity =
      (d.untimed.filteredDocuments ctx.untimed store).map result')
    (h : ∀ rows, result' rows = result rows) :
    pipeline'.run store ctx.entity = pipeline.run store ctx.entity := by
  rw [filteredDocuments_untimed, funext h] at hrun'
  exact hrun'.trans hrun.symm

end Descriptor

namespace MemoryBackend

variable [Hashing] (store : Store) (ctx : QueryContext) (d : Descriptor)

/-- The documents of a pipeline are those of its run. -/
theorem toOption_documentsOf (pipeline : Pipeline) (collection : String) :
    (documentsOf store collection pipeline).toOption = (pipeline.run store collection).toOption :=
  toOption_mapError _ _

/-- The chunks of a cursor are those of the run of its pipeline. -/
theorem toOption_chunksOf (pipeline : Pipeline) (collection : String) (size : Nat) :
    (chunksOf store collection pipeline size).toOption =
      (pipeline.run store collection).toOption.map (chunks size) := by
  rw [chunksOf, toOption_mapError, toOption_map]

/-- The number of rows that is estimated. -/
theorem toOption_countOf_estimatePipeline :
    (countOf store ctx.entity (d.untimed.estimatePipeline ctx.untimed)).toOption =
      (countOf store ctx.entity (d.estimatePipeline ctx)).toOption := by
  have hrun (ctx : QueryContext) (d : Descriptor) :
      (d.estimatePipeline ctx).run store ctx.entity =
        (d.filteredDocuments ctx store).map (countRow totalField) :=
    d.run_eq ctx store rfl fun rows => rfl
  have huntimed := d.run_untimed ctx (hrun ctx d) (hrun ctx.untimed d.untimed) fun _ => rfl
  rw [countOf, countOf, toOption_bind, toOption_bind, toOption_documentsOf, toOption_documentsOf,
    huntimed]

/-! ## Pages -/

/-- The page of a plan, as far as there is one. -/
theorem toOption_pageBy_untimed (plan : StrategyPlan) :
    (pageBy store plan ctx.untimed d.untimed).toOption = (pageBy store plan ctx d).toOption := by
  have hentity : ctx.untimed.entity = ctx.entity := rfl
  have hpagination : d.untimed.pagination = d.pagination := rfl
  have hpipeline := d.run_untimed ctx (d.run_pipeline ctx store)
    (d.untimed.run_pipeline ctx.untimed store) (d.answer_untimed ctx)
  -- only the shape of the pipeline matters for reading its answer
  have hread (rows : List Record) : RowPage.readAnswer (d.untimed.pipeline ctx.untimed) rows =
      RowPage.readAnswer (d.pipeline ctx) rows := by
    rw [RowPage.readAnswer, RowPage.readAnswer, Descriptor.isPaginated_pipeline,
      Descriptor.isPaginated_pipeline, hpagination]
  have hunpaged := d.run_untimed ctx (d.run_unpagedPipeline ctx store)
    (d.untimed.run_unpagedPipeline ctx.untimed store) (d.shaped_untimed ctx)
  have hcount := d.run_untimed ctx (d.run_countPipeline ctx store)
    (d.untimed.run_countPipeline ctx.untimed store) fun rows => by rw [d.grouped_untimed]
  unfold pageBy
  -- only what is found is compared, not how a failure is put
  cases plan.strategy
  case memory | hybrid =>
    simp only [toOption_bind, toOption_documentsOf, hentity, hpipeline, hread]
  case streaming =>
    simp only [streamedOf, countOf, toOption_bind, toOption_map, toOption_chunksOf,
      toOption_documentsOf, hentity, hunpaged, hcount, hpagination]
  case distributed =>
    have hpartition (key : String) (partitions index : Nat) :=
      d.run_untimed ctx (d.run_partitionPipeline ctx store key partitions index)
        (d.untimed.run_partitionPipeline ctx.untimed store key partitions index)
        fun rows => d.shaped_untimed ctx _
    -- the merge sorts by the keys of the first pipeline, which no condition shows in
    have hkeys : ((partitionsOf plan ctx.untimed d.untimed).head?.map Pipeline.sortKeys).getD [] =
        ((partitionsOf plan ctx d).head?.map Pipeline.sortKeys).getD [] := by
      have hsort : d.untimed.sortKeysOn ctx.untimed = d.sortKeysOn ctx := by
        rw [Descriptor.sortKeysOn, Descriptor.sortKeysOn, d.sortFields_untimed]
      rw [partitionsOf, partitionsOf, List.head?_map, List.head?_map, Option.map_map,
        Option.map_map]
      simp only [Function.comp_def, Descriptor.sortKeys_partitionPipeline, hsort]
    have hparts : ((partitionsOf plan ctx.untimed d.untimed).mapM
          (documentsOf store ctx.entity)).toOption =
        ((partitionsOf plan ctx d).mapM (documentsOf store ctx.entity)).toOption := by
      rw [toOption_mapM, toOption_mapM, partitionsOf, partitionsOf, List.mapM_map, List.mapM_map]
      simp only [Function.comp_def, toOption_documentsOf, hpartition]
      rfl
    rw [toOption_map, toOption_map, hkeys, hentity, hparts, hpagination]

/-! ## Contents -/

variable [Machine]

/-- The plan of a request hangs on the memory it is given only in what is told about it. -/
theorem planOf_untimed (config : Config) (options options' : QueryOptions)
    (hstrategy : options'.strategy = options.strategy) : ∃ indexes budget,
    planOf store config ctx.untimed d.untimed options' =
      { planOf store config ctx d options with
          suggestedIndexes := indexes
          memoryBudget := budget } := by
  have hcount : (countOf store ctx.untimed.entity
        (d.untimed.estimatePipeline ctx.untimed)).toOption =
      (countOf store ctx.entity (d.estimatePipeline ctx)).toOption :=
    toOption_countOf_estimatePipeline store ctx d
  unfold planOf planBy
  rw [hcount, hstrategy]
  exact ⟨_, _, (d.make_untimed ctx config _ _ _ _).symm⟩

/-- The content of a result, as far as there is one. -/
def contentOf (config : Config) (options : QueryOptions) : Option ResultPage :=
  (pageBy store (planOf store config ctx d options) ctx d).toOption.map fun page =>
    (ResultPage.make (populate store ctx.entity page.items ctx.populate).records page.total
      d.pagination {}).content

/-- The content of a result is that of the page that is found. -/
theorem toOption_resultOf {config : Config} {prepared : Prepared} {request : Request}
    (hentity : prepared.ctx.entity = request.entity) :
    (resultOf store config prepared request).toOption.map ResultPage.content =
      contentOf store prepared.ctx request.descriptor config request.options := by
  rw [resultOf, contentOf, toOption_map, Option.map_map, hentity]
  congr 1
  funext page
  exact ResultPage.content_make _ _ _ _ _

/-- The content of a result hangs on the query alone, with integers for its timestamps. -/
theorem contentOf_untimed (config : Config) (options options' : QueryOptions)
    (hstrategy : options'.strategy = options.strategy) :
    contentOf store ctx.untimed d.untimed config options' =
      contentOf store ctx d config options := by
  obtain ⟨indexes, budget, hplan⟩ := planOf_untimed store ctx d config options options' hstrategy
  rw [contentOf, contentOf, hplan, toOption_pageBy_untimed]
  rfl

end MemoryBackend

end DualQuery
