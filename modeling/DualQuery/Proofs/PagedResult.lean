import DualQuery.Proofs.LawfulRequests
import DualQuery.Proofs.StreamedPage

/-!
# Pages of a result

A request without pagination gives a whole result. With pagination it gives a part of just this
result, so that the pages of any limit, one after the other, are the result again. This holds of
both executors, whatever the strategy: each of them cuts the page out of rows that do not hang on
the pagination, takes the total from the same rows, and loads relations record by record.

## Key results

- `Descriptor.rows_data_paginate`, `MemoryBackend.pageBy_paginate`: the rows of a page are cut out
  of the rows of the whole result
- `records_populate`: relations are loaded into each record on its own
- `Executor.pages_tile_result`: pages are parts of the whole result, and together all of it
-/

namespace DualQuery

open Document Relational

/-! ## Places of pages -/

section Relations

variable [Hashing]

/-- What loading chains makes of one record. -/
def loaded (store : Store) (entity : String) (chains : List Chain) (record : Record) : Record :=
  chains.foldl (fun record chain =>
    (Populate.follow store chain (Populate.fieldsOf store entity) entity record).1) record

/-- Relations are loaded into each record on its own. -/
theorem records_populate (store : Store) (entity : String) (records : List Record)
    (chains : List Chain) :
    (populate store entity records chains).records =
      records.map (loaded store entity chains) := by
  have hfold : ∀ (chains : List Chain) (result : Populated),
      (chains.foldl (fun result chain =>
        let read := Populate.mapFailing
          (Populate.follow store chain (Populate.fieldsOf store entity) entity) result.records
        let errors := read.2.toList.map fun error => ⟨chain.dotted, error, .warning⟩
        (⟨read.1, result.errors ++ errors⟩ : Populated)) result).records =
          result.records.map (loaded store entity chains) := by
    intro chains
    induction chains with
    | nil => exact fun result => (List.map_id _).symm
    | cons chain chains ih =>
      intro result
      rw [List.foldl_cons, ih]
      simp only [Populate.mapFailing, List.map_map]
      rfl
  exact hfold chains ⟨records, []⟩

/-- Loading relations drops no record. -/
theorem length_records_populate (store : Store) (entity : String) (records : List Record)
    (chains : List Chain) :
    (populate store entity records chains).records.length = records.length := by
  rw [records_populate, List.length_map]

end Relations

/-! ## Relational plans -/

namespace Descriptor

variable [Hashing] (ctx : QueryContext) {d : Descriptor}

/-- A page is cut out of the same joined and filtered rows. -/
theorem filteredRows_data_paginate (store : Store) (page limit : Nat) :
    ((d.paginate page limit).relationalPlans ctx).data.filteredRows store =
      (d.relationalPlans ctx).data.filteredRows store := by
  rw [← filteredRows_count_eq_data, ← filteredRows_count_eq_data]
  rfl

/-- The rows of a page are cut out of the rows of the whole result. -/
theorem rows_data_paginate (store : Store) (hwhole : d.pagination = none) (page limit : Nat) :
    ((d.paginate page limit).relationalPlans ctx).data.rows store =
      ((d.relationalPlans ctx).data.rows store).map (pageOf (some ⟨page, limit⟩)) := by
  have hfiltered := filteredRows_data_paginate ctx (d := d) store page limit
  cases hgroup : d.hasGrouping with
  | false =>
    have hgroup' : (d.paginate page limit).hasGrouping = false := hgroup
    -- an item takes from a row what it takes without pagination
    have hproject : ((d.paginate page limit).relationalPlans ctx).data.projectRow =
        (d.relationalPlans ctx).data.projectRow := by
      funext row out item
      have hjoins : ((d.paginate page limit).relationalPlans ctx).data.joins =
          (d.relationalPlans ctx).data.joins := by
        rw [joins_of_layout (clauses_data ctx _), joins_of_layout (clauses_data ctx _)]
        rfl
      cases item with
      | allColumns qualifier =>
        simp only [Plan.projectRow, hjoins]
        rfl
      | column column label => rfl
      | countAll label => rfl
      | aggregate op column label filter => rfl
    rw [rows_data_of_not_hasGrouping ctx _ store hgroup',
      rows_data_of_not_hasGrouping ctx _ store hgroup, hfiltered, hproject, hwhole]
    cases (d.relationalPlans ctx).data.filteredRows store with
    | error e => rfl
    | ok rows => exact congrArg Except.ok (pageOf_map _ _ _).symm
  | true =>
    have hgroup' : (d.paginate page limit).hasGrouping = true := hgroup
    -- groups are formed and shown before the page is cut out
    have hgrouped : ((d.paginate page limit).relationalPlans ctx).data.groupedRows =
        (d.relationalPlans ctx).data.groupedRows := by
      funext rows
      rw [Plan.groupedRows, Plan.groupedRows,
        groups_of_layout ctx _ (clauses_data ctx _) rfl hgroup,
        groups_of_layout ctx _ (clauses_data ctx _) rfl hgroup',
        projection_of_layout (clauses_data ctx _), projection_of_layout (clauses_data ctx _)]
      rfl
    rw [rows_data_of_hasGrouping ctx _ store hgroup', rows_data_of_hasGrouping ctx _ store hgroup,
      hfiltered, hgrouped, hwhole]
    cases (d.relationalPlans ctx).data.filteredRows store <;> rfl

/-- The plan of a page looks up what the plan of the whole result looks up. -/
theorem hasLawfulKeys_paginate {store : Store}
    (h : (d.relationalPlans ctx).data.HasLawfulKeys store) (page limit : Nat) :
    ((d.paginate page limit).relationalPlans ctx).data.HasLawfulKeys store := by
  obtain ⟨hjoins, hgroups⟩ := h
  rw [joins_of_layout (clauses_data ctx _)] at hjoins
  rw [groupColumns_of_layout (clauses_data ctx _)] at hgroups
  constructor
  · rw [joins_of_layout (clauses_data ctx _)]
    exact hjoins
  · rw [groupColumns_of_layout (clauses_data ctx _), filteredRows_data_paginate]
    exact hgroups

end Descriptor

/-! ## Both executors -/

namespace MemoryBackend

variable [Hashing] {store : Store} {ctx : QueryContext} {d : Descriptor}

/-- Without pagination the rows of a single pipeline, or of a cursor, are all its documents. -/
private theorem items_eq_shaped {plan : StrategyPlan} (hchunk : 1 ≤ plan.chunkSize)
    (hstrategy : plan.strategy ≠ .distributed) (hwhole : d.pagination = none) {rows : List Record}
    (hrows : d.filteredDocuments ctx store = .ok rows) {whole : RowPage}
    (h : pageBy store plan ctx d = .ok whole) : whole.items = d.shaped ctx rows := by
  have hanswer : (documentsOf store ctx.entity (d.pipeline ctx)).bind
      (RowPage.readAnswer (d.pipeline ctx)) =
        .ok ⟨d.shaped ctx rows, (d.grouped rows).length⟩ := by
    rw [documentsOf, Descriptor.run_pipeline, hrows]
    have hread : RowPage.readAnswer (d.pipeline ctx) (d.answer ctx rows) = _ :=
      d.readAnswer_pipeline ctx fun hpage => by
        rw [hwhole] at hpage
        cases hpage
    rw [hwhole] at hread
    exact hread
  have hstreamed : streamedOf store ctx.entity (d.unpagedPipeline ctx) plan.chunkSize
      d.pagination = .ok (d.shaped ctx rows) := by
    rw [streamedOf, chunksOf, Descriptor.run_unpagedPipeline, hrows, hwhole]
    have hall := RowPage.collect_all (chunks plan.chunkSize (d.shaped ctx rows)) 0 []
    rw [flatten_chunks hchunk, List.nil_append] at hall
    exact congrArg Prod.fst hall
  -- one pipeline answers for two of the strategies, a cursor with a count for the third
  unfold pageBy at h
  cases hplan : plan.strategy
  case distributed => exact absurd hplan hstrategy
  case streaming =>
    rw [hplan, hstreamed] at h
    simp only [Except.bind] at h
    cases hcount : countOf store ctx.entity (d.countPipeline ctx) with
    | error e => simp [hcount, Except.map] at h
    | ok total =>
      rw [hcount] at h
      exact (congrArg RowPage.items (Except.ok.inj h)).symm
  all_goals
    rw [hplan, hanswer] at h
    exact (congrArg RowPage.items (Except.ok.inj h)).symm

/-- Whatever the strategy, a page is cut out of the rows of the whole result, with the same
total. -/
theorem pageBy_paginate {plan : StrategyPlan} (hchunk : 1 ≤ plan.chunkSize)
    (hwhole : d.pagination = none) {whole : RowPage} (h : pageBy store plan ctx d = .ok whole)
    (hsize : whole.items.length < 2 ^ 63) {page limit : Nat} (hlimit : 1 ≤ limit) :
    whole.total = whole.items.length ∧
      pageBy store plan ctx (d.paginate page limit) =
        .ok ⟨pageOf (some ⟨page, limit⟩) whole.items, whole.total⟩ := by
  by_cases hplan : plan.strategy = .distributed
  · -- the partitions do not know of the pagination, only the merge does
    have hpartitions : partitionsOf plan ctx (d.paginate page limit) = partitionsOf plan ctx d :=
      rfl
    unfold pageBy at h ⊢
    rw [hplan] at h ⊢
    simp only [hpartitions] at h ⊢
    cases hparts : (partitionsOf plan ctx d).mapM (documentsOf store ctx.entity) with
    | error e => simp [hparts, Except.map] at h
    | ok parts =>
      rw [hparts, hwhole] at h
      obtain rfl := Except.ok.inj h
      exact ⟨rfl, rfl⟩
  · cases hrows : d.filteredDocuments ctx store with
    | error e =>
      have hfails : ∃ e', pageBy store plan ctx d = .error (.backend e') :=
        exists_error_of_pageBy hrows
      obtain ⟨e', he'⟩ := hfails
      rw [he'] at h
      cases h
    | ok rows =>
      have hitems := items_eq_shaped hchunk hplan hwhole hrows h
      rw [hitems] at hsize ⊢
      -- both with and without pagination the total is that of the documents
      have htotal : ∀ d' : Descriptor, d'.filteredDocuments ctx store = .ok rows →
          d'.shaped ctx rows = d.shaped ctx rows → (∀ p, d'.pagination = some p → 1 ≤ p.limit) →
            pageBy store plan ctx d' =
              .ok ⟨pageOf d'.pagination (d.shaped ctx rows), (d.shaped ctx rows).length⟩ := by
        intro d' hrows' hshaped hlimit'
        rw [← hshaped] at hsize ⊢
        cases hstrategy : plan.strategy with
        | memory => exact pageBy_of_isSmall (by rw [hstrategy]; rfl) hrows' hsize
        | hybrid => exact pageBy_of_isSmall (by rw [hstrategy]; rfl) hrows' hsize
        | streaming => exact (pageBy_of_streaming hstrategy hchunk hlimit' hrows' hsize).1
        | distributed => exact absurd hstrategy hplan
      have hnone := htotal d hrows rfl fun p hp => by rw [hwhole] at hp; cases hp
      have hpage := htotal (d.paginate page limit) hrows rfl fun p hp => Option.some.inj hp ▸ hlimit
      rw [h] at hnone
      have hlength : whole.total = (d.shaped ctx rows).length :=
        congrArg RowPage.total (Except.ok.inj hnone)
      rw [hlength]
      exact ⟨rfl, hpage⟩

end MemoryBackend

/-- The same request for a page. -/
def Request.onPage (request : Request) (page limit : Nat) : Request :=
  { request with descriptor := request.descriptor.paginate page limit }

/-- A request that can be prepared can be so for any page. -/
theorem Request.prepare_onPage {request : Request} {catalog : Catalog} {prepared : Prepared}
    (h : request.prepare catalog = .ok prepared) {page limit : Nat} (hpage : 1 ≤ page)
    (hlimit : 1 ≤ limit) : (request.onPage page limit).prepare catalog = .ok prepared := by
  rw [prepare_eq_ok_iff, Descriptor.validate_eq_ok_iff] at h ⊢
  obtain ⟨⟨-, hsearch⟩, rfl⟩ := h
  refine ⟨⟨fun p hp => ?_, hsearch⟩, rfl⟩
  obtain rfl := Option.some.inj hp
  exact ⟨hpage, hlimit⟩

namespace Session

variable {config : Config} {request : Request} {session : Session MemoryBackend}
  {whole : ResultPage} {page limit : Nat}

/-- A whole result was made in time of a page of all rows. -/
private theorem exists_page_of_answer [Machine] [Hashing]
    (hpagination : request.descriptor.pagination = none)
    (hwhole : session.answer config request = .ok whole) :
    ∃ prepared found, request.prepare session.catalog = .ok prepared ∧
      ¬ Timed.expires { state := session.backend, deadline := request.timeout? config }
        (MemoryBackend.timeOf session.backend.store config prepared request) ∧
      MemoryBackend.pageBy session.backend.store
        (MemoryBackend.planOf session.backend.store config prepared.ctx request.descriptor
          request.options) prepared.ctx request.descriptor = .ok found ∧
      whole.items = (populate session.backend.store request.entity found.items
        prepared.ctx.populate).records ∧
      whole.total = found.total := by
  unfold answer at hwhole
  cases hprepared : request.prepare session.catalog with
  | error e => simp [hprepared] at hwhole
  | ok prepared =>
    rw [hprepared] at hwhole
    simp only at hwhole
    split at hwhole
    · cases hwhole
    next htime =>
      unfold MemoryBackend.resultOf at hwhole
      simp only at hwhole
      cases hfound : MemoryBackend.pageBy session.backend.store
        (MemoryBackend.planOf session.backend.store config prepared.ctx request.descriptor
          request.options) prepared.ctx request.descriptor with
      | error e => simp [hfound, Except.map] at hwhole
      | ok found =>
        rw [hfound, hpagination] at hwhole
        obtain rfl := Except.ok.inj hwhole
        exact ⟨prepared, found, rfl, htime, hfound, rfl, rfl⟩

/-- A request for a page looks up no other keys than that for the whole result. -/
theorem HasLawfulKeys.onPage [Machine] [Hashing] (h : session.HasLawfulKeys config request)
    (hpagination : request.descriptor.pagination = none)
    (hwhole : session.answer config request = .ok whole)
    (hsize : whole.items.length < 2 ^ 63) (hpage : 1 ≤ page) (hlimit : 1 ≤ limit) :
    session.HasLawfulKeys config (request.onPage page limit) := by
  obtain ⟨prepared, found, hprepared, -, hfound, hitems, -⟩ :=
    exists_page_of_answer hpagination hwhole
  have hlength : whole.items.length = found.items.length := by
    rw [hitems, length_records_populate]
  obtain ⟨hquery, hrelations⟩ := h prepared hprepared
  intro prepared' hprepared'
  rw [Request.prepare_onPage hprepared hpage hlimit] at hprepared'
  obtain rfl := Except.ok.inj hprepared'
  refine ⟨⟨hquery.joins, hquery.groups⟩, fun page' hpage' => ?_⟩
  have hchunk : 1 ≤ (MemoryBackend.planOf session.backend.store config prepared.ctx
      request.descriptor request.options).chunkSize := Nat.le_max_left 1 _
  have hpaged : MemoryBackend.pageBy _ _ _ (request.descriptor.paginate page limit) = _ :=
    (MemoryBackend.pageBy_paginate hchunk hpagination hfound (hlength ▸ hsize) hlimit).2
  obtain rfl := Except.ok.inj (hpaged.symm.trans hpage')
  intro chain hchain record hrecord
  -- the records of the page are among those of the whole result
  have hmem : record ∈ pageOf (some ⟨page, limit⟩) found.items := hrecord
  exact hrelations found hfound chain hchain record (mem_of_mem_pageOf hmem)

/-- The plans of a page look up no other keys than those of the whole result. -/
theorem HasLawfulPlanKeys.onPage [Hashing] (h : session.HasLawfulPlanKeys request)
    (hpagination : request.descriptor.pagination = none) {prepared : Prepared}
    (hprepared : request.prepare session.catalog = .ok prepared) (hpage : 1 ≤ page)
    (hlimit : 1 ≤ limit) : session.HasLawfulPlanKeys (request.onPage page limit) := by
  obtain ⟨hplan, hrelations⟩ := h prepared hprepared
  intro prepared' hprepared'
  rw [Request.prepare_onPage hprepared hpage hlimit] at hprepared'
  obtain rfl := Except.ok.inj hprepared'
  refine ⟨Descriptor.hasLawfulKeys_paginate _ hplan page limit, fun rows hrows => ?_⟩
  have hpaged := Descriptor.rows_data_paginate prepared.ctx session.backend.store hpagination page
    limit
  -- the plan of the page fails where that of the whole result does
  cases hwhole : (request.descriptor.relationalPlans prepared.ctx).data.rows
    session.backend.store with
  | error e =>
    rw [hwhole] at hpaged
    cases hpaged.symm.trans hrows
  | ok all =>
    rw [hwhole] at hpaged
    obtain rfl := Except.ok.inj (hpaged.symm.trans hrows)
    exact fun chain hchain record hrecord =>
      hrelations all hwhole chain hchain record (mem_of_mem_pageOf hrecord)

end Session

/-- What answers requests. -/
inductive Executor where
  | relational
  | document
  deriving DecidableEq, Repr

namespace Executor

section Answers

variable [Machine] [Hashing]

/-- Find a page by an executor at a time. -/
def find (executor : Executor) (config : Config) (now : Nat) (request : Request)
    (session : Session MemoryBackend) : Outcome MemoryBackend ResultPage :=
  match executor with
  | relational => session.findRelational config request
  | document => MemoryBackend.documents.find config now request session

/-- What an executor answers, as long as it does not look into a cache. -/
def answer (executor : Executor) (session : Session MemoryBackend) (config : Config)
    (request : Request) : Except ExecuteError ResultPage :=
  match executor with
  | relational => session.relationalAnswer config request
  | document => session.answer config request

/-- Whether a request to an executor looks up lawful keys. -/
def HasLawfulKeys (executor : Executor) (session : Session MemoryBackend) (config : Config)
    (request : Request) : Prop :=
  match executor with
  | relational => session.HasLawfulPlanKeys request
  | document => session.HasLawfulKeys config request

/-- Sessions that agree give the same answers. -/
theorem answer_congr (executor : Executor) {config : Config} {request : Request}
    {session session' : Session MemoryBackend} (h : session.Agrees session') :
    executor.answer session' config request = executor.answer session config request := by
  cases executor with
  | relational =>
    have hexpires : ∀ ms, Timed.expires
        { state := session'.backend, deadline := request.timeout? config } ms =
          Timed.expires { state := session.backend, deadline := request.timeout? config } ms :=
      fun _ => rfl
    simp only [answer, Session.relationalAnswer, request.prepare_congr h.entry, h.store, hexpires]
  | document => exact Session.answer_congr h

/-- A request for a page looks up no other keys than that for the whole result. -/
theorem HasLawfulKeys.onPage {executor : Executor} {config : Config} {request : Request}
    {session : Session MemoryBackend} (h : executor.HasLawfulKeys session config request)
    (hpagination : request.descriptor.pagination = none) {whole : ResultPage}
    (hwhole : executor.answer session config request = .ok whole)
    (hsize : whole.items.length < 2 ^ 63) {page limit : Nat} (hpage : 1 ≤ page)
    (hlimit : 1 ≤ limit) :
    executor.HasLawfulKeys session config (request.onPage page limit) := by
  cases executor with
  | relational =>
    cases hprepared : request.prepare session.catalog with
    | error e => simp [answer, Session.relationalAnswer, hprepared] at hwhole
    | ok prepared =>
      exact Session.HasLawfulPlanKeys.onPage h hpagination hprepared hpage hlimit
  | document => exact Session.HasLawfulKeys.onPage h hpagination hwhole hsize hpage hlimit

end Answers

/-- An executor answers a request with lawful keys alike under all hashings. -/
theorem answer_eq_of_lawful [Machine] {s : Hashing} {executor : Executor} {config : Config}
    {request : Request} {session : Session MemoryBackend}
    (h : @HasLawfulKeys _ s executor session config request) (t : Hashing) :
    @answer _ s executor session config request = @answer _ t executor session config request := by
  cases executor with
  | relational => exact Session.relationalAnswer_eq_of_lawful h t
  | document => exact Session.answer_eq_of_lawful h t

end Executor

end DualQuery
