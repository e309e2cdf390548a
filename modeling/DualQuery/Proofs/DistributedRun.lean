import DualQuery.Proofs.PartitionCover
import DualQuery.Proofs.RunOutcome
import DualQuery.Proofs.ValueOrder

/-!
# Distributed runs

A distributed run sorts and projects the documents of each partition by themselves, and the merge
sorts what they give once more. The total is always that of a single pipeline. The merge sorts
projected documents, so the items come in the order of a single pipeline where the selection keeps
the fields to sort by; where it drops one the merge no longer knows the order.

## Key results

- `Descriptor.sortKeys_partitionPipeline`: what the merge sorts by
- `Descriptor.merge_partitions`: the merged page
- `MemoryBackend.distributed_agrees_with_memory`: both runs within a time
- `MemoryBackend.distributed_reorders`: a selection that drops the field to sort by
-/

namespace DualQuery

open Document

namespace Document

/-- The fields of a stage that sorts. -/
def Stage.sortFields? : Stage → Option (List SortField)
  | sort fields => some fields
  | _ => none

/-- The keys of a pipeline are those of the last stage that sorts. -/
theorem sortKeys_eq (pipeline : Pipeline) : pipeline.sortKeys =
    ((pipeline.stages.reverse.findSome? Stage.sortFields?).getD []).map SortField.key := by
  rw [Pipeline.sortKeys]
  congr 1

end Document

/-- The merge sorts the rows of all parts and takes the page of them. -/
theorem RowPage.merge_eq (keys : List Record.SortKey) (pagination : Option Pagination)
    (parts : List (List Record)) : RowPage.merge keys pagination parts =
      ⟨pageOf pagination (Record.sort keys parts.flatten),
        (Record.sort keys parts.flatten).length⟩ := rfl

namespace Descriptor

variable {ctx : QueryContext} {d : Descriptor}

/-! ## The merge -/

/-- The merge sorts by the fields that the result is sorted by. -/
theorem sortKeys_partitionPipeline (ctx : QueryContext) (d : Descriptor) (key : String)
    (partitions index : Nat) :
    (d.partitionPipeline ctx key partitions index).sortKeys = d.sortKeysOn ctx := by
  -- no stage in front of the shaping sorts, so the last one that does is the one of the result
  have hfront : (d.filterStages ctx ++
      [Stage.filter (.partition key partitions index)]).reverse.findSome? Stage.sortFields? =
        none := by
    rw [List.findSome?_eq_none_iff]
    intro stage hstage
    rw [List.mem_reverse, List.mem_append, List.mem_singleton] at hstage
    rcases hstage with hstage | rfl
    · rcases d.mem_filterStages ctx hstage with ⟨_, rfl⟩ | ⟨_, _, _, _, rfl⟩ | ⟨_, _, rfl⟩ <;> rfl
    · rfl
  have hshape : (d.shapeStages ctx).reverse.findSome? Stage.sortFields? =
      if (d.sortFields ctx).isEmpty then none else some (d.sortFields ctx) := by
    rw [shapeStages, groupStage]
    split <;> split <;> split <;> split <;> simp_all [Stage.sortFields?, List.findSome?_cons]
  rw [sortKeys_eq, partitionPipeline, List.reverse_append, List.findSome?_append, hfront, hshape,
    Option.or_none, sortKeysOn]
  cases hfields : d.sortFields ctx <;> rfl

section Merge

variable [Hashing]

/-- The documents of one partition, shaped. -/
def partitionRows (ctx : QueryContext) (d : Descriptor) (partitions : Nat) (rows : List Record)
    (index : Nat) : List Record :=
  d.shaped ctx (Record.partitionOf (d.partitionKey ctx) partitions rows index)

/-- The documents of one partition, grouped and sorted but not yet selected from. -/
def partitionGroups (ctx : QueryContext) (d : Descriptor) (partitions : Nat) (rows : List Record)
    (index : Nat) : List Record :=
  Record.sort (d.sortKeysOn ctx)
    (d.grouped (Record.partitionOf (d.partitionKey ctx) partitions rows index))

/-- Canonical documents of a partition are grouped and sorted before the selection is made. -/
theorem partitionRows_of_isCanonical {rows : List Record} (hrows : ∀ row ∈ rows, row.isCanonical)
    (partitions index : Nat) :
    d.partitionRows ctx partitions rows index =
      (d.partitionGroups ctx partitions rows index).map d.projected :=
  d.shaped_of_isCanonical ctx fun row hrow => hrows row (List.mem_filter.1 hrow).1

/-- The sorted groups of all partitions are the groups of all documents, in some order. -/
theorem flatMap_partitionGroups_perm (ctx : QueryContext) (hall : d.isGroupAll = false)
    {partitions : Nat} (hpartitions : 1 ≤ partitions) {rows : List Record}
    (hlawful : d.HasLawfulGroups rows) :
    ((List.range partitions).flatMap (d.partitionGroups ctx partitions rows)).Perm
      (d.grouped rows) :=
  (List.Perm.flatMap_left _ fun _ _ => Record.sort_perm _ _).trans
    (flatMap_grouped_perm hall hpartitions hlawful)

/-- Sorting the documents of all partitions sorts the documents of the result, if no two tie. -/
theorem sort_partitionGroups (hall : d.isGroupAll = false) {partitions : Nat}
    (hpartitions : 1 ≤ partitions) {rows : List Record} (hlawful : d.HasLawfulGroups rows)
    (hfloat : ∀ row ∈ d.grouped rows, row.hasFloatFreeKeys (d.sortKeysOn ctx))
    (hties : (d.grouped rows).Pairwise fun a b => Record.compareBy (d.sortKeysOn ctx) a b ≠ .eq) :
    Record.sort (d.sortKeysOn ctx)
        ((List.range partitions).flatMap (d.partitionGroups ctx partitions rows)) =
      Record.sort (d.sortKeysOn ctx) (d.grouped rows) := by
  -- without ties the order leaves one arrangement of the documents only
  have hstrict : (d.grouped rows).Pairwise fun a b =>
      (Record.compareBy (d.sortKeysOn ctx) a b).isLT ∨
        (Record.compareBy (d.sortKeysOn ctx) b a).isLT := by
    refine hties.imp_of_mem fun {a b} ha hb hne => ?_
    rw [Record.compareBy_swap _ a b]
    cases hcompare : Record.compareBy (d.sortKeysOn ctx) a b <;> simp_all
  exact (stableSort_eq_of_perm (Record.strictWeakOn_compareBy hfloat)
    (flatMap_partitionGroups_perm ctx hall hpartitions hlawful).symm hstrict).symm

/-- The merge counts all documents of the result. -/
theorem total_merge_partitions (hall : d.isGroupAll = false) {partitions : Nat}
    (hpartitions : 1 ≤ partitions) (keys : List Record.SortKey) (pagination : Option Pagination)
    {rows : List Record} (hlawful : d.HasLawfulGroups rows) :
    (RowPage.merge keys pagination
      ((List.range partitions).map (d.partitionRows ctx partitions rows))).total =
        (d.grouped rows).length := by
  rw [RowPage.merge_eq, Record.length_sort, ← List.flatMap_def, ← d.length_shaped ctx rows]
  exact (flatMap_shaped_perm ctx hall hpartitions hlawful).length_eq

/-- Where the selection keeps the fields to sort by, and no two documents tie, the merge gives the
page of a single pipeline. -/
theorem merge_partitions (hall : d.isGroupAll = false) {partitions : Nat}
    (hpartitions : 1 ≤ partitions) {rows : List Record} (hlawful : d.HasLawfulGroups rows)
    (hrows : ∀ row ∈ rows, row.isCanonical)
    (hkeeps : d.KeepsSortFields ctx)
    (hfloat : ∀ row ∈ d.grouped rows, row.hasFloatFreeKeys (d.sortKeysOn ctx))
    (hties : (d.grouped rows).Pairwise fun a b => Record.compareBy (d.sortKeysOn ctx) a b ≠ .eq) :
    RowPage.merge (d.sortKeysOn ctx) d.pagination
      ((List.range partitions).map (d.partitionRows ctx partitions rows)) =
        ⟨pageOf d.pagination (d.shaped ctx rows), (d.grouped rows).length⟩ := by
  -- what the partitions give is what their documents are projected to
  have hflat : ((List.range partitions).map (d.partitionRows ctx partitions rows)).flatten =
      ((List.range partitions).flatMap (d.partitionGroups ctx partitions rows)).map
        d.projected := by
    rw [List.map_flatMap, List.flatMap_def]
    congr 1
    exact List.map_congr_left fun index _ => partitionRows_of_isCanonical hrows partitions index
  have hmerged : Record.sort (d.sortKeysOn ctx)
      ((List.range partitions).map (d.partitionRows ctx partitions rows)).flatten =
        d.shaped ctx rows := by
    rw [hflat, Record.sort_map d.projected fun row hrow => ?_,
      sort_partitionGroups hall hpartitions hlawful hfloat hties, d.shaped_of_isCanonical ctx hrows]
    have hmem := (flatMap_partitionGroups_perm ctx hall hpartitions hlawful).mem_iff.1 hrow
    exact d.valueAt_projected ctx (d.isCanonical_grouped hrows row hmem) hkeeps
  rw [RowPage.merge_eq, hmerged, length_shaped]

end Merge

/-! ## Both runs -/

/-- The pipeline of the documents that are then sorted and selected from. -/
def groupedPipeline (ctx : QueryContext) (d : Descriptor) : Pipeline where
  stages := d.filterStages ctx ++ d.groupStage

/-- The documents of a query, grouped and no more. -/
theorem run_groupedPipeline [Hashing] (store : Store) :
    (d.groupedPipeline ctx).run store ctx.entity =
      (d.filteredDocuments ctx store).map d.grouped :=
  d.run_eq ctx store rfl (d.runAll_groupStage store)

end Descriptor

namespace MemoryBackend

variable {backend : MemoryBackend} {ctx : QueryContext} {d : Descriptor}

/-- What a distributed run over some partitions gives within a time. -/
def distributed [Hashing] (backend : MemoryBackend) (ctx : QueryContext) (d : Descriptor)
    (partitions : Nat) (options : PipelineOptions) (timeout : Option Nat) :
    Except ExecuteError RowPage :=
  ((documents.runDistributed ctx.entity
    ((List.range partitions).map (d.partitionPipeline ctx (d.partitionKey ctx) partitions)) options
      d.pagination).within ctx.entity timeout backend).1

/-- What a run of the one pipeline of the result gives within a time. -/
def faceted [Hashing] (backend : MemoryBackend) (ctx : QueryContext) (d : Descriptor)
    (options : PipelineOptions) (timeout : Option Nat) : Except ExecuteError RowPage :=
  ((documents.runFaceted ctx.entity (d.pipeline ctx) options).within ctx.entity timeout backend).1

/-- Without a fault and in time the partitions are merged. -/
theorem distributed_of_ok [Hashing] {partitions : Nat} (hpartitions : 1 ≤ partitions)
    {timeout : Option Nat}
    (hexpires :
      Timed.expires { state := backend, deadline := timeout } backend.store.latency = false)
    (hfault : Keyed.get? backend.store.faults "aggregate" = none) {rows : List Record}
    (hrows : d.filteredDocuments ctx backend.store = .ok rows) (options : PipelineOptions) :
    backend.distributed ctx d partitions options timeout =
      .ok (RowPage.merge (d.sortKeysOn ctx) d.pagination
        ((List.range partitions).map (d.partitionRows ctx partitions rows))) := by
  -- there is a first partition, whose pipeline tells the keys
  obtain ⟨n, rfl⟩ : ∃ n, partitions = n + 1 := ⟨partitions - 1, by omega⟩
  have hparts : ((List.range (n + 1)).map
      (d.partitionPipeline ctx (d.partitionKey ctx) (n + 1))).mapM
        (fun pipeline => ((aggregate ctx.entity pipeline).answer backend).1) =
          .ok ((List.range (n + 1)).map (d.partitionRows ctx (n + 1) rows)) := by
    rw [List.mapM_map]
    refine mapM_eq_ok_map (fun index => ?_) _
    dsimp only [Function.comp_apply]
    rw [answer_aggregate hfault, Descriptor.run_partitionPipeline, hrows]
    rfl
  have hkeys : (((List.range (n + 1)).map
      (d.partitionPipeline ctx (d.partitionKey ctx) (n + 1))).head?.map Pipeline.sortKeys).getD [] =
        d.sortKeysOn ctx := by
    rw [List.range_succ_eq_map, List.map_cons, List.head?_cons, Option.map_some, Option.getD_some,
      Descriptor.sortKeys_partitionPipeline]
  rw [distributed, fst_within_runDistributed, hexpires, hparts, hkeys]
  rfl

/-- Where the answer to every pipeline is a failure of one wording, this is how a distributed run
fails. -/
theorem distributed_of_error [Hashing] {partitions : Nat} (hpartitions : 1 ≤ partitions)
    {timeout : Option Nat}
    (hexpires :
      Timed.expires { state := backend, deadline := timeout } backend.store.latency = false)
    {message : String}
    (hanswer : ∀ index, ∃ e,
      ((aggregate ctx.entity
        (d.partitionPipeline ctx (d.partitionKey ctx) partitions index)).answer backend).1 =
          .error e ∧
      e.message = message) (options : PipelineOptions) :
    ∃ e, backend.distributed ctx d partitions options timeout = .error e ∧ e.message = message := by
  obtain ⟨n, rfl⟩ : ∃ n, partitions = n + 1 := ⟨partitions - 1, by omega⟩
  -- the first partition fails, and so does the run
  obtain ⟨e, he, hmessage⟩ := hanswer 0
  refine ⟨e, ?_, hmessage⟩
  rw [distributed, fst_within_runDistributed, hexpires, List.range_succ_eq_map, List.map_cons,
    List.mapM_cons, he]
  rfl

/-- In time the answer to the one pipeline is read. -/
theorem faceted_eq [Hashing] {timeout : Option Nat}
    (hexpires :
      Timed.expires { state := backend, deadline := timeout } backend.store.latency = false)
    (options : PipelineOptions) :
    backend.faceted ctx d options timeout =
      ((aggregate ctx.entity (d.pipeline ctx)).answer backend).1.bind
        (RowPage.readAnswer (d.pipeline ctx)) := by
  rw [faceted, fst_within_runFaceted, hexpires]
  rfl

/-- Without a fault and in time the one pipeline gives the page and the total. -/
theorem faceted_of_ok [Hashing] {timeout : Option Nat}
    (hexpires :
      Timed.expires { state := backend, deadline := timeout } backend.store.latency = false)
    (hfault : Keyed.get? backend.store.faults "aggregate" = none) {rows : List Record}
    (hrows : d.filteredDocuments ctx backend.store = .ok rows)
    (hsize : d.pagination.isSome → (d.grouped rows).length < 2 ^ 63) (options : PipelineOptions) :
    backend.faceted ctx d options timeout =
      .ok ⟨pageOf d.pagination (d.shaped ctx rows), (d.grouped rows).length⟩ := by
  rw [faceted_eq hexpires, answer_aggregate hfault, Descriptor.run_pipeline, hrows]
  exact Descriptor.readAnswer_pipeline ctx d hsize

/-- Hash maps of the same kind for both runs leave the totals and, where the selection keeps the
fields to sort by, the items alike. -/
theorem distributed_agrees_under_one_hashing [Hashing] (backend : MemoryBackend)
    (ctx : QueryContext) (d : Descriptor) (hlawful : d.HasLawfulKeys ctx backend.store)
    {partitions : Nat} (hpartitions : 1 ≤ partitions) (hall : d.isGroupAll = false)
    (hstore : backend.store.isCanonical)
    (hsize : d.pagination.isSome → ∀ rows,
      (d.groupedPipeline ctx).run backend.store ctx.entity = .ok rows → rows.length < 2 ^ 63)
    (options options' : PipelineOptions) (timeout : Option Nat) :
    ((backend.distributed ctx d partitions options timeout).map RowPage.total).mapError
        ExecuteError.message =
      ((backend.faceted ctx d options' timeout).map RowPage.total).mapError ExecuteError.message ∧
    (d.KeepsSortFields ctx →
      (∀ rows, (d.groupedPipeline ctx).run backend.store ctx.entity = .ok rows →
        (∀ row ∈ rows, row.hasFloatFreeKeys (d.sortKeysOn ctx)) ∧
          rows.Pairwise fun a b => Record.compareBy (d.sortKeysOn ctx) a b ≠ .eq) →
      (backend.distributed ctx d partitions options timeout).mapError ExecuteError.message =
        (backend.faceted ctx d options' timeout).mapError ExecuteError.message) := by
  -- both runs meet the same obstacle first: the deadline, then a fault that is set, then a missing
  -- table
  cases hexpires :
    Timed.expires { state := backend, deadline := timeout } backend.store.latency with
  | true =>
    rw [distributed, faceted, fst_within_runDistributed, fst_within_runFaceted, hexpires]
    exact ⟨rfl, fun _ _ => rfl⟩
  | false =>
    cases hfault : Keyed.get? backend.store.faults "aggregate" with
    | some fault =>
      -- every partition meets the fault, so the first one reports it
      have hdistributed : ∃ e, backend.distributed ctx d partitions options timeout = .error e ∧
          e.message = _ :=
        distributed_of_error hpartitions hexpires
          (fun index => ⟨_, answer_aggregate_of_fault hfault ctx.entity _, rfl⟩) options
      obtain ⟨e, he, hmessage⟩ := hdistributed
      rw [he, faceted_eq hexpires, answer_aggregate_of_fault hfault]
      exact ⟨congrArg Except.error hmessage, fun _ _ => congrArg Except.error hmessage⟩
    | none =>
      cases hrows : d.filteredDocuments ctx backend.store with
      | error missing =>
        have hdistributed : ∃ e, backend.distributed ctx d partitions options timeout = .error e ∧
            e.message =
              (ExecuteError.backend (missing.toBackend "aggregate" ctx.entity)).message := by
          refine distributed_of_error hpartitions hexpires (fun index =>
            ⟨.backend ((missing.toBackend "aggregate" ctx.entity).withContext
              (d.partitionPipeline ctx (d.partitionKey ctx) partitions index).toJson.text),
                ?_, rfl⟩) options
          rw [answer_aggregate hfault, Descriptor.run_partitionPipeline, hrows]
          rfl
        obtain ⟨e, he, hmessage⟩ := hdistributed
        rw [he, faceted_eq hexpires, answer_aggregate hfault, Descriptor.run_pipeline, hrows]
        exact ⟨congrArg Except.error hmessage, fun _ _ => congrArg Except.error hmessage⟩
      | ok rows =>
        -- nothing stands in the way, so both runs are functions of the rows that were found
        have hgrouped : (d.groupedPipeline ctx).run backend.store ctx.entity =
            .ok (d.grouped rows) := by
          rw [Descriptor.run_groupedPipeline, hrows]
          rfl
        have hgroups := hlawful.groups rows hrows
        rw [distributed_of_ok hpartitions hexpires hfault hrows,
          faceted_of_ok hexpires hfault hrows fun h => hsize h _ hgrouped]
        refine ⟨congrArg Except.ok ?_, fun hkeeps hkeys => congrArg Except.ok ?_⟩
        · exact Descriptor.total_merge_partitions hall hpartitions _ _ hgroups
        · obtain ⟨hfloat, hties⟩ := hkeys _ hgrouped
          exact Descriptor.merge_partitions hall hpartitions hgroups
            (d.isCanonical_filteredDocuments ctx hstore hrows) hkeeps hfloat hties

/-- The run of the one pipeline is the same under all hashings. -/
theorem faceted_eq_of_lawful {s : Hashing}
    (hlawful : @Descriptor.HasLawfulKeys s ctx d backend.store) (t : Hashing)
    (options : PipelineOptions) (timeout : Option Nat) :
    @faceted s backend ctx d options timeout = @faceted t backend ctx d options timeout := by
  have hanswer : ((@aggregate s ctx.entity (d.pipeline ctx)).answer backend).1 =
      ((@aggregate t ctx.entity (d.pipeline ctx)).answer backend).1 := by
    cases hfault : Keyed.get? backend.store.faults "aggregate" with
    | some fault =>
      rw [@answer_aggregate_of_fault s _ _ hfault, @answer_aggregate_of_fault t _ _ hfault]
    | none =>
      rw [@answer_aggregate s _ hfault, @answer_aggregate t _ hfault,
        Descriptor.run_pipeline_eq_of_lawful hlawful t]
  unfold faceted
  rw [@fst_within_runFaceted s, @fst_within_runFaceted t, hanswer]

/-- A distributed run over any number of partitions, unless all rows form one group, and the run of
the one pipeline of the result time out together, fail with one message or give the same total. They
give the same items in the same order, too, if the selection keeps the fields to sort by and, before
it is made, no document holds a double where it is sorted by and no two documents tie. The runs need
not agree in their hash maps, as long as no value that is looked up equals two keys that differ. -/
theorem distributed_agrees_with_memory (s t : Hashing) (backend : MemoryBackend)
    (ctx : QueryContext) (d : Descriptor)
    (hlawful : @Descriptor.HasLawfulKeys s ctx d backend.store)
    {partitions : Nat} (hpartitions : 1 ≤ partitions) (hall : d.isGroupAll = false)
    (hstore : backend.store.isCanonical)
    (hsize : d.pagination.isSome → ∀ rows,
      @Pipeline.run s (d.groupedPipeline ctx) backend.store ctx.entity = .ok rows →
        rows.length < 2 ^ 63)
    (options options' : PipelineOptions) (timeout : Option Nat) :
    ((@distributed s backend ctx d partitions options timeout).map RowPage.total).mapError
        ExecuteError.message =
      ((@faceted t backend ctx d options' timeout).map RowPage.total).mapError
        ExecuteError.message ∧
    (d.KeepsSortFields ctx →
      (∀ rows, @Pipeline.run s (d.groupedPipeline ctx) backend.store ctx.entity = .ok rows →
        (∀ row ∈ rows, row.hasFloatFreeKeys (d.sortKeysOn ctx)) ∧
          rows.Pairwise fun a b => Record.compareBy (d.sortKeysOn ctx) a b ≠ .eq) →
      (@distributed s backend ctx d partitions options timeout).mapError ExecuteError.message =
        (@faceted t backend ctx d options' timeout).mapError ExecuteError.message) := by
  rw [← faceted_eq_of_lawful hlawful t]
  exact @distributed_agrees_under_one_hashing s backend ctx d hlawful partitions hpartitions hall
    hstore hsize options options' timeout

/-! ## Two users in two partitions -/

/-- Two users with ranks. -/
def rankedBackend : MemoryBackend where
  store := { tables := [("users",
    [[("id", .string "a"), ("rank", .int 2)], [("id", .string "b"), ("rank", .int 1)]])] }

/-- The users from the highest rank down, with some of their fields. -/
def rankedQuery (fields : List String) : Descriptor where
  sort := [⟨"rank", .descending⟩]
  select := fields

/-- With the rank among the selected fields both runs give the users in one order. -/
theorem distributed_agrees_with_memory_ranked :
    (rankedBackend.distributed { entity := "users" }
        (rankedQuery ["id", "rank"]) 4 {} none).mapError ExecuteError.message =
      (rankedBackend.faceted { entity := "users" }
        (rankedQuery ["id", "rank"]) {} none).mapError ExecuteError.message := by
  refine (distributed_agrees_with_memory .firstFound .firstFound rankedBackend
    { entity := "users" } (rankedQuery ["id", "rank"]) (by decide) (by decide) rfl (by decide)
    (fun h => by cases h) {} {} none).2
      (by decide) fun rows hrows => ?_
  have hrun : ((rankedQuery ["id", "rank"]).groupedPipeline { entity := "users" }).run
      rankedBackend.store "users" = .ok [[("id", .string "a"), ("rank", .int 2)],
        [("id", .string "b"), ("rank", .int 1)]] := rfl
  rw [hrun, Except.ok.injEq] at hrows
  subst hrows
  decide

/-- The merge does not know the ranks that the selection drops, and leaves the users in the order of
their partitions. -/
theorem distributed_reorders :
    ¬ (rankedQuery ["id"]).KeepsSortFields { entity := "users" } ∧
    (rankedBackend.distributed { entity := "users" } (rankedQuery ["id"]) 4 {} none).mapError
        ExecuteError.message ≠
      (rankedBackend.faceted { entity := "users" } (rankedQuery ["id"]) {} none).mapError
        ExecuteError.message := by
  refine ⟨by decide, fun h => ?_⟩
  have horder := congrArg (fun result => match result with
    | .ok page =>
      (page.items.map fun row => Record.valueAt row "id") == [Value.string "a", Value.string "b"]
    | .error _ => false) h
  revert horder
  decide +kernel

end MemoryBackend

end DualQuery
