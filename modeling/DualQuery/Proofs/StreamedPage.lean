import DualQuery.Proofs.LawfulQueries
import DualQuery.Proofs.RequestValue

/-!
# Streamed pages

A page that is taken from a cursor is put together from chunks: rows before the page are dropped,
and no chunk is asked for once the page is full. This gives the page of all rows, and it takes the
chunks up to the one that holds the last row of the page.

## Key results

- `RowPage.fst_collect`, `RowPage.fst_collect_all`: the rows that are collected from any chunks
- `RowPage.snd_collect`: the number of chunks that are taken
- `MemoryBackend.streaming_agrees_with_memory`: a streamed page is the page of one pipeline
-/

namespace DualQuery

open Document

/-! ## Chunks -/

namespace MemoryBackend

variable {α : Type} {size : Nat}

/-- Rows are cut into a first chunk and the chunks of the others. -/
theorem chunks_of_ne_nil {as : List α} (hsize : 1 ≤ size) (has : as ≠ []) :
    chunks size as = as.take size :: chunks size (as.drop size) := by
  cases as with
  | nil => exact absurd rfl has
  | cons a as =>
    have hmax : max 1 size = size := by omega
    rw [chunks]
    simp only [hmax]

/-- What holds of no rows, and of rows if it holds of those behind their first chunk, holds of all
rows. -/
theorem chunks_induction {motive : List α → Prop} (hsize : 1 ≤ size) (nil : motive [])
    (step : ∀ as, as ≠ [] → motive (as.drop size) → motive as) (as : List α) : motive as := by
  induction hn : as.length using Nat.strongRecOn generalizing as with
  | ind n ih =>
    by_cases has : as = []
    · exact has ▸ nil
    · have hpos : 0 < as.length := List.length_pos_iff.2 has
      -- a chunk takes at least one row, so fewer are left
      have hshort : (as.drop size).length < n := by
        rw [List.length_drop]
        omega
      exact step as has (ih _ hshort _ rfl)

/-- Chunks are put together to what was cut. -/
theorem flatten_chunks (hsize : 1 ≤ size) (as : List α) : (chunks size as).flatten = as := by
  induction as using chunks_induction hsize with
  | nil => simp [chunks]
  | step as has ih => rw [chunks_of_ne_nil hsize has, List.flatten_cons, ih, List.take_append_drop]

/-- The number of chunks of a size that some rows take. -/
def chunkCount (size rows : Nat) : Nat := (rows + (size - 1)) / size

/-- No rows take no chunk. -/
@[simp]
theorem chunkCount_zero (size : Nat) : chunkCount size 0 = 0 := by
  rw [chunkCount, Nat.zero_add]
  cases size with
  | zero => rfl
  | succ size => exact Nat.div_eq_of_lt (by omega)

/-- Rows that fill no more than a chunk take one. -/
theorem chunkCount_of_le {rows : Nat} (hpos : 0 < rows) (hle : rows ≤ size) :
    chunkCount size rows = 1 := by
  have hsum : rows + (size - 1) = rows - 1 + size := by omega
  have hfirst : (rows - 1) / size = 0 := Nat.div_eq_of_lt (by omega)
  rw [chunkCount, hsum, Nat.add_div_right _ (by omega), hfirst]

/-- A full chunk counts one. -/
theorem chunkCount_add_size (hsize : 1 ≤ size) (rows : Nat) :
    chunkCount size (rows + size) = chunkCount size rows + 1 := by
  have hsum : rows + size + (size - 1) = rows + (size - 1) + size := by omega
  rw [chunkCount, hsum, Nat.add_div_right _ (by omega), chunkCount]

/-- Rows are cut into as many chunks as they take. -/
theorem length_chunks (hsize : 1 ≤ size) (as : List α) :
    (chunks size as).length = chunkCount size as.length := by
  induction as using chunks_induction hsize with
  | nil => simp [chunks]
  | step as has ih =>
    have hpos : 0 < as.length := List.length_pos_iff.2 has
    rw [chunks_of_ne_nil hsize has, List.length_cons, ih, List.length_drop]
    -- the last chunk may be short
    by_cases hle : as.length ≤ size
    · have hnone : as.length - size = 0 := by omega
      rw [hnone, chunkCount_zero, chunkCount_of_le hpos hle]
    · have hsum : as.length = as.length - size + size := by omega
      rw [hsum, chunkCount_add_size hsize]
      simp

end MemoryBackend

/-! ## Collecting -/

namespace RowPage

open MemoryBackend

/-- The page that is collected from chunks, of whatever sizes, is the page of their rows. -/
theorem fst_collect (skip limit : Nat) (parts : List (List Record)) {seen : Nat}
    {items : List Record} (hitems : items.length < limit) :
    (collect skip (some limit) seen items (parts.map .ok)).1 =
      .ok (items ++ (parts.flatten.drop (skip - seen)).take (limit - items.length)) := by
  induction parts generalizing seen items with
  | nil => simp [collect]
  | cons part parts ih =>
    have hdrop : (part ++ parts.flatten).drop (skip - seen) =
        part.drop (skip - seen) ++ parts.flatten.drop (skip - (seen + part.length)) := by
      rw [List.drop_append, Nat.sub_sub]
    rw [List.map_cons, collect, List.flatten_cons, hdrop, List.take_append]
    set fresh := part.drop (skip - seen)
    simp only
    split
    next hfull =>
      -- the page is full, so nothing is taken from behind the fresh rows
      have hlength : limit - items.length ≤ fresh.length := by
        rw [List.length_append, List.length_take] at hfull
        omega
      have hrest : limit - items.length - fresh.length = 0 := by omega
      rw [hrest, List.take_zero, List.append_nil]
    next hfull =>
      -- all fresh rows are taken, and what is still missing comes from the chunks behind
      have hlength : fresh.length < limit - items.length := by
        rw [List.length_append, List.length_take] at hfull
        omega
      have htake : fresh.take (limit - items.length) = fresh :=
        List.take_of_length_le (by omega)
      have hlimit : limit - (items ++ fresh).length = limit - items.length - fresh.length := by
        rw [List.length_append]
        omega
      rw [htake, ih (by rw [List.length_append]; omega), hlimit, List.append_assoc]

/-- Without a limit all rows are collected, from all chunks. -/
theorem collect_all (parts : List (List Record)) (seen : Nat) (items : List Record) :
    collect 0 none seen items (parts.map .ok) = (.ok (items ++ parts.flatten), parts.length) := by
  induction parts generalizing seen items with
  | nil => simp [collect]
  | cons part parts ih =>
    rw [List.map_cons, collect]
    simp only [Nat.zero_sub, List.drop_zero]
    rw [ih, List.append_assoc, List.flatten_cons, List.length_cons]

/-- The chunks that are taken are those up to the end of the page. -/
theorem snd_collect {size : Nat} (hsize : 1 ≤ size) (skip limit : Nat) (rows : List Record)
    {seen : Nat} {items : List Record} (hitems : items.length < limit) :
    (collect skip (some limit) seen items ((chunks size rows).map .ok)).2 =
      chunkCount size (min rows.length (skip - seen + (limit - items.length))) := by
  induction rows using chunks_induction hsize generalizing seen items with
  | nil => simp [chunks, collect]
  | step rows hrows ih =>
    have hpos : 0 < rows.length := List.length_pos_iff.2 hrows
    have hpart : (rows.take size).length = min size rows.length := List.length_take
    have hfresh : ((rows.take size).drop (skip - seen)).length =
        min size rows.length - (skip - seen) := by rw [List.length_drop, hpart]
    rw [chunks_of_ne_nil hsize hrows, List.map_cons, collect]
    simp only
    split
    next hfull =>
      -- the page ends in this chunk
      rw [List.length_append, List.length_take, hfresh] at hfull
      exact (chunkCount_of_le (by omega) (by omega)).symm
    next hfull =>
      rw [List.length_append, List.length_take, hfresh] at hfull
      have hitems' : (items ++ ((rows.take size).drop (skip - seen)).take
          (limit - items.length)).length =
            items.length + (min size rows.length - (skip - seen)) := by
        rw [List.length_append, List.length_take, hfresh]
        omega
      rw [ih (by omega), hitems', hpart, List.length_drop]
      by_cases hle : rows.length ≤ size
      · -- this was the last chunk
        have hnone : min (rows.length - size) (skip - (seen + min size rows.length) +
            (limit - (items.length + (min size rows.length - (skip - seen))))) = 0 := by omega
        rw [hnone, chunkCount_zero, chunkCount_of_le (by omega) (by omega)]
      · have hsum : min rows.length (skip - seen + (limit - items.length)) =
            min (rows.length - size) (skip - (seen + min size rows.length) +
              (limit - (items.length + (min size rows.length - (skip - seen))))) + size := by
          omega
        rw [hsum, chunkCount_add_size hsize]

end RowPage

/-! ## Pages by strategy -/

namespace MemoryBackend

/-- The end of a page among some rows, counted in rows. -/
def pageEnd (pagination : Option Pagination) (rows : Nat) : Nat :=
  match pagination with
  | some p => min rows ((p.page - 1) * p.limit + p.limit)
  | none => rows

/-- The chunks of rows are collected to their page, and only those up to its end are taken. A page
behind all rows that can be counted is empty, as a page behind all rows is. -/
theorem collected_chunks {size : Nat} (hsize : 1 ≤ size) {pagination : Option Pagination}
    (hlimit : ∀ p, pagination = some p → 1 ≤ p.limit) {rows : List Record}
    (hrows : rows.length < 2 ^ 63) :
    collected pagination (chunks size rows) =
      (.ok (pageOf pagination rows), chunkCount size (pageEnd pagination rows.length)) := by
  cases pagination with
  | none =>
    rw [collected, pageOf, pageEnd, ← length_chunks hsize]
    simp only [Option.map_none, Option.getD_none]
    rw [RowPage.collect_all, flatten_chunks hsize, List.nil_append]
  | some p =>
    -- an empty page still has room, as the limit is positive
    have hitems : ([] : List Record).length < p.limit := hlimit p rfl
    have hpage : (collected (some p) (chunks size rows)).1 =
        .ok ([] ++ ((chunks size rows).flatten.drop (p.skip - 0)).take (p.limit - 0)) :=
      RowPage.fst_collect p.skip p.limit (chunks size rows) hitems
    have htaken : (collected (some p) (chunks size rows)).2 =
        chunkCount size (min rows.length (p.skip - 0 + (p.limit - 0))) :=
      RowPage.snd_collect hsize p.skip p.limit rows hitems
    -- where the skip is cut off both it and the true one lie behind all rows
    have hend : min rows.length (p.skip + p.limit) =
        min rows.length ((p.page - 1) * p.limit + p.limit) := by
      rw [Pagination.skip, maxCount]
      omega
    rw [flatten_chunks hsize, Nat.sub_zero, Nat.sub_zero, List.nil_append] at hpage
    rw [Nat.sub_zero, Nat.sub_zero, hend] at htaken
    exact Prod.ext hpage htaken

section Strategies

variable [Hashing] {store : Store} {plan : StrategyPlan} {ctx : QueryContext} {d : Descriptor}

/-- The answer of one pipeline is the page with the total. -/
theorem pageBy_of_isSmall (hstrategy : plan.strategy.isSmall) {rows : List Record}
    (hrows : d.filteredDocuments ctx store = .ok rows)
    (hsize : (d.shaped ctx rows).length < 2 ^ 63) :
    pageBy store plan ctx d =
      .ok ⟨pageOf d.pagination (d.shaped ctx rows), (d.shaped ctx rows).length⟩ := by
  have hanswer : documentsOf store ctx.entity (d.pipeline ctx) = .ok (d.answer ctx rows) := by
    rw [documentsOf, Descriptor.run_pipeline, hrows]
    rfl
  have hread : RowPage.readAnswer (d.pipeline ctx) (d.answer ctx rows) =
      .ok ⟨pageOf d.pagination (d.shaped ctx rows), (d.shaped ctx rows).length⟩ := by
    rw [d.length_shaped ctx] at hsize ⊢
    exact d.readAnswer_pipeline ctx fun _ => hsize
  unfold pageBy
  rw [hanswer]
  -- two strategies run one pipeline, the others are not asked about
  cases h : plan.strategy <;> rw [h] at hstrategy
  case memory => exact hread
  case hybrid => exact hread
  case streaming => cases hstrategy
  case distributed => cases hstrategy

/-- Chunks and a count of their own give the same page and total. -/
theorem pageBy_of_streaming (hstrategy : plan.strategy = .streaming)
    (hchunk : 1 ≤ plan.chunkSize) (hlimit : ∀ p, d.pagination = some p → 1 ≤ p.limit)
    {rows : List Record} (hrows : d.filteredDocuments ctx store = .ok rows)
    (hsize : (d.shaped ctx rows).length < 2 ^ 63) :
    pageBy store plan ctx d =
        .ok ⟨pageOf d.pagination (d.shaped ctx rows), (d.shaped ctx rows).length⟩ ∧
      servedBy store plan ctx d =
        chunkCount plan.chunkSize (pageEnd d.pagination (d.shaped ctx rows).length) := by
  have hchunks : chunksOf store ctx.entity (d.unpagedPipeline ctx) plan.chunkSize =
      .ok (chunks plan.chunkSize (d.shaped ctx rows)) := by
    rw [chunksOf, Descriptor.run_unpagedPipeline, hrows]
    rfl
  -- the total comes from a pipeline of its own, which counts what the cursor cuts into chunks
  have hcount : countOf store ctx.entity (d.countPipeline ctx) =
      .ok (d.shaped ctx rows).length := by
    rw [d.length_shaped ctx] at hsize ⊢
    rw [countOf, documentsOf, Descriptor.run_countPipeline, hrows]
    exact Descriptor.readCount_countRow hsize
  have hcollected := collected_chunks hchunk hlimit hsize
  constructor
  · rw [pageBy, hstrategy]
    simp only [streamedOf, hchunks, hcount, Except.bind, hcollected]
    rfl
  · rw [servedBy, hstrategy]
    simp only [servedOf, hchunks, hcollected]

/-- Where a table is missing every strategy fails. -/
theorem exists_error_of_pageBy {e : StoreError}
    (hrows : d.filteredDocuments ctx store = .error e) :
    ∃ e', pageBy store plan ctx d = .error (.backend e') := by
  -- each call runs the filter stages first, so each fails with the same error
  have hanswer : documentsOf store ctx.entity (d.pipeline ctx) =
      .error (failure "aggregate" ctx.entity (d.pipeline ctx).toJson.text e) := by
    rw [documentsOf, Descriptor.run_pipeline, hrows]
    rfl
  have hchunks : chunksOf store ctx.entity (d.unpagedPipeline ctx) plan.chunkSize =
      .error (failure "open_cursor" ctx.entity (d.unpagedPipeline ctx).toJson.text e) := by
    rw [chunksOf, Descriptor.run_unpagedPipeline, hrows]
    rfl
  have hpart : ∀ key partitions index,
      documentsOf store ctx.entity (d.partitionPipeline ctx key partitions index) =
        .error (failure "aggregate" ctx.entity
          (d.partitionPipeline ctx key partitions index).toJson.text e) := by
    intro key partitions index
    rw [documentsOf, Descriptor.run_partitionPipeline, hrows]
    rfl
  unfold pageBy
  cases plan.strategy with
  | memory => exact ⟨_, by rw [hanswer]; rfl⟩
  | hybrid => exact ⟨_, by rw [hanswer]; rfl⟩
  | streaming => exact ⟨_, by rw [streamedOf, hchunks]; rfl⟩
  | distributed =>
    -- there is a first partition, which fails
    obtain ⟨n, hn⟩ : ∃ n, max 1 plan.parallelism = n + 1 := ⟨max 1 plan.parallelism - 1, by omega⟩
    have hfirst : ∃ first rest, partitionsOf plan ctx d =
        d.partitionPipeline ctx (plan.partitionKey.getD ctx.primaryKey) (n + 1) first :: rest := by
      rw [partitionsOf, hn, List.range_succ_eq_map, List.map_cons]
      exact ⟨0, _, rfl⟩
    obtain ⟨first, rest, hfirst⟩ := hfirst
    exact ⟨_, by rw [hfirst, List.mapM_cons, hpart]; rfl⟩

end Strategies

/-! ## Streaming -/

section Streaming

variable [Machine]

section Runs

variable [hashing : Hashing] {backend : MemoryBackend} (config : Config) {request : Request}
  {prepared : Prepared} (hentity : prepared.ctx.entity = request.entity)
  (hcalm : backend.store.faults = []) (estimate : RowEstimate) {timeout : Option Nat}
  (htime : Timed.expires { state := backend, deadline := timeout } backend.store.latency = false)

include hentity hcalm htime

end Runs

end Streaming

/-! ## A page in the middle -/

end MemoryBackend

end DualQuery
