import DualQuery.Engine.Document
import DualQuery.Proofs.FilteredDocuments
import Mathlib.Algebra.Group.Nat.Defs

/-!
# What compiled pipelines give

The pipelines of a descriptor share the stages that join and filter. What each of them makes of the
documents that come out of these stages is said in terms of the descriptor: groups, order,
projection, and the page with the total.

## Key results

- `Descriptor.run_pipeline`, `Descriptor.run_unpagedPipeline`, `Descriptor.run_countPipeline`,
  `Descriptor.run_partitionPipeline`: the four pipelines
- `Descriptor.readAnswer_pipeline`: the page and the total read from the answer
- `Descriptor.shaped_of_isCanonical`: on canonical documents order and projection may be swapped
-/

namespace DualQuery

open Document

namespace Record

/-- Records that agree on the values sorted by compare alike. -/
theorem compareBy_congr {keys : List SortKey} {a a' b b' : Record}
    (ha : ∀ key ∈ keys, valueAt a key.path = valueAt a' key.path)
    (hb : ∀ key ∈ keys, valueAt b key.path = valueAt b' key.path) :
    compareBy keys a b = compareBy keys a' b' := by
  induction keys with
  | nil => rfl
  | cons key keys ih =>
    rw [List.forall_mem_cons] at ha hb
    rw [compareBy, compareBy, ih ha.2 hb.2, SortKey.compare, SortKey.compare, ha.1, hb.1]

/-- Without keys every record stays where it is. -/
theorem sort_nil (records : List Record) : sort [] records = records := by
  have hfold : ∀ (records acc : List Record),
      records.foldl (fun sorted a => insertBackward (fun a b => (compareBy [] a b).isLT) a sorted)
        acc = records.reverse ++ acc := by
    intro records
    induction records with
    | nil => exact fun _ => rfl
    | cons record records ih =>
      intro acc
      -- without sort keys nothing is less, so each record stops at the front of the list that is
      -- reversed at the end
      have hinsert : insertBackward (fun a b => (compareBy [] a b).isLT) record acc =
          record :: acc := by
        cases acc <;> rfl
      rw [List.foldl_cons, hinsert, ih, List.reverse_cons, List.append_assoc]
      rfl
  rw [sort, stableSort, hfold, List.append_nil, List.reverse_reverse]

/-- A sort loses and adds no records. -/
theorem sort_perm (keys : List SortKey) (records : List Record) :
    (sort keys records).Perm records :=
  stableSort_perm _ records

/-- A sort keeps the number of records. -/
@[simp] theorem length_sort (keys : List SortKey) (records : List Record) :
    (sort keys records).length = records.length :=
  length_stableSort _ records

/-- A change of records that keeps the values sorted by goes through the sort. -/
theorem sort_map {keys : List SortKey} {records : List Record} (f : Record → Record)
    (h : ∀ record ∈ records, ∀ key ∈ keys,
      valueAt (f record) key.path = valueAt record key.path) :
    sort keys (records.map f) = (sort keys records).map f := by
  refine stableSort_map f records fun a ha b hb => ?_
  rw [compareBy_congr (h a ha) (h b hb)]

/-- The records of one partition, spread by their values at a path. -/
def partitionOf (path : String) (partitions : Nat) (records : List Record) (index : Nat) :
    List Record :=
  records.filter fun record => (valueAt record path).partition partitions == index

end Record

namespace Document

/-- Whether a stage gives a page and its total. -/
def Stage.isFacet : Stage → Bool
  | facet _ _ => true
  | _ => false

/-- A pipeline answers with a page exactly when one of its stages gives one. -/
theorem isPaginated_eq (pipeline : Pipeline) :
    pipeline.isPaginated = pipeline.stages.any Stage.isFacet := by
  rw [Pipeline.isPaginated]
  congr 1

end Document

namespace Descriptor

variable (ctx : QueryContext) (d : Descriptor)

/-! ## Parts of a result -/

/-- The keys by which the result is sorted. -/
def sortKeysOn : List Record.SortKey := (d.sortFields ctx).map SortField.key

/-- The aggregates of a group. -/
def accumulators : List Accumulator :=
  (d.aggregations.filter (·.isComputable)).map AggregationSpec.toAccumulator

/-- The documents of the groups; the documents themselves where nothing groups them. -/
def grouped [Hashing] (rows : List Record) : List Record :=
  if d.hasGrouping then groupRows d.groupKey d.accumulators rows else rows

/-- The selected paths of a document; an empty selection takes the whole document. -/
def projected (row : Record) : Record :=
  if d.select.isEmpty then row else projectRow d.select row

/-- Whether the selection drops a field to sort by. -/
def dropsSortField : Bool :=
  !d.select.isEmpty && (d.sortFields ctx).any fun sort => !d.select.contains sort.field

/-- Documents grouped, sorted and projected. -/
def shaped [Hashing] (rows : List Record) : List Record :=
  if d.dropsSortField ctx then (Record.sort (d.sortKeysOn ctx) (d.grouped rows)).map d.projected
  else Record.sort (d.sortKeysOn ctx) ((d.grouped rows).map d.projected)

/-- The group key has the fields that are grouped by. -/
theorem fields_groupKey : d.groupKey.fields = d.groupBy := by
  unfold groupKey
  split <;> simp_all [GroupKey.fields]

/-- The group stage, present or left out, groups the documents. -/
theorem runAll_groupStage [Hashing] (store : Store) (rows : List Record) :
    Stage.runAll store rows d.groupStage = .ok (d.grouped rows) := by
  unfold groupStage grouped
  split <;> rfl

/-- The stages that group, sort and select shape the documents. -/
theorem runAll_shapeStages [Hashing] (store : Store) (rows : List Record) :
    Stage.runAll store rows (d.shapeStages ctx) = .ok (d.shaped ctx rows) := by
  -- a stage that is left out would have changed nothing
  have hsort : ∀ rows, Stage.runAll store rows
      (if (d.sortFields ctx).isEmpty then [] else [.sort (d.sortFields ctx)]) =
        .ok (Record.sort (d.sortKeysOn ctx) rows) := fun rows => by
    split
    next hempty =>
      rw [sortKeysOn, List.isEmpty_iff.1 hempty, List.map_nil, Record.sort_nil]
      rfl
    next => rfl
  have hproject : ∀ rows, Stage.runAll store rows
      (if d.select.isEmpty then [] else [.project d.select]) = .ok (rows.map d.projected) :=
    fun rows => by
      split
      next hempty =>
        have hid : d.projected = id := by
          funext row
          rw [projected, if_pos hempty, id]
        rw [hid, List.map_id]
        rfl
      next hselect =>
        have hrow : d.projected = projectRow d.select := by
          funext row
          rw [projected, if_neg hselect]
        rw [hrow]
        rfl
  -- both branches run the two stages, in one order or the other
  rw [shapeStages, runAll_append, runAll_groupStage, shaped, dropsSortField]
  simp only [Except.bind]
  split
  · rw [runAll_append, hsort]
    exact hproject _
  · rw [runAll_append, hproject]
    exact hsort _

/-- Shaping loses and adds nothing. -/
theorem shaped_perm [Hashing] (rows : List Record) :
    (d.shaped ctx rows).Perm ((d.grouped rows).map d.projected) := by
  unfold shaped
  split
  · exact (Record.sort_perm _ _).map _
  · exact Record.sort_perm _ _

/-- Shaping keeps the number of groups. -/
theorem length_shaped [Hashing] (rows : List Record) :
    (d.shaped ctx rows).length = (d.grouped rows).length := by
  rw [(d.shaped_perm ctx rows).length_eq, List.length_map]

/-- The selection keeps every field to sort by, or a field that it lies in. -/
def KeepsSortFields : Prop :=
  d.select = [] ∨ ∀ sort ∈ d.sortFields ctx, ∃ field ∈ d.select,
    Text.segments field <+: Text.segments sort.field

instance : Decidable (d.KeepsSortFields ctx) :=
  inferInstanceAs (Decidable (_ ∨ _))

/-- A selection that names all fields to sort by keeps them. -/
theorem keepsSortFields_of_not_dropsSortField (h : d.dropsSortField ctx = false) :
    d.KeepsSortFields ctx := by
  rw [KeepsSortFields]
  by_cases hselect : d.select = []
  · exact .inl hselect
  · refine .inr fun sort hsort => ⟨sort.field, ?_, List.prefix_refl _⟩
    simp only [dropsSortField, Bool.and_eq_false_iff, Bool.not_eq_false', List.isEmpty_iff, hselect,
      false_or, List.any_eq_false, Bool.not_eq_true', Bool.not_eq_false,
      List.contains_iff_mem] at h
    exact h sort hsort

/-- Where it keeps the fields to sort by a projection keeps what is sorted by. -/
theorem valueAt_projected {row : Record} (hrow : row.isCanonical) (h : d.KeepsSortFields ctx) :
    ∀ key ∈ d.sortKeysOn ctx,
      Record.valueAt (d.projected row) key.path = Record.valueAt row key.path := by
  intro key hkey
  obtain ⟨sort, hsort, rfl⟩ := List.mem_map.1 hkey
  unfold projected
  split
  · rfl
  next hselect =>
    rw [List.isEmpty_iff] at hselect
    rw [Record.valueAt, Record.valueAt]
    congr 1
    -- the sort field itself or a prefix of it is selected
    exact getPath?_projectRow hrow (h.resolve_left hselect sort hsort)

/-- Grouping keeps documents canonical. -/
theorem isCanonical_grouped [Hashing] {rows : List Record} (hrows : ∀ row ∈ rows, row.isCanonical) :
    ∀ row ∈ d.grouped rows, row.isCanonical := by
  unfold grouped
  split
  · exact isCanonical_groupRows hrows
  · exact hrows

/-- On canonical documents it makes no difference that selection may come before sorting. -/
theorem shaped_of_isCanonical [Hashing] {rows : List Record}
    (hrows : ∀ row ∈ rows, row.isCanonical) :
    d.shaped ctx rows = (Record.sort (d.sortKeysOn ctx) (d.grouped rows)).map d.projected := by
  unfold shaped
  split
  · rfl
  next hdrops =>
    rw [Bool.not_eq_true] at hdrops
    exact Record.sort_map _ fun row hrow =>
      d.valueAt_projected ctx (d.isCanonical_grouped hrows row hrow)
        (d.keepsSortFields_of_not_dropsSortField ctx hdrops)

/-! ## Runs -/

/-- A pipeline that goes on from the joined and filtered documents gives what the rest makes of
them. -/
theorem run_eq [Hashing] (store : Store) {pipeline : Pipeline} {stages : List Stage}
    (h : pipeline.stages = d.filterStages ctx ++ stages) {result : List Record → List Record}
    (hstages : ∀ rows, Stage.runAll store rows stages = .ok (result rows)) :
    pipeline.run store ctx.entity = (d.filteredDocuments ctx store).map result := by
  rw [Pipeline.run, h, filteredDocuments]
  -- a failed scan or lookup fails the run in the same way on both sides
  cases store.scan ctx.entity with
  | error e => rfl
  | ok rows =>
    simp only [bind, Except.bind]
    rw [runAll_append]
    cases Stage.runAll store rows (d.filterStages ctx) with
    | error e => rfl
    | ok rows => exact hstages rows

/-- The pipeline without a page gives the shaped documents. -/
theorem run_unpagedPipeline [Hashing] (store : Store) :
    (d.unpagedPipeline ctx).run store ctx.entity =
      (d.filteredDocuments ctx store).map (d.shaped ctx) :=
  d.run_eq ctx store rfl (d.runAll_shapeStages ctx store)

/-- The document with a page and its total. -/
def pageRow (p : Pagination) (rows : List Record) : Record :=
  [("data", .array (((rows.drop p.skip).take p.limit).map .object)),
    ("total", .array ((countRow totalField rows).map .object))]

/-- What the pipeline of a result answers. -/
def answer [Hashing] (rows : List Record) : List Record :=
  match d.pagination with
  | some p => [pageRow p (d.shaped ctx rows)]
  | none => d.shaped ctx rows

/-- The pipeline of a result gives the answer: the shaped documents, or the one document with a page
and its total. -/
theorem run_pipeline [Hashing] (store : Store) :
    (d.pipeline ctx).run store ctx.entity =
      (d.filteredDocuments ctx store).map (d.answer ctx) := by
  refine d.run_eq ctx store (List.append_assoc _ _ _) fun rows => ?_
  rw [runAll_append, runAll_shapeStages, answer]
  cases d.pagination <;> rfl

/-- The pipeline of the total counts the groups. -/
theorem run_countPipeline [Hashing] (store : Store) :
    (d.countPipeline ctx).run store ctx.entity =
      (d.filteredDocuments ctx store).map fun rows => countRow totalField (d.grouped rows) := by
  refine d.run_eq ctx store (List.append_assoc _ _ _) fun rows => ?_
  rw [runAll_append, runAll_groupStage]
  rfl

/-- The pipeline of a partition shapes the documents of the partition. -/
theorem run_partitionPipeline [Hashing] (store : Store) (key : String) (partitions index : Nat) :
    (d.partitionPipeline ctx key partitions index).run store ctx.entity =
      (d.filteredDocuments ctx store).map fun rows =>
        d.shaped ctx (Record.partitionOf key partitions rows index) := by
  refine d.run_eq ctx store (List.append_assoc _ _ _) fun rows => ?_
  rw [runAll_append]
  exact d.runAll_shapeStages ctx store _

/-! ## Answers -/

/-- Only with pagination the answer holds a page and its total. -/
theorem isPaginated_pipeline : (d.pipeline ctx).isPaginated = d.pagination.isSome := by
  have hfilter : (d.filterStages ctx).any Stage.isFacet = false := by
    rw [List.any_eq_false]
    intro stage hstage
    -- a stage in front matches, looks up or unwinds
    rcases d.mem_filterStages ctx hstage with ⟨_, rfl⟩ | ⟨_, _, _, _, rfl⟩ | ⟨_, _, rfl⟩ <;>
      simp [Stage.isFacet]
  have hshape : (d.shapeStages ctx).any Stage.isFacet = false := by
    rw [shapeStages, groupStage]
    split <;> split <;> split <;> split <;> simp [Stage.isFacet]
  rw [isPaginated_eq, pipeline, List.any_append, List.any_append, hfilter, hshape]
  cases d.pagination <;> rfl

/-- A count that fits a word comes back as it was. -/
private theorem readTotal_ofNat {n : Nat} (h : n < 2 ^ 63) :
    RowPage.readTotal [(totalField, .int (Int64.ofNat n))] = .ok n := by
  have hget : (Keyed.get? [(totalField, Value.int (Int64.ofNat n))] totalField).bind
      Value.integer? = some (Int64.ofNat n) := by
    simp [Keyed.get?, Value.integer?]
  rw [RowPage.readTotal, hget]
  simp only [Int64.toInt_ofNat_of_lt h]
  rw [if_pos (by omega), Int.toNat_natCast]

/-- The document of a count is read as the count. -/
private theorem readTotal_countRow {rows : List Record} {row : Record}
    (h : row ∈ countRow totalField rows) (hsize : rows.length < 2 ^ 63) :
    RowPage.readTotal row = .ok rows.length := by
  unfold countRow at h
  split at h
  · cases h
  · rw [List.mem_singleton.1 h]
    exact readTotal_ofNat hsize

/-- Only no documents at all are counted with no document. -/
private theorem eq_nil_of_countRow {rows : List Record} (h : countRow totalField rows = []) :
    rows = [] := by
  cases rows with
  | nil => rfl
  | cons row rows => simp [countRow] at h

/-- The count of documents is read from what counts them, and is zero where that is nothing. -/
theorem readCount_countRow {rows : List Record} (hsize : rows.length < 2 ^ 63) :
    RowPage.readCount (countRow totalField rows) = .ok rows.length := by
  cases hcount : countRow totalField rows with
  | nil =>
    obtain rfl := eq_nil_of_countRow hcount
    rfl
  | cons row rest => exact readTotal_countRow (by simp [hcount]) hsize

/-- Records that are wrapped as values are read back. -/
private theorem mapM_object {read : Value → Except ExecuteError Record}
    (hread : ∀ record, read (.object record) = .ok record) (rows : List Record) :
    (rows.map Value.object).mapM read = .ok rows := by
  induction rows with
  | nil => rfl
  | cons row rows ih =>
    rw [List.map_cons, List.mapM_cons, hread, ih]
    rfl

/-- The page and its total are read from the document that holds them. -/
theorem readFacet_pageRow (p : Pagination) {rows : List Record} (hsize : rows.length < 2 ^ 63) :
    RowPage.readFacet [pageRow p rows] = .ok ⟨(rows.drop p.skip).take p.limit, rows.length⟩ := by
  have hdata : Keyed.get? (pageRow p rows) "data" =
      some (.array (((rows.drop p.skip).take p.limit).map .object)) := by
    simp [pageRow, Keyed.get?]
  have htotal : Keyed.get? (pageRow p rows) totalField =
      some (.array ((countRow totalField rows).map .object)) := by
    simp [pageRow, totalField, Keyed.get?]
  simp only [RowPage.readFacet, hdata, htotal]
  rw [mapM_object fun _ => rfl]
  cases hcount : countRow totalField rows with
  | nil =>
    obtain rfl := eq_nil_of_countRow hcount
    rfl
  | cons row rest =>
    -- a count is one document, so the first one holds it
    have hmem : row ∈ countRow totalField rows := hcount ▸ List.mem_cons_self
    have hread := readTotal_countRow hmem hsize
    simp only [List.map_cons, hread]
    rfl

/-- The page and the total in the answer of a pipeline. A total that is read from a document is a
word. -/
theorem readAnswer_pipeline [Hashing] {rows : List Record}
    (hsize : d.pagination.isSome → (d.grouped rows).length < 2 ^ 63) :
    RowPage.readAnswer (d.pipeline ctx) (d.answer ctx rows) =
      .ok ⟨pageOf d.pagination (d.shaped ctx rows), (d.grouped rows).length⟩ := by
  rw [← d.length_shaped ctx] at hsize ⊢
  rw [RowPage.readAnswer, isPaginated_pipeline, answer]
  cases hpagination : d.pagination with
  | none => rfl
  | some p => exact readFacet_pageRow p (hsize (by rw [hpagination]; rfl))

end Descriptor

end DualQuery
