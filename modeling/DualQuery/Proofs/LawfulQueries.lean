import DualQuery.Proofs.LawfulKeys
import DualQuery.Proofs.LawfulRuns

/-!
# Queries with lawful keys

All pipelines of a query begin by joining and filtering in the same way, and group what is left or a
part of it. So whether they look up lawful keys can be asked once, of the query. The two plans of a
query look up the same keys as well.

## Key results

- `Descriptor.hasLawfulGroups_of_isFloatFree`: groups by values without doubles
- `Descriptor.filteredDocuments_eq_of_lawful`, `Descriptor.shaped_eq_of_lawful`: the documents of a
  query are the same under all hashings
- `Descriptor.hasLawfulKeys_count`: the plan of the total has lawful keys if that of the rows has
-/

namespace DualQuery.Descriptor

open Document Relational

variable {ctx : QueryContext} {d : Descriptor} {store : Store}

/-- Whether the values by which a query groups documents are lawful. -/
def HasLawfulGroups (d : Descriptor) (rows : List Record) : Prop :=
  Record.HasLawfulGroups (d.groupBy.map fun field row => Record.valueAt row field) rows

/-- Whether the pipelines of a query look up lawful keys. -/
structure HasLawfulKeys [Hashing] (ctx : QueryContext) (d : Descriptor) (store : Store) : Prop where
  /-- The values that are joined are lawful. -/
  joins : ∀ rows, store.scan ctx.entity = .ok rows →
    Stage.HaveLawfulKeys store rows (d.filterStages ctx)
  /-- The values of the groups are lawful. -/
  groups : ∀ rows, d.filteredDocuments ctx store = .ok rows → d.HasLawfulGroups rows

/-- Groups by values without doubles are lawful. -/
theorem hasLawfulGroups_of_isFloatFree {rows : List Record}
    (h : ∀ row ∈ rows, ∀ field ∈ d.groupBy, (Record.valueAt row field).isFloatFree = true) :
    d.HasLawfulGroups rows := by
  refine Record.isLawful_isKeyList.hasLawfulKeys fun key hkey => ?_
  rw [List.append_nil] at hkey
  obtain ⟨row, hrow, rfl⟩ := List.mem_map.1 hkey
  intro value hvalue
  rw [Record.keyOf, List.map_map] at hvalue
  obtain ⟨field, hfield, rfl⟩ := List.mem_map.1 hvalue
  exact h row hrow field hfield

instance (d : Descriptor) (rows : List Record) : Decidable (d.HasLawfulGroups rows) :=
  inferInstanceAs (Decidable (Record.HasLawfulGroups _ _))

instance [Hashing] (ctx : QueryContext) (d : Descriptor) (store : Store) :
    Decidable (d.HasLawfulKeys ctx store) :=
  decidable_of_iff ((∀ rows, store.scan ctx.entity = .ok rows →
      Stage.HaveLawfulKeys store rows (d.filterStages ctx)) ∧
    ∀ rows, d.filteredDocuments ctx store = .ok rows → d.HasLawfulGroups rows)
    ⟨fun h => ⟨h.1, h.2⟩, fun h => ⟨h.1, h.2⟩⟩

section Documents

variable {s : Hashing} (h : d.HasLawfulKeys ctx store) (t : Hashing)

include h

/-- The joined and filtered documents are the same under all hashings. -/
theorem filteredDocuments_eq_of_lawful :
    @filteredDocuments ctx d s store = @filteredDocuments ctx d t store := by
  obtain ⟨hjoins, -⟩ := h
  unfold filteredDocuments
  -- a scan looks nothing up
  cases hscan : store.scan ctx.entity with
  | error e => rfl
  | ok rows => exact Stage.runAll_eq_of_lawful _ (hjoins rows hscan) t

variable {rows : List Record} (hrows : @filteredDocuments ctx d s store = .ok rows)
  {part : List Record} (hpart : part ⊆ rows)

include hrows hpart

/-- The groups of documents, or of a part of them, are the same under all hashings. -/
theorem grouped_eq_of_lawful : @grouped d s part = @grouped d t part := by
  obtain ⟨-, hgroups⟩ := h
  unfold grouped
  split
  · refine groupRows_eq_of_lawful ?_ _ s t
    rw [fields_groupKey]
    -- the part has no keys but those of all documents
    exact (hgroups rows hrows).mono (List.map_subset _ hpart) (List.Subset.refl [])
  · rfl

/-- Grouped, sorted and projected documents, or those of a part, are the same under all hashings. -/
theorem shaped_eq_of_lawful : @shaped ctx d s part = @shaped ctx d t part := by
  unfold shaped
  rw [grouped_eq_of_lawful h t hrows hpart]

end Documents

section Runs

variable {s : Hashing} (h : d.HasLawfulKeys ctx store) (t : Hashing)

include h

/-- A pipeline that works on the documents of a query gives the same under all hashings if its work
does. -/
private theorem run_eq_of_work {pipeline : Pipeline} {work : Hashing → List Record → List Record}
    (hrun : ∀ s, @Pipeline.run s pipeline store ctx.entity =
      (@filteredDocuments ctx d s store).map (work s))
    (hwork : ∀ rows, @filteredDocuments ctx d s store = .ok rows → work s rows = work t rows) :
    @Pipeline.run s pipeline store ctx.entity = @Pipeline.run t pipeline store ctx.entity := by
  rw [hrun, hrun, ← filteredDocuments_eq_of_lawful h t]
  cases hrows : @filteredDocuments ctx d s store with
  | error e => rfl
  | ok rows => exact congrArg Except.ok (hwork rows hrows)

/-- The page with its total is the same under all hashings. -/
theorem run_pipeline_eq_of_lawful : @Pipeline.run s (d.pipeline ctx) store ctx.entity =
    @Pipeline.run t (d.pipeline ctx) store ctx.entity := by
  refine run_eq_of_work h t (fun s => @run_pipeline ctx d s store) fun rows hrows => ?_
  unfold answer
  rw [shaped_eq_of_lawful h t hrows (List.Subset.refl rows)]

/-- All documents of a query are the same under all hashings. -/
theorem run_unpagedPipeline_eq_of_lawful :
    @Pipeline.run s (d.unpagedPipeline ctx) store ctx.entity =
      @Pipeline.run t (d.unpagedPipeline ctx) store ctx.entity :=
  run_eq_of_work h t (fun s => @run_unpagedPipeline ctx d s store) fun rows hrows =>
    shaped_eq_of_lawful h t hrows (List.Subset.refl rows)

/-- The total is the same under all hashings. -/
theorem run_countPipeline_eq_of_lawful :
    @Pipeline.run s (d.countPipeline ctx) store ctx.entity =
      @Pipeline.run t (d.countPipeline ctx) store ctx.entity := by
  refine run_eq_of_work h t (fun s => @run_countPipeline ctx d s store) fun rows hrows => ?_
  exact congrArg (countRow totalField) (grouped_eq_of_lawful h t hrows (List.Subset.refl rows))

/-- The estimate, which groups nothing, is the same under all hashings. -/
theorem run_estimatePipeline_eq_of_lawful :
    @Pipeline.run s (d.estimatePipeline ctx) store ctx.entity =
      @Pipeline.run t (d.estimatePipeline ctx) store ctx.entity :=
  run_eq_of_work h t (fun s => @run_eq ctx d s store _ _ rfl (countRow totalField)
    fun _ => by unfold Stage.runAll Stage.run Stage.runAll; rfl) fun _ _ => rfl

/-- The documents of a partition are the same under all hashings. -/
theorem run_partitionPipeline_eq_of_lawful (key : String) (partitions index : Nat) :
    @Pipeline.run s (d.partitionPipeline ctx key partitions index) store ctx.entity =
      @Pipeline.run t (d.partitionPipeline ctx key partitions index) store ctx.entity :=
  run_eq_of_work h t (fun s => @run_partitionPipeline ctx d s store key partitions index)
    fun _ hrows => shaped_eq_of_lawful h t hrows fun _ hrow => (List.mem_filter.1 hrow).1

end Runs

/-- The plan of the total looks up what the plan of the rows looks up. -/
theorem hasLawfulKeys_count [Hashing] (h : (d.relationalPlans ctx).data.HasLawfulKeys store) :
    (d.relationalPlans ctx).count.HasLawfulKeys store := by
  obtain ⟨hjoins, hgroups⟩ := h
  rw [joins_of_layout (d.clauses_data ctx)] at hjoins
  rw [groupColumns_of_layout (d.clauses_data ctx)] at hgroups
  constructor
  · rw [joins_of_layout (d.clauses_count ctx)]
    exact hjoins
  · -- both plans have one layout: the same joins, filters and groups
    rw [groupColumns_of_layout (d.clauses_count ctx), filteredRows_count_eq_data]
    exact hgroups

end DualQuery.Descriptor
