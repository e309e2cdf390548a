import DualQuery.Proofs.CanonicalStages
import DualQuery.Proofs.CompiledPlans

/-!
# Joined and filtered documents

A pipeline asks the conditions that lead into a join behind the lookups and all others in front of
them. Where no condition is on an alias itself this is the same as asking all of them of the joined
documents, as a relational plan does.

## Key results

- `Descriptor.runAll_filterStages`: filter, join, filter again
- `Descriptor.filteredDocuments_eq`: the joined documents that the filters accept
- `Descriptor.isCanonical_filteredDocuments`: documents stay canonical
- `Document.exists_of_runAll_error`: stages fail only where a table is missing
-/

namespace DualQuery

open Document

/-! ## Missing tables -/

/-- A scan fails only where the table is missing. -/
theorem Store.exists_of_scan_error {store : Store} {name : String} {e : StoreError}
    (h : store.scan name = .error e) : ∃ table, e = .tableNotFound table := by
  unfold Store.scan at h
  split at h
  · cases h
  · cases h
    exact ⟨name, rfl⟩

mutual
/-- A stage fails only where a table is missing. -/
theorem Document.exists_of_run_error [Hashing] {store : Store} {e : StoreError} :
    (stage : Stage) → (rows : List Record) → stage.run store rows = .error e →
      ∃ table, e = .tableNotFound table
  | .filter _, _, h | .unwind _ _, _, h | .group _ _, _, h | .project _, _, h | .sort _, _, h
  | .skip _, _, h | .limit _, _, h | .count _, _, h => by cases h
  | .lookup source _ _ _, _, h => by
    cases hscan : store.scan source with
    | error e' =>
      simp only [Stage.run, hscan, bind, Except.bind, Except.error.injEq] at h
      exact h ▸ Store.exists_of_scan_error hscan
    | ok records => simp [Stage.run, hscan, bind, Except.bind, pure, Except.pure] at h
  | .facet data total, rows, h => by
    -- the two halves of a facet are run one after the other, and the first failure counts
    cases hdata : Stage.runAll store rows data with
    | error e' =>
      simp only [Stage.run, hdata, bind, Except.bind, Except.error.injEq] at h
      exact h ▸ exists_of_runAll_error data rows hdata
    | ok page =>
      cases htotal : Stage.runAll store rows total with
      | error e' =>
        simp only [Stage.run, hdata, htotal, bind, Except.bind, Except.error.injEq] at h
        exact h ▸ exists_of_runAll_error total rows htotal
      | ok counts => simp [Stage.run, hdata, htotal, bind, Except.bind, pure, Except.pure] at h

/-- Stages fail only where a table is missing. -/
theorem Document.exists_of_runAll_error [Hashing] {store : Store} {e : StoreError} :
    (stages : List Stage) → (rows : List Record) → Stage.runAll store rows stages = .error e →
      ∃ table, e = .tableNotFound table
  | [], _, h => by cases h
  | stage :: rest, rows, h => by
    cases hrun : stage.run store rows with
    | error e' =>
      simp only [Stage.runAll, hrun, bind, Except.bind, Except.error.injEq] at h
      exact h ▸ exists_of_run_error stage rows hrun
    | ok next =>
      simp only [Stage.runAll, hrun, bind, Except.bind] at h
      exact exists_of_runAll_error rest next h
end

namespace Descriptor

variable (ctx : QueryContext) (d : Descriptor)

/-! ## Early and late conditions -/

/-- The aliases of the joins that are carried out. -/
def aliasesOn : List String := (d.joinsOn ctx.entity).map (·.aliasName)

/-- The conditions that are asked before anything is joined: those that do not lead into a join. -/
def earlyConditions : List Match :=
  ((d.filtersOn ctx).filter fun filter => !Text.leadsFrom (d.aliasesOn ctx) filter.field).map
      Filter.toMatch ++
    ((SearchPlan.of? d.search ctx.searchConfig).toList.filter fun plan =>
      !plan.fieldMatches.any fun m => Text.leadsFrom (d.aliasesOn ctx) m.field).map
        SearchPlan.toMatch

/-- The conditions that are asked of the joined documents. -/
def lateConditions : List Match :=
  ((d.filtersOn ctx).filter fun filter => Text.leadsFrom (d.aliasesOn ctx) filter.field).map
      Filter.toMatch ++
    ((SearchPlan.of? d.search ctx.searchConfig).toList.filter fun plan =>
      plan.fieldMatches.any fun m => Text.leadsFrom (d.aliasesOn ctx) m.field).map
        SearchPlan.toMatch

/-- The filters of a query stand in front of its joins or behind them. -/
theorem filterStages_eq : d.filterStages ctx =
    filterStage (d.earlyConditions ctx) ++ (d.joinsOn ctx.entity).flatMap JoinSpec.stages ++
      filterStage (d.lateConditions ctx) := by
  simp only [filterStages, List.partition_eq_filter_filter]
  rfl

/-- Filter, join, filter again. -/
theorem runAll_filterStages [Hashing] (store : Store) (rows : List Record) :
    Stage.runAll store rows (d.filterStages ctx) =
      (Stage.runAll store
        (rows.filter fun row => (d.earlyConditions ctx).all fun condition => condition.holds row)
        ((d.joinsOn ctx.entity).flatMap JoinSpec.stages)).map fun joined =>
          joined.filter fun row =>
            (d.lateConditions ctx).all fun condition => condition.holds row := by
  rw [filterStages_eq, runAll_append, runAll_append, runAll_filterStage]
  simp only [Except.bind]
  cases Stage.runAll store _ ((d.joinsOn ctx.entity).flatMap JoinSpec.stages) with
  | error e => rfl
  | ok joined => exact runAll_filterStage store joined _

/-- The documents that are joined and filtered. -/
def filteredDocuments [Hashing] (store : Store) : Except StoreError (List Record) :=
  (store.scan ctx.entity).bind fun rows => Stage.runAll store rows (d.filterStages ctx)

/-- The stages that join and filter do nothing else. -/
theorem mem_filterStages {stage : Stage} (h : stage ∈ d.filterStages ctx) :
    (∃ condition, stage = .filter condition) ∨
      (∃ source localField foreignField label,
        stage = .lookup source localField foreignField label) ∨
      ∃ path keepsEmpty, stage = .unwind path keepsEmpty := by
  have hfilter : ∀ conditions, stage ∈ filterStage conditions →
      ∃ condition, stage = .filter condition := fun conditions hmem => by
    obtain ⟨condition, -, rfl⟩ := List.mem_map.1 hmem
    exact ⟨condition, rfl⟩
  simp only [filterStages, List.mem_append] at h
  -- conditions in front, two stages for each join, conditions behind
  rcases h with (h | h) | h
  · exact .inl (hfilter _ h)
  · obtain ⟨join, -, hmem⟩ := List.mem_flatMap.1 h
    rcases List.mem_cons.1 hmem with rfl | hmem
    · exact .inr (.inl ⟨_, _, _, _, rfl⟩)
    · rw [List.mem_singleton.1 hmem]
      exact .inr (.inr ⟨_, _, rfl⟩)
  · exact .inl (hfilter _ h)

/-- Joined and filtered documents of a canonical store are canonical. -/
theorem isCanonical_filteredDocuments [Hashing] {store : Store} (hstore : store.isCanonical)
    {rows : List Record} (h : d.filteredDocuments ctx store = .ok rows) :
    ∀ row ∈ rows, row.isCanonical := by
  cases hscan : store.scan ctx.entity with
  | error e => simp [filteredDocuments, hscan, Except.bind] at h
  | ok scanned =>
    simp only [filteredDocuments, hscan, Except.bind] at h
    exact isCanonical_runAll hstore _ scanned (Store.isCanonical_scan hstore hscan) rows h

variable {ctx d} in
/-- Joining and filtering fail only where a table is missing. -/
theorem exists_of_filteredDocuments_error [Hashing] {store : Store} {e : StoreError}
    (h : d.filteredDocuments ctx store = .error e) : ∃ table, e = .tableNotFound table := by
  cases hscan : store.scan ctx.entity with
  | error e' =>
    simp only [filteredDocuments, hscan, Except.bind, Except.error.injEq] at h
    exact h ▸ Store.exists_of_scan_error hscan
  | ok rows =>
    simp only [filteredDocuments, hscan, Except.bind] at h
    exact exists_of_runAll_error _ rows h

section Searchless

variable {ctx d}
variable (hsearch : SearchPlan.of? d.search ctx.searchConfig = none)

include hsearch

/-- Without a search the early conditions are the filters that do not lead into a join. -/
theorem all_earlyConditions (row : Record) :
    ((d.earlyConditions ctx).all fun condition => condition.holds row) =
      ((d.filtersOn ctx).filter fun filter =>
        !Text.leadsFrom (d.aliasesOn ctx) filter.field).all fun filter => filter.accepts row := by
  rw [earlyConditions, hsearch]
  simp only [Option.toList_none, List.filter_nil, List.map_nil, List.append_nil]
  exact all_map_toMatch (fun filter h =>
    d.hasOperand_of_mem_filtersOn ctx filter (List.mem_filter.1 h).1) row

/-- Without a search the late conditions are the filters that lead into a join. -/
theorem all_lateConditions (row : Record) :
    ((d.lateConditions ctx).all fun condition => condition.holds row) =
      ((d.filtersOn ctx).filter fun filter =>
        Text.leadsFrom (d.aliasesOn ctx) filter.field).all fun filter => filter.accepts row := by
  rw [lateConditions, hsearch]
  simp only [Option.toList_none, List.filter_nil, List.map_nil, List.append_nil]
  exact all_map_toMatch (fun filter h =>
    d.hasOperand_of_mem_filtersOn ctx filter (List.mem_filter.1 h).1) row

/-- Early and late conditions together are the filters. -/
theorem late_and_early (row : Record) :
    ((d.lateConditions ctx).all (fun condition => condition.holds row) &&
      (d.earlyConditions ctx).all fun condition => condition.holds row) =
        (d.filtersOn ctx).all fun filter => filter.accepts row := by
  rw [all_earlyConditions hsearch, all_lateConditions hsearch, Bool.eq_iff_iff]
  simp only [Bool.and_eq_true, List.all_eq_true, List.mem_filter]
  constructor
  · rintro ⟨hlate, hearly⟩ filter hfilter
    -- a filter is among the late conditions or among the early ones
    cases hlead : Text.leadsFrom (d.aliasesOn ctx) filter.field with
    | true => exact hlate filter ⟨hfilter, hlead⟩
    | false => exact hearly filter ⟨hfilter, by rw [hlead]; rfl⟩
  · exact fun h => ⟨fun filter hf => h filter hf.1, fun filter hf => h filter hf.1⟩

/-- Early conditions read fields that no join touches. -/
theorem earlyConditions_of_mem_extend [Hashing]
    (halias : ∀ filter ∈ d.filtersOn ctx, filter.field ∉ d.aliasesOn ctx) {join : JoinSpec}
    (hjoin : join ∈ d.joinsOn ctx.entity) {source : List Record} {row out : Record}
    (hout : out ∈ join.extend source row) :
    ((d.earlyConditions ctx).all fun condition => condition.holds out) =
      (d.earlyConditions ctx).all fun condition => condition.holds row := by
  rw [all_earlyConditions hsearch, all_earlyConditions hsearch, Bool.eq_iff_iff,
    List.all_eq_true, List.all_eq_true]
  refine forall₂_congr fun filter hfilter => ?_
  obtain ⟨hmem, hearly⟩ := List.mem_filter.1 hfilter
  -- the filter reads below another name than the one that the join writes
  have hroot : filter.root ≠ join.aliasName := by
    intro heq
    have hin : filter.root ∈ d.aliasesOn ctx := heq ▸ List.mem_map_of_mem hjoin
    exact Text.root_not_mem_of_not_leadsFrom (by simpa using hearly) (halias filter hmem) hin
  rw [filter.accepts_congr (JoinSpec.get?_of_mem_extend hout hroot)]

/-- Without a search, and with left and inner joins whose aliases have no dot and carry no condition
of their own, all filters may as well be asked of the joined documents. -/
theorem filteredDocuments_eq [Hashing] (store : Store)
    (hright : ∀ join ∈ d.joinsOn ctx.entity, join.joinType.keepsRight = false)
    (hdot : ∀ join ∈ d.joinsOn ctx.entity, Text.isDotted join.aliasName = false)
    (halias : ∀ filter ∈ d.filtersOn ctx, filter.field ∉ d.aliasesOn ctx) :
    d.filteredDocuments ctx store =
      (store.scan ctx.entity).bind fun rows =>
        (JoinSpec.extendAll store (d.joinsOn ctx.entity) rows).map
          (·.filter fun row => (d.filtersOn ctx).all fun filter => filter.accepts row) := by
  rw [filteredDocuments]
  cases store.scan ctx.entity with
  | error e => rfl
  | ok rows =>
    simp only [Except.bind]
    -- the early conditions move behind the joins, where they meet the late ones
    rw [runAll_filterStages, runAll_joinStages store hdot hright,
      JoinSpec.extendAll_filter store fun join hjoin source row out hout =>
        earlyConditions_of_mem_extend hsearch halias hjoin hout]
    cases JoinSpec.extendAll store (d.joinsOn ctx.entity) rows with
    | error e => rfl
    | ok joined =>
      simp only [Except.map, List.filter_filter, late_and_early hsearch]

end Searchless

end Descriptor

end DualQuery
