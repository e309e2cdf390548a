import DualQuery.Proofs.JoinRows
import DualQuery.Proofs.PlanParameters
import Mathlib.Data.List.Basic

/-!
# What compiled plans hold

The two plans of a descriptor are read back clause by clause, and what they evaluate to is said in
terms of the descriptor: the joined rows that its filters accept, its sort fields and its page.

## Key results

- `Descriptor.filteredRows_count_eq_data`: both plans filter the same rows
- `Descriptor.filteredRows_data`, `Descriptor.filteredRows_count`: which, with left and inner joins
- `Descriptor.rows_data_of_not_hasGrouping`, `Descriptor.rows_data_of_hasGrouping`: the rows of the
  data plan
- `Descriptor.total_count`: the total of the count plan
-/

namespace DualQuery

open Relational

/-- The part of a list that is on a page. -/
def pageOf {α : Type} (pagination : Option Pagination) (rows : List α) : List α :=
  match pagination with
  | some p => (rows.drop p.skip).take p.limit
  | none => rows

/-- Rows may be changed before or after the page is taken. -/
theorem pageOf_map {α β : Type} (pagination : Option Pagination) (f : α → β) (rows : List α) :
    pageOf pagination (rows.map f) = (pageOf pagination rows).map f := by
  cases pagination <;> simp [pageOf, List.map_drop, List.map_take]

/-- What is on a page is among the rows. -/
theorem mem_of_mem_pageOf {α : Type} {pagination : Option Pagination} {rows : List α} {row : α}
    (h : row ∈ pageOf pagination rows) : row ∈ rows := by
  cases pagination with
  | none => exact h
  | some p => exact List.mem_of_mem_drop (List.mem_of_mem_take h)

namespace Descriptor

/-- The column of a field of a query. -/
def columnOn (ctx : QueryContext) (d : Descriptor) : String → Column :=
  columnOf ctx.entity ((joinClauses ctx.entity [] (d.joinsOn ctx.entity)).map (·.label))

/-- The filters of a query, those of the server first. -/
def filtersOn (ctx : QueryContext) (d : Descriptor) : List Filter :=
  mergeConditions ctx.serverConditions d.conditions

/-- All filters of a query have the operands that their operators need. -/
theorem hasOperand_of_mem_filtersOn (ctx : QueryContext) (d : Descriptor) :
    ∀ filter ∈ d.filtersOn ctx, filter.HasOperand :=
  fun _ hfilter => hasOperand_of_mem_mergeConditions hfilter

/-- The predicates of the plans of a query. -/
def predicatesOn (ctx : QueryContext) (d : Descriptor) : List Predicate :=
  filterPredicates (d.columnOn ctx) 0 (d.filtersOn ctx) ++
    (SearchPlan.of? d.search ctx.searchConfig).toList.map
      (searchPredicate (d.columnOn ctx) ((d.filtersOn ctx).flatMap filterParams).length)

/-- Whether a row meets the search of a query, given the parameters of a plan. -/
def meetsSearch (ctx : QueryContext) (d : Descriptor) (params : List Value) (row : Record) : Bool :=
  ((SearchPlan.of? d.search ctx.searchConfig).toList.map
    (searchPredicate (d.columnOn ctx) ((d.filtersOn ctx).flatMap filterParams).length)).all
      fun predicate => predicate.holds params fun column => column.value ctx.entity row

/-- The column of a field leads to the path of the field. -/
theorem path_columnOn (ctx : QueryContext) (d : Descriptor) (field : String) :
    (d.columnOn ctx field).path ctx.entity = field := by
  refine path_columnOf ?_ field
  rw [map_label_joinClauses]
  exact d.entity_not_mem_aliases ctx.entity

/-- The value of its column in a row is the value at the field. -/
theorem value_columnOn (ctx : QueryContext) (d : Descriptor) (field : String) (row : Record) :
    (d.columnOn ctx field).value ctx.entity row = Record.valueAt row field := by
  rw [Column.value, path_columnOn]

end Descriptor

/-! ## Clauses -/

namespace Relational

/-- The clauses of a compiled plan, in their order. -/
def layout (items : List Projection) (entity : String) (joins : List JoinClause)
    (predicates : List Predicate) (group : Option (List Column)) (order : List OrderItem)
    (page : Option Pagination) : List Clause :=
  .select items :: (.table entity :: joins.map .join ++ filterClauses predicates ++
    group.toList.map .groupBy) ++ (if order.isEmpty then [] else [.orderBy order]) ++
    match page with
    | some p => [.skip p.skip, .take p.limit]
    | none => []

/-- The columns of a clause that groups. -/
def Clause.groupColumns? : Clause → Option (List Column)
  | groupBy columns => some columns
  | _ => none

/-- What is read from the clauses that filter is read from the predicates. -/
theorem filterMap_filterClauses {α : Type} (f : Clause → Option α) (g : Predicate → Option α)
    (hfilter : ∀ predicate, f (.filter predicate) = g predicate)
    (halso : ∀ predicate, f (.alsoFilter predicate) = g predicate) (predicates : List Predicate) :
    (filterClauses predicates).filterMap f = predicates.filterMap g := by
  have hcomp : f ∘ Clause.alsoFilter = g := funext halso
  cases predicates with
  | nil => rfl
  | cons predicate rest =>
    simp only [filterClauses, List.filterMap_cons, List.filterMap_map, hfilter, hcomp]

/-- What is read from the clauses of a layout, one by one. -/
theorem filterMap_layout {α : Type} (f : Clause → Option α) (items : List Projection)
    (entity : String) (joins : List JoinClause) (predicates : List Predicate)
    (group : Option (List Column)) (order : List OrderItem) (page : Option Pagination) :
    (layout items entity joins predicates group order page).filterMap f =
      (f (.select items)).toList ++ ((f (.table entity)).toList ++
        (joins.filterMap (fun join => f (.join join)) ++ ((filterClauses predicates).filterMap f ++
          (group.toList.filterMap (fun columns => f (.groupBy columns)) ++
            ((if order.isEmpty then none else f (.orderBy order)).toList ++
              page.toList.flatMap fun p =>
                (f (.skip p.skip)).toList ++ (f (.take p.limit)).toList))))) := by
  have hcons : ∀ clause clauses, (clause :: clauses).filterMap f =
      (f clause).toList ++ clauses.filterMap f := fun clause clauses => by
    cases hf : f clause <;> simp [hf]
  cases page <;> cases horder : order.isEmpty <;>
    simp [layout, horder, hcons, List.filterMap_append, List.filterMap_map]

section Layout

variable {plan : Plan} {items : List Projection} {entity : String} {joins : List JoinClause}
  {predicates : List Predicate} {group : Option (List Column)} {order : List OrderItem}
  {page : Option Pagination}
  (h : plan.clauses = layout items entity joins predicates group order page)

include h

/-- The items of the result. -/
theorem projection_of_layout : plan.projection = items := by
  rw [Plan.projection, h, ← List.head?_filterMap, filterMap_layout]
  rfl

/-- The joins. -/
theorem joins_of_layout : plan.joins = joins := by
  rw [Plan.joins, h, filterMap_layout,
    filterMap_filterClauses _ (fun _ => none) (fun _ => rfl) (fun _ => rfl)]
  simp

/-- The predicates, of the first clause that filters and of the others. -/
theorem predicates_of_layout : plan.predicates = predicates := by
  rw [Plan.predicates, h, filterMap_layout,
    filterMap_filterClauses _ some (fun _ => rfl) (fun _ => rfl)]
  simp

/-- The columns of the groups. -/
theorem groupColumns_of_layout : plan.groupColumns = group.getD [] := by
  rw [Plan.groupColumns, h, ← List.head?_filterMap, filterMap_layout,
    filterMap_filterClauses _ (fun _ => none) (fun _ => rfl) (fun _ => rfl)]
  cases group <;> cases page <;> simp [-List.head?_filterMap]

/-- Whether there are groups, which may have no columns. -/
theorem isGrouped_of_layout : plan.isGrouped = group.isSome := by
  have hgroup : plan.isGrouped = (plan.clauses.findSome? Clause.groupColumns?).isSome := by
    rw [Plan.isGrouped]
    -- the plan asks for any clause that groups, the layout has one place for it
    induction plan.clauses with
    | nil => rfl
    | cons clause clauses ih =>
      cases clause <;> simp [List.findSome?_cons, Clause.groupColumns?, ih]
  rw [hgroup, h, ← List.head?_filterMap, filterMap_layout,
    filterMap_filterClauses _ (fun _ => none) (fun _ => rfl) (fun _ => rfl)]
  cases group <;> cases page <;> simp [Clause.groupColumns?, -List.head?_filterMap]

/-- The order. -/
theorem order_of_layout : plan.order = order := by
  rw [Plan.order, h, ← List.head?_filterMap, filterMap_layout,
    filterMap_filterClauses _ (fun _ => none) (fun _ => rfl) (fun _ => rfl)]
  cases order <;> cases page <;> simp [-List.head?_filterMap]

/-- The page that is taken from rows. -/
theorem page_of_layout (rows : List Record) : plan.page rows = pageOf page rows := by
  -- both numbers of the page are there or neither is
  have hskip : plan.skip? = page.map Pagination.skip := by
    rw [Plan.skip?, h, ← List.head?_filterMap, filterMap_layout,
      filterMap_filterClauses _ (fun _ => none) (fun _ => rfl) (fun _ => rfl)]
    cases page <;> simp [-List.head?_filterMap]
  have htake : plan.take? = page.map Pagination.limit := by
    rw [Plan.take?, h, ← List.head?_filterMap, filterMap_layout,
      filterMap_filterClauses _ (fun _ => none) (fun _ => rfl) (fun _ => rfl)]
    cases page <;> simp [-List.head?_filterMap]
  rw [Plan.page, hskip, htake]
  cases page <;> rfl

end Layout

end Relational

/-! ## Plans -/

namespace Descriptor

variable (ctx : QueryContext) (d : Descriptor)

/-- The parameters that both plans of a query begin with. -/
def paramsOn : List Value :=
  (d.filtersOn ctx).flatMap filterParams ++
    (SearchPlan.of? d.search ctx.searchConfig).toList.flatMap fun search =>
      search.fieldMatches.map (searchParam search.term)

/-- The columns that a query groups by, if it groups. -/
def groupOn : Option (List Column) :=
  if d.hasGrouping then some (d.groupBy.map (d.columnOn ctx)) else none

/-- The items of the result of a query. -/
def itemsOn : List Projection :=
  projectionOf ctx.entity (joinClauses ctx.entity [] (d.joinsOn ctx.entity)) (d.columnOn ctx)
    (d.paramsOn ctx).length d

/-- The clauses of the plan of the rows. -/
theorem clauses_data : (d.relationalPlans ctx).data.clauses =
    layout (d.itemsOn ctx) ctx.entity (joinClauses ctx.entity [] (d.joinsOn ctx.entity))
      (d.predicatesOn ctx) (d.groupOn ctx) (Relational.orderOf ctx (d.columnOn ctx) d)
      d.pagination := by
  rw [groupOn]
  cases hgroup : d.hasGrouping <;> simp only [relationalPlans, hgroup] <;> rfl

/-- The clauses of the plan of the total: one item, no order and no page. -/
theorem clauses_count : (d.relationalPlans ctx).count.clauses =
    layout [.countAll "total"] ctx.entity (joinClauses ctx.entity [] (d.joinsOn ctx.entity))
      (d.predicatesOn ctx) (d.groupOn ctx) [] none := by
  rw [groupOn]
  cases hgroup : d.hasGrouping <;>
    simp only [relationalPlans, layout, hgroup, List.isEmpty_nil, if_true, List.append_nil] <;> rfl

/-- The plan of the rows begins with the parameters of both plans. -/
theorem exists_params_data :
    ∃ rest, (d.relationalPlans ctx).data.params = d.paramsOn ctx ++ rest := ⟨_, rfl⟩

/-- A plan with the clauses and parameters of a query keeps the joined rows that the filters accept
and that meet the search. -/
theorem filteredRows_of_joinAll [Hashing] (store : Store) {plan : Plan} {items : List Projection}
    {group : Option (List Column)} {order : List OrderItem} {page : Option Pagination}
    (hclauses : plan.clauses = layout items ctx.entity
      (joinClauses ctx.entity [] (d.joinsOn ctx.entity)) (d.predicatesOn ctx) group order page)
    (hentity : plan.entity = ctx.entity) {rest : List Value}
    (hparams : plan.params = d.paramsOn ctx ++ rest) :
    plan.filteredRows store =
      (store.scan ctx.entity).bind fun rows =>
        (joinAll store ctx.entity rows (joinClauses ctx.entity [] (d.joinsOn ctx.entity))).map
          (·.filter fun row => (d.filtersOn ctx).all (fun filter => filter.accepts row) &&
            d.meetsSearch ctx plan.params row) := by
  -- the predicates of the plan and the conditions of the descriptor hold of the same rows
  have hall : ∀ row : Record,
      (plan.predicates.all fun predicate =>
        predicate.holds plan.params fun column => column.value plan.entity row) =
      ((d.filtersOn ctx).all (fun filter => filter.accepts row) &&
        d.meetsSearch ctx plan.params row) := fun row => by
    -- the parameters of the filters come first, so their predicates count from zero
    obtain ⟨tail, hdrop⟩ : ∃ tail,
        plan.params.drop 0 = (d.filtersOn ctx).flatMap filterParams ++ tail :=
      ⟨_, by rw [hparams, paramsOn, List.drop_zero, List.append_assoc]⟩
    rw [predicates_of_layout hclauses, predicatesOn, List.all_append, hentity,
      all_filterPredicates (d.columnOn ctx)
        (d.hasOperand_of_mem_filtersOn ctx) hdrop]
    simp only [value_columnOn]
    rfl
  rw [Plan.filteredRows, joins_of_layout hclauses, hentity]
  simp only [hentity] at hall
  cases store.scan ctx.entity with
  | error e => rfl
  | ok rows =>
    simp only [bind, Except.bind, hall]
    cases joinAll store ctx.entity rows (joinClauses ctx.entity [] (d.joinsOn ctx.entity)) <;> rfl

/-- A plan with the clauses and parameters of a query, whose joins are left or inner ones, keeps the
joined rows that the filters accept and that meet the search. -/
theorem filteredRows_of_layout [Hashing] (store : Store) {plan : Plan} {items : List Projection}
    {group : Option (List Column)} {order : List OrderItem} {page : Option Pagination}
    (hclauses : plan.clauses = layout items ctx.entity
      (joinClauses ctx.entity [] (d.joinsOn ctx.entity)) (d.predicatesOn ctx) group order page)
    (hentity : plan.entity = ctx.entity) {rest : List Value}
    (hparams : plan.params = d.paramsOn ctx ++ rest)
    (hright : ∀ join ∈ d.joinsOn ctx.entity, join.joinType.keepsRight = false) :
    plan.filteredRows store =
      (store.scan ctx.entity).bind fun rows =>
        (JoinSpec.extendAll store (d.joinsOn ctx.entity) rows).map
          (·.filter fun row => (d.filtersOn ctx).all (fun filter => filter.accepts row) &&
            d.meetsSearch ctx plan.params row) := by
  rw [d.filteredRows_of_joinAll ctx store hclauses hentity hparams]
  congr 1
  funext rows
  rw [joinAll_joinClauses store List.not_mem_nil (d.entity_not_mem_aliases ctx.entity) hright]

/-- The rows of the data plan before groups and order, with left and inner joins. -/
theorem filteredRows_data [Hashing] (store : Store)
    (hright : ∀ join ∈ d.joinsOn ctx.entity, join.joinType.keepsRight = false) :
    (d.relationalPlans ctx).data.filteredRows store =
      (store.scan ctx.entity).bind fun rows =>
        (JoinSpec.extendAll store (d.joinsOn ctx.entity) rows).map
          (·.filter fun row => (d.filtersOn ctx).all (fun filter => filter.accepts row) &&
            d.meetsSearch ctx (d.relationalPlans ctx).data.params row) :=
  have ⟨_, hparams⟩ := d.exists_params_data ctx
  d.filteredRows_of_layout ctx store (d.clauses_data ctx) rfl hparams hright

/-- The rows that the count plan counts, with left and inner joins. -/
theorem filteredRows_count [Hashing] (store : Store)
    (hright : ∀ join ∈ d.joinsOn ctx.entity, join.joinType.keepsRight = false) :
    (d.relationalPlans ctx).count.filteredRows store =
      (store.scan ctx.entity).bind fun rows =>
        (JoinSpec.extendAll store (d.joinsOn ctx.entity) rows).map
          (·.filter fun row => (d.filtersOn ctx).all (fun filter => filter.accepts row) &&
            d.meetsSearch ctx (d.paramsOn ctx) row) :=
  d.filteredRows_of_layout ctx store (d.clauses_count ctx) rfl (List.append_nil _).symm hright

/-- The predicates of a query name parameters that both plans begin with. -/
theorem lt_of_mem_predicatesOn {predicate : Predicate} (hmem : predicate ∈ d.predicatesOn ctx) :
    ∀ position ∈ predicate.positions, position < (d.paramsOn ctx).length := by
  intro position hposition
  rw [paramsOn, List.length_append]
  rcases List.mem_append.1 hmem with hfilter | hsearch
  · have hlt := lt_of_mem_filterPredicates _ hfilter position hposition
    omega
  · obtain ⟨search, hsome, rfl⟩ := List.mem_map.1 hsearch
    rw [Option.mem_toList] at hsome
    have hlt := lt_of_mem_searchPredicate _ _ _ position hposition
    rw [hsome, Option.toList_some, List.flatMap_singleton, List.length_map]
    exact hlt

/-- Parameters behind those that both plans begin with do not matter to the predicates. -/
theorem holds_paramsOn_append (rest : List Value) {predicate : Predicate}
    (hmem : predicate ∈ d.predicatesOn ctx) (value : Column → Value) :
    predicate.holds (d.paramsOn ctx ++ rest) value = predicate.holds (d.paramsOn ctx) value :=
  Predicate.holds_congr value predicate fun position hposition =>
    List.getElem?_append_left (d.lt_of_mem_predicatesOn ctx hmem position hposition)

/-- Parameters behind those that both plans begin with do not matter to the search. -/
theorem meetsSearch_append (rest : List Value) (row : Record) :
    d.meetsSearch ctx (d.paramsOn ctx ++ rest) row = d.meetsSearch ctx (d.paramsOn ctx) row := by
  rw [meetsSearch, meetsSearch, Bool.eq_iff_iff, List.all_eq_true, List.all_eq_true]
  refine forall_congr' fun predicate => forall_congr' fun hmem => ?_
  rw [d.holds_paramsOn_append ctx rest (List.mem_append_right _ hmem)]

/-- Both plans of a query keep the same rows. -/
theorem filteredRows_count_eq_data [Hashing] (store : Store) :
    (d.relationalPlans ctx).count.filteredRows store =
      (d.relationalPlans ctx).data.filteredRows store := by
  obtain ⟨rest, hrest⟩ := d.exists_params_data ctx
  -- the plans differ in the parameters of their aggregates only, which no predicate names
  have hcount := d.filteredRows_of_joinAll ctx store (d.clauses_count ctx) rfl
    (List.append_nil _).symm
  have hdata := d.filteredRows_of_joinAll ctx store (d.clauses_data ctx) rfl hrest
  have hparams : (d.relationalPlans ctx).count.params = d.paramsOn ctx := rfl
  rw [hcount, hdata, hparams, hrest]
  simp only [meetsSearch_append]

/-- Both languages sort by the same keys. -/
theorem sortKeys_data :
    (d.relationalPlans ctx).data.sortKeys = (d.sortFields ctx).map SortField.key := by
  have hentity : (d.relationalPlans ctx).data.entity = ctx.entity := rfl
  rw [Plan.sortKeys, order_of_layout (d.clauses_data ctx), hentity, Relational.orderOf, sortFields]
  split
  · rw [List.map_map]
    refine List.map_congr_left fun sort _ => ?_
    dsimp only [Function.comp_apply]
    split
    · rfl
    · rw [path_columnOn]
      rfl
  · split
    · rw [List.map_map, List.map_map]
      refine List.map_congr_left fun field _ => ?_
      dsimp only [Function.comp_apply]
      rw [path_columnOn]
      rfl
    -- with nothing to sort by both sides sort by the primary key
    · simp [Column.path, Column.qualified, SortField.key, SortDirection.isDescending]

/-- The groups of either plan are those of the fields that the query groups by. -/
theorem groups_of_layout [Hashing] {plan : Plan} {items : List Projection} {order : List OrderItem}
    {page : Option Pagination}
    (hclauses : plan.clauses = layout items ctx.entity
      (joinClauses ctx.entity [] (d.joinsOn ctx.entity)) (d.predicatesOn ctx) (d.groupOn ctx) order
      page)
    (hentity : plan.entity = ctx.entity) (hgroup : d.hasGrouping) (rows : List Record) :
    plan.groups rows =
      Record.groups (d.groupBy.map fun field row => Record.valueAt row field) rows := by
  rw [Plan.groups, groupColumns_of_layout hclauses, groupOn, if_pos hgroup, Option.getD_some,
    List.map_map, hentity]
  congr 1
  refine List.map_congr_left fun field _ => ?_
  funext row
  exact d.value_columnOn ctx field row

/-- The rows of the data plan of a query that does not group. -/
theorem rows_data_of_not_hasGrouping [Hashing] (store : Store) (hgroup : d.hasGrouping = false) :
    (d.relationalPlans ctx).data.rows store =
      ((d.relationalPlans ctx).data.filteredRows store).map fun rows =>
        (pageOf d.pagination (Record.sort ((d.sortFields ctx).map SortField.key) rows)).map
          fun row => (d.itemsOn ctx).foldl ((d.relationalPlans ctx).data.projectRow row) [] := by
  rw [Plan.rows, isGrouped_of_layout (d.clauses_data ctx), groupOn, hgroup, sortKeys_data,
    projection_of_layout (d.clauses_data ctx)]
  cases (d.relationalPlans ctx).data.filteredRows store with
  | error e => rfl
  | ok rows =>
    simp only [bind, Except.bind, Except.map, page_of_layout (d.clauses_data ctx)]
    rfl

/-- The rows of the data plan of a query that groups. -/
theorem rows_data_of_hasGrouping [Hashing] (store : Store) (hgroup : d.hasGrouping) :
    (d.relationalPlans ctx).data.rows store =
      ((d.relationalPlans ctx).data.filteredRows store).map fun rows =>
        pageOf d.pagination (Record.sort ((d.sortFields ctx).map SortField.key)
          ((d.relationalPlans ctx).data.groupedRows rows)) := by
  rw [Plan.rows, isGrouped_of_layout (d.clauses_data ctx), groupOn, if_pos hgroup, sortKeys_data]
  cases (d.relationalPlans ctx).data.filteredRows store with
  | error e => rfl
  | ok rows =>
    simp only [bind, Except.bind, Except.map, page_of_layout (d.clauses_data ctx)]
    rfl

/-- The total of the count plan of a query. -/
theorem total_count [Hashing] (store : Store) :
    (d.relationalPlans ctx).count.total store =
      ((d.relationalPlans ctx).count.filteredRows store).map fun rows =>
        if d.hasGrouping then
          (Record.groups (d.groupBy.map fun field row => Record.valueAt row field) rows).length
        else rows.length := by
  rw [Plan.total, isGrouped_of_layout (d.clauses_count ctx), groupOn]
  cases (d.relationalPlans ctx).count.filteredRows store with
  | error e => rfl
  | ok rows =>
    simp only [bind, Except.bind, Except.map]
    cases hgroup : d.hasGrouping with
    | false => rfl
    | true =>
      simp only [if_true, Option.isSome_some]
      rw [d.groups_of_layout ctx (d.clauses_count ctx) rfl hgroup]
      rfl

end Descriptor

end DualQuery
