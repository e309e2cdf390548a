import DualQuery.Proofs.CompiledPlans
import DualQuery.Relational.Text

/-!
# SQL texts without literals

The skeleton of a query is the query with every literal blanked out: the operands of conditions and
the search term. Operators, the lengths of lists and the case of a bare value stay, and so does the
operand of `isPresent`, which chooses between two operators.

Queries with one skeleton are compiled to the same clauses, since a clause names an operand by its
position and positions depend on the number of operands only. So their SQL is the same text. The
positions are those of parameters that are there, in the plan of the total as well, whose parameters
are the first ones of the plan of the rows.

## Key results

- `Descriptor.shapes_filtersOn`: a skeleton has the filters of the query but for their operands
- `Descriptor.clauses_data_skeleton`, `Descriptor.clauses_count_skeleton`: it has the same clauses
- `Descriptor.hasItsParams_data`, `Descriptor.hasItsParams_count`: no position is beyond the
  parameters
- `Descriptor.sql_free_of_literals`: queries with one skeleton have one text
-/

namespace DualQuery

open Relational

/-! ## Skeletons -/

/-- A set of operators without operands. -/
def OperatorSet.skeleton (set : OperatorSet) : OperatorSet where
  eq := set.eq.map fun _ => .null
  ne := set.ne.map fun _ => .null
  gt := set.gt.map fun _ => .null
  ge := set.ge.map fun _ => .null
  lt := set.lt.map fun _ => .null
  le := set.le.map fun _ => .null
  oneOf := set.oneOf.map fun items => items.map fun _ => .null
  noneOf := set.noneOf.map fun items => items.map fun _ => .null
  like := set.like.map fun _ => ""
  isPresent := set.isPresent

/-- A condition without operands. A bare value keeps its case: null, an array of some length, or
anything else. -/
def Condition.skeleton : Condition → Condition
  | operators set => operators set.skeleton
  | equals .null => equals .null
  | equals (.array items) => equals (.array (items.map fun _ => .null))
  | equals _ => equals (.bool true)

/-- Conditions without operands. -/
def Conditions.skeleton (conditions : Conditions) : Conditions :=
  conditions.map fun (field, condition) => (field, condition.skeleton)

/-- An aggregate without the operands of its conditions. -/
def AggregationSpec.skeleton (spec : AggregationSpec) : AggregationSpec :=
  { spec with conditions := spec.conditions.map Conditions.skeleton }

/-- A search without its term; that the term is blank stays. -/
def SearchSpec.skeleton (spec : SearchSpec) : SearchSpec :=
  { spec with term := if (Text.trim spec.term).isEmpty then "" else "?" }

/-- A query without its literals. -/
def Descriptor.skeleton (d : Descriptor) : Descriptor :=
  { d with
    conditions := Conditions.skeleton d.conditions
    aggregations := d.aggregations.map AggregationSpec.skeleton
    search := d.search.map SearchSpec.skeleton }

/-- A context without the literals of the server's conditions. -/
def QueryContext.skeleton (ctx : QueryContext) : QueryContext :=
  { ctx with serverConditions := Conditions.skeleton ctx.serverConditions }

/-! ## Filters -/

/-- What a clause says of a filter: its field, its operator and the number of its parameters. -/
def Filter.shape (filter : Filter) : String × Operator × Nat :=
  (filter.field, filter.operator, (filterParams filter).length)

/-- A set of operators without operands has filters of the same shapes. -/
theorem OperatorSet.shapes_filters (field : String) (set : OperatorSet) :
    (set.skeleton.filters field).map Filter.shape = (set.filters field).map Filter.shape := by
  simp [OperatorSet.filters, OperatorSet.skeleton, Filter.shape, filterParams, Filter.items,
    Option.toList_map, Function.comp_def]

/-- So has a condition. -/
theorem Condition.shapes_filters (field : String) (condition : Condition) :
    (condition.skeleton.filters field).map Filter.shape =
      (condition.filters field).map Filter.shape := by
  cases condition with
  | operators set => exact set.shapes_filters field
  | equals value =>
    cases value <;>
      simp [Condition.skeleton, Condition.filters, Filter.shape, filterParams, Filter.items]

/-- So have the conditions of several fields. -/
theorem Conditions.shapes_filters (conditions : Conditions) :
    (Conditions.filters conditions.skeleton).map Filter.shape =
      (Conditions.filters conditions).map Filter.shape := by
  induction conditions with
  | nil => rfl
  | cons entry conditions ih =>
    simp only [Conditions.filters, Conditions.skeleton, List.map_cons, List.flatMap_cons,
      List.map_append, Condition.shapes_filters] at ih ⊢
    rw [ih]

/-- The skeleton constrains the same fields. -/
theorem Conditions.contains_skeleton (conditions : Conditions) (field : String) :
    Keyed.contains conditions.skeleton field = Keyed.contains conditions field := by
  induction conditions with
  | nil => rfl
  | cons entry conditions ih =>
    simp only [Keyed.contains, Conditions.skeleton, List.map_cons, Keyed.get?] at ih ⊢
    split
    · rfl
    · exact ih

/-- The merged conditions of skeletons have filters of the same shapes. -/
theorem shapes_mergeConditions (server caller : Conditions) :
    (mergeConditions server.skeleton caller.skeleton).map Filter.shape =
      (mergeConditions server caller).map Filter.shape := by
  -- the same fields of the caller are dropped, since the server constrains the same ones
  have hcaller : (caller.skeleton.filter fun (field, _) =>
        !Keyed.contains server.skeleton field) =
      Conditions.skeleton (caller.filter fun (field, _) => !Keyed.contains server field) := by
    simp only [Conditions.contains_skeleton]
    exact List.filter_map
  rw [mergeConditions, mergeConditions, hcaller, List.map_append, List.map_append,
    Conditions.shapes_filters, Conditions.shapes_filters]

namespace Relational

/-! ## Clauses -/

/-- The predicate of a filter knows nothing of it but its shape. -/
theorem filterPredicate_congr (resolve : String → Column) (start : Nat) {a b : Filter}
    (h : a.shape = b.shape) :
    filterPredicate resolve start a = filterPredicate resolve start b := by
  simp only [Filter.shape, Prod.mk.injEq] at h
  obtain ⟨hfield, hoperator, hlength⟩ := h
  simp only [filterPredicate, hfield, hoperator, hlength]

/-- Filters of the same shapes have equally many parameters. -/
theorem length_params_congr {as bs : List Filter}
    (h : as.map Filter.shape = bs.map Filter.shape) :
    (as.flatMap filterParams).length = (bs.flatMap filterParams).length := by
  have hlengths := congrArg (List.map fun shape => shape.2.2) h
  simp only [List.map_map] at hlengths
  rw [List.length_flatMap, List.length_flatMap]
  exact congrArg List.sum hlengths

/-- Filters of the same shapes make the same predicates. -/
theorem filterPredicates_congr (resolve : String → Column) (start : Nat) {as bs : List Filter}
    (h : as.map Filter.shape = bs.map Filter.shape) :
    filterPredicates resolve start as = filterPredicates resolve start bs := by
  induction as generalizing bs start with
  | nil =>
    cases bs with
    | nil => rfl
    | cons b bs => cases h
  | cons a as ih =>
    cases bs with
    | nil => cases h
    | cons b bs =>
      rw [List.map_cons, List.map_cons, List.cons.injEq] at h
      -- the rest starts at the same position, since the first ones take equally many
      have hlength : (filterParams a).length = (filterParams b).length :=
        congrArg (fun shape => shape.2.2) h.1
      rw [filterPredicates, filterPredicates, filterPredicate_congr resolve start h.1, hlength,
        ih _ h.2]

/-! ## Texts -/

/-- The text of a plan is made of its clauses. -/
theorem Plan.sql_congr {a b : Plan} (hkind : a.kind = b.kind) (hentity : a.entity = b.entity)
    (hclauses : a.clauses = b.clauses) : a.sql = b.sql := by
  cases a
  cases b
  cases hkind
  cases hentity
  cases hclauses
  -- parameters and populated relations are not read
  rfl

end Relational

namespace Descriptor

variable (ctx ctx' : QueryContext) (d d' : Descriptor)

/-! ## Clauses of a skeleton -/

/-- The skeleton of a query has filters of the same shapes. -/
theorem shapes_filtersOn :
    (d.skeleton.filtersOn ctx.skeleton).map Filter.shape = (d.filtersOn ctx).map Filter.shape :=
  shapes_mergeConditions ctx.serverConditions d.conditions

/-- A term is searched for in the same fields, in the same ways, whatever it is. -/
theorem matches_skeleton (config : SearchConfig) :
    (SearchPlan.of? d.skeleton.search config).map (·.fieldMatches) =
      (SearchPlan.of? d.search config).map (·.fieldMatches) := by
  have hmark : (Text.trim "?").isEmpty = false := by decide
  have hblank : (Text.trim "").isEmpty = true := by decide
  simp only [skeleton]
  cases d.search with
  | none => rfl
  | some spec =>
    simp only [Option.map_some, SearchSpec.skeleton, SearchPlan.of?, bind, Option.bind_some]
    -- the mark that stands for a term is no more blank than the term
    cases hterm : (Text.trim spec.term).isEmpty with
    | true => simp [hblank]
    | false =>
      simp only [Bool.false_eq_true, if_false, hmark, Bool.false_or]
      generalize (if spec.fields.isEmpty then Keyed.keys config else spec.fields) = fields
      cases fields <;> rfl

/-- Its filters have equally many parameters. -/
theorem length_params_filtersOn_skeleton :
    ((d.skeleton.filtersOn ctx.skeleton).flatMap filterParams).length =
      ((d.filtersOn ctx).flatMap filterParams).length :=
  length_params_congr (d.shapes_filtersOn ctx)

/-- The parameters of both plans are as many. -/
theorem length_paramsOn_skeleton :
    (d.skeleton.paramsOn ctx.skeleton).length = (d.paramsOn ctx).length := by
  have hsearch : ∀ search : Option SearchPlan,
      (search.toList.flatMap fun plan => plan.fieldMatches.map (searchParam plan.term)).length =
        ((search.map (·.fieldMatches)).getD []).length := by
    intro search
    cases search <;> simp
  have hconfig : ctx.skeleton.searchConfig = ctx.searchConfig := rfl
  rw [paramsOn, paramsOn, List.length_append, List.length_append, hsearch, hsearch, hconfig,
    d.matches_skeleton, d.length_params_filtersOn_skeleton]

/-- A skeleton finds fields in the same columns. -/
theorem columnOn_skeleton : d.skeleton.columnOn ctx.skeleton = d.columnOn ctx := rfl

/-- A skeleton has the predicates of the query. -/
theorem predicatesOn_skeleton : d.skeleton.predicatesOn ctx.skeleton = d.predicatesOn ctx := by
  -- the predicate of a search does not show its term
  have hsearch : ∀ (start : Nat) (search : Option SearchPlan),
      search.toList.map (searchPredicate (d.columnOn ctx) start) =
        (search.map (·.fieldMatches)).toList.map fun fieldMatches =>
          searchPredicate (d.columnOn ctx) start ⟨"", fieldMatches⟩ := by
    intro start search
    cases search <;> rfl
  have hconfig : ctx.skeleton.searchConfig = ctx.searchConfig := rfl
  rw [predicatesOn, predicatesOn, columnOn_skeleton, hsearch, hsearch, hconfig, d.matches_skeleton,
    d.length_params_filtersOn_skeleton, filterPredicates_congr _ _ (d.shapes_filtersOn ctx)]

end Descriptor

namespace AggregationSpec

/-- The conditions of an aggregate without their operands have filters of the same shapes. -/
theorem shapes_filters (spec : AggregationSpec) :
    spec.skeleton.filters.map Filter.shape = spec.filters.map Filter.shape := by
  simp only [filters, skeleton]
  cases spec.conditions with
  | none => rfl
  | some conditions => exact Conditions.shapes_filters conditions

/-- Aggregates are the same items whatever the operands of their conditions. -/
theorem aggregateItems_skeleton (resolve : String → Column) (start : Nat)
    (specs : List AggregationSpec) :
    aggregateItems resolve start (specs.map skeleton) = aggregateItems resolve start specs := by
  induction specs generalizing start with
  | nil => rfl
  | cons spec specs ih =>
    have hlength := length_params_congr spec.shapes_filters
    have hpredicates := filterPredicates_congr resolve start spec.shapes_filters
    rw [List.map_cons, aggregateItems, aggregateItems, hlength, hpredicates, ih]
    rfl

end AggregationSpec

namespace Descriptor

variable (ctx ctx' : QueryContext) (d d' : Descriptor)

/-- A skeleton groups where the query does. -/
theorem hasGrouping_skeleton : d.skeleton.hasGrouping = d.hasGrouping := by
  simp [hasGrouping, skeleton]

/-- A skeleton shows the skeletons of the aggregates that are shown. -/
theorem shownAggregates_skeleton :
    shownAggregates d.skeleton = (shownAggregates d).map AggregationSpec.skeleton := by
  rw [shownAggregates, shownAggregates]
  exact List.filter_map

/-- A skeleton selects the same items. -/
theorem itemsOn_skeleton : d.skeleton.itemsOn ctx.skeleton = d.itemsOn ctx := by
  rw [itemsOn, itemsOn, projectionOf, projectionOf, d.hasGrouping_skeleton,
    d.shownAggregates_skeleton, AggregationSpec.aggregateItems_skeleton,
    d.length_paramsOn_skeleton]
  rfl

/-- A skeleton groups by the same columns. -/
theorem groupOn_skeleton : d.skeleton.groupOn ctx.skeleton = d.groupOn ctx := by
  rw [groupOn, groupOn, d.hasGrouping_skeleton]
  rfl

/-- A skeleton is ordered by the same columns. -/
theorem orderOf_skeleton :
    orderOf ctx.skeleton (d.skeleton.columnOn ctx.skeleton) d.skeleton =
      orderOf ctx (d.columnOn ctx) d := by
  have houtputs : d.skeleton.aggregations.map (·.outputName) =
      d.aggregations.map (·.outputName) := by
    rw [skeleton, List.map_map]
    rfl
  rw [Relational.orderOf, Relational.orderOf, d.hasGrouping_skeleton, houtputs]
  rfl

/-- A skeleton is compiled to the clauses of the query. -/
theorem clauses_data_skeleton :
    (d.skeleton.relationalPlans ctx.skeleton).data.clauses =
      (d.relationalPlans ctx).data.clauses := by
  rw [clauses_data, clauses_data, itemsOn_skeleton, predicatesOn_skeleton, groupOn_skeleton,
    orderOf_skeleton]
  rfl

/-- So is the plan of the total. -/
theorem clauses_count_skeleton :
    (d.skeleton.relationalPlans ctx.skeleton).count.clauses =
      (d.relationalPlans ctx).count.clauses := by
  rw [clauses_count, clauses_count, predicatesOn_skeleton, groupOn_skeleton]
  rfl

/-- The texts of a query are those of its skeleton. -/
theorem sql_skeleton :
    (d.skeleton.relationalPlans ctx.skeleton).data.sql = (d.relationalPlans ctx).data.sql ∧
      (d.skeleton.relationalPlans ctx.skeleton).count.sql = (d.relationalPlans ctx).count.sql :=
  ⟨Plan.sql_congr rfl rfl (d.clauses_data_skeleton ctx),
    Plan.sql_congr rfl rfl (d.clauses_count_skeleton ctx)⟩

/-! ## Parameters -/

/-- The items of the result name parameters behind those that both plans begin with. -/
theorem lt_of_mem_itemsOn {item : Projection} (hmem : item ∈ d.itemsOn ctx) :
    ∀ position ∈ item.positions, position < (d.relationalPlans ctx).data.params.length := by
  intro position hposition
  have hparams : (d.relationalPlans ctx).data.params = d.paramsOn ctx ++
      if d.hasGrouping then
        (shownAggregates d).flatMap fun spec => spec.filters.flatMap filterParams
      else [] := rfl
  rw [hparams, List.length_append]
  rw [itemsOn, projectionOf] at hmem
  cases hgroup : d.hasGrouping with
  | true =>
    rw [hgroup, if_pos rfl] at hmem
    -- a column names no parameter, an aggregate those of its own conditions
    rcases List.mem_append.1 hmem with hcolumn | haggregate
    · obtain ⟨field, -, rfl⟩ := List.mem_map.1 hcolumn
      cases hposition
    · exact lt_of_mem_aggregateItems _ haggregate position hposition
  | false =>
    -- without groups there is no aggregate, so no item names a parameter
    rw [hgroup, if_neg Bool.false_ne_true] at hmem
    split at hmem
    · rcases List.mem_cons.1 hmem with rfl | hmem
      · cases hposition
      · obtain ⟨join, -, rfl⟩ := List.mem_map.1 hmem
        cases hposition
    · obtain ⟨field, -, rfl⟩ := List.mem_map.1 hmem
      cases hposition

end Descriptor

namespace Relational

/-- A laid out plan has its parameters if its items and its predicates find theirs. -/
theorem Plan.hasItsParams_of_layout {plan : Plan} {items : List Projection} {entity : String}
    {joins : List JoinClause} {predicates : List Predicate} {group : Option (List Column)}
    {order : List OrderItem} {page : Option Pagination}
    (h : plan.clauses = layout items entity joins predicates group order page)
    (hitems : ∀ item ∈ items, ∀ position ∈ item.positions, position < plan.params.length)
    (hpredicates : ∀ predicate ∈ predicates, ∀ position ∈ predicate.positions,
      position < plan.params.length) : plan.HasItsParams := by
  intro clause hclause position hposition
  rw [h] at hclause
  simp only [layout, List.cons_append, List.mem_cons, List.mem_append] at hclause
  -- only the items and the predicates name parameters
  rcases hclause with rfl | rfl | (((hjoin | hfilter) | hgroup) | horder) | hpage
  · obtain ⟨item, hitem, hposition⟩ := List.mem_flatMap.1 hposition
    exact hitems item hitem position hposition
  · cases hposition
  · obtain ⟨join, -, rfl⟩ := List.mem_map.1 hjoin
    cases hposition
  · -- the first predicate follows WHERE and the others an AND
    cases predicates with
    | nil => cases hfilter
    | cons predicate rest =>
      rcases List.mem_cons.1 hfilter with rfl | hrest
      · exact hpredicates predicate List.mem_cons_self position hposition
      · obtain ⟨other, hother, rfl⟩ := List.mem_map.1 hrest
        exact hpredicates other (List.mem_cons_of_mem _ hother) position hposition
  · obtain ⟨columns, -, rfl⟩ := List.mem_map.1 hgroup
    cases hposition
  · split at horder
    · cases horder
    · rw [List.mem_singleton.1 horder] at hposition
      cases hposition
  · cases page with
    | none => cases hpage
    | some p =>
      rcases List.mem_cons.1 hpage with rfl | hpage
      · cases hposition
      · rw [List.mem_singleton.1 hpage] at hposition
        cases hposition

end Relational

namespace Descriptor

variable (ctx ctx' : QueryContext) (d d' : Descriptor)

/-- The plan of the rows has all the parameters that its text names. -/
theorem hasItsParams_data : (d.relationalPlans ctx).data.HasItsParams := by
  refine Plan.hasItsParams_of_layout (d.clauses_data ctx) (fun item hitem => ?_)
    fun predicate hpredicate position hposition => ?_
  · exact d.lt_of_mem_itemsOn ctx hitem
  · obtain ⟨rest, hrest⟩ := d.exists_params_data ctx
    have hlt := d.lt_of_mem_predicatesOn ctx hpredicate position hposition
    rw [hrest, List.length_append]
    omega

/-- The plan of the total has all the parameters that its text names, although it has fewer. -/
theorem hasItsParams_count : (d.relationalPlans ctx).count.HasItsParams := by
  refine Plan.hasItsParams_of_layout (d.clauses_count ctx) (fun item hitem => ?_)
    fun predicate hpredicate => d.lt_of_mem_predicatesOn ctx hpredicate
  rw [List.mem_singleton.1 hitem]
  intro position hposition
  cases hposition

/-- The predicates of the total hold of the same rows under the parameters of either plan. -/
theorem holds_count_eq_data {predicate : Predicate}
    (hmem : predicate ∈ (d.relationalPlans ctx).count.predicates) (value : Column → Value) :
    predicate.holds (d.relationalPlans ctx).count.params value =
      predicate.holds (d.relationalPlans ctx).data.params value := by
  rw [predicates_of_layout (d.clauses_count ctx)] at hmem
  obtain ⟨rest, hrest⟩ := d.exists_params_data ctx
  have hcount : (d.relationalPlans ctx).count.params = d.paramsOn ctx := rfl
  rw [hrest, hcount, d.holds_paramsOn_append ctx rest hmem]

/-! ## Texts without literals -/

/-- Two queries that differ only in the literals of their conditions, other than the operands of
`isPresent`, and in the term that they search for are compiled to the same two texts. Every clause
of every compiled plan names parameters that are there, and the predicates of the total hold of the
same rows under the parameters of the rows. -/
theorem sql_free_of_literals (hctx : ctx.skeleton = ctx'.skeleton) (hd : d.skeleton = d'.skeleton) :
    (d.relationalPlans ctx).data.sql = (d'.relationalPlans ctx').data.sql ∧
      (d.relationalPlans ctx).count.sql = (d'.relationalPlans ctx').count.sql ∧
      (d.relationalPlans ctx).data.HasItsParams ∧ (d.relationalPlans ctx).count.HasItsParams ∧
      ∀ predicate ∈ (d.relationalPlans ctx).count.predicates, ∀ value : Column → Value,
        predicate.holds (d.relationalPlans ctx).count.params value =
          predicate.holds (d.relationalPlans ctx).data.params value := by
  obtain ⟨hdata, hcount⟩ := d.sql_skeleton ctx
  obtain ⟨hdata', hcount'⟩ := d'.sql_skeleton ctx'
  rw [hctx, hd] at hdata hcount
  exact ⟨hdata.symm.trans hdata', hcount.symm.trans hcount', d.hasItsParams_data ctx,
    d.hasItsParams_count ctx, fun _ => d.holds_count_eq_data ctx⟩

/-- The cities of users of a role and an age, whose names hold a term. -/
def cityQuery (role : String) (age : Int64) (term : String) : Descriptor where
  conditions := [("age", .operators { ge := some (.int age), oneOf := some [.int age, .null] }),
    ("role", .equals (.string role))]
  aggregations := [{ operation := .count, conditions := some [("role", .equals (.string role))] }]
  groupBy := ["city"]
  search := some { term := term, fields := ["name"] }

/-- Two queries of the same form, one with a piece of SQL for a role: their texts are the same. -/
theorem sql_free_of_literals_cities :
    ((cityQuery "admin" 18 "ann").relationalPlans { entity := "users" }).data.sql =
        ((cityQuery "' OR 1 = 1 --" 65 "$1").relationalPlans { entity := "users" }).data.sql ∧
      ((cityQuery "admin" 18 "ann").relationalPlans { entity := "users" }).data.HasItsParams := by
  obtain ⟨hdata, -, hparams, -⟩ := sql_free_of_literals { entity := "users" } { entity := "users" }
    (cityQuery "admin" 18 "ann") (cityQuery "' OR 1 = 1 --" 65 "$1") rfl rfl
  exact ⟨hdata, hparams⟩

/-- Users with a value in a field, or without one. -/
def presenceQuery (present : Bool) : Descriptor where
  conditions := [("email", .operators { isPresent := some present })]

/-- The operand of `isPresent` is no parameter: it shows in both texts. -/
theorem presence_shows_in_sql :
    ((presenceQuery true).relationalPlans { entity := "users" }).count.sql =
        "SELECT COUNT(*) AS \"total\" FROM \"users\" WHERE \"users\".\"email\" IS NOT NULL" ∧
      ((presenceQuery false).relationalPlans { entity := "users" }).count.sql =
        "SELECT COUNT(*) AS \"total\" FROM \"users\" WHERE \"users\".\"email\" IS NULL" ∧
      ((presenceQuery true).relationalPlans { entity := "users" }).data.sql ≠
        ((presenceQuery false).relationalPlans { entity := "users" }).data.sql := by
  decide +kernel

end Descriptor

end DualQuery
