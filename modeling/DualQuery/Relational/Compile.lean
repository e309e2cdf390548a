import DualQuery.Query.Context
import DualQuery.Relational.Plan

/-!
# Compiling descriptors to relational plans

`Descriptor.relationalPlans` makes two plans of a descriptor: one for the rows of the page, and one
with the same joins, filters and groups for the total. Operands become parameters in the order in
which their predicates appear; those of the total are the first ones of the data plan.
-/

namespace DualQuery.Relational

/-! ## Columns and joins -/

/-- The column of a field: a column of a join where the first segment is its alias, else a column of
the entity. -/
def columnOf (entity : String) (aliases : List String) (field : String) : Column :=
  if Text.leadsFrom aliases field then
    let root := Text.root field
    .qualified root (String.ofList (field.toList.drop (root.length + 1)))
  else .qualified entity field

/-- The clauses of joins behind others with given aliases. The left column of a join may belong to a
join in front of it. -/
def joinClauses (entity : String) : List String → List JoinSpec → List JoinClause
  | _, [] => []
  | aliases, spec :: rest =>
    { joinType := spec.joinType
      source := spec.source
      label := spec.aliasName
      left := columnOf entity aliases spec.localField
      right := .qualified spec.aliasName spec.foreignField } ::
        joinClauses entity (aliases ++ [spec.aliasName]) rest

/-! ## Predicates and their parameters -/

/-- The parameters of a filter. -/
def filterParams (filter : Filter) : List Value :=
  match filter.operator with
  | .isNull | .isNotNull => []
  | .oneOf | .noneOf => filter.items
  | _ => [filter.operand]

/-- The predicate of a filter whose parameters start at a position. -/
def filterPredicate (resolve : String → Column) (start : Nat) (filter : Filter) : Predicate :=
  let column := resolve filter.field
  let positions := (List.range (filterParams filter).length).map (start + ·)
  match filter.operator with
  | .oneOf => .inList column positions false
  | .noneOf => .inList column positions true
  | .like => .like column start false
  | .isNull => .isNull column false
  | .isNotNull => .isNull column true
  | op => .compare column op start

/-- The predicates of filters whose parameters start at a position. -/
def filterPredicates (resolve : String → Column) : Nat → List Filter → List Predicate
  | _, [] => []
  | start, filter :: rest =>
    filterPredicate resolve start filter ::
      filterPredicates resolve (start + (filterParams filter).length) rest

/-- The parameter of a field to search. -/
def searchParam (term : String) (m : SearchMatch) : Value :=
  match m.strategy with
  | .exact => .string term
  | strategy => .string (strategy.likePattern term)

/-- The predicate on a field to search. -/
def matchPredicate (resolve : String → Column) (m : SearchMatch) (param : Nat) : Predicate :=
  let column := resolve m.field
  match m.strategy with
  | .exact => .compare column .eq param
  | _ => .like column param true

/-- The predicate of a search whose parameters start at a position. -/
def searchPredicate (resolve : String → Column) (start : Nat) (search : SearchPlan) : Predicate :=
  .any (search.fieldMatches.mapIdx fun i m => matchPredicate resolve m (start + i))

/-- One predicate that says what several say. -/
def conjunction? : List Predicate → Option Predicate
  | [] => none
  | [predicate] => some predicate
  | predicates => some (.all predicates)

/-! ## Results and order -/

/-- The items of aggregates whose parameters start at a position. -/
def aggregateItems (resolve : String → Column) : Nat → List AggregationSpec → List Projection
  | _, [] => []
  | start, spec :: rest =>
    let filters := spec.filters
    .aggregate spec.operation (spec.column?.map resolve) spec.outputName
        (conjunction? (filterPredicates resolve start filters)) ::
      aggregateItems resolve (start + (filters.flatMap filterParams).length) rest

/-- Whether a name is selected; an empty selection takes all. -/
def isSelected (d : Descriptor) (name : String) : Bool :=
  d.select.isEmpty || d.select.contains name

/-- The aggregates that the result shows. -/
def shownAggregates (d : Descriptor) : List AggregationSpec :=
  d.aggregations.filter fun spec => isSelected d spec.outputName && spec.isComputable

/-- The items of the result, with parameters from a position on. -/
def projectionOf (entity : String) (joins : List JoinClause) (resolve : String → Column)
    (start : Nat) (d : Descriptor) : List Projection :=
  if d.hasGrouping then
    ((d.groupBy.filter (isSelected d)).map fun field => .column (resolve field) (some field)) ++
      aggregateItems resolve start (shownAggregates d)
  else if d.select.isEmpty then
    .allColumns entity :: joins.map fun join => .allColumns join.label
  else d.select.map fun field => .column (resolve field) (some field)

/-- The columns to sort by: those asked for, else the groups, else the newest records first. -/
def orderOf (ctx : QueryContext) (resolve : String → Column) (d : Descriptor) : List OrderItem :=
  if !d.sort.isEmpty then
    let outputs := d.aggregations.map (·.outputName)
    d.sort.map fun sort =>
      ⟨if outputs.contains sort.field then .bare sort.field else resolve sort.field,
        sort.direction.isDescending⟩
  else if d.hasGrouping then d.groupBy.map fun field => ⟨resolve field, false⟩
  else [⟨.qualified ctx.entity ctx.primaryKey, true⟩]

/-- The clauses for predicates. -/
def filterClauses : List Predicate → List Clause
  | [] => []
  | predicate :: rest => .filter predicate :: rest.map .alsoFilter

/-- The plans of a query. -/
structure Plans where
  data : Plan
  count : Plan
  search : Option SearchPlan
  deriving Repr, Inhabited

end Relational

open Relational in
/-- Compile a descriptor for a relational backend. -/
def Descriptor.relationalPlans (ctx : QueryContext) (d : Descriptor) : Plans :=
  let entity := ctx.entity
  let joins := joinClauses entity [] (d.joinsOn entity)
  let resolve := columnOf entity (joins.map (·.label))
  let filters := mergeConditions ctx.serverConditions d.conditions
  let search := SearchPlan.of? d.search ctx.searchConfig
  let operands := filters.flatMap filterParams
  let predicates := filterPredicates resolve 0 filters ++
    search.toList.map (searchPredicate resolve operands.length)
  -- the parameters of the search stand behind the operands of the filters
  let params := operands ++
    search.toList.flatMap fun plan => plan.fieldMatches.map (searchParam plan.term)
  let shared := .table entity :: joins.map .join ++ filterClauses predicates ++
    if d.hasGrouping then [.groupBy (d.groupBy.map resolve)] else []
  -- only the data plan evaluates aggregates, so their parameters are left out of the count plan
  let aggregateParams :=
    if d.hasGrouping then
      (shownAggregates d).flatMap fun spec => spec.filters.flatMap filterParams
    else []
  let order := orderOf ctx resolve d
  { data := {
      kind := .data
      entity := entity
      clauses := .select (projectionOf entity joins resolve params.length d) :: shared ++
        (if order.isEmpty then [] else [.orderBy order]) ++
        match d.pagination with
        | some pagination => [.skip pagination.skip, .take pagination.limit]
        | none => []
      params := params ++ aggregateParams
      populate := ctx.populate }
    count := {
      kind := .count
      entity := entity
      clauses := .select [.countAll "total"] :: shared
      params := params }
    search := search }

end DualQuery
