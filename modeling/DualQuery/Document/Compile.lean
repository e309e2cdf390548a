import DualQuery.Document.Pipeline
import DualQuery.Query.Context

/-!
# Compiling descriptors to pipelines

All pipelines of a descriptor start with the same stages, which join and filter. Conditions on
joined records stand behind the lookups, all others in front of them. Right and full joins run as
left ones, since a lookup starts from the documents of the entity.
-/

namespace DualQuery

open Document

namespace Document

/-- The field under which a pipeline gives a total. -/
def totalField : String := "total"

/-- One condition that says what several say. -/
def conjunction? : List Match → Option Match
  | [] => none
  | [condition] => some condition
  | conditions => some (.all conditions)

/-- The stage for conditions, if there are any. -/
def filterStage (conditions : List Match) : List Stage :=
  (conjunction? conditions).toList.map .filter

end Document

/-- A filter as a condition on documents. -/
def Filter.toMatch (filter : Filter) : Match :=
  match filter.operator with
  | .like => .regex filter.field (Like.toRegex ((filter.operand.string?).getD "")) false
  | .oneOf | .noneOf => .field filter.field filter.operator (.array filter.items)
  | op => .field filter.field op filter.operand

/-- A search as a condition on documents. -/
def SearchPlan.toMatch (search : SearchPlan) : Match :=
  .any <| search.fieldMatches.map fun m =>
    match m.strategy with
    | .exact => .field m.field .eq (.string search.term)
    | strategy => .regex m.field (strategy.regexPattern search.term) true

/-- The stages of a join. -/
def JoinSpec.stages (join : JoinSpec) : List Stage :=
  [.lookup join.source join.localField join.foreignField join.aliasName,
    .unwind join.aliasName (join.joinType != .inner)]

/-- An aggregate as an accumulator. -/
def AggregationSpec.toAccumulator (spec : AggregationSpec) : Accumulator where
  output := spec.outputName
  op := spec.operation
  field := spec.column?
  condition := Document.conjunction? (spec.filters.map Filter.toMatch)

namespace Descriptor

/-- The stages that join and filter. -/
def filterStages (ctx : QueryContext) (d : Descriptor) : List Stage :=
  let joins := d.joinsOn ctx.entity
  let isJoined := Text.leadsFrom (joins.map (·.aliasName))
  let (after, before) :=
    (mergeConditions ctx.serverConditions d.conditions).partition
      fun filter => isJoined filter.field
  let search := SearchPlan.of? d.search ctx.searchConfig
  let (searchAfter, searchBefore) :=
    search.toList.partition fun plan => plan.fieldMatches.any fun m => isJoined m.field
  filterStage (before.map Filter.toMatch ++ searchBefore.map SearchPlan.toMatch) ++
    joins.flatMap JoinSpec.stages ++
    filterStage (after.map Filter.toMatch ++ searchAfter.map SearchPlan.toMatch)

/-- What documents are grouped by. -/
def groupKey (d : Descriptor) : GroupKey :=
  match d.groupBy with
  | [] => .all
  | [field] => .single field
  | fields => .composite fields

/-- The stage that groups, if there is one. -/
def groupStage (d : Descriptor) : List Stage :=
  if d.hasGrouping then
    [.group d.groupKey
      ((d.aggregations.filter (·.isComputable)).map AggregationSpec.toAccumulator)]
  else []

/-- The fields to sort by: those asked for, else the groups, else the newest documents first. -/
def sortFields (ctx : QueryContext) (d : Descriptor) : List SortField :=
  if !d.sort.isEmpty then d.sort
  else if d.hasGrouping then d.groupBy.map fun field => ⟨field, .ascending⟩
  else [⟨ctx.primaryKey, .descending⟩]

/-- The stages that group, select and sort. Selection comes before sorting unless it drops a field
to sort by. -/
def shapeStages (ctx : QueryContext) (d : Descriptor) : List Stage :=
  let fields := d.sortFields ctx
  let sort : List Stage := if fields.isEmpty then [] else [.sort fields]
  let project : List Stage := if d.select.isEmpty then [] else [.project d.select]
  let dropsSortField := !d.select.isEmpty && fields.any fun sort => !d.select.contains sort.field
  d.groupStage ++ if dropsSortField then sort ++ project else project ++ sort

/-- The pipeline of all documents of the result. -/
def unpagedPipeline (ctx : QueryContext) (d : Descriptor) : Pipeline where
  stages := d.filterStages ctx ++ d.shapeStages ctx
  populate := ctx.populate

/-- The pipeline of the result; with pagination it gives the page and the total. -/
def pipeline (ctx : QueryContext) (d : Descriptor) : Pipeline where
  stages := d.filterStages ctx ++ d.shapeStages ctx ++
    match d.pagination with
    | some pagination =>
      [.facet [.skip pagination.skip, .limit pagination.limit] [.count totalField]]
    | none => []
  populate := ctx.populate

/-- The pipeline of the number of documents of the result. -/
def countPipeline (ctx : QueryContext) (d : Descriptor) : Pipeline where
  stages := d.filterStages ctx ++ d.groupStage ++ [.count totalField]

/-- The pipeline of the number of documents that are grouped or returned. -/
def estimatePipeline (ctx : QueryContext) (d : Descriptor) : Pipeline where
  stages := d.filterStages ctx ++ [.count totalField]

/-- The pipeline of one partition of the result, by the values of a field. -/
def partitionPipeline (ctx : QueryContext) (d : Descriptor) (key : String)
    (partitions index : Nat) : Pipeline where
  stages := d.filterStages ctx ++ [.filter (.partition key partitions index)] ++ d.shapeStages ctx
  populate := ctx.populate

end Descriptor

end DualQuery
