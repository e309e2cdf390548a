import DualQuery.Query.Descriptor
import DualQuery.Value.Json

/-!
# Writing descriptors

The JSON form of a descriptor: all parts in their order of declaration, null for what is absent,
save that a set of operators leaves out the operators it does not have.
-/

namespace DualQuery

/-- The JSON form of a set of operators. -/
def OperatorSet.toJson (set : OperatorSet) : Json :=
  let single (name : String) (operand : Option Json) : List (String × Json) :=
    operand.toList.map fun j => (name, j)
  let values (items : List Value) : Json := .arr (Value.toJsonItems items)
  .obj (single "eq" (set.eq.map Value.toJson) ++ single "ne" (set.ne.map Value.toJson) ++
    single "gt" (set.gt.map Value.toJson) ++ single "gte" (set.ge.map Value.toJson) ++
    single "lt" (set.lt.map Value.toJson) ++ single "lte" (set.le.map Value.toJson) ++
    single "in" (set.oneOf.map values) ++ single "nin" (set.noneOf.map values) ++
    single "like" (set.like.map .str) ++ single "exists" (set.isPresent.map .bool))

/-- The JSON form of a condition. -/
def Condition.toJson : Condition → Json
  | operators set => set.toJson
  | equals value => value.toJson

/-- The JSON form of conditions. -/
def Conditions.toJson (conditions : Conditions) : Json :=
  .obj (conditions.map fun (field, condition) => (field, condition.toJson))

/-- The JSON form of a join type. -/
def JoinType.toJson : JoinType → Json
  | left => .str "LEFT"
  | inner => .str "INNER"
  | right => .str "RIGHT"
  | full => .str "FULL"

/-- The JSON form of a join. -/
def JoinSpec.toJson (join : JoinSpec) : Json :=
  .obj [("source", .str join.source), ("localField", .str join.localField),
    ("foreignField", .str join.foreignField), ("alias", Json.ofOption .str join.label),
    ("joinType", join.joinType.toJson)]

/-- The JSON form of an aggregate function. -/
def AggregateOp.toJson : AggregateOp → Json
  | count => .str "COUNT"
  | sum => .str "SUM"
  | avg => .str "AVG"
  | min => .str "MIN"
  | max => .str "MAX"
  | concat => .str "CONCAT"

/-- The JSON form of an aggregate. -/
def AggregationSpec.toJson (spec : AggregationSpec) : Json :=
  .obj [("operation", spec.operation.toJson), ("field", Json.ofOption .str spec.field),
    ("alias", Json.ofOption .str spec.label),
    ("conditions", Json.ofOption Conditions.toJson spec.conditions)]

/-- The JSON form of a direction. -/
def SortDirection.toJson : SortDirection → Json
  | ascending => .str "ASC"
  | descending => .str "DESC"

/-- The JSON form of the fields to sort by. -/
def SortSpec.toJson (spec : SortSpec) : Json :=
  .obj (spec.map fun sort => (sort.field, sort.direction.toJson))

/-- The JSON form of a page. -/
def Pagination.toJson (p : Pagination) : Json :=
  .obj [("page", .ofNat p.page), ("limit", .ofNat p.limit)]

/-- The JSON form of what to search for. -/
def SearchSpec.toJson (spec : SearchSpec) : Json :=
  .obj [("term", .str spec.term), ("fields", .ofStrings spec.fields)]

/-- The JSON form of the strategies by field. -/
def SearchConfig.toJson (config : SearchConfig) : Json :=
  .obj (config.map fun (field, strategy) => (field, .str strategy.name))

namespace Descriptor

/-- The JSON form of a descriptor. -/
def toJson (d : Descriptor) : Json :=
  .obj [("conditions", Conditions.toJson d.conditions),
    ("joins", .arr (d.joins.map JoinSpec.toJson)),
    ("aggregations", .arr (d.aggregations.map AggregationSpec.toJson)),
    ("groupBy", .ofStrings d.groupBy), ("sort", SortSpec.toJson d.sort),
    ("select", .ofStrings d.select), ("pagination", Json.ofOption Pagination.toJson d.pagination),
    ("search", Json.ofOption SearchSpec.toJson d.search), ("relations", .ofStrings d.relations)]

/-- The text of a descriptor. -/
def text (d : Descriptor) : String := d.toJson.text

end Descriptor

end DualQuery
