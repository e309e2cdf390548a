import DualQuery.Json.Reader
import DualQuery.Json.Slots
import DualQuery.Query.Descriptor
import DualQuery.Value.Json

/-!
# Reading descriptors

`Descriptor.parse` reads the JSON text of a descriptor and validates it. A condition is read as a
set of operators where it has the shape of one, else as a bare value. What stands under names that a
structure does not have is passed over. Of repeated conditions on a
field the last one counts, a repeated part of a structure is refused, and a repeated field to sort
by keeps its first place.
-/

namespace DualQuery

/-- The names of the operators of a condition, in their order of declaration. -/
def OperatorSet.names : List String :=
  ["eq", "ne", "gt", "gte", "lt", "lte", "in", "nin", "like", "exists"]

/-- Read a set of operators. -/
def OperatorSet.ofJson? (j : Json) : Option OperatorSet := do
  let slots ← Json.strictSlots? names j
  let value (name : String) := Json.optional? slots name fun j => some (Value.ofJson j)
  let values (name : String) :=
    Json.optional? slots name (Json.listOf? fun j => some (Value.ofJson j))
  return {
    eq := ← value "eq"
    ne := ← value "ne"
    gt := ← value "gt"
    ge := ← value "gte"
    lt := ← value "lt"
    le := ← value "lte"
    oneOf := ← values "in"
    noneOf := ← values "nin"
    like := ← Json.optional? slots "like" Json.str?
    isPresent := ← Json.optional? slots "exists" Json.bool? }

/-- Read a condition, every part of which must have a value. -/
def Condition.ofJson? (j : Json) : Option Condition :=
  if j.isReadable then
    match OperatorSet.ofJson? j with
    | some set => some (.operators set)
    | none => some (.equals (.ofJson j))
  else none

/-- Read conditions. -/
def Conditions.ofJson? : Json → Option Conditions
  | .obj entries => do
    let conditions ← entries.mapM fun entry =>
      (Condition.ofJson? entry.2).map fun condition => (entry.1, condition)
    return Keyed.ofList conditions
  | _ => none

/-- Read a join type. -/
def JoinType.ofJson? (j : Json) : Option JoinType := do
  match ← j.variant? with
  | "LEFT" | "left" => some .left
  | "INNER" | "inner" => some .inner
  | "RIGHT" | "right" => some .right
  | "FULL" | "full" => some .full
  | _ => none

/-- Read a join. -/
def JoinSpec.ofJson? (j : Json) : Option JoinSpec := do
  let slots ← Json.slots? ["source", "localField", "foreignField", "alias", "joinType"] j
  return {
    source := ← Json.orElse? slots "source" "" Json.str?
    localField := ← Json.orElse? slots "localField" "" Json.str?
    foreignField := ← Json.orElse? slots "foreignField" "" Json.str?
    label := ← Json.optional? slots "alias" Json.str?
    joinType := ← Json.orElse? slots "joinType" .left JoinType.ofJson? }

/-- Read an aggregate function. -/
def AggregateOp.ofJson? (j : Json) : Option AggregateOp := do
  match ← j.variant? with
  | "COUNT" => some .count
  | "SUM" => some .sum
  | "AVG" => some .avg
  | "MIN" => some .min
  | "MAX" => some .max
  | "CONCAT" => some .concat
  | _ => none

/-- Read an aggregate. -/
def AggregationSpec.ofJson? (j : Json) : Option AggregationSpec := do
  let slots ← Json.slots? ["operation", "field", "alias", "conditions"] j
  return {
    operation := ← Json.required? slots "operation" AggregateOp.ofJson?
    field := ← Json.optional? slots "field" Json.str?
    label := ← Json.optional? slots "alias" Json.str?
    conditions := ← Json.optional? slots "conditions" Conditions.ofJson? }

/-- Read a direction. -/
def SortDirection.ofJson? (j : Json) : Option SortDirection := do
  match ← j.variant? with
  | "ASC" | "asc" => some .ascending
  | "DESC" | "desc" => some .descending
  | _ => none

/-- Read the fields to sort by, in the order of the text. -/
def SortSpec.ofJson? : Json → Option SortSpec
  | .obj entries =>
    entries.foldlM
      (fun spec (field, j) => (SortDirection.ofJson? j).map (SortSpec.push spec field)) []
  | _ => none

/-- Read a page. -/
def Pagination.ofJson? (j : Json) : Option Pagination := do
  let slots ← Json.slots? ["page", "limit"] j
  return {
    page := ← Json.required? slots "page" Json.nat?
    limit := ← Json.required? slots "limit" Json.nat? }

/-- Read what to search for. -/
def SearchSpec.ofJson? (j : Json) : Option SearchSpec := do
  let slots ← Json.slots? ["term", "fields"] j
  return {
    term := ← Json.orElse? slots "term" "" Json.str?
    fields := ← Json.orElse? slots "fields" [] Json.strings? }

/-- Read the strategies by field. -/
def SearchConfig.ofJson? : Json → Option SearchConfig
  | .obj entries => do
    let strategies ← entries.mapM fun (field, j) => do
      let name ← j.variant?
      return (field, ← MatchStrategy.ofName? name)
    return Keyed.ofList strategies
  | _ => none

namespace Descriptor

/-- The names of the parts of a descriptor, in their order of declaration. -/
def names : List String :=
  ["conditions", "joins", "aggregations", "groupBy", "sort", "select", "pagination", "search",
    "relations"]

/-- Read a descriptor. -/
def ofJson? (j : Json) : Option Descriptor := do
  let slots ← Json.slots? names j
  return {
    conditions := ← Json.orElse? slots "conditions" [] Conditions.ofJson?
    joins := ← Json.orElse? slots "joins" [] (Json.listOf? JoinSpec.ofJson?)
    aggregations := ← Json.orElse? slots "aggregations" [] (Json.listOf? AggregationSpec.ofJson?)
    groupBy := ← Json.orElse? slots "groupBy" [] Json.strings?
    sort := ← Json.orElse? slots "sort" [] SortSpec.ofJson?
    select := ← Json.orElse? slots "select" [] Json.strings?
    pagination := ← Json.optional? slots "pagination" Pagination.ofJson?
    search := ← Json.optional? slots "search" SearchSpec.ofJson?
    relations := ← Json.orElse? slots "relations" [] Json.strings? }

/-- Read the text of a descriptor without validating it. -/
def read? (text : String) : Option Descriptor := (Json.outline? text).bind ofJson?

/-- Read the text of a descriptor and validate it. -/
def parse (text : String) : Except DescriptorError Descriptor := do
  match read? text with
  | some d =>
    d.validate
    return d
  | none => .error .malformed

end Descriptor

end DualQuery
