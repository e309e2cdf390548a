import DualQuery.Document.Pipeline
import DualQuery.Json.Writer
import DualQuery.Value.Json

/-!
# Writing pipelines as JSON

`Pipeline.toJson` is what a document store would be sent. A group is written as two stages: one that
groups, and one that lifts the key out of `_id`.
-/

namespace DualQuery.Document

/-- A reference to a path. -/
def pathRef (path : String) : Json := .str ("$" ++ path)

/-- An object with one entry. -/
def entry (key : String) (value : Json) : Json := .obj [(key, value)]

/-- The expression that a value belongs to a partition. -/
def partitionJson (path : String) (partitions index : Nat) : Json :=
  entry "$eq" <| .arr
    [entry "$mod" <| .arr
      [entry "$abs" (entry "$toHashedIndexKey" (pathRef path)), .ofNat partitions], .ofNat index]

mutual
/-- A condition as a query document. -/
def Match.queryJson : Match → Json
  | .field path op operand =>
    entry path <| match op with
      | .eq => operand.toJson
      | .isNull => .null
      | .isNotNull => entry "$ne" .null
      | op => entry op.documentName operand.toJson
  | .regex path pattern ignoreCase =>
    entry path <| .obj <|
      ("$regex", .str pattern) :: if ignoreCase then [("$options", .str "i")] else []
  | .all conditions => entry "$and" (.arr (Match.queryJsonOfAll conditions))
  | .any conditions => entry "$or" (.arr (Match.queryJsonOfAll conditions))
  | .partition path partitions index => entry "$expr" (partitionJson path partitions index)

/-- Several conditions as query documents. -/
def Match.queryJsonOfAll : List Match → List Json
  | [] => []
  | condition :: rest => condition.queryJson :: Match.queryJsonOfAll rest
end

mutual
/-- A condition as an expression. -/
def Match.exprJson : Match → Json
  | .field path op operand =>
    let pair (operand : Json) : Json := .arr [pathRef path, operand]
    match op with
    | .isNull => entry "$eq" (pair .null)
    | .isNotNull => entry "$ne" (pair .null)
    | .noneOf => entry "$not" (.arr [entry "$in" (pair operand.toJson)])
    | op => entry op.documentName (pair operand.toJson)
  | .regex path pattern ignoreCase =>
    entry "$regexMatch" <| .obj
      [("input", pathRef path), ("regex", .str pattern),
        ("options", .str (if ignoreCase then "i" else ""))]
  | .all conditions => entry "$and" (.arr (Match.exprJsonOfAll conditions))
  | .any conditions => entry "$or" (.arr (Match.exprJsonOfAll conditions))
  | .partition path partitions index => partitionJson path partitions index

/-- Several conditions as expressions. -/
def Match.exprJsonOfAll : List Match → List Json
  | [] => []
  | condition :: rest => condition.exprJson :: Match.exprJsonOfAll rest
end

/-- An aggregate as an accumulator expression. -/
def Accumulator.toJson (a : Accumulator) : Json :=
  let operand : Json := Json.ofOption pathRef a.field
  let onlyWhere (value otherwise : Json) : Json :=
    match a.condition with
    | some condition => entry "$cond" (.arr [condition.exprJson, value, otherwise])
    | none => value
  match a.op with
  | .count =>
    let one : Json := match a.field, a.condition with
      | some field, none =>
        entry "$cond" (.arr [entry "$ne" (.arr [pathRef field, .null]), .ofNat 1, .ofNat 0])
      | _, _ => .ofNat 1
    entry "$sum" (onlyWhere one (.ofNat 0))
  | .sum => entry "$sum" (onlyWhere operand (.ofNat 0))
  | .avg => entry "$avg" (onlyWhere operand .null)
  | .min => entry "$min" (onlyWhere operand .null)
  | .max => entry "$max" (onlyWhere operand .null)
  | .concat => entry "$push" (onlyWhere operand .null)

/-- The name of a field inside `_id`, where dots are not allowed. -/
def idKey (field : String) : String :=
  String.ofList (field.toList.map fun c => if c = '.' then '_' else c)

/-- The value of `_id` by which documents are grouped. -/
def GroupKey.idJson : GroupKey → Json
  | all => .null
  | single field => pathRef field
  | composite fields =>
    .obj (Json.distinctEntries (fields.map fun field => (idKey field, pathRef field)))

/-- The entries that lift a key out of `_id`. -/
def GroupKey.liftEntries : GroupKey → List (String × Json)
  | all => []
  | single field => [(field, .str "$_id")]
  | composite fields => fields.map fun field => (field, .str ("$_id." ++ idKey field))

/-- The two stages of a group. -/
def groupJson (key : GroupKey) (accumulators : List Accumulator) : List Json :=
  let group := ("_id", key.idJson) :: accumulators.map fun a => (a.output, a.toJson)
  let lift := ("_id", Json.ofNat 0) :: key.liftEntries ++
    accumulators.map fun a => (a.output, Json.ofNat 1)
  [entry "$group" (.obj (Json.distinctEntries group)),
    entry "$project" (.obj (Json.distinctEntries lift))]

mutual
/-- A stage as the stages of a document store. -/
def Stage.toJson : Stage → List Json
  | .filter condition => [entry "$match" condition.queryJson]
  | .lookup source localField foreignField label =>
    [entry "$lookup" (.obj [("from", .str source), ("localField", .str localField),
      ("foreignField", .str foreignField), ("as", .str label)])]
  | .unwind path keepsEmpty =>
    [entry "$unwind" (.obj
      [("path", pathRef path), ("preserveNullAndEmptyArrays", .bool keepsEmpty)])]
  | .group key accumulators => groupJson key accumulators
  | .project fields =>
    [entry "$project" (.obj (Json.distinctEntries (fields.map fun field => (field, .ofNat 1))))]
  | .sort fields =>
    [entry "$sort" (.obj (Json.distinctEntries (fields.map fun sort =>
      (sort.field, .ofInt sort.direction.number))))]
  | .skip n => [entry "$skip" (.ofNat n)]
  | .limit n => [entry "$limit" (.ofNat n)]
  | .count field => [entry "$count" (.str field)]
  | .facet data total =>
    [entry "$facet" (.obj [("data", .arr (Stage.toJsonOfAll data)),
      ("total", .arr (Stage.toJsonOfAll total))])]

/-- Several stages as the stages of a document store. -/
def Stage.toJsonOfAll : List Stage → List Json
  | [] => []
  | stage :: rest => stage.toJson ++ Stage.toJsonOfAll rest
end

/-- Stages one after the other are written one after the other. -/
theorem Stage.toJsonOfAll_append (front back : List Stage) :
    toJsonOfAll (front ++ back) = toJsonOfAll front ++ toJsonOfAll back := by
  induction front with
  | nil => rfl
  | cons stage front ih => rw [List.cons_append, toJsonOfAll, toJsonOfAll, ih, List.append_assoc]

/-- A pipeline as JSON. -/
def Pipeline.toJson (pipeline : Pipeline) : Json := .arr (Stage.toJsonOfAll pipeline.stages)

end DualQuery.Document
