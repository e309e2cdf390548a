import DualQuery.Description
import DualQuery.Document.Writer
import DualQuery.Json.Reader

/-!
# Describing pipelines

`describeJson` reads the JSON form of a pipeline back.
-/

namespace DualQuery

namespace Document

mutual
/-- The fields of a query document in order of appearance. Partition expressions are no filters. -/
def queryFields : Json → List String
  | .obj entries => queryFieldsOfEntries entries
  | _ => []

/-- The fields of the entries of a query document. -/
def queryFieldsOfEntries : List (String × Json) → List String
  | [] => []
  | (key, value) :: rest =>
    let fields :=
      if key = "$and" ∨ key = "$or" then
        match value with
        | .arr items => queryFieldsOfAll items
        | _ => []
      else if key = "$expr" then []
      else [key]
    fields ++ queryFieldsOfEntries rest

/-- The fields of several query documents. -/
def queryFieldsOfAll : List Json → List String
  | [] => []
  | item :: rest => queryFields item ++ queryFieldsOfAll rest
end

/-- Describe a lookup. -/
def describeLookup (body : Json) : Except DescribeError JoinDescription := do
  let field (key : String) : Except DescribeError String :=
    match (body.get? key).bind Json.str? with
    | some text => .ok text
    | none => .error (.malformed ("$lookup is missing '" ++ key ++ "'"))
  let source ← field "from"
  let label ← field "as"
  return ⟨source, label, ← field "localField", ← field "foreignField"⟩

/-- The order that a sort asks for. -/
def describeSort (body : Json) : Except DescribeError (List SortField) :=
  match body with
  | .obj entries => .ok <| entries.map fun (field, direction) =>
    ⟨field, match direction with
      | .num (.int (-1)) => .descending
      | _ => .ascending⟩
  | _ => .error (.malformed "$sort is not an object")

/-- Stages that are left out of descriptions. -/
def plainStages : List String :=
  ["$unwind", "$group", "$project", "$skip", "$limit", "$count", "$facet"]

/-- Add a stage to a description. -/
def describeStage (description : Description) (stage : Json) : Except DescribeError Description :=
  match stage with
  | .obj [(name, body)] =>
    match name with
    | "$match" =>
      .ok { description with
        filterFields := (description.filterFields ++ queryFields body).eraseDups }
    | "$lookup" => do
      return { description with joins := description.joins ++ [← describeLookup body] }
    | "$sort" => do
      return { description with sort := description.sort ++ (← describeSort body) }
    | name =>
      if plainStages.contains name then .ok description
      else .error (.unsupported ("stage " ++ name))
  | stage => .error (.malformed ("bad stage " ++ stage.text))

end Document

open Document in
/-- Describe the JSON form of a pipeline. -/
def describeJson (pipeline : Json) : Except DescribeError Description :=
  match pipeline with
  | .arr stages => stages.foldlM describeStage {}
  | _ => .error (.malformed "pipeline is not an array")

/-- Describe the JSON text of a pipeline. Of repeated keys the last one counts. -/
def describeJsonText? (text : String) : Option (Except DescribeError Description) :=
  (Json.parse? text).map fun pipeline => describeJson pipeline.distinct

/-- Describe a pipeline by its JSON form. -/
def Document.Pipeline.describe (pipeline : Document.Pipeline) : Except DescribeError Description :=
  describeJson pipeline.toJson

end DualQuery
