import DualQuery.Document.Pipeline
import DualQuery.Query.Reader
import DualQuery.Query.Writer

/-!
# JSON forms of stages

Each stage and condition is an object with one entry, whose name says what it is. Unlike the form
for document stores this one keeps a stage as it is. Operands are read by a function of the
caller's, since there are values that plain JSON cannot write.
-/

namespace DualQuery.Document

/-! ## Writing -/

/-- An object with one entry. -/
def tagged (tag : String) (body : Json) : Json := .obj [(tag, body)]

mutual
/-- The JSON form of a condition. -/
def Match.toForm : Match → Json
  | .field path op operand => tagged "Field" <| .obj
    [("path", .str path), ("op", .str op.name), ("value", operand.toJson)]
  | .regex path pattern ignoreCase => tagged "Regex" <| .obj
    [("path", .str path), ("pattern", .str pattern), ("case_insensitive", .bool ignoreCase)]
  | .all conditions => tagged "And" (.arr (Match.toForms conditions))
  | .any conditions => tagged "Or" (.arr (Match.toForms conditions))
  | .partition path partitions index => tagged "Partition" <| .obj
    [("path", .str path), ("partitions", .ofNat partitions), ("index", .ofNat index)]

/-- The JSON forms of several conditions. -/
def Match.toForms : List Match → List Json
  | [] => []
  | condition :: rest => condition.toForm :: Match.toForms rest
end

/-- The JSON form of a key. -/
def GroupKey.toForm : GroupKey → Json
  | all => .str "All"
  | single field => tagged "Single" (.str field)
  | composite fields => tagged "Composite" (.ofStrings fields)

/-- The JSON form of an aggregate. -/
def Accumulator.toForm (a : Accumulator) : Json :=
  .obj [("output", .str a.output), ("op", a.op.toJson), ("field", Json.ofOption .str a.field),
    ("condition", Json.ofOption Match.toForm a.condition)]

mutual
/-- The JSON form of a stage. -/
def Stage.toForm : Stage → Json
  | .filter condition => tagged "Match" condition.toForm
  | .lookup source localField foreignField label => tagged "Lookup" <| .obj
    [("from", .str source), ("local_field", .str localField), ("foreign_field", .str foreignField),
      ("as_field", .str label)]
  | .unwind path keepsEmpty => tagged "Unwind" <| .obj
    [("path", .str path), ("preserve_null_and_empty", .bool keepsEmpty)]
  | .group key accumulators => tagged "Group" <| .obj
    [("key", key.toForm), ("accumulators", .arr (accumulators.map Accumulator.toForm))]
  | .project fields => tagged "Project" (.ofStrings fields)
  | .sort fields => tagged "Sort" <| .arr <| fields.map fun sort =>
    .arr [.str sort.field, .ofInt sort.direction.number]
  | .skip n => tagged "Skip" (.ofNat n)
  | .limit n => tagged "Limit" (.ofNat n)
  | .count field => tagged "Count" (.str field)
  | .facet data total => tagged "Facet" <| .obj
    [("data", .arr (Stage.toForms data)), ("total", .arr (Stage.toForms total))]

/-- The JSON forms of several stages. -/
def Stage.toForms : List Stage → List Json
  | [] => []
  | stage :: rest => stage.toForm :: Stage.toForms rest
end

/-! ## Reading -/

mutual
/-- Read a condition. -/
def Match.ofForm? (value : Json → Value) : Json → Option Match
  | .obj [("Field", body)] => do
    let slots ← Json.slots? ["path", "op", "value"] body
    return .field (← Json.default? slots "path" "" Json.str?)
      (← Json.required? slots "op" fun op => op.variant?.bind Operator.ofName?)
      (← Json.default? slots "value" .null fun j => some (value j))
  | .obj [("Regex", body)] => do
    let slots ← Json.slots? ["path", "pattern", "case_insensitive"] body
    return .regex (← Json.default? slots "path" "" Json.str?)
      (← Json.default? slots "pattern" "" Json.str?)
      (← Json.default? slots "case_insensitive" false Json.bool?)
  | .obj [("And", .arr items)] => (Match.ofForms? value items).map .all
  | .obj [("Or", .arr items)] => (Match.ofForms? value items).map .any
  | .obj [("Partition", body)] => do
    let slots ← Json.slots? ["path", "partitions", "index"] body
    return .partition (← Json.default? slots "path" "" Json.str?)
      (← Json.default? slots "partitions" 0 Json.nat?) (← Json.default? slots "index" 0 Json.nat?)
  | _ => none

/-- Read several conditions. -/
def Match.ofForms? (value : Json → Value) : List Json → Option (List Match)
  | [] => some []
  | item :: rest => do
    let condition ← Match.ofForm? value item
    return condition :: (← Match.ofForms? value rest)
end

/-- Read a key. -/
def GroupKey.ofForm? : Json → Option GroupKey
  | .str "All" => some .all
  | .obj [("All", .null)] => some .all
  | .obj [("Single", .str field)] => some (.single field)
  | .obj [("Composite", fields)] => (Json.strings? fields).map .composite
  | _ => none

/-- Read an aggregate. -/
def Accumulator.ofForm? (value : Json → Value) (j : Json) : Option Accumulator := do
  let slots ← Json.slots? ["output", "op", "field", "condition"] j
  return {
    output := ← Json.default? slots "output" "" Json.str?
    op := ← Json.required? slots "op" AggregateOp.ofJson?
    field := ← Json.optional? slots "field" Json.str?
    condition := ← Json.optional? slots "condition" (Match.ofForm? value) }

/-- Read a field to sort by; a negative number asks for descending order. -/
def sortFieldOfForm? : Json → Option SortField
  | .arr [.str field, .num (.int direction)] =>
    some ⟨field, if direction < 0 then .descending else .ascending⟩
  | _ => none

mutual
/-- Read a stage. -/
def Stage.ofForm? (value : Json → Value) : Json → Option Stage
  | .obj [("Match", body)] => (Match.ofForm? value body).map .filter
  | .obj [("Lookup", body)] => do
    let slots ← Json.slots? ["from", "local_field", "foreign_field", "as_field"] body
    return .lookup (← Json.default? slots "from" "" Json.str?)
      (← Json.default? slots "local_field" "" Json.str?)
      (← Json.default? slots "foreign_field" "" Json.str?)
      (← Json.default? slots "as_field" "" Json.str?)
  | .obj [("Unwind", body)] => do
    let slots ← Json.slots? ["path", "preserve_null_and_empty"] body
    return .unwind (← Json.default? slots "path" "" Json.str?)
      (← Json.default? slots "preserve_null_and_empty" false Json.bool?)
  | .obj [("Group", body)] => do
    let slots ← Json.slots? ["key", "accumulators"] body
    return .group (← Json.required? slots "key" GroupKey.ofForm?)
      (← Json.default? slots "accumulators" [] (Json.listOf? (Accumulator.ofForm? value)))
  | .obj [("Project", fields)] => (Json.strings? fields).map .project
  | .obj [("Sort", fields)] => (Json.listOf? sortFieldOfForm? fields).map .sort
  | .obj [("Skip", n)] => n.nat?.map .skip
  | .obj [("Limit", n)] => n.nat?.map .limit
  | .obj [("Count", .str field)] => some (.count field)
  | .obj [("Facet", .obj [("data", .arr data), ("total", .arr total)])]
  | .obj [("Facet", .obj [("total", .arr total), ("data", .arr data)])] => do
    let data ← Stage.ofForms? value data
    return .facet data (← Stage.ofForms? value total)
  | _ => none

/-- Read several stages. -/
def Stage.ofForms? (value : Json → Value) : List Json → Option (List Stage)
  | [] => some []
  | item :: rest => do
    let stage ← Stage.ofForm? value item
    return stage :: (← Stage.ofForms? value rest)
end

end DualQuery.Document
