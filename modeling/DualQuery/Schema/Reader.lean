import DualQuery.Json.Slots
import DualQuery.Schema.Entity

/-!
# Schemas as JSON

A kind of field is written as an object whose one key names the kind.
-/

namespace DualQuery

/-- The name of a data type in JSON. -/
def DataType.jsonName : DataType → String
  | bool => "Bool"
  | int64 => "Int64"
  | float64 => "Float64"
  | string => "String"
  | timestamp => "Timestamp"
  | json => "Json"

/-- Read a data type. -/
def DataType.ofJson? (j : Json) : Option DataType := do
  let name ← j.variant?
  [DataType.bool, .int64, .float64, .string, .timestamp, .json].find? fun t => t.jsonName = name

namespace FieldKind

mutual
/-- Read what a field holds, through at most `fuel` levels. -/
def ofJson? : Nat → Json → Option FieldKind
  | 0, _ => none
  | fuel + 1, .obj [(name, j)] =>
    match name with
    | "Scalar" => (DataType.ofJson? j).map .scalar
    | "Reference" => do
      let slots ← Json.slots? ["target"] j
      return .reference (← Json.required? slots "target" Json.str?)
    | "ReferenceArray" => do
      let slots ← Json.slots? ["target"] j
      return .referenceArray (← Json.required? slots "target" Json.str?)
    | "Embedded" => do
      let slots ← Json.slots? ["fields"] j
      return .embedded (← Json.required? slots "fields" (fieldsOfJson? fuel))
    | _ => none
  | _, _ => none

/-- Read fields, through at most `fuel` levels. -/
def fieldsOfJson? : Nat → Json → Option (List FieldDef)
  | 0, _ => none
  | fuel + 1, j =>
    Json.listOf? (fun item => do
      let slots ← Json.slots? ["name", "kind"] item
      return (← Json.required? slots "name" Json.str?,
        ← Json.required? slots "kind" (ofJson? fuel))) j
end

mutual
/-- The JSON form of what a field holds. -/
def toJson : FieldKind → Json
  | scalar dataType => .obj [("Scalar", .str dataType.jsonName)]
  | reference target => .obj [("Reference", .obj [("target", .str target)])]
  | referenceArray target => .obj [("ReferenceArray", .obj [("target", .str target)])]
  | embedded fields => .obj [("Embedded", .obj [("fields", .arr (fieldsToJson fields))])]

/-- The JSON form of fields. -/
def fieldsToJson : List (String × FieldKind) → List Json
  | [] => []
  | (name, kind) :: fields =>
    .obj [("name", .str name), ("kind", toJson kind)] :: fieldsToJson fields
end

end FieldKind

namespace EntitySchema

/-- More levels than a text can nest. -/
def maxLevels : Nat := 1000

/-- Read a schema. -/
def ofJson? (j : Json) : Option EntitySchema := do
  let slots ← Json.slots? ["name", "primary_key", "fields"] j
  return {
    name := ← Json.required? slots "name" Json.str?
    primaryKey := ← Json.required? slots "primary_key" Json.str?
    fields := ← Json.required? slots "fields" (FieldKind.fieldsOfJson? maxLevels) }

/-- The JSON form of a schema. -/
def toJson (schema : EntitySchema) : Json :=
  .obj [("name", .str schema.name), ("primary_key", .str schema.primaryKey),
    ("fields", .arr (FieldKind.fieldsToJson schema.fields))]

end EntitySchema

end DualQuery
