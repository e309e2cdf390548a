import DualQuery.Record
import DualQuery.Json.Writer

/-!
# Values and JSON

`Value.ofJson` reads a JSON value: integers of sixty-four bits stay integers, all other numbers are
doubles, and of repeated keys the last one counts. `Value.toJson` writes timestamps as integers and
infinite or missing numbers as null. `Value.display` is the text shown to a reader.
-/

namespace DualQuery

/-- Whether an integer fits a signed word. -/
def fitsInt64 (i : Int) : Bool := decide (-0x8000000000000000 ≤ i ∧ i < 0x8000000000000000)

namespace Value

/-- The value of a JSON number. -/
def ofNumber : Json.Number → Value
  | .int i => if fitsInt64 i then .int (Int64.ofInt i) else .float (.ofInt i)
  | .float x => .float x

mutual
/-- The value of a JSON value, null for an unreadable one. -/
def ofJson : Json → Value
  | .null | .unreadable => .null
  | .bool b => .bool b
  | .num n => ofNumber n
  | .str s => .string s
  | .arr items => .array (ofJsonItems items)
  | .obj entries => .object (Keyed.ofList (ofJsonEntries entries))

/-- The values of JSON items. -/
def ofJsonItems : List Json → List Value
  | [] => []
  | item :: items => ofJson item :: ofJsonItems items

/-- The fields of JSON entries, in the order of the text. -/
def ofJsonEntries : List (String × Json) → List (String × Value)
  | [] => []
  | (key, value) :: entries => (key, ofJson value) :: ofJsonEntries entries
end

mutual
/-- The JSON value of a value. -/
def toJson : Value → Json
  | null => .null
  | bool b => .bool b
  | int i => .ofInt i.toInt
  | timestamp t => .ofInt t.toInt
  | float x => if x.isFinite then .num (.float x) else .null
  | string s => .str s
  | array items => .arr (toJsonItems items)
  | object fields => .obj (toJsonEntries fields)

/-- The JSON items of values. -/
def toJsonItems : List Value → List Json
  | [] => []
  | item :: items => toJson item :: toJsonItems items

/-- The JSON entries of fields. -/
def toJsonEntries : List (String × Value) → List (String × Json)
  | [] => []
  | (key, value) :: fields => (key, toJson value) :: toJsonEntries fields
end

/-- The text of a value as shown to a reader. -/
def display : Value → String
  | null => "NULL"
  | bool b => if b then "true" else "false"
  | int i => toString i.toInt
  | timestamp t => toString t.toInt
  | float x => Decimal.Style.plain.text x
  | string s => s
  | v => v.toJson.text

end Value

namespace Record

/-- The record of a JSON object. -/
def ofJson? (j : Json) : Option Record := (Value.ofJson j).object?

/-- The JSON object of a record. -/
def toJson (record : Record) : Json := .obj (Value.toJsonEntries record)

end Record

end DualQuery
