import DualQuery.Decimal.Style

/-!
# Values

The values that rows and documents hold. Integers, doubles and timestamps are the numbers; an
integer and a timestamp are integral. Objects are lists of fields kept in the order of their keys.
-/

namespace DualQuery

/-- A value of a row or a document. -/
inductive Value where
  | null
  | bool (b : Bool)
  | int (i : Int64)
  | float (x : Binary64)
  | string (s : String)
  | timestamp (t : Int64)
  | array (items : List Value)
  | object (fields : List (String × Value))
  deriving Repr, Inhabited

namespace Value

/-- The name of a value's type. -/
def typeName : Value → String
  | null => "null"
  | bool _ => "bool"
  | int _ => "int64"
  | float _ => "float64"
  | string _ => "string"
  | timestamp _ => "timestamp"
  | array _ => "array"
  | object _ => "object"

/-- The integer of an integral value. -/
def integral? : Value → Option Int64
  | int i => some i
  | timestamp t => some t
  | _ => none

/-- A number as a double. -/
def double? : Value → Option Binary64
  | float x => some x
  | int i => some (.ofInt64 i)
  | timestamp t => some (.ofInt64 t)
  | _ => none

/-- A number as an integer; a double loses its fraction and is clamped. -/
def integer? : Value → Option Int64
  | int i => some i
  | timestamp t => some t
  | float x => some x.toInt64
  | _ => none

/-- The text of a string. -/
def string? : Value → Option String
  | string s => some s
  | _ => none

/-- The truth value of a Boolean. -/
def bool? : Value → Option Bool
  | bool b => some b
  | _ => none

/-- The items of an array. -/
def array? : Value → Option (List Value)
  | array items => some items
  | _ => none

/-- The fields of an object. -/
def object? : Value → Option (List (String × Value))
  | object fields => some fields
  | _ => none

/-- Whether a value is null. -/
def isNull : Value → Bool
  | null => true
  | _ => false

/-- The bracket of a value. Values of different brackets are ordered by bracket alone; numbers of
every kind share one. -/
def bracket : Value → Nat
  | null => 0
  | bool _ => 1
  | int _ | float _ | timestamp _ => 2
  | string _ => 4
  | array _ => 6
  | object _ => 7

/-- Whether two values belong to one bracket. -/
def sameBracket (a b : Value) : Bool := a.bracket == b.bracket

mutual
/-- Rough size in bytes, the measure by which results are accounted. -/
def approxSize : Value → Nat
  | null | bool _ => 1
  | int _ | float _ | timestamp _ => 9
  | string s => 24 + s.utf8ByteSize
  | array items => 24 + approxItemsSize items
  | object fields => 24 + approxFieldsSize fields

/-- The sizes of items added up. -/
def approxItemsSize : List Value → Nat
  | [] => 0
  | item :: items => approxSize item + approxItemsSize items

/-- The sizes of keys and values added up. -/
def approxFieldsSize : List (String × Value) → Nat
  | [] => 0
  | (key, value) :: fields => key.utf8ByteSize + approxSize value + approxFieldsSize fields
end

end Value

/-- A declared type of a field. -/
inductive DataType where
  | bool
  | int64
  | float64
  | string
  | timestamp
  | json
  deriving DecidableEq, Repr, Inhabited

/-- The name of a type in descriptions. -/
def DataType.displayName : DataType → String
  | bool => "BOOL"
  | int64 => "INT64"
  | float64 => "FLOAT64"
  | string => "STRING"
  | timestamp => "TIMESTAMP"
  | json => "JSON"

end DualQuery
