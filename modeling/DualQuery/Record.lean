import DualQuery.Keyed
import DualQuery.Value.Order
import DualQuery.Text.Path
import DualQuery.StableSort

/-!
# Records

A record is a row or a document: fields in the order of their keys, each key once. A dotted path
leads through objects; arrays are not entered.

* `Record.getPath?` and `Record.setPath` read and write the value at the end of a path; writing
  makes objects on the way.
* `Record.sort` is a stable sort by several keys, null lowest.
-/

namespace DualQuery

/-- A row or a document. -/
abbrev Record := Keyed Value

namespace Record

/-! ## Paths -/

/-- Read along a list of segments. -/
def getSegments? : Record → List String → Option Value
  | _, [] => none
  | record, [segment] => Keyed.get? record segment
  | record, segment :: rest =>
    match Keyed.get? record segment with
    | some (.object fields) => getSegments? fields rest
    | _ => none

/-- The fields of an object, and none of anything else. -/
def fieldsOf : Option Value → Record
  | some (.object fields) => fields
  | _ => []

/-- Write along a list of segments; whatever stands in the way becomes an object. -/
def setSegments : Record → List String → Value → Record
  | record, [], _ => record
  | record, [segment], value => Keyed.insert record segment value
  | record, segment :: rest, value =>
    Keyed.insert record segment
      (.object (setSegments (fieldsOf (Keyed.get? record segment)) rest value))

/-- The value at a dotted path. -/
def getPath? (record : Record) (path : String) : Option Value :=
  getSegments? record (Text.segments path)

/-- The value at a dotted path, null when there is none. -/
def valueAt (record : Record) (path : String) : Value := (getPath? record path).getD .null

/-- Set the value at a dotted path. -/
def setPath (record : Record) (path : String) (value : Value) : Record :=
  setSegments record (Text.segments path) value

/-! ## Order and size -/

/-- A key to sort by: the path of the values and whether larger ones come first. -/
structure SortKey where
  path : String
  descending : Bool
  deriving DecidableEq, Repr, Inhabited

/-- Order of two records by one key. -/
def SortKey.compare (key : SortKey) (a b : Record) : Ordering :=
  let order := (valueAt a key.path).compare (valueAt b key.path)
  if key.descending then order.swap else order

/-- Order of two records by the first key that tells them apart. -/
def compareBy : List SortKey → Record → Record → Ordering
  | [], _, _ => .eq
  | key :: keys, a, b => (key.compare a b).then (compareBy keys a b)

/-- Sort records by several keys; records that tie keep their order. -/
def sort (keys : List SortKey) (records : List Record) : List Record :=
  stableSort (fun a b => (compareBy keys a b).isLT) records

/-- Rough size of a list of records in bytes. -/
def approxSize (records : List Record) : Nat :=
  records.foldl (fun size record => size + Value.approxFieldsSize record + 16) 0

end Record

end DualQuery
