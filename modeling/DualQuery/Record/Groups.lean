import DualQuery.Aggregate
import DualQuery.Value.Index

/-!
# Matching and grouping records

Both backends find the partners of a record through `Record.indexBy` and form groups by
`Record.groups`.
-/

namespace DualQuery

namespace Record

variable [Hashing]

/-- The records of a source under their values in a field, each with its position; records without a
value are left out. -/
def indexBy (field : String) (source : List Record) : Indexed Value (List (Nat × Record)) :=
  source.zipIdx.foldl (fun index (record, position) =>
    let key := valueAt record field
    if key.isNull then index
    else Indexed.alter [] (· ++ [(position, record)]) key index) []

/-- The records under a value; there are none under null. -/
def hits (index : Indexed Value (List (Nat × Record))) (key : Value) : List (Nat × Record) :=
  if key.isNull then [] else (Indexed.find? index key).getD []

/-- Records that agree on some values, under these values. -/
abbrev Groups := Indexed (List Value) (List Record)

/-- The groups of records by some of their values, in the order of their first members. By no values
at all there is one group, be it of no records. -/
def groups (values : List (Record → Value)) (records : List Record) : Groups :=
  if values.isEmpty then [([], records)]
  else records.foldl (fun groups record =>
    Indexed.alter [] (· ++ [record]) (values.map fun value => value record) groups) []

end Record

/-- The result of an aggregate over the records of a group that pass a condition, if there is one. A
count with a condition counts every record that passes. -/
def AggregateOp.over (op : AggregateOp) (value : Option (Record → Value))
    (condition : Option (Record → Bool)) (members : List Record) : Value :=
  let included := match condition with
    | some passes => members.filter passes
    | none => members
  op.evaluate (value.isNone || condition.isSome) <|
    included.map (value.getD fun _ => .null)

end DualQuery
