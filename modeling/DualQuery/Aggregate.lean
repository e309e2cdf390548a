import DualQuery.Query.Descriptor
import DualQuery.Value.Json

/-!
# Aggregates

`AggregateOp.evaluate` computes an aggregate over the values of a group, in their order. Null counts
only where every row counts; sums of integers stay integers and stop at the ends of their range.
-/

namespace DualQuery

/-- The sum of two integers, clamped to the range of a word. -/
def addClamped (i j : Int64) : Int64 := Int64.ofIntClamp (i.toInt + j.toInt)

/-- The text between the parts of a concatenation. -/
def concatSeparator : String := ","

namespace Value

/-- Whether a value is a double. -/
def isFloat : Value → Bool
  | float _ => true
  | _ => false

/-- The sum of the numbers among values: an integer where no double is among them, null where there
are no numbers. -/
def sum (values : List Value) : Value :=
  let numbers := values.filterMap double?
  if numbers.isEmpty then null
  else if values.any isFloat then float (numbers.foldl Binary64.add .zero)
  else int ((values.filterMap integral?).foldl addClamped 0)

/-- The mean of the numbers among values. -/
def average (values : List Value) : Value :=
  let numbers := values.filterMap double?
  if numbers.isEmpty then null
  else float ((numbers.foldl Binary64.add .zero).div (.ofNat numbers.length))

/-- The least value, null aside; the first of several. -/
def least (values : List Value) : Value :=
  values.foldl (fun current value =>
    if value.isNull then current
    else if !current.isNull && (value.compare current).isGE then current
    else value) null

/-- The greatest value, null aside; the first of several. -/
def greatest (values : List Value) : Value :=
  values.foldl (fun current value =>
    if value.isNull then current
    else if !current.isNull && (value.compare current).isLE then current
    else value) null

/-- The texts of values joined, null aside. -/
def concatenate (values : List Value) : Value :=
  let parts := (values.filter fun value => !value.isNull).map display
  if parts.isEmpty then null else string (concatSeparator.intercalate parts)

end Value

/-- The result of an aggregate over the values of a group. `everyRow` says that rows are counted
whether they have a value or not. -/
def AggregateOp.evaluate (op : AggregateOp) (everyRow : Bool) (values : List Value) : Value :=
  match op with
  | count => .int (Int64.ofNat (values.filter fun value => everyRow || !value.isNull).length)
  | sum => Value.sum values
  | avg => Value.average values
  | min => Value.least values
  | max => Value.greatest values
  | concat => Value.concatenate values

end DualQuery
