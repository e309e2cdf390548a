import DualQuery.Value.Hash

/-!
# Partitions

Values are spread over partitions by hash, so that equal values always share one.
-/

namespace DualQuery

/-- The machine that queries run on. -/
class Machine where
  /-- The number of processors that work is spread over. -/
  processorCount : Nat
  /-- There is one at least. -/
  processorCount_pos : 0 < processorCount

export Machine (processorCount)

/-- A machine with four processors, where no other one is named. -/
instance (priority := low) Machine.fourfold : Machine where
  processorCount := 4
  processorCount_pos := by decide

/-- The partition of a value. -/
def Value.partition (value : Value) (partitions : Nat) : Nat :=
  value.hash.toNat % max 1 partitions

/-- A number of partitions that is at least one and does not exceed the processors. -/
def cappedPartitions [Machine] (partitions : Nat) : Nat := min (max 1 partitions) processorCount

/-- The positions of values by partition. -/
def assignPartitions (partitions : Nat) (values : List Value) : List (List Nat) :=
  (List.range partitions).map fun index =>
    (values.zipIdx.filter fun (value, _) => value.partition partitions == index).map (·.2)

end DualQuery
