/-!
# Stable sorting

Insertion from the end: each element goes behind the last one that it does not precede. For an order
that is a total preorder this is the only stable sort; for any other relation it is still a definite
result.
-/

namespace DualQuery

/-- Insert an element into a list given last first, in front of the leading elements it precedes. -/
def insertBackward {α : Type} (precedes : α → α → Bool) (a : α) : List α → List α
  | [] => [a]
  | last :: before =>
    if precedes a last then last :: insertBackward precedes a before else a :: last :: before

/-- Sort a list; elements of which neither precedes the other keep their order. -/
def stableSort {α : Type} (precedes : α → α → Bool) (as : List α) : List α :=
  (as.foldl (fun sorted a => insertBackward precedes a sorted) []).reverse

end DualQuery
