/-!
# Ranges of characters

Sets of characters given as ranges of their codes. `joined` brings ranges into order, with a gap
between any two of them; the operations on sets give and take such ranges.
-/

namespace DualQuery.Text

/-- Whether a code lies in one of the ranges, ends included. -/
def inRanges (ranges : List (Nat × Nat)) (code : Nat) : Bool :=
  ranges.any fun range => range.1 ≤ code && code ≤ range.2

/-- The largest code. -/
def maxCode : Nat := 0x10FFFF

/-- Join a range with those behind it that overlap or touch it, where all are in order. -/
def joinFrom (low high : Nat) : List (Nat × Nat) → List (Nat × Nat)
  | [] => [(low, high)]
  | (first, last) :: rest =>
    if first ≤ high + 1 then joinFrom low (max high last) rest
    else (low, high) :: joinFrom first last rest

/-- The same set in as few ranges as there can be, in order. -/
def joined (ranges : List (Nat × Nat)) : List (Nat × Nat) :=
  match ranges.mergeSort fun a b => a.1 ≤ b.1 with
  | [] => []
  | range :: rest => joinFrom range.1 range.2 rest

/-- The codes between ranges in order and behind them, from a given one on. -/
def gapsFrom (next : Nat) : List (Nat × Nat) → List (Nat × Nat)
  | [] => if next ≤ maxCode then [(next, maxCode)] else []
  | (first, last) :: rest =>
    if next < first then (next, first - 1) :: gapsFrom (last + 1) rest
    else gapsFrom (last + 1) rest

/-- The codes outside of ranges that are in order. -/
def complementRanges (ranges : List (Nat × Nat)) : List (Nat × Nat) := gapsFrom 0 ranges

/-- The codes in either of two sets. -/
def unionRanges (first second : List (Nat × Nat)) : List (Nat × Nat) := joined (first ++ second)

/-- The codes in both of two sets. -/
def intersectRanges (first second : List (Nat × Nat)) : List (Nat × Nat) :=
  complementRanges (unionRanges (complementRanges first) (complementRanges second))

/-- The codes in the first of two sets only. -/
def removeRanges (first second : List (Nat × Nat)) : List (Nat × Nat) :=
  complementRanges (unionRanges (complementRanges first) second)

/-- The codes in a set that belong to characters: surrogates are none. -/
def characterRanges (ranges : List (Nat × Nat)) : List (Nat × Nat) :=
  removeRanges ranges [(0xD800, 0xDFFF)]

example : joined [(5, 7), (1, 2), (3, 3), (6, 9)] = [(1, 3), (5, 9)] := by cbv

example : removeRanges [(1, 9)] [(3, 4)] = [(1, 2), (5, 9)] := by cbv

end DualQuery.Text
