import DualQuery.Text.Fold
import DualQuery.Text.Ranges

/-!
# Sets of characters

The sets that a regular expression may ask for: ranges of characters, combined by the operations on
sets. `CharSet.folded` adds all case variants of the members. `CharSet.contains` answers for one
character and `CharSet.members` for all.
-/

namespace DualQuery

/-- A set of characters. -/
inductive CharSet where
  | empty
  /-- The characters whose codes lie in one of the ranges, ends included. -/
  | ranges (ranges : List (Nat × Nat))
  | union (first second : CharSet)
  | intersection (first second : CharSet)
  | difference (first second : CharSet)
  | symmetricDifference (first second : CharSet)
  | complement (set : CharSet)
  /-- The case variants of the members of a set. -/
  | folded (set : CharSet)
  deriving Repr, Inhabited, DecidableEq

namespace CharSet

/-- The set of one character. -/
def single (c : Char) : CharSet := .ranges [(c.toNat, c.toNat)]

/-- The set of the characters from one to another. -/
def range (low high : Char) : CharSet := .ranges [(low.toNat, high.toNat)]

/-- The set of the characters of a text. -/
def ofChars (cs : List Char) : CharSet := .ranges (cs.map fun c => (c.toNat, c.toNat))

/-- Whether a character is a member of a set. -/
def contains : CharSet → Char → Bool
  | empty, _ => false
  | ranges rs, c => Text.inRanges rs c.toNat
  | union first second, c => first.contains c || second.contains c
  | intersection first second, c => first.contains c && second.contains c
  | difference first second, c => first.contains c && !second.contains c
  | symmetricDifference first second, c => first.contains c != second.contains c
  | complement set, c => !set.contains c
  | folded set, c => set.contains c || (Text.caseVariants c).any set.contains

/-- The members of a set as ranges of codes, in order. -/
def members : CharSet → List (Nat × Nat)
  | empty => []
  | ranges rs => Text.joined rs
  | union first second => Text.unionRanges first.members second.members
  | intersection first second => Text.intersectRanges first.members second.members
  | difference first second => Text.removeRanges first.members second.members
  | symmetricDifference first second =>
    Text.unionRanges (Text.removeRanges first.members second.members)
      (Text.removeRanges second.members first.members)
  | complement set => Text.complementRanges set.members
  | folded set => Text.foldedRanges set.members

end CharSet

end DualQuery
