import DualQuery.Value.Order

/-!
# Hash maps under values

Entries are found by the equality of values, which is no equivalence: a double may equal two
integers that differ. A hash map answers for such a double with either of them, as its random seed
has it, so what answers is left open here: it is for `Hashing` to say.
-/

namespace DualQuery

/-- How hash maps settle a look-up that several of their keys could answer. It stands for their
random seeds, which are new in every run. One choice serves all maps of a run; it makes a difference
only where a look-up meets keys that differ. -/
class Hashing where
  /-- The number of the key that answers, counted around, among the keys that equal a given one. It
  may depend on all keys of the map, in the order in which they came up, and on the given one. -/
  pick : {κ : Type} → List κ → κ → Nat

namespace Hashing

/-- Hash maps in which the key that came up first answers. -/
instance (priority := low) firstFound : Hashing where
  pick _ _ := 0

end Hashing

/-- Things under keys, in the order in which the keys came up. -/
abbrev Indexed (κ α : Type) := List (κ × α)

namespace Indexed

variable {κ α : Type} [BEq κ]

/-- The positions of the keys that equal a given one. -/
def positions (index : Indexed κ α) (key : κ) : List Nat :=
  (index.zipIdx.filter fun (entry, _) => entry.1 == key).map (·.2)

variable [Hashing]

/-- The position of the key that answers for a given one, if any key equals it. -/
def position? (index : Indexed κ α) (key : κ) : Option Nat :=
  let found := index.positions key
  found[Hashing.pick (index.map (·.1)) key % found.length]?

/-- What is under the key that answers for a given one. -/
def find? (index : Indexed κ α) (key : κ) : Option α :=
  ((index.position? key).bind (index[·]?)).map (·.2)

/-- Change what is under the key that answers for a given one; a new key starts from `fresh`. -/
def alter (fresh : α) (change : α → α) (key : κ) (index : Indexed κ α) : Indexed κ α :=
  match index.position? key with
  | some position => index.modify position fun entry => (entry.1, change entry.2)
  | none => index ++ [(key, change fresh)]

end Indexed

end DualQuery
