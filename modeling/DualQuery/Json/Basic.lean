import DualQuery.Decimal.Style

/-!
# JSON values

The tree of a JSON text. Objects keep their entries in the order of the text, repeated keys
included, because some readers refuse a repeated key and others let the last one win.
-/

namespace DualQuery

/-- A number of a JSON text: an integer where the text has neither fraction nor exponent and fits
sixty-four bits, else a double. -/
inductive Json.Number where
  | int (i : Int)
  | float (x : Binary64)
  deriving DecidableEq, Repr, Inhabited

/-- A JSON value. A part of a text that is well-formed and yet stands for no value is `unreadable`:
a number beyond the doubles, a text with half a surrogate pair, a value that is nested too deep.
Readers refuse it where they look at it. -/
inductive Json where
  | null
  | bool (b : Bool)
  | num (n : Json.Number)
  | str (s : String)
  | arr (items : List Json)
  | obj (entries : List (String × Json))
  | unreadable
  deriving Repr, Inhabited

namespace Json

/-- An integer as a JSON value. -/
def ofInt (i : Int) : Json := .num (.int i)

/-- A natural number as a JSON value. -/
def ofNat (n : Nat) : Json := ofInt n

/-- A list of texts as a JSON value. -/
def ofStrings (texts : List String) : Json := .arr (texts.map .str)

/-- A value that may be absent, absence being `null`. -/
def ofOption {α : Type} (write : α → Json) : Option α → Json
  | none => .null
  | some a => write a

/-- Put an entry in place of the first one with its key, or at the end. -/
def put (key : String) (value : Json) : List (String × Json) → List (String × Json)
  | [] => [(key, value)]
  | entry :: entries =>
    if entry.1 = key then (key, value) :: entries else entry :: put key value entries

/-- Entries with each key once, at its first position and with its last value. -/
def distinctEntries (entries : List (String × Json)) : List (String × Json) :=
  entries.foldl (fun acc entry => put entry.1 entry.2 acc) []

mutual
/-- Keep each key of each object once, at its first position and with its last value. -/
def distinct : Json → Json
  | .arr items => .arr (distinctItems items)
  | .obj entries => .obj (distinctEntries (distinctFields entries))
  | .null => .null
  | .bool b => .bool b
  | .num n => .num n
  | .str s => .str s
  | .unreadable => .unreadable

/-- `distinct` on every item. -/
def distinctItems : List Json → List Json
  | [] => []
  | item :: items => distinct item :: distinctItems items

/-- `distinct` on every entry's value. -/
def distinctFields : List (String × Json) → List (String × Json)
  | [] => []
  | (key, value) :: entries => (key, distinct value) :: distinctFields entries
end

mutual
/-- Whether no part of a value is unreadable. -/
def isReadable : Json → Bool
  | .unreadable => false
  | .arr items => areReadable items
  | .obj entries => entriesAreReadable entries
  | .null | .bool _ | .num _ | .str _ => true

/-- `isReadable` on every item. -/
def areReadable : List Json → Bool
  | [] => true
  | item :: items => isReadable item && areReadable items

/-- `isReadable` on every entry's value. -/
def entriesAreReadable : List (String × Json) → Bool
  | [] => true
  | (_, value) :: entries => isReadable value && entriesAreReadable entries
end

/-- The value of the first entry with a key. -/
def find? (key : String) : List (String × Json) → Option Json
  | [] => none
  | entry :: entries => if entry.1 = key then some entry.2 else find? key entries

/-- The value under a key of an object. -/
def get? (j : Json) (key : String) : Option Json :=
  match j with
  | .obj entries => find? key entries
  | _ => none

/-- The text of a string value. -/
def str? : Json → Option String
  | .str s => some s
  | _ => none

/-- The truth value of a Boolean value. -/
def bool? : Json → Option Bool
  | .bool b => some b
  | _ => none

/-- The items of an array value. -/
def arr? : Json → Option (List Json)
  | .arr items => some items
  | _ => none

/-- The entries of an object value. -/
def obj? : Json → Option (List (String × Json))
  | .obj entries => some entries
  | _ => none

/-- The natural number below `2 ^ 64` of a number value that is one. -/
def nat? : Json → Option Nat
  | .num (.int i) => if 0 ≤ i ∧ i < 0x10000000000000000 then some i.toNat else none
  | _ => none

end Json

end DualQuery
