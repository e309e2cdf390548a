/-!
# Lists in the order of their keys

A `Keyed α` gives values to texts. It is a list in increasing order of keys, each key once, and
`Keyed.insert` keeps it so. Keys are ordered by their code points.

* `get?_insert_self`, `get?_insert_of_ne`: what is read after a write.
* `insert_insert`: of two writes to a key the second counts.
-/

namespace DualQuery

/-- Values under texts, in the order of the texts. -/
abbrev Keyed (α : Type) := List (String × α)

namespace Keyed

variable {α : Type}

/-- The value under a key. -/
def get? : Keyed α → String → Option α
  | [], _ => none
  | entry :: entries, key => if entry.1 = key then some entry.2 else get? entries key

/-- Set the value under a key, at its place in the order of keys. -/
def insert : Keyed α → String → α → Keyed α
  | [], key, value => [(key, value)]
  | entry :: entries, key, value =>
    match Ord.compare key entry.1 with
    | .lt => (key, value) :: entry :: entries
    | .eq => (key, value) :: entries
    | .gt => entry :: insert entries key value

/-- Remove a key. -/
def erase (entries : Keyed α) (key : String) : Keyed α :=
  entries.filter fun entry => decide (entry.1 ≠ key)

/-- Whether there is a value under a key. -/
def contains (entries : Keyed α) (key : String) : Bool := (get? entries key).isSome

/-- The keys in order. -/
def keys (entries : Keyed α) : List String := entries.map (·.1)

/-- The entries of a list in the order of their keys; of repeated keys the last one counts. -/
def ofList (entries : List (String × α)) : Keyed α :=
  entries.foldl (fun acc entry => insert acc entry.1 entry.2) []

/-- What is inserted is found under its key. -/
theorem get?_insert_self (entries : Keyed α) (key : String) (value : α) :
    get? (insert entries key value) key = some value := by
  induction entries with
  | nil => simp [insert, get?]
  | cons entry entries ih =>
    simp only [insert]
    split
    · simp [get?]
    · simp [get?]
    next h =>
      have hne : entry.1 ≠ key := by
        intro heq
        rw [heq, Std.compare_self] at h
        cases h
      simp [get?, hne, ih]

/-- An insertion leaves what is under other keys. -/
theorem get?_insert_of_ne (entries : Keyed α) {key other : String} (value : α) (h : key ≠ other) :
    get? (insert entries key value) other = get? entries other := by
  induction entries with
  | nil => simp [insert, get?, h]
  | cons entry entries ih =>
    simp only [insert]
    split
    · simp [get?, h]
    next heq =>
      have hkey : key = entry.1 := Std.compare_eq_iff_eq.1 heq
      simp [get?, h, ← hkey]
    · simp [get?, ih]

/-- Of two insertions under one key the second counts. -/
theorem insert_insert (entries : Keyed α) (key : String) (first second : α) :
    insert (insert entries key first) key second = insert entries key second := by
  induction entries with
  | nil => simp [insert, Std.compare_self]
  | cons entry entries ih =>
    cases h : Ord.compare key entry.1 with
    | lt => simp [insert, h, Std.compare_self]
    | eq => simp [insert, h, Std.compare_self]
    | gt => simp [insert, h, ih]

end Keyed

end DualQuery
