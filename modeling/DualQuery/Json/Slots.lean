import DualQuery.Json.Basic

/-!
# Reading structures from JSON

A structure may be written as an object, whose entries may stand in any order, or as an array of its
fields in their order of declaration, from which fields at the end may be missing. `slots?` brings
both forms to a list of named values; `required?`, `orElse?`, `optional?` and `default?` read one
field of it.
-/

namespace DualQuery.Json

/-- The values of the fields that are present, by name. -/
abbrev Slots := List (String × Json)

/-- Whether no name occurs twice. -/
def noRepeats (entries : List (String × Json)) : Bool := decide (entries.map (·.1)).Nodup

/-- The fields of a structure with the given field names. Entries of an object under other names are
left out. -/
def slots? (names : List String) : Json → Option Slots
  | .obj entries =>
    let known := entries.filter fun entry => names.contains entry.1
    if noRepeats known then some known else none
  | .arr items => if items.length ≤ names.length then some (names.zip items) else none
  | _ => none

/-- The fields of a structure that admits no entries under other names. -/
def strictSlots? (names : List String) (j : Json) : Option Slots :=
  match j with
  | .obj entries => if entries.all fun entry => names.contains entry.1 then slots? names j else none
  | j => slots? names j

/-- Read a field that must be present. -/
def required? {α : Type} (slots : Slots) (name : String) (read : Json → Option α) : Option α :=
  (find? name slots).bind read

/-- Read a field that has a default. -/
def orElse? {α : Type} (slots : Slots) (name : String) (default : α) (read : Json → Option α) :
    Option α :=
  match find? name slots with
  | none => some default
  | some j => read j

/-- Read a field that may be absent or null. -/
def optional? {α : Type} (slots : Slots) (name : String) (read : Json → Option α) :
    Option (Option α) :=
  match find? name slots with
  | none => some none
  | some .null => some none
  | some j => (read j).map some

/-- Read a field that takes a default where it is absent or null. -/
def default? {α : Type} (slots : Slots) (name : String) (default : α)
    (read : Json → Option α) : Option α :=
  (optional? slots name read).map fun a => a.getD default

/-- The name of a variant without data: a text, or an object with that one name and null under
it. -/
def variant? : Json → Option String
  | .str name => some name
  | .obj [(name, .null)] => some name
  | _ => none

/-- The items of an array, each read by a function. -/
def listOf? {α : Type} (read : Json → Option α) : Json → Option (List α)
  | .arr items => items.mapM read
  | _ => none

/-- A list of texts. -/
def strings? : Json → Option (List String) := listOf? str?

end DualQuery.Json
