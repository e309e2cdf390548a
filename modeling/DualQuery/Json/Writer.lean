import DualQuery.Json.Basic
import DualQuery.Json.Quoted

/-!
# Writing JSON texts

`Json.text` is the compact text of a value: no blanks, entries in order, numbers in the style
`Style.json`, and unreadable parts as null. `Json.pretty` has each item and each entry on a line of
its own.
-/

namespace DualQuery.Json

open DualQuery.Decimal

/-- A text between quotes. -/
def quote (s : String) : String := "\"" ++ String.ofList (Quoted.encode s.toList) ++ "\""

/-- The written form of a number. -/
def Number.text : Number → String
  | .int i => toString i
  | .float x => Style.json.text x

mutual
/-- The compact text of a value. -/
def text : Json → String
  | .null | .unreadable => "null"
  | .bool true => "true"
  | .bool false => "false"
  | .num n => n.text
  | .str s => quote s
  | .arr items => "[" ++ ",".intercalate (itemTexts items) ++ "]"
  | .obj entries => "\x7b" ++ ",".intercalate (entryTexts entries) ++ "\x7d"

/-- The texts of the items of an array. -/
def itemTexts : List Json → List String
  | [] => []
  | item :: items => text item :: itemTexts items

/-- The texts of the entries of an object. -/
def entryTexts : List (String × Json) → List String
  | [] => []
  | (key, value) :: entries => (quote key ++ ":" ++ text value) :: entryTexts entries
end

/-- A new line with two blanks for each level. -/
def newLine (level : Nat) : String := "\n" ++ String.ofList (List.replicate (2 * level) ' ')

/-- Parts on lines of their own, one level deeper than the brackets around them. -/
def block (opening closing : String) (level : Nat) (parts : List String) : String :=
  if parts.isEmpty then opening ++ closing
  else
    opening ++ newLine (level + 1) ++ ("," ++ newLine (level + 1)).intercalate parts ++
      newLine level ++ closing

mutual
/-- The text of a value at a level, over several lines. -/
def prettyAt (level : Nat) : Json → String
  | .arr items => block "[" "]" level (prettyItems (level + 1) items)
  | .obj entries => block "\x7b" "\x7d" level (prettyEntries (level + 1) entries)
  | .null | .unreadable => "null"
  | .bool true => "true"
  | .bool false => "false"
  | .num n => n.text
  | .str s => quote s

/-- The texts of the items of an array at a level. -/
def prettyItems (level : Nat) : List Json → List String
  | [] => []
  | item :: items => prettyAt level item :: prettyItems level items

/-- The texts of the entries of an object at a level. -/
def prettyEntries (level : Nat) : List (String × Json) → List String
  | [] => []
  | (key, value) :: entries =>
    (quote key ++ ": " ++ prettyAt level value) :: prettyEntries level entries
end

/-- The text of a value over several lines. -/
def pretty (j : Json) : String := prettyAt 0 j

end DualQuery.Json
