import DualQuery.Json.Skim

/-!
# Reading JSON texts

`Json.outline?` reads a whole text and leaves `unreadable` where a part of it is well-formed but has
no value, so that a reader may pass over what it does not ask for. `Json.parse?` reads a text of
which every part has a value. Arrays and objects may nest to a given depth, blanks may stand around
every token, and nothing but blanks may follow the value.
-/

namespace DualQuery.Json

/-- Read a literal word. -/
def word? (word : List Char) (value : Json) (cs : List Char) : Option (Json × List Char) :=
  (dropWord? word cs).map fun rest => (value, rest)

/-- What was read, or else an unreadable value in place of the well-formed one that the text starts
with. -/
def orSkim? (cs : List Char) (read : Option (Json × List Char)) : Option (Json × List Char) :=
  match read with
  | some result => some result
  | none => (skim? cs).map fun rest => (.unreadable, rest)

mutual
/-- Read a value. Arrays and objects may nest `depth` deep, and at most `fuel` steps are taken. -/
def value? (fuel depth : Nat) (cs : List Char) : Option (Json × List Char) :=
  match fuel with
  | 0 => none
  | fuel + 1 =>
    orSkim? cs <|
      match skipSpace cs with
      | '"' :: rest =>
        (Quoted.decode rest).map fun (text, rest) => (.str (String.ofList text), rest)
      | '[' :: rest =>
        if depth = 0 then none
        else
          match skipSpace rest with
          | ']' :: rest => some (.arr [], rest)
          | rest => (items? fuel (depth - 1) rest).map fun (items, rest) => (.arr items, rest)
      | '\x7b' :: rest =>
        if depth = 0 then none
        else
          match skipSpace rest with
          | '\x7d' :: rest => some (.obj [], rest)
          | rest => (entries? fuel (depth - 1) rest).map fun (entries, rest) => (.obj entries, rest)
      | 'n' :: rest => word? ['u', 'l', 'l'] .null rest
      | 't' :: rest => word? ['r', 'u', 'e'] (.bool true) rest
      | 'f' :: rest => word? ['a', 'l', 's', 'e'] (.bool false) rest
      | rest => (Number.read? rest).map fun (n, rest) => (.num n, rest)

/-- Read the items of an array from the first one through the closing bracket. -/
def items? (fuel depth : Nat) (cs : List Char) : Option (List Json × List Char) :=
  match fuel with
  | 0 => none
  | fuel + 1 => do
    let (item, rest) ← value? fuel depth cs
    match skipSpace rest with
    | ',' :: rest =>
      let (items, rest) ← items? fuel depth rest
      return (item :: items, rest)
    | ']' :: rest => return ([item], rest)
    | _ => none

/-- Read the entries of an object from the first one through the closing brace. -/
def entries? (fuel depth : Nat) (cs : List Char) : Option (List (String × Json) × List Char) :=
  match fuel with
  | 0 => none
  | fuel + 1 => do
    match skipSpace cs with
    | '"' :: rest =>
      let (key, rest) ← Quoted.decode rest
      match skipSpace rest with
      | ':' :: rest =>
        let (value, rest) ← value? fuel depth rest
        match skipSpace rest with
        | ',' :: rest =>
          let (entries, rest) ← entries? fuel depth rest
          return ((String.ofList key, value) :: entries, rest)
        | '\x7d' :: rest => return ([(String.ofList key, value)], rest)
        | _ => none
      | _ => none
    | _ => none
end

/-- The deepest nesting at which a value is read. -/
def maxDepth : Nat := 127

/-- Read a text that nests at most `depth` deep. -/
def outlineWithin? (depth : Nat) (text : String) : Option Json :=
  let cs := text.toList
  match value? (2 * cs.length + 2) depth cs with
  | some (j, rest) => if (skipSpace rest).isEmpty then some j else none
  | none => none

/-- Read a text whose parts need not all have a value. -/
def outline? (text : String) : Option Json := outlineWithin? maxDepth text

/-- Read a text that nests at most `depth` deep and of which every part has a value. -/
def parseWithin? (depth : Nat) (text : String) : Option Json :=
  (outlineWithin? depth text).filter isReadable

/-- Read a text of which every part has a value. -/
def parse? (text : String) : Option Json := parseWithin? maxDepth text

end DualQuery.Json
