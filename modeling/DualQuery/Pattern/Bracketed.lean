import DualQuery.Pattern.Escape

/-!
# Sets in brackets

`Bracketed.read?` reads a set of characters from behind its opening bracket: single characters,
ranges, named sets such as `[:alpha:]`, escapes, sets within sets, and the operations `&&`, `--` and
`~~`, which are applied from left to right. A closing bracket in first place and hyphens before it
are members.
-/

namespace DualQuery.Regex

/-- A set that has been read and how deep it nests. -/
structure Bracketed where
  set : CharSet
  depth : Nat
  deriving Repr

namespace Bracketed

/-- The ranges of a named set. -/
def namedRanges? : String → Option (List (Char × Char))
  | "alnum" => some [('0', '9'), ('A', 'Z'), ('a', 'z')]
  | "alpha" => some [('A', 'Z'), ('a', 'z')]
  | "ascii" => some [('\x00', '\x7f')]
  | "blank" => some [('\t', '\t'), (' ', ' ')]
  | "cntrl" => some [('\x00', '\x1f'), ('\x7f', '\x7f')]
  | "digit" => some [('0', '9')]
  | "graph" => some [('!', '~')]
  | "lower" => some [('a', 'z')]
  | "print" => some [(' ', '~')]
  | "punct" => some [('!', '/'), (':', '@'), ('[', '\x60'), ('\x7b', '~')]
  | "space" => some [('\t', '\r'), (' ', ' ')]
  | "upper" => some [('A', 'Z')]
  | "word" => some [('0', '9'), ('A', 'Z'), ('_', '_'), ('a', 'z')]
  | "xdigit" => some [('0', '9'), ('A', 'F'), ('a', 'f')]
  | _ => none

/-- Add the case variants of a set's members where case is ignored. -/
def foldIf (ignoreCase : Bool) (set : CharSet) : CharSet := if ignoreCase then .folded set else set

/-- The complement of a set that is negated. -/
def negateIf (negated : Bool) (set : CharSet) : CharSet := if negated then .complement set else set

/-- Read a named set from behind its opening bracket. -/
def named? (ignoreCase : Bool) : List Char → Option (CharSet × List Char)
  | ':' :: cs =>
    let (negated, cs) := match cs with
      | '^' :: cs => (true, cs)
      | cs => (false, cs)
    match cs.dropWhile (· ≠ ':') with
    | ':' :: ']' :: rest =>
      (namedRanges? (String.ofList (cs.takeWhile (· ≠ ':')))).map fun ranges =>
        let set := CharSet.ranges (ranges.map fun range => (range.1.toNat, range.2.toNat))
        (negateIf negated (foldIf ignoreCase set), rest)
    | _ => none
  | _ => none

/-- Read one member: an escape or a character. -/
def member? : List Char → Option (Primitive × List Char)
  | '\\' :: cs => Primitive.ofEscape? cs
  | c :: cs => some (.char c, cs)
  | [] => none

/-- The set of a member; an anchor is none. -/
def ofMember? : Primitive → Option CharSet
  | .char c => some (.single c)
  | .set set => some set
  | .anchor _ => none

/-- The range between two members, both of which must be characters. -/
def ofRange? : Primitive → Primitive → Option CharSet
  | .char low, .char high => if low ≤ high then some (.range low high) else none
  | _, _ => none

/-- Read a member or a range of them. A hyphen before the closing bracket, or before another hyphen,
makes no range. -/
def item? (verbose : Bool) (cs : List Char) : Option (CharSet × List Char) := do
  let (first, rest) ← member? cs
  let rest := skipBlanks verbose rest
  match rest with
  | [] => none
  | '-' :: behind =>
    let behind := skipBlanks verbose behind
    match behind with
    | [] => none
    | c :: _ =>
      if c = ']' ∨ c = '-' then return (← ofMember? first, rest)
      else
        let (last, rest) ← member? behind
        return (← ofRange? first last, rest)
  | rest => return (← ofMember? first, rest)

/-- An operation on sets. -/
inductive Operation where
  | intersection
  | difference
  | symmetricDifference
  deriving DecidableEq, Repr

/-- The operation that a text starts with, written as one character twice. -/
def operation? : List Char → Option (Operation × List Char)
  | '&' :: '&' :: rest => some (.intersection, rest)
  | '-' :: '-' :: rest => some (.difference, rest)
  | '~' :: '~' :: rest => some (.symmetricDifference, rest)
  | _ => none

/-- Apply an operation. -/
def Operation.apply : Operation → CharSet → CharSet → CharSet
  | intersection => .intersection
  | difference => .difference
  | symmetricDifference => .symmetricDifference

/-- The union of members that stand side by side. -/
def ofItems : List Bracketed → Bracketed
  | [] => ⟨.empty, 0⟩
  | [item] => item
  | items =>
    ⟨items.foldl (fun set item => .union set item.set) .empty,
      items.foldl (fun depth item => max depth item.depth) 0 + 1⟩

/-- Apply the operation that waits for its right side. -/
def combine (ignoreCase : Bool) : Option (Operation × Bracketed) → Bracketed → Bracketed
  | none, right => right
  | some (op, left), right =>
    ⟨op.apply (foldIf ignoreCase left.set) (foldIf ignoreCase right.set),
      max left.depth right.depth + 1⟩

/-- The hyphens that a set starts with, as members, and the rest of the text. -/
def hyphens (verbose : Bool) : List Char → List Bracketed × List Char
  | '-' :: cs =>
    let (items, rest) := hyphens verbose cs
    (⟨.single '-', 0⟩ :: items, rest)
  | cs => ([], skipBlanks verbose cs)

/-- The opening of a set: whether it is negated, its first members and the rest of the text. -/
def opening (verbose : Bool) (cs : List Char) : Bool × List Bracketed × List Char :=
  let cs := skipBlanks verbose cs
  let (negated, cs) := match cs with
    | '^' :: cs => (true, skipBlanks verbose cs)
    | cs => (false, cs)
  match hyphens verbose cs with
  | ([], ']' :: rest) => (negated, [⟨.single ']', 0⟩], rest)
  | (items, rest) => (negated, items, rest)

mutual
/-- Read a set from behind its opening bracket. -/
def readWithin? (fuel : Nat) (ignoreCase verbose : Bool) (cs : List Char) :
    Option (Bracketed × List Char) :=
  match fuel with
  | 0 => none
  | fuel + 1 => do
    let (negated, items, rest) := opening verbose cs
    let (body, rest) ← members? fuel ignoreCase verbose none items rest
    return (⟨negateIf negated (foldIf ignoreCase body.set), body.depth + 1⟩, rest)

/-- Read members up to the closing bracket, given the operation that waits for its right side and
the members of that side, last first. -/
def members? (fuel : Nat) (ignoreCase verbose : Bool) (waiting : Option (Operation × Bracketed))
    (items : List Bracketed) (cs : List Char) : Option (Bracketed × List Char) :=
  match fuel with
  | 0 => none
  | fuel + 1 =>
    let cs := skipBlanks verbose cs
    let left := combine ignoreCase waiting (ofItems items)
    match operation? cs with
    | some (op, rest) => members? fuel ignoreCase verbose (some (op, left)) [] rest
    | none =>
      match cs with
      | [] => none
      | ']' :: rest => some (left, rest)
      | '[' :: rest =>
        -- an opening bracket starts a class with a name or a set within the set
        match named? ignoreCase rest with
        | some (set, rest) => members? fuel ignoreCase verbose waiting (⟨set, 0⟩ :: items) rest
        | none => do
          let (inner, rest) ← readWithin? fuel ignoreCase verbose rest
          members? fuel ignoreCase verbose waiting (inner :: items) rest
      | cs => do
        let (set, rest) ← item? verbose cs
        members? fuel ignoreCase verbose waiting (⟨set, 0⟩ :: items) rest
end

/-- Read a set from behind its opening bracket. -/
def read? (ignoreCase verbose : Bool) (cs : List Char) : Option (Bracketed × List Char) :=
  readWithin? (2 * cs.length + 2) ignoreCase verbose cs

end Bracketed

end DualQuery.Regex
