import DualQuery.Pattern.Regex
import DualQuery.Text.Blank

/-!
# Escapes

`Regex.escapeChars` writes a text so that it is read as itself. `Primitive.ofEscape?` reads what
follows a backslash: punctuation, control characters, codes of characters, the sets of digits,
blanks and characters of words, and anchors.
-/

namespace DualQuery

namespace Regex

/-- Whether a character must be escaped to stand for itself. -/
def isMeta (c : Char) : Bool := "\\.+*?()|[]\x7b\x7d^$#&-~".toList.contains c

/-- The written form of a text of literal characters. -/
def escapeChars (cs : List Char) : List Char :=
  cs.flatMap fun c => if isMeta c then ['\\', c] else [c]

/-- Drop leading blanks and comments, which count for nothing in an expression that is written over
several lines. A comment ends with its line. -/
def dropComments : Bool → List Char → List Char
  | _, [] => []
  | true, c :: cs => dropComments (c != '\n') cs
  | false, c :: cs =>
    if Text.isBlank c then dropComments false cs
    else if c = '#' then dropComments true cs
    else c :: cs

/-- Drop what counts for nothing before a part of an expression. -/
def skipBlanks (verbose : Bool) (cs : List Char) : List Char :=
  if verbose then dropComments false cs else cs

end Regex

/-- A part of an expression that is no group and no repetition. -/
inductive Primitive where
  | char (c : Char)
  | set (set : CharSet)
  | anchor (anchor : Anchor)
  deriving Repr

namespace CharSet

/-- The decimal digits of all scripts. -/
def digit : CharSet := .ranges Text.decimalRanges

/-- The blank characters. -/
def blank : CharSet :=
  .ranges [(9, 13), (0x20, 0x20), (0x85, 0x85), (0xA0, 0xA0), (0x1680, 0x1680), (0x2000, 0x200A),
    (0x2028, 0x2029), (0x202F, 0x202F), (0x205F, 0x205F), (0x3000, 0x3000)]

/-- The characters of words. -/
def word : CharSet :=
  .ranges ([(0x41, 0x5A), (0x61, 0x7A)] ++ Text.alphabeticRanges ++ Text.decimalRanges ++
    Text.wordMarkRanges)

end CharSet

namespace Primitive

/-- The value of a hexadecimal digit. -/
def hexValue? (c : Char) : Option Nat :=
  if '0' ≤ c ∧ c ≤ '9' then some (c.toNat - 48)
  else if 'a' ≤ c ∧ c ≤ 'f' then some (c.toNat - 87)
  else if 'A' ≤ c ∧ c ≤ 'F' then some (c.toNat - 55)
  else none

/-- The character with a code in hexadecimal digits. -/
def ofHex? (digits : List Char) : Option Primitive := do
  let values ← digits.mapM hexValue?
  if values.isEmpty then none
  else
    let code := values.foldl (fun n d => n * 16 + d) 0
    if code.isValidChar then some (.char (Char.ofNat code)) else none

/-- Read the code of a character: so many hexadecimal digits, or any number of them in braces. -/
def ofCode? (count : Nat) : List Char → Option (Primitive × List Char)
  | '\x7b' :: cs =>
    match cs.dropWhile (· ≠ '\x7d') with
    | _ :: rest => (ofHex? (cs.takeWhile (· ≠ '\x7d'))).map (·, rest)
    | [] => none
  | cs => if cs.length < count then none else (ofHex? (cs.take count)).map (·, cs.drop count)

/-- Whether a character may stand in the name of a boundary. -/
def inBoundaryName (c : Char) : Bool := c.isAlpha || c == '-'

/-- Read a boundary of words, which may have a name in braces. -/
def ofBoundary? : List Char → Option (Primitive × List Char)
  | '\x7b' :: c :: cs =>
    if inBoundaryName c then
      match (c :: cs).dropWhile inBoundaryName with
      | '\x7d' :: rest =>
        match String.ofList ((c :: cs).takeWhile inBoundaryName) with
        | "start" => some (.anchor .wordStart, rest)
        | "end" => some (.anchor .wordEnd, rest)
        | "start-half" => some (.anchor .wordStartHalf, rest)
        | "end-half" => some (.anchor .wordEndHalf, rest)
        | _ => none
      | _ => none
    else some (.anchor .wordBoundary, '\x7b' :: c :: cs)
  | '\x7b' :: [] => none
  | cs => some (.anchor .wordBoundary, cs)

/-- Read an escape from behind its backslash. -/
def ofEscape? : List Char → Option (Primitive × List Char)
  | [] => none
  | c :: cs =>
    match c with
    | 'x' => ofCode? 2 cs
    | 'u' => ofCode? 4 cs
    | 'U' => ofCode? 8 cs
    | 'd' => some (.set .digit, cs)
    | 'D' => some (.set (.complement .digit), cs)
    | 's' => some (.set .blank, cs)
    | 'S' => some (.set (.complement .blank), cs)
    | 'w' => some (.set .word, cs)
    | 'W' => some (.set (.complement .word), cs)
    | 'a' => some (.char '\x07', cs)
    | 'f' => some (.char '\x0c', cs)
    | 't' => some (.char '\t', cs)
    | 'n' => some (.char '\n', cs)
    | 'r' => some (.char '\r', cs)
    | 'v' => some (.char '\x0b', cs)
    | 'A' => some (.anchor .start, cs)
    | 'z' => some (.anchor .finish, cs)
    | 'b' => ofBoundary? cs
    | 'B' => some (.anchor .noWordBoundary, cs)
    | '<' => some (.anchor .wordStart, cs)
    | '>' => some (.anchor .wordEnd, cs)
    | c => if c.toNat < 0x80 ∧ !c.isAlphanum then some (.char c, cs) else none

end Primitive

end DualQuery
