import DualQuery.Pattern.Automaton
import DualQuery.Pattern.Bracketed

/-!
# Written regular expressions

`Regex.parse?` reads the written form: literals, escapes, `.`, `^`, `$`, groups, choices, sets of
characters, repetitions and flags. The text is cut into tokens, and each token is applied to a stack
of open groups. An expression may nest only so deep, and its automaton may not grow too large.
-/

namespace DualQuery.Regex

/-- The settings that a written expression may change for a part of itself. -/
structure Flags where
  ignoreCase : Bool := false
  /-- Whether `^` and `$` stand at every line. -/
  multiLine : Bool := false
  /-- Whether `.` takes the ends of lines too. -/
  dotAll : Bool := false
  /-- Whether blanks and comments count for nothing. -/
  verbose : Bool := false
  /-- Whether a carriage return ends a line too. -/
  carriageReturn : Bool := false
  deriving DecidableEq, Repr, Inhabited

/-- An expression that has been read, how deep it nests, and whether it may be repeated. -/
structure Part where
  regex : Regex
  depth : Nat := 0
  isRepeatable : Bool := true
  deriving Repr

/-- A token of a written expression. -/
inductive Token where
  | part (part : Part)
  /-- The start of a group with flags of its own. The group may capture, under a name or not. -/
  | openGroup (flags : Flags) (captures : Bool) (name : Option (List Char))
  | closeGroup
  | bar
  /-- At least so many repetitions, and at most so many where there is a bound. -/
  | repetition (least : Nat) (most : Option Nat)
  /-- Flags for the rest of the group. -/
  | setFlags (flags : Flags)
  deriving Repr

/-- Drop the mark of a repetition that prefers few; what is matched does not depend on it. -/
def dropLazy : List Char → List Char
  | '?' :: cs => cs
  | cs => cs

/-- Read a number of decimal digits with blanks around it. -/
def decimal (verbose : Bool) (cs : List Char) : List Char × List Char :=
  let cs := cs.dropWhile Text.isBlank
  let inNumber (c : Char) : Bool := c.isDigit || (verbose && Text.isBlank c)
  ((cs.takeWhile inNumber).filter Char.isDigit, (cs.dropWhile inNumber).dropWhile Text.isBlank)

/-- The value of decimal digits, below `2 ^ 32`. -/
def decimalValue? (digits : List Char) : Option Nat :=
  if digits.isEmpty then none
  else
    let value := digits.foldl (fun n c => n * 10 + (c.toNat - 48)) 0
    if value < 0x100000000 then some value else none

/-- Read the bounds of a repetition from behind the opening brace. -/
def counted? (verbose : Bool) (cs : List Char) : Option (Token × List Char) := do
  let (digits, rest) := decimal verbose (skipBlanks verbose cs)
  let least ← decimalValue? digits
  match rest with
  | ',' :: rest =>
    match skipBlanks verbose rest with
    | '\x7d' :: rest => return (.repetition least none, rest)
    | rest =>
      let (digits, rest) := decimal verbose rest
      let most ← decimalValue? digits
      match rest with
      | '\x7d' :: rest =>
        if most < least then none else return (.repetition least (some most), rest)
      | _ => none
  | '\x7d' :: rest => return (.repetition least (some least), rest)
  | _ => none

/-- Set one flag. The two flags that do not bear on what is matched are admitted. -/
def Flags.set? (flags : Flags) (value : Bool) (letter : Char) : Option Flags :=
  match letter with
  | 'i' => some ⟨value, flags.multiLine, flags.dotAll, flags.verbose, flags.carriageReturn⟩
  | 'm' => some ⟨flags.ignoreCase, value, flags.dotAll, flags.verbose, flags.carriageReturn⟩
  | 's' => some ⟨flags.ignoreCase, flags.multiLine, value, flags.verbose, flags.carriageReturn⟩
  | 'x' => some ⟨flags.ignoreCase, flags.multiLine, flags.dotAll, value, flags.carriageReturn⟩
  | 'R' => some ⟨flags.ignoreCase, flags.multiLine, flags.dotAll, flags.verbose, value⟩
  | 'U' | 'u' => some flags
  | _ => none

/-- Apply the letters of flags. Those behind a hyphen are cleared, each letter and the hyphen stand
at most once, and the hyphen is not the last. -/
def Flags.update? (flags : Flags) (letters : List Char) : Option Flags :=
  if !decide letters.Nodup || letters.getLast? == some '-' then none
  else do
    let on ← (letters.takeWhile (· ≠ '-')).foldlM (fun flags c => flags.set? true c) flags
    ((letters.dropWhile (· ≠ '-')).drop 1).foldlM (fun flags c => flags.set? false c) on

/-- Whether a text can be the name of a group. -/
def isGroupName : List Char → Bool
  | [] => false
  | c :: cs =>
    (c == '_' || Text.isAlphabetic c) &&
      cs.all fun c => c == '_' || c == '.' || c == '[' || c == ']' || Text.isAlphanumeric c

/-- Read the name of a group up to the closing angle bracket. -/
def groupName? (flags : Flags) (cs : List Char) : Option (Token × List Char) :=
  let name := cs.takeWhile (· ≠ '>')
  match cs.dropWhile (· ≠ '>') with
  | _ :: rest => if isGroupName name then some (.openGroup flags true (some name), rest) else none
  | [] => none

/-- Read the start of a group from behind its parenthesis. There is no looking around. -/
def group? (flags : Flags) (cs : List Char) : Option (Token × List Char) :=
  match skipBlanks flags.verbose cs with
  | '?' :: 'P' :: '<' :: rest => groupName? flags rest
  | '?' :: '<' :: rest => groupName? flags rest
  | '?' :: rest =>
    let isFlag (c : Char) : Bool := c != ':' && c != ')'
    match rest.dropWhile isFlag with
    | ':' :: behind =>
      (flags.update? (rest.takeWhile isFlag)).map fun flags => (.openGroup flags false none, behind)
    | _ :: behind =>
      if (rest.takeWhile isFlag).isEmpty then none
      else (flags.update? (rest.takeWhile isFlag)).map fun flags => (.setFlags flags, behind)
    | [] => none
  | rest => some (.openGroup flags true none, rest)

/-- What the point stands for. -/
def point (flags : Flags) : Regex :=
  if flags.dotAll then .oneOf (.complement .empty)
  else if flags.carriageReturn then .oneOf (.complement (.ofChars ['\n', '\r']))
  else .any

/-- What `^` stands for. -/
def lineStart (flags : Flags) : Anchor :=
  if flags.multiLine then if flags.carriageReturn then .returnLineStart else .lineStart else .start

/-- What `$` stands for. -/
def lineEnd (flags : Flags) : Anchor :=
  if flags.multiLine then if flags.carriageReturn then .returnLineEnd else .lineEnd else .finish

/-- The expression of a primitive. -/
def ofPrimitive (flags : Flags) : Primitive → Regex
  | .char c => .char flags.ignoreCase c
  | .set set => .oneOf set
  | .anchor a => .anchor a

/-- The first token of a text and the rest. -/
def next? (flags : Flags) : List Char → Option (Token × List Char)
  | [] => none
  | '(' :: cs => group? flags cs
  | ')' :: cs => some (.closeGroup, cs)
  | '|' :: cs => some (.bar, cs)
  | '*' :: cs => some (.repetition 0 none, dropLazy cs)
  | '+' :: cs => some (.repetition 1 none, dropLazy cs)
  | '?' :: cs => some (.repetition 0 (some 1), dropLazy cs)
  | '\x7b' :: cs =>
    (counted? flags.verbose cs).map fun (token, rest) =>
      (token, dropLazy (skipBlanks flags.verbose rest))
  | '[' :: cs =>
    (Bracketed.read? flags.ignoreCase flags.verbose cs).map fun (bracketed, rest) =>
      (.part ⟨.oneOf bracketed.set, bracketed.depth, true⟩, rest)
  | '\\' :: cs =>
    (Primitive.ofEscape? cs).map fun (primitive, rest) =>
      (.part ⟨ofPrimitive flags primitive, 0, true⟩, rest)
  | '.' :: cs => some (.part ⟨point flags, 0, true⟩, cs)
  | '^' :: cs => some (.part ⟨.anchor (lineStart flags), 0, true⟩, cs)
  | '$' :: cs => some (.part ⟨.anchor (lineEnd flags), 0, true⟩, cs)
  | c :: cs => some (.part ⟨.char flags.ignoreCase c, 0, true⟩, cs)

/-- An open group: the choices that are complete and the parts of the current one, both last
first. -/
structure Group where
  choices : List Part := []
  parts : List Part := []
  deriving Repr

/-- An open group around the current one. -/
structure Outer where
  group : Group
  /-- The flags to go back to. -/
  flags : Flags
  /-- Whether the group inside captures. -/
  captures : Bool
  deriving Repr

/-- What has been read so far. -/
structure State where
  flags : Flags
  group : Group := {}
  outer : List Outer := []
  /-- The names of groups. -/
  names : List (List Char) := []
  deriving Repr

/-- Join parts, the first one given apart; several of them nest one level deeper than the deepest of
them. -/
def join (op : Regex → Regex → Regex) (first : Part) : List Part → Part
  | [] => first
  | parts =>
    ⟨parts.foldl (fun r part => op r part.regex) first.regex,
      parts.foldl (fun depth part => max depth part.depth) first.depth + 1, true⟩

/-- The expression of parts that stand one after the other, given last first. -/
def ofParts (parts : List Part) : Part :=
  match parts.reverse with
  | [] => ⟨.empty, 0, true⟩
  | part :: parts => join .seq part parts

/-- The expression of a group. -/
def Group.close (group : Group) : Part :=
  match (ofParts group.parts :: group.choices).reverse with
  | [] => ⟨.empty, 0, true⟩
  | choice :: choices => join .alt choice choices

/-- Add a part to a group. -/
def Group.push (group : Group) (part : Part) : Group := ⟨group.choices, part :: group.parts⟩

/-- Repeat the last part of a group. -/
def Group.repeatLast? (group : Group) (least : Nat) (most : Option Nat) : Option Group :=
  match group.parts with
  | part :: parts =>
    if part.isRepeatable then
      some ⟨group.choices, ⟨.times least most part.regex, part.depth + 1, true⟩ :: parts⟩
    else none
  | [] => none

/-- Apply a token. -/
def State.push? (state : State) : Token → Option State
  | .part part => some ⟨state.flags, state.group.push part, state.outer, state.names⟩
  | .openGroup flags captures name =>
    if name.any state.names.contains then none
    else
      some ⟨flags, {}, ⟨state.group, state.flags, captures⟩ :: state.outer,
        name.toList ++ state.names⟩
  | .closeGroup =>
    match state.outer with
    | outer :: rest =>
      let inner := state.group.close
      let part : Part := ⟨.group outer.captures inner.regex, inner.depth + 1, true⟩
      -- flags that were set inside the group end with it
      some ⟨outer.flags, outer.group.push part, rest, state.names⟩
    | [] => none
  | .bar =>
    let choice := ofParts state.group.parts
    some ⟨state.flags, ⟨choice :: state.group.choices, []⟩, state.outer, state.names⟩
  | .repetition least most =>
    (state.group.repeatLast? least most).map fun group =>
      ⟨state.flags, group, state.outer, state.names⟩
  | .setFlags flags =>
    some ⟨flags, state.group.push ⟨.empty, 0, false⟩, state.outer, state.names⟩

/-- Apply the tokens of a text, of which there are fewer than `fuel`. -/
def State.run? : Nat → State → List Char → Option State
  | 0, _, _ => none
  | fuel + 1, state, cs =>
    match skipBlanks state.flags.verbose cs with
    | [] => some state
    | cs => do
      let (token, rest) ← next? state.flags cs
      State.run? fuel (← state.push? token) rest

/-- The deepest nesting. -/
def maxDepth : Nat := 250

/-- Read a written expression. -/
def parse? (ignoreCase : Bool) (s : String) : Option Regex := do
  let cs := s.toList
  let flags : Flags := ⟨ignoreCase, false, false, false, false⟩
  let state ← State.run? (cs.length + 1) ⟨flags, {}, [], []⟩ cs
  let part := state.group.close
  if state.outer.isEmpty && part.depth ≤ maxDepth && part.regex.fits then some part.regex else none

end DualQuery.Regex
