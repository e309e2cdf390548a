import DualQuery.Pattern.Normal
import DualQuery.Text.Utf8

/-!
# The room of an automaton

A regular expression is recognised by an automaton that reads the bytes of a text, and by one that
reads them backwards. Counted repetitions are copies in it, so that a short expression may have a
large automaton. `Regex.fits` says whether both automata of an expression fit into `maxRoom` bytes;
their room is added up without building them.
-/

namespace DualQuery.Regex

open Text (ByteForm)

/-- The most room of an automaton. -/
def maxRoom : Nat := 10 * 1024 * 1024

/-- The room of a state. -/
def stateRoom : Nat := 32

/-- The room of a step from a state to another one by a range of bytes. -/
def stepRoom : Nat := 8

/-- The room of a reference to another state that costs no byte. -/
def forkRoom : Nat := 4

/-- A state with two references. -/
def branchRoom : Nat := stateRoom + 2 * forkRoom

/-! ## Sets -/

/-- The states between the first byte of some forms and the last one: what may still follow there.
Forms that go on alike share a state. -/
def formStates : Nat → List ByteForm → List (List ByteForm)
  | 0, _ => []
  | length + 1, forms =>
    if forms.all List.isEmpty then []
    else
      let groups := forms.splitBy fun a b => a.head? == b.head?
      forms :: groups.flatMap fun group => formStates length (group.map List.tail)

/-- The room of the states for a set of characters. -/
def formsRoom (forms : List ByteForm) : Nat :=
  let states := (formStates 4 forms).eraseDups
  let steps := states.map fun forms => (forms.splitBy fun a b => a.head? == b.head?).length
  steps.foldl (fun room count => room + stateRoom + stepRoom * count) stateRoom

/-- How many bytes of some forms are read anew, where a form shares with the one before it what both
start with. -/
def newBytes (previous : ByteForm) : List ByteForm → Nat
  | [] => 0
  | form :: rest => form.length - (Normal.commonStart previous form).length + newBytes form rest

/-- The room of the states for a set of characters that is read backwards: a chain of states for
each form. -/
def reversedFormsRoom (forms : List ByteForm) : Nat :=
  2 * stateRoom + forkRoom * forms.length + stateRoom * newBytes [] forms

/-- The room of a set of characters. -/
def setRoom (reversed : Bool) (ranges : List (Nat × Nat)) : Nat :=
  if ranges.all fun range => range.2 < 0x80 then 2 * stateRoom + stepRoom * ranges.length
  else if reversed then reversedFormsRoom (Text.byteForms ranges)
  else formsRoom (Text.byteForms ranges)

/-! ## Words -/

/-- The bytes of a text. -/
def textBytes (text : List Char) : List Nat := text.flatMap fun c => Text.bytesOf c.toNat

/-- The words between the empty words of a list, which end where a word is complete. -/
def segments : List (List Nat) → List (List (List Nat))
  | [] => [[]]
  | [] :: words => [] :: segments words
  | (byte :: word) :: words =>
    match segments words with
    | segment :: rest => ((byte :: word) :: segment) :: rest
    | [] => [[byte :: word]]

/-- Empty words at the start of a list count as one. -/
def firstEmptyOnce : List (List Nat) → List (List Nat)
  | [] :: words => [] :: words.dropWhile List.isEmpty
  | words => words

/-- The room of the tree of words whose states are shared by words that start alike, given a bound
on their length. A state that is left by no byte is the end of all words. -/
def treeRoom : Nat → List (List Nat) → Nat
  | 0, _ => 0
  | length + 1, words =>
    if words.all List.isEmpty then 0
    else
      let found := segments (firstEmptyOnce words)
      let steps := found.map fun segment => (segment.filterMap List.head?).eraseDups
      let own := steps.map fun bytes =>
        match bytes with
        | [] => 0
        | [_] => stateRoom
        | bytes => stateRoom + stepRoom * bytes.length
      -- a fork stands where words go apart and where one ends in front of others
      let forks := (steps.filter fun bytes => !bytes.isEmpty).length + (found.length - 1)
      let deeper := found.flatMap fun segment =>
        ((segment.filterMap List.head?).eraseDups).map fun byte =>
          treeRoom length ((segment.filter fun word => word.head? == some byte).map List.tail)
      own.sum + stateRoom + forkRoom * forks + deeper.sum

/-- The room of a choice of texts. -/
def wordsRoom (reversed : Bool) (texts : List (List Char)) : Nat :=
  let words := texts.map fun text =>
    if reversed then (textBytes text).reverse else textBytes text
  stateRoom + treeRoom (words.foldl (fun n word => max n word.length) 0 + 1) words

/-! ## Expressions -/

namespace Normal

/-- The length of the shortest match, which an expression does not have where it cannot match. -/
def shortest? : Normal → Option Nat
  | empty | anchor _ => some 0
  | literal text => some text.length
  | set ranges => if ranges.isEmpty then none else some 1
  | words texts => (texts.map List.length).min?
  | times least _ body => body.shortest?.map (least * ·)
  | capture body => body.shortest?
  | seq first rest => do return (← first.shortest?) + (← rest.shortest?)
  | alt first rest => do return min (← first.shortest?) (← rest.shortest?)

/-- Whether an expression takes at least one character wherever it matches. -/
def isConsuming (normal : Normal) : Bool := normal.shortest?.any (0 < ·)

/-- The room of repetitions, given the room of the body and whether that takes at least one
character. -/
def timesRoom (least : Nat) (most : Option Nat) (body : Nat) (isConsuming : Bool) : Nat :=
  match least, most with
  | 0, none => if isConsuming then body + branchRoom else body + 2 * branchRoom + stateRoom
  | least, none => least * body + branchRoom
  | 0, some 1 => body + branchRoom + stateRoom
  | least, some most =>
    let copies := if least = 0 then stateRoom else least * body
    if least = most then copies else copies + stateRoom + (most - least) * (body + branchRoom)

/-- Whether a normal form is a choice. -/
def isAlt : Normal → Bool
  | alt _ _ => true
  | _ => false

/-- The room of an expression. What it captures is marked by two states, but not backwards. -/
def room (reversed : Bool) : Normal → Nat
  | empty | anchor _ => stateRoom
  | literal text => stateRoom * (textBytes text).length
  | set ranges => setRoom reversed ranges
  | words texts => wordsRoom reversed texts
  | times least most body => timesRoom least most (body.room reversed) body.isConsuming
  | capture body => if reversed then body.room reversed else 2 * stateRoom + body.room reversed
  | seq first rest => first.room reversed + rest.room reversed
  | alt first rest =>
    let behind := if rest.isAlt then 0 else forkRoom + 2 * stateRoom
    first.room reversed + forkRoom + rest.room reversed + behind

/-- Whether every match of an expression starts at a place that an anchor allows, as far as the
expression shows. -/
def startsAt (a : Anchor) : Normal → Bool
  | anchor b => a == b
  | empty | literal _ | set _ | words _ => false
  | times least _ body => 0 < least && body.startsAt a
  | capture body => body.startsAt a
  | seq first rest => first.startsAt a || (first.isEmptyOnly && rest.startsAt a)
  | alt first rest => first.startsAt a && rest.startsAt a

/-- Whether every match of an expression ends at a place that an anchor allows, as far as the
expression shows. -/
def endsAt (a : Anchor) : Normal → Bool
  | anchor b => a == b
  | empty | literal _ | set _ | words _ => false
  | times least _ body => 0 < least && body.endsAt a
  | capture body => body.endsAt a
  | seq first rest => rest.endsAt a || (rest.isEmptyOnly && first.endsAt a)
  | alt first rest => first.endsAt a && rest.endsAt a

/-- The room of what an automaton passes over to find a match: nothing where matches are found at
one end of the text only, and otherwise any number of bytes. -/
def searchRoom (isAnchored : Bool) : Nat :=
  if isAnchored then stateRoom else branchRoom + 2 * stateRoom + stepRoom

/-- The room of the automaton that searches for an expression. The match as a whole is captured. -/
def forwardRoom (normal : Normal) : Nat :=
  searchRoom (normal.startsAt .start) + (capture normal).room false + stateRoom

/-- The room of the automaton that reads backwards. -/
def backwardRoom (normal : Normal) : Nat :=
  searchRoom (normal.endsAt .finish) + (capture normal).room true + stateRoom

end Normal

/-- Whether the automata of an expression fit into the room for them. -/
def fits (regex : Regex) : Bool :=
  let normal := regex.normal
  normal.forwardRoom ≤ maxRoom && normal.backwardRoom ≤ maxRoom

end DualQuery.Regex
