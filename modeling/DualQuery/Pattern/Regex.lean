import DualQuery.Pattern.CharSet
import DualQuery.Text.Word

/-!
# Regular expressions

`Regex.accepts` searches a text for a match anywhere. The search keeps the set of places that a part
of the expression can reach, a place being what is left of the text from there on and the character
before it; the rests of one text differ in length, so places are compared by length.
-/

namespace DualQuery

/-- A demand on what stands at a place, before and after it. -/
inductive Anchor where
  /-- The start of the text. -/
  | start
  /-- The end of the text. -/
  | finish
  | lineStart
  | lineEnd
  /-- The start of a line, where a carriage return ends a line too. -/
  | returnLineStart
  | returnLineEnd
  /-- A place where a word starts or ends. -/
  | wordBoundary
  | noWordBoundary
  | wordStart
  | wordEnd
  /-- A place that no word reaches from before. -/
  | wordStartHalf
  /-- A place that no word reaches from behind. -/
  | wordEndHalf
  deriving Repr, Inhabited, DecidableEq

/-- A regular expression. -/
inductive Regex where
  /-- The empty text. -/
  | empty
  /-- One given character, or a case variant of it where case is ignored. -/
  | char (ignoreCase : Bool) (c : Char)
  /-- Any character but the line feed. -/
  | any
  /-- A character of a set. -/
  | oneOf (set : CharSet)
  /-- The empty text at certain places. -/
  | anchor (anchor : Anchor)
  /-- One expression after the other. -/
  | seq (first second : Regex)
  /-- Either of two expressions. -/
  | alt (first second : Regex)
  /-- At least so many repetitions, and at most so many where there is a bound. -/
  | times (least : Nat) (most : Option Nat) (body : Regex)
  /-- A part in parentheses, whose match may be captured. It matches as its body does. -/
  | group (captures : Bool) (body : Regex)
  deriving Repr, Inhabited, DecidableEq

/-- Whether a character before or after a place belongs to a word. -/
def Anchor.inWord (c : Option Char) : Bool := c.any Text.isWord

/-- Whether an anchor allows a place, given the characters before and after it. -/
def Anchor.allows (anchor : Anchor) (before after : Option Char) : Bool :=
  match anchor with
  | start => before.isNone
  | finish => after.isNone
  | lineStart => before.all (· == '\n')
  | lineEnd => after.all (· == '\n')
  | returnLineStart =>
    before.all (· == '\n') || (before == some '\r' && after != some '\n')
  | returnLineEnd =>
    after.all (· == '\r') || (after == some '\n' && before != some '\r')
  | wordBoundary => inWord before != inWord after
  | noWordBoundary => inWord before == inWord after
  | wordStart => !inWord before && inWord after
  | wordEnd => inWord before && !inWord after
  | wordStartHalf => !inWord before
  | wordEndHalf => !inWord after

namespace Regex

open Text

/-- Any number of repetitions. -/
def star (body : Regex) : Regex := times 0 none body

/-- A place of a text. -/
structure Place where
  /-- The character before the place, none at the start of the text. -/
  before : Option Char
  /-- What is left of the text. -/
  rest : List Char
  deriving Repr, DecidableEq

/-- Whether two places of one text are the same. -/
def Place.same (a b : Place) : Bool := a.rest.length == b.rest.length

/-- Whether a place is among others. -/
def Place.isAmong (place : Place) (places : List Place) : Bool := places.any place.same

/-- The places of `first` and those of `second` that are not among them. -/
def mergePlaces (first second : List Place) : List Place :=
  first ++ second.filter fun place => !place.isAmong first

/-- The places reached from `frontier` by at most so many steps, added to those in `reached`. -/
def closure (step : List Place → List Place) : Nat → List Place → List Place → List Place
  | 0, _, reached => reached
  | fuel + 1, frontier, reached =>
    let fresh := (step frontier).filter fun place => !place.isAmong reached
    if fresh.isEmpty then reached else closure step fuel fresh (reached ++ fresh)

/-- The places reached by exactly so many steps. A step that changes nothing is the last one worth
taking. -/
def iterate (step : List Place → List Place) : Nat → List Place → List Place
  | 0, places => places
  | n + 1, places =>
    let next := step places
    if next.isEmpty || next == places then next else iterate step n next

/-- The place after one character that passes a test. -/
def afterChar (test : Char → Bool) (place : Place) : Option Place :=
  match place.rest with
  | c :: rest => if test c then some ⟨some c, rest⟩ else none
  | [] => none

/-- The places reached by matching an expression from each of the given places, in a text of `total`
characters. -/
def advance (total : Nat) : Regex → List Place → List Place
  | empty, places => places
  | char ignoreCase c, places => places.filterMap (afterChar (sameChar ignoreCase c))
  | any, places => places.filterMap (afterChar (· != '\n'))
  | oneOf set, places => places.filterMap (afterChar set.contains)
  | anchor a, places => places.filter fun place => a.allows place.before place.rest.head?
  | seq first second, places => advance total second (advance total first places)
  | alt first second, places =>
    mergePlaces (advance total first places) (advance total second places)
  | times least most body, places =>
    let step := advance total body
    let base := iterate step least places
    -- a place can be reached by as many rounds as there are places, so more of them change nothing
    let more := match most with
      | some most => most - least
      | none => total + 1
    closure step (min more (total + 1)) base base
  | group _ body, places => advance total body places

/-- All places of a text from a given one on. -/
def placesFrom (before : Option Char) : List Char → List Place
  | [] => [⟨before, []⟩]
  | c :: cs => ⟨before, c :: cs⟩ :: placesFrom (some c) cs

/-- Whether an expression matches somewhere in a text. -/
def accepts (regex : Regex) (text : List Char) : Bool :=
  !(advance text.length regex (placesFrom none text)).isEmpty

end Regex

end DualQuery
