import DualQuery.Pattern.Regex

/-!
# Normal forms of regular expressions

`Regex.normal` joins literals that stand side by side, makes one set of choices that are characters
or sets, moves what all choices start with in front of them, and drops what matches nothing but the
empty text without asking for anything. A normal form matches what its expression matches; its
automaton is what the size of an expression is measured by.
-/

namespace DualQuery.Regex

/-- A regular expression in normal form. -/
inductive Normal where
  | empty
  /-- A text of at least one character. -/
  | literal (text : List Char)
  /-- A character of a set, which is given by ranges in order and has no or several members. -/
  | set (ranges : List (Nat × Nat))
  | anchor (anchor : Anchor)
  | times (least : Nat) (most : Option Nat) (body : Normal)
  | capture (body : Normal)
  /-- One expression after the other. The first one is no sequence. -/
  | seq (first rest : Normal)
  /-- A choice of expressions that are not all literals. The first one is no choice. -/
  | alt (first rest : Normal)
  /-- A choice of literals. -/
  | words (texts : List (List Char))
  deriving Repr, Inhabited, DecidableEq

namespace Normal

/-- A character of a set. -/
def ofRanges (ranges : List (Nat × Nat)) : Normal :=
  match ranges with
  | [(low, high)] => if low = high then literal [Char.ofNat low] else set ranges
  | ranges => set ranges

/-- A character of a set. -/
def ofSet (set : CharSet) : Normal := ofRanges (Text.characterRanges set.members)

/-- A character, or a case variant of it where case is ignored. -/
def ofChar (ignoreCase : Bool) (c : Char) : Normal :=
  if ignoreCase then ofSet (.ofChars (Text.caseVariants c)) else literal [c]

/-- One expression after the other. -/
def append : Normal → Normal → Normal
  | empty, rest => rest
  | seq first second, rest => first.append (second.append rest)
  | literal text, literal more => literal (text ++ more)
  | literal text, seq (literal more) rest => seq (literal (text ++ more)) rest
  | first, empty => first
  | first, rest => seq first rest

/-- The expressions that stand one after the other. -/
def factors : Normal → List Normal
  | seq first rest => first :: rest.factors
  | last => [last]

/-- The expressions that are chosen from. -/
def choices : Normal → List Normal
  | alt first rest => first.choices ++ rest.choices
  | words texts => texts.map literal
  | single => [single]

/-- Whether an expression matches nothing but the empty text. -/
def isEmptyOnly : Normal → Bool
  | empty | anchor _ => true
  | literal _ | set _ | words _ => false
  | times _ _ body | capture body => body.isEmptyOnly
  | seq first rest | alt first rest => first.isEmptyOnly && rest.isEmptyOnly

/-- Repetitions of an expression. The empty text need not be repeated. -/
def repetition (least : Nat) (most : Option Nat) (body : Normal) : Normal :=
  let least := if body.isEmptyOnly then min least 1 else least
  let most := if body.isEmptyOnly then some (min (most.getD 1) 1) else most
  if most = some 0 then empty
  else if least = 1 ∧ most = some 1 then body
  else times least most body

/-! ## Choices -/

/-- The text of a literal. -/
def text? : Normal → Option (List Char)
  | literal text => some text
  | _ => none

/-- The code of a literal of one character. -/
def code? : Normal → Option Nat
  | literal [c] => some c.toNat
  | _ => none

/-- The ranges of a set. -/
def ranges? : Normal → Option (List (Nat × Nat))
  | set ranges => some ranges
  | _ => none

/-- The expressions of a sequence. -/
def factors? : Normal → Option (List Normal)
  | seq first rest => some (first :: rest.factors)
  | _ => none

/-- What two lists start with. -/
def commonStart {α : Type} [DecidableEq α] : List α → List α → List α
  | a :: as, b :: bs => if a = b then a :: commonStart as bs else []
  | _, _ => []

/-- A set instead of a choice of characters, or of a choice of sets. -/
def setOf? (items : List Normal) : Option Normal :=
  match items.mapM code? with
  | some codes => some (ofRanges (Text.joined (codes.map fun code => (code, code))))
  | none => (items.mapM ranges?).map fun ranges => ofRanges (Text.joined ranges.flatten)

/-- What several sequences start with, if they all start alike. -/
def sharedStart? (items : List Normal) : Option (List Normal) := do
  match ← items.mapM factors? with
  | first :: rest =>
    match rest.foldl commonStart first with
    | [] => none
    | start => some start
  | [] => none

/-- A choice of expressions that is left as it is. -/
def ofChoices (items : List Normal) : Normal :=
  match items.mapM text?, items.reverse with
  | some texts, _ => words texts
  | none, last :: rest => rest.foldl (fun choice item => alt item choice) last
  | none, [] => set []

/-- A choice of expressions, none of which is a choice. What they all start with is moved in front
of the choice of the rests, at most so many times. -/
def choice : Nat → List Normal → Normal
  | _, [item] => item
  | 0, items => ofChoices items
  | fuel + 1, items =>
    match setOf? items, sharedStart? items with
    | some chars, _ => chars
    | none, some start =>
      let rests := items.map fun item => (item.factors.drop start.length).foldr append empty
      start.foldr append (choice fuel (rests.flatMap choices))
    | none, none => ofChoices items

/-- How many expressions are nested in an expression. -/
def weight : Normal → Nat
  | empty | literal _ | set _ | anchor _ | words _ => 1
  | times _ _ body | capture body => body.weight + 1
  | seq first rest | alt first rest => first.weight + rest.weight + 1

/-- The normal form of a choice that has been read. Moving a start makes the choices lighter. -/
def closed (normal : Normal) : Normal :=
  match normal with
  | alt first rest => choice (normal.weight + 1) ((alt first rest).choices)
  | normal => normal

end Normal

/-- The normal form of an expression followed by another one. Choices are closed by the group around
them. -/
def normalBefore : Regex → Normal → Normal
  | empty, rest => rest
  | char ignoreCase c, rest => (Normal.ofChar ignoreCase c).append rest
  | any, rest => (Normal.ofSet (.complement (.single '\n'))).append rest
  | oneOf set, rest => (Normal.ofSet set).append rest
  | anchor a, rest => (Normal.anchor a).append rest
  | seq first second, rest => first.normalBefore (second.normalBefore rest)
  | alt first second, rest =>
    (Normal.alt (first.normalBefore .empty) (second.normalBefore .empty)).append rest
  | times least most body, rest =>
    (Normal.repetition least most (body.normalBefore .empty).closed).append rest
  | group captures body, rest =>
    let inner := (body.normalBefore .empty).closed
    (if captures then Normal.capture inner else inner).append rest

/-- The normal form of an expression. -/
def normal (regex : Regex) : Normal := (regex.normalBefore .empty).closed

end DualQuery.Regex
