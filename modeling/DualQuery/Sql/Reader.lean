import DualQuery.Sql.Query
import DualQuery.Sql.Token

/-!
# Readers of SQL tokens

A reader takes tokens from the front of a list. Repetition is bounded by the number of tokens, and
nesting by the readers that a reader is given: those of `Inner` read what lies one level deeper,
and those that `Level` adds read the operands of one level.
-/

namespace DualQuery.Sql

/-- A reader of tokens. It keeps count of the levels of nesting that have been refused, see `enter`;
that count outlives a failure. -/
abbrev Reader (α : Type) := StateT (List Token) (OptionT (StateM Nat)) α

namespace Reader

/-! ## Words and symbols -/

/-- The first token. -/
def peek? : Reader (Option Token) := do return (← get).head?

/-- The first token, taken away. -/
def take : Reader Token := do
  match ← get with
  | token :: rest => set rest; return token
  | [] => failure

/-- The keyword that a token is, in capitals. -/
def keyword? : Option Token → Option String
  | some (.word text none) => some (inCapitals text)
  | _ => none

/-- Take a keyword if it comes first. -/
def takeKeyword (keyword : String) : Reader Bool := do
  if keyword? (← peek?) == some keyword then
    discard take
    return true
  else return false

/-- Take some keywords if all of them come first. -/
def takeKeywords (keywords : List String) : Reader Bool := do
  let tokens ← get
  if (tokens.take keywords.length).map (fun token => keyword? (some token)) ==
      keywords.map some then
    set (tokens.drop keywords.length)
    return true
  else return false

/-- Take one of some keywords if one comes first. -/
def takeOneOf (keywords : List String) : Reader (Option String) := do
  match keyword? (← peek?) with
  | some keyword =>
    if keywords.contains keyword then
      discard take
      return some keyword
    else return none
  | none => return none

/-- Take a symbol if it comes first. -/
def takeSymbol (text : String) : Reader Bool := do
  if (← peek?) == some (.symbol text) then
    discard take
    return true
  else return false

/-- A keyword must come first. -/
def expectKeyword (keyword : String) : Reader Unit := do
  if !(← takeKeyword keyword) then failure

/-- A symbol must come first. -/
def expectSymbol (text : String) : Reader Unit := do
  if !(← takeSymbol text) then failure

/-- Take one of some rows of keywords if one comes first. -/
def takeOneRow (rows : List (List String)) : Reader Bool := rows.anyM takeKeywords

/-- One of some keywords must come first. -/
def expectOneOf (keywords : List String) : Reader Unit := do
  if (← takeOneOf keywords).isNone then failure

/-- The keywords must come first. -/
def expectKeywords (keywords : List String) : Reader Unit := do
  if !(← takeKeywords keywords) then failure

/-- Whether a symbol comes first. -/
def comesSymbol (text : String) : Reader Bool := do return (← peek?) == some (.symbol text)

/-! ## Names and values -/

/-- A name; literals count as names here. -/
def ident : Reader Ident := do
  match ← take with
  | .word text quote => return ⟨text, quote⟩
  | .literal text => return ⟨text, some '\''⟩
  | _ => failure

/-- Whether a word is no keyword. -/
def isName (text : String) (quote : Option Char) : Bool := quote.isSome || !isKeyword text

/-- A text: a literal, or a word that is no keyword. -/
def literalText : Reader String := do
  match ← take with
  | .literal text | .escaped text => return text
  | .word text quote => if isName text quote then return text else failure
  | _ => failure

/-- A text of one byte. -/
def literalChar : Reader Unit := do
  if (← literalText).utf8ByteSize ≠ 1 then failure

/-- A whole number below `2 ^ 64`. -/
def wholeNumber : Reader Unit := do
  match ← take with
  | .number text _ =>
    let digits := text.toList
    if !digits.all Char.isDigit then failure
    if 0x10000000000000000 ≤ digits.foldl (fun n c => n * 10 + (c.toNat - 48)) 0 then failure
  | _ => failure

/-- What kind of value has been read. -/
inductive ValueKind where
  | text
  | number
  | placeholder
  | other
  deriving DecidableEq, Repr

/-- Keywords that stand for themselves as values. -/
def valueWords : List String := ["TRUE", "FALSE", "NULL", "LOCATION", "TYPE", "DATE"]

/-- A value that is no expression: a literal, a number, a placeholder or a word that is no keyword.
A placeholder may also be a word or a number that is not long, behind a colon or an at sign. -/
def value : Reader ValueKind := do
  match ← take with
  | .number _ _ => return .number
  | .literal _ => return .text
  | .escaped _ | .special _ => return .other
  | .placeholder => return .placeholder
  | .word _ (some quote) => if quote = '"' then return .text else failure
  | .word text none =>
    if valueWords.contains (inCapitals text) || !isKeyword text then return .other else failure
  | .symbol ":" | .symbol "@" =>
    match ← take with
    | .word _ _ | .number _ false => return .placeholder
    | _ => failure
  | _ => failure

/-- A number or a placeholder. -/
def numberValue : Reader Unit := do
  match ← value with
  | .number | .placeholder => return
  | _ => failure

/-! ## Repetition -/

/-- Repeat a step as long as it gives something, at most a number of times. -/
def repeatUpTo {α : Type} (step : α → Reader (Option α)) : Nat → α → Reader α
  | 0, a => return a
  | n + 1, a => do
    match ← step a with
    | some next => repeatUpTo step n next
    | none => return a

/-- Repeat a step as long as it gives something. Every round takes a token, so their number is
bounded by the number of tokens. -/
def repeatStep {α : Type} (step : α → Reader (Option α)) (a : α) : Reader α := do
  repeatUpTo step ((← get).length + 1) a

/-- Items separated by commas, at least one. -/
def commaList {α : Type} (item : Reader α) : Reader (List α) := do
  let first ← item
  repeatStep (fun items => do
    if ← takeSymbol "," then return some (items ++ [← item]) else return none) [first]

/-- The part between parentheses. -/
def parenthesized {α : Type} (inner : Reader α) : Reader α := do
  expectSymbol "("
  let a ← inner
  expectSymbol ")"
  return a

/-- A part between parentheses, where an opening one comes first. -/
def optionalParentheses (inner : Reader Unit) : Reader Unit := do
  if ← takeSymbol "(" then
    inner
    expectSymbol ")"

/-- Items between parentheses, where an opening one comes first. There may be none, and a comma may
stand behind the last one. -/
def optionalItems (item : Reader Unit) : Reader Unit := do
  if ← takeSymbol "(" then
    if !(← takeSymbol ")") then
      repeatStep (fun _ => do
        item
        let goesOn ← takeSymbol ","
        if ← takeSymbol ")" then return none
        else if goesOn then return some ()
        else failure) ()

/-- A part that stands only where a keyword comes first. -/
def behindKeyword (keyword : String) (inner : Reader Unit) : Reader Unit := do
  if ← takeKeyword keyword then inner

/-- Names between parentheses. -/
def identList : Reader Unit := discard (parenthesized (commaList ident))

/-- Names between parentheses, where an opening one comes first. -/
def optionalIdentList : Reader Unit := do
  if ← comesSymbol "(" then identList

/-- A dotted name. -/
def objectName : Reader ObjectName := do
  let first ← ident
  repeatStep (fun parts => do
    if ← takeSymbol "." then return some (parts ++ [← ident]) else return none) [first]

/-- Names of objects separated by commas. -/
def objectNames : Reader Unit := discard (commaList objectName)

/-- A check that an object exists, if one comes first. -/
def ifExists : Reader Unit := discard (takeKeywords ["IF", "EXISTS"])

/-- A check that an object does not exist, if one comes first. -/
def ifNotExists : Reader Unit := discard (takeKeywords ["IF", "NOT", "EXISTS"])

/-- Options in parentheses behind a keyword, if it comes first. -/
def options (keyword : String) : Reader Unit :=
  behindKeyword keyword <| discard <| parenthesized <| commaList do
    discard ident
    expectSymbol "="
    discard value

/-- Repeat a reader as long as it can be taken. -/
def repeatAny (inner : Reader Unit) : Reader Unit :=
  repeatStep (fun _ => (do inner; return some ()) <|> return none) ()

/-- A part, where it can be taken. -/
def optionally (inner : Reader Unit) : Reader Unit := inner <|> return

/-! ## Nesting -/

/-- The most levels of nesting. -/
def maxDepth : Nat := 50

/-- Enter a level, given how many are open around it. A level is refused where the open ones and
those refused so far come to the most there may be. Where a refusal ends in another way to read the
text, the sum may pass that number, and behind it no level is refused. -/
def enter (depth : Nat) : Reader Unit := do
  if depth + (← getThe Nat) = maxDepth then
    modifyThe Nat (· + 1)
    failure

/-- The readers of what lies one level deeper. -/
structure Inner where
  /-- An expression. -/
  anyExpr : Reader Expr
  query : Reader Query
  statement : Reader Statement

/-- The readers that the parts of an expression, a query or a statement are given. Those of operands
read on the same level. -/
structure Level extends Inner where
  /-- An expression of operators that bind closer than a rank. -/
  expr : Nat → Reader Expr
  /-- An expression without AND, OR and XOR outside of parentheses. -/
  span : Reader Expr

/-- Statements separated by semicolons, up to END behind a statement. -/
def Inner.statements (inner : Inner) : Reader (List Statement) :=
  repeatStep (fun found => do
    let isSeparated ← repeatStep (fun _ => do
      if ← takeSymbol ";" then return some true else return none) found.isEmpty
    if (← peek?).isNone then return none
    else if isSeparated then return some (found ++ [← inner.statement])
    else if keyword? (← peek?) == some "END" then return none
    else failure) []

end Reader

end DualQuery.Sql
