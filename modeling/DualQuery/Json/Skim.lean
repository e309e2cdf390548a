import DualQuery.Json.Number
import DualQuery.Json.Quoted

/-!
# Passing over JSON values

`Json.skim?` passes over a value that nobody asks for. Only its grammar counts: a number may be
out of the range of the doubles, a text may hold half a surrogate pair, and nesting has no limit,
because the brackets that are open are kept in a list.
-/

namespace DualQuery.Json

/-- Whether a character is one of the four blanks of the format. -/
def isSpace (c : Char) : Bool := c == ' ' || c == '\n' || c == '\t' || c == '\r'

/-- Drop leading blanks. -/
def skipSpace (cs : List Char) : List Char := cs.dropWhile isSpace

/-- Drop a word that the text must start with. -/
def dropWord? (word : List Char) (cs : List Char) : Option (List Char) :=
  if word.isPrefixOf cs then some (cs.drop word.length) else none

/-- Pass over a quoted text, from its first character through the closing quote. -/
def Quoted.skim? : List Char → Option (List Char)
  | '"' :: rest => some rest
  | '\\' :: 'u' :: a :: b :: c :: d :: rest =>
    if (Quoted.unit? a b c d).isSome then Quoted.skim? rest else none
  | '\\' :: c :: rest => if (Quoted.escape? c).isSome then Quoted.skim? rest else none
  | c :: rest => if c.toNat < 0x20 || c == '\\' then none else Quoted.skim? rest
  | [] => none

/-- Drop digits, of which there must be at least one. -/
def Number.dropDigits? (cs : List Char) : Option (List Char) :=
  if (cs.head?.any Char.isDigit) then some (cs.dropWhile Char.isDigit) else none

/-- Pass over the exponent of a number, if there is one. -/
def Number.skimExponent? : List Char → Option (List Char)
  | c :: cs =>
    if Number.isExponentMark c then
      match cs with
      | '+' :: cs => Number.dropDigits? cs
      | '-' :: cs => Number.dropDigits? cs
      | cs => Number.dropDigits? cs
    else some (c :: cs)
  | [] => some []

/-- Pass over a number. A whole part of several digits does not start with zero. -/
def Number.skim? (cs : List Char) : Option (List Char) :=
  let cs := match cs with
    | '-' :: cs => cs
    | cs => cs
  let whole := match cs with
    | '0' :: cs => if cs.head?.any Char.isDigit then none else some cs
    | cs => Number.dropDigits? cs
  whole.bind fun cs =>
    match cs with
    | '.' :: cs => (Number.dropDigits? cs).bind Number.skimExponent?
    | cs => Number.skimExponent? cs

/-- A bracket that is still open. -/
inductive Bracket where
  | array
  | object
  deriving DecidableEq, Repr

mutual
/-- Pass over a value and all that the open brackets still need. -/
def skimValue? (fuel : Nat) (brackets : List Bracket) (cs : List Char) : Option (List Char) :=
  match fuel with
  | 0 => none
  | fuel + 1 =>
    match skipSpace cs with
    | '"' :: rest =>
      match Quoted.skim? rest with
      | some rest => skimAfter? fuel brackets rest
      | none => none
    | '[' :: rest =>
      match skipSpace rest with
      | ']' :: rest => skimAfter? fuel brackets rest
      | rest => skimValue? fuel (.array :: brackets) rest
    | '\x7b' :: rest =>
      match skipSpace rest with
      | '\x7d' :: rest => skimAfter? fuel brackets rest
      | rest => skimEntry? fuel (.object :: brackets) rest
    | 'n' :: rest =>
      match dropWord? ['u', 'l', 'l'] rest with
      | some rest => skimAfter? fuel brackets rest
      | none => none
    | 't' :: rest =>
      match dropWord? ['r', 'u', 'e'] rest with
      | some rest => skimAfter? fuel brackets rest
      | none => none
    | 'f' :: rest =>
      match dropWord? ['a', 'l', 's', 'e'] rest with
      | some rest => skimAfter? fuel brackets rest
      | none => none
    | rest =>
      match Number.skim? rest with
      | some rest => skimAfter? fuel brackets rest
      | none => none

/-- Go on after a value: to the next one inside the innermost open bracket, or past it. -/
def skimAfter? (fuel : Nat) (brackets : List Bracket) (cs : List Char) : Option (List Char) :=
  match fuel, brackets with
  | 0, _ => none
  | _ + 1, [] => some cs
  | fuel + 1, .array :: outer =>
    match skipSpace cs with
    | ',' :: rest => skimValue? fuel (.array :: outer) rest
    | ']' :: rest => skimAfter? fuel outer rest
    | _ => none
  | fuel + 1, .object :: outer =>
    match skipSpace cs with
    | ',' :: rest => skimEntry? fuel (.object :: outer) rest
    | '\x7d' :: rest => skimAfter? fuel outer rest
    | _ => none

/-- Pass over an entry of an object and all that follows it. -/
def skimEntry? (fuel : Nat) (brackets : List Bracket) (cs : List Char) : Option (List Char) :=
  match fuel with
  | 0 => none
  | fuel + 1 =>
    match skipSpace cs with
    | '"' :: rest =>
      match Quoted.skim? rest with
      | some rest =>
        match skipSpace rest with
        | ':' :: rest => skimValue? fuel brackets rest
        | _ => none
      | none => none
    | _ => none
end

/-- Pass over a value. -/
def skim? (cs : List Char) : Option (List Char) := skimValue? (2 * cs.length + 2) [] cs

end DualQuery.Json
