import DualQuery.Sql.Keyword
import DualQuery.Text.Blank
import DualQuery.Text.Numeric

/-!
# Tokens of SQL texts

`tokens?` cuts a text into words, literals, numbers, placeholders and symbols. Blanks and comments
separate tokens and are dropped. There is no result where a quoted word, a literal or a comment is
not closed.
-/

namespace DualQuery.Sql

/-- A token. -/
inductive Token where
  /-- A keyword or a name; one in quotes is never a keyword. -/
  | word (text : String) (quote : Option Char)
  /-- A literal in single quotes. -/
  | literal (text : String)
  /-- A literal in which a backslash escapes the next character. -/
  | escaped (text : String)
  /-- A literal of another kind, by the letter in front of its quotes; a dollar for one that stands
  between dollars. -/
  | special (kind : Char)
  /-- A number; a long one is marked by an L. -/
  | number (text : String) (isLong : Bool)
  | placeholder
  | symbol (text : String)
  deriving DecidableEq, Repr, Inhabited

/-! ## Words -/

/-- Whether a word can start with a character. -/
def startsWord (c : Char) : Bool := Text.isAlphabetic c || c == '_' || c == '#' || c == '@'

/-- Whether a word can go on with a character. -/
def continuesWord (c : Char) : Bool := startsWord c || c.isDigit || c == '$'

/-- The word that starts with the given characters, and the rest of the text. -/
def wordFrom (start cs : List Char) : Token × List Char :=
  (.word (String.ofList (start ++ cs.takeWhile continuesWord)) none, cs.dropWhile continuesWord)

/-! ## Quotes -/

/-- The characters up to a closing quote, and what follows the quote. A doubled quote stands for
one. -/
def untilQuote? (quote : Char) : List Char → Option (List Char × List Char)
  | [] => none
  | c :: cs =>
    if c = quote then
      match cs with
      | d :: ds =>
        if d = quote then (untilQuote? quote ds).map fun (inner, rest) => (quote :: inner, rest)
        else some ([], cs)
      | [] => some ([], [])
    else (untilQuote? quote cs).map fun (inner, rest) => (c :: inner, rest)

/-- The character that an escape stands for. -/
def escapedChar (c : Char) : Char :=
  match c with
  | 'n' => '\n'
  | 'r' => '\r'
  | 't' => '\t'
  | c => c

/-- The characters up to the closing quote of a literal in which a backslash escapes the next
character, and what follows the quote. -/
def untilEscapedQuote? : List Char → Option (List Char × List Char)
  | [] => none
  | '\\' :: c :: cs =>
    (untilEscapedQuote? cs).map fun (inner, rest) => (escapedChar c :: inner, rest)
  | '\'' :: '\'' :: cs => (untilEscapedQuote? cs).map fun (inner, rest) => ('\'' :: inner, rest)
  | '\'' :: cs => some ([], cs)
  | c :: cs => (untilEscapedQuote? cs).map fun (inner, rest) => (c :: inner, rest)

/-- What follows the first two dollars in a row. -/
def afterDollars? : List Char → Option (List Char)
  | [] => none
  | '$' :: '$' :: cs => some cs
  | _ :: cs => afterDollars? cs

/-- The token that starts with a dollar, given what stands behind that: a literal between pairs of
dollars, a literal between two equal tags in dollars, which holds no dollar itself, or a
placeholder. -/
def dollar? (cs : List Char) : Option (Token × List Char) :=
  let inTag (c : Char) : Bool := Text.isAlphanumeric c || c == '_'
  match cs.takeWhile inTag, cs.dropWhile inTag with
  | [], '$' :: rest => (afterDollars? rest).map fun rest => (.special '$', rest)
  | tag, '$' :: rest =>
    let closing := '$' :: tag ++ ['$']
    let behind := rest.dropWhile (· ≠ '$')
    if closing.isPrefixOf behind then some (.special '$', behind.drop closing.length) else none
  | _, rest => some (.placeholder, rest)

/-- The quote that opens a literal behind a letter, with what follows it. -/
def prefixed? (letter : Char) : List Char → Option (Char × List Char)
  | '\'' :: cs =>
    if ['b', 'e', 'n', 'r', 'x'].contains letter.toLower then some ('\'', cs) else none
  | '"' :: cs => if ['b', 'r'].contains letter.toLower then some ('"', cs) else none
  | _ => none

/-! ## Comments -/

/-- What follows a comment that may hold comments, of which some are open, given the character
before it. -/
def afterComment? : Nat → Char → List Char → Option (List Char)
  | 0, _, cs => some cs
  | _ + 1, _, [] => none
  | depth + 1, previous, c :: cs =>
    if previous = '/' ∧ c = '*' then afterComment? (depth + 2) c cs
    else if previous = '*' ∧ c = '/' then afterComment? depth c cs
    else afterComment? (depth + 1) c cs

/-! ## Numbers -/

/-- Whether a character is a hexadecimal digit. -/
def isHexDigit (c : Char) : Bool :=
  c.isDigit || ('a' ≤ c && c ≤ 'f') || ('A' ≤ c && c ≤ 'F')

/-- The exponent at the start of a text; empty where there is none. -/
def exponent : List Char → List Char
  | [] => []
  | e :: cs =>
    if e == 'e' || e == 'E' then
      let sign := match cs with
        | '+' :: _ => ['+']
        | '-' :: _ => ['-']
        | _ => []
      let digits := (cs.drop sign.length).takeWhile Char.isDigit
      if digits.isEmpty then [] else e :: sign ++ digits
    else []

/-- The number that a text starts with, which is a digit or a point before a digit, and the rest.
Hexadecimal digits make a literal. -/
def number (cs : List Char) : Token × List Char :=
  match cs with
  | '0' :: 'x' :: rest => (.special 'x', rest.dropWhile isHexDigit)
  | cs =>
    let whole := cs.takeWhile Char.isDigit
    let fraction := match cs.drop whole.length with
      | '.' :: rest => '.' :: rest.takeWhile Char.isDigit
      | _ => []
    let mantissa := whole ++ fraction
    let text := mantissa ++ exponent (cs.drop mantissa.length)
    match cs.drop text.length with
    | 'L' :: rest => (.number (String.ofList text) true, rest)
    | rest => (.number (String.ofList text) false, rest)

/-! ## Symbols -/

/-- Symbols of several characters, longer ones first. -/
def longSymbols : List String :=
  ["->>", "<=>", "!~*", "||/", "<=", "<>", ">=", "!=", "==", "=>", "||", "::", ":=", "->", "<<",
   ">>", "//", "|/", "~*", "!~", "!!", "<@", "&&"]

/-- A symbol at the start of a text. -/
def symbol? (cs : List Char) : Option (Token × List Char) :=
  match longSymbols.find? fun s => s.toList.isPrefixOf cs with
  | some s => some (.symbol s, cs.drop s.length)
  | none =>
    match cs with
    | c :: rest => some (.symbol (String.singleton c), rest)
    | [] => none

/-- What starts with a hash, given what stands behind it: a symbol, or a word with any character in
second place. -/
def hash : List Char → Token × List Char
  | '-' :: cs => (.symbol "#-", cs)
  | '>' :: '>' :: cs => (.symbol "#>>", cs)
  | '>' :: cs => (.symbol "#>", cs)
  | ' ' :: cs => (.symbol "#", ' ' :: cs)
  | c :: cs => wordFrom ['#', c] cs
  | [] => (.symbol "#", [])

/-- What starts with an at sign, given what stands behind it: a symbol, or a word with any character
in second place, or in third place behind a second at sign. -/
def atSign : List Char → Token × List Char
  | '>' :: cs => (.symbol "@>", cs)
  | '?' :: cs => (.symbol "@?", cs)
  | '@' :: ' ' :: cs => (.symbol "@@", ' ' :: cs)
  | '@' :: c :: cs => wordFrom ['@', '@', c] cs
  | '@' :: [] => (.symbol "@@", [])
  | ' ' :: cs => (.symbol "@", ' ' :: cs)
  | c :: cs => wordFrom ['@', c] cs
  | [] => (.symbol "@", [])

/-! ## Texts -/

/-- What a character that no mark sets apart starts, given what stands behind it. -/
def plain? (c : Char) (cs : List Char) : Option (Token × List Char) :=
  match prefixed? c cs with
  | some (quote, inner) =>
    if c.toLower = 'e' then
      (untilEscapedQuote? inner).map fun (inner, rest) => (.escaped (String.ofList inner), rest)
    else (untilQuote? quote inner).map fun (_, rest) => (.special c.toLower, rest)
  | none =>
    if startsWord c then some (wordFrom [c] cs)
    else if c.isDigit then some (number (c :: cs))
    else symbol? (c :: cs)

/-- What the start of a text is: nothing to keep, or a token. With it goes the rest of the text. -/
def next? : List Char → Option (Option Token × List Char)
  | [] => none
  | '-' :: '-' :: cs => some (none, cs.dropWhile (· ≠ '\n'))
  | '/' :: '*' :: cs => (afterComment? 1 ' ' cs).map fun rest => (none, rest)
  | '\'' :: cs =>
    (untilQuote? '\'' cs).map fun (inner, rest) => (some (.literal (String.ofList inner)), rest)
  | '$' :: cs => (dollar? cs).map fun (token, rest) => (some token, rest)
  | '?' :: cs => some (some .placeholder, cs.dropWhile Text.isNumeric)
  | '#' :: cs => some (some (hash cs).1, (hash cs).2)
  | '@' :: cs => some (some (atSign cs).1, (atSign cs).2)
  | '.' :: d :: cs =>
    if d.isDigit then some (some (number ('.' :: d :: cs)).1, (number ('.' :: d :: cs)).2)
    else some (some (.symbol "."), d :: cs)
  | c :: cs =>
    if Text.isBlank c then some (none, cs)
    else if c == '"' || c == '\x60' then
      (untilQuote? c cs).map fun (inner, rest) =>
        (some (.word (String.ofList inner) (some c)), rest)
    else (plain? c cs).map fun (token, rest) => (some token, rest)

/-- The tokens of a text. -/
def tokens? (cs : List Char) : Option (List Token) :=
  match cs with
  | [] => some []
  | c :: cs =>
    match next? (c :: cs) with
    | some (token, rest) =>
      if rest.length < cs.length + 1 then (tokens? rest).map (token.toList ++ ·) else none
    | none => none
termination_by cs.length

end DualQuery.Sql
