/-!
# Quoted texts of JSON

`Quoted.encode` writes the characters of a text between quotes, escaping quotes, backslashes and
control characters. `Quoted.decode` reads them back up to the closing quote; it knows every escape
of the format, pairs of surrogates included, and refuses raw control characters and lone surrogates.
-/

namespace DualQuery.Json.Quoted

/-- A hexadecimal digit in lower case. -/
def hexDigit (n : Nat) : Char := (Nat.toDigits 16 (n % 16)).headD '0'

/-- The written form of one character between quotes. -/
def encodeChar (c : Char) : List Char :=
  if c = '"' then ['\\', '"']
  else if c = '\\' then ['\\', '\\']
  else if c = '\x08' then ['\\', 'b']
  else if c = '\x0c' then ['\\', 'f']
  else if c = '\n' then ['\\', 'n']
  else if c = '\r' then ['\\', 'r']
  else if c = '\t' then ['\\', 't']
  else if c.toNat < 0x20 then ['\\', 'u', '0', '0', hexDigit (c.toNat / 16), hexDigit c.toNat]
  else [c]

/-- The written form of a text, without the quotes. -/
def encode (cs : List Char) : List Char := cs.flatMap encodeChar

/-- The value of a hexadecimal digit of either case. -/
def hexValue? (c : Char) : Option Nat :=
  if '0' ≤ c ∧ c ≤ '9' then some (c.toNat - 48)
  else if 'a' ≤ c ∧ c ≤ 'f' then some (c.toNat - 87)
  else if 'A' ≤ c ∧ c ≤ 'F' then some (c.toNat - 55)
  else none

/-- The value of four hexadecimal digits. -/
def unit? (a b c d : Char) : Option Nat := do
  let a ← hexValue? a
  let b ← hexValue? b
  let c ← hexValue? c
  let d ← hexValue? d
  return ((a * 16 + b) * 16 + c) * 16 + d

/-- The character of a one-letter escape. -/
def escape? (c : Char) : Option Char :=
  if c = '"' ∨ c = '\\' ∨ c = '/' then some c
  else if c = 'b' then some '\x08'
  else if c = 'f' then some '\x0c'
  else if c = 'n' then some '\n'
  else if c = 'r' then some '\r'
  else if c = 't' then some '\t'
  else none

/-- Whether a code unit opens a surrogate pair. -/
def isHigh (n : Nat) : Bool := 0xD800 ≤ n && n < 0xDC00

/-- Whether a code unit closes a surrogate pair. -/
def isLow (n : Nat) : Bool := 0xDC00 ≤ n && n < 0xE000

/-- Read up to the closing quote; the characters and what follows the quote. -/
def decode : List Char → Option (List Char × List Char)
  | '"' :: rest => some ([], rest)
  | '\\' :: 'u' :: a :: b :: c :: d :: '\\' :: 'u' :: e :: f :: g :: h :: rest => do
    let first ← unit? a b c d
    if isHigh first then
      let second ← unit? e f g h
      if isLow second then
        let code := 0x10000 + (first - 0xD800) * 0x400 + (second - 0xDC00)
        let (cs, rest) ← decode rest
        return (Char.ofNat code :: cs, rest)
      else none
    else if isLow first then none
    else
      -- the first unit is a character by itself, so the second escape is read anew
      let (cs, rest) ← decode ('\\' :: 'u' :: e :: f :: g :: h :: rest)
      return (Char.ofNat first :: cs, rest)
  | '\\' :: 'u' :: a :: b :: c :: d :: rest => do
    let first ← unit? a b c d
    if isHigh first || isLow first then none
    else
      let (cs, rest) ← decode rest
      return (Char.ofNat first :: cs, rest)
  | '\\' :: c :: rest => do
    let c ← escape? c
    let (cs, rest) ← decode rest
    return (c :: cs, rest)
  | c :: rest =>
    if c.toNat < 0x20 || c == '\\' then none
    else do
      let (cs, rest) ← decode rest
      return (c :: cs, rest)
  | [] => none
termination_by cs => cs.length

end DualQuery.Json.Quoted
