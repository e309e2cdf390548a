import DualQuery.Json.Basic

/-!
# Numbers of JSON texts

An integer that fits sixty-four bits is read exactly, save that `-0` is the negative zero of the
doubles. Any other number is read as a double from a significand of sixty-four bits and a power of
ten: digits that no longer fit the significand only count towards the exponent, and the power is
applied by one rounded multiplication or division for each step of at most 308 places.
-/

namespace DualQuery.Json.Number

open DualQuery

/-- The largest significand. -/
def maxSignificand : Nat := 0xFFFFFFFFFFFFFFFF

/-- The largest decimal exponent that is read; beyond it only zero has a value. -/
def maxExponent : Nat := 0x7FFFFFFF

/-- The value of a decimal digit. -/
def digitValue (c : Char) : Nat := c.toNat - 48

/-- The leading digits of a text and the rest. -/
def spanDigits (cs : List Char) : List Nat × List Char :=
  ((cs.takeWhile Char.isDigit).map digitValue, cs.dropWhile Char.isDigit)

/-- Add digits to a significand as long as they fit; the digits that do not are returned. -/
def accumulate (significand : Nat) : List Nat → Nat × List Nat
  | [] => (significand, [])
  | d :: ds =>
    if maxSignificand < significand * 10 + d then (significand, d :: ds)
    else accumulate (significand * 10 + d) ds

/-- Ten to a power, as a double. -/
def powerOfTen (n : Nat) : Binary64 := .ofNat (Nat.pow 10 n)

/-- Apply a negative power of ten to a double. -/
def scaleDown (x : Binary64) (places : Nat) : Binary64 :=
  if h : places ≤ 308 then x.div (powerOfTen places)
  else if x.magnitude = 0 then x
  else scaleDown (x.div (powerOfTen 308)) (places - 308)
termination_by places

/-- Apply a power of ten to a significand; `none` when the result is out of range. -/
def ofParts? (significand : Nat) (exponent : Int) : Option Binary64 :=
  let x := Binary64.ofNat significand
  if exponent < 0 then some (scaleDown x exponent.natAbs)
  else if exponent ≤ 308 then
    let y := x.mul (powerOfTen exponent.natAbs)
    if y.isFinite then some y else none
  else if significand = 0 then some x
  else none

/-- The mark and digits of an exponent: its sign, its value and the rest of the text. The value of
an exponent past `maxExponent` is `none`. -/
def exponent? : List Char → Option (Bool × Option Nat × List Char)
  | cs =>
    let (negative, cs) := match cs with
      | '+' :: cs => (false, cs)
      | '-' :: cs => (true, cs)
      | cs => (false, cs)
    let (digits, rest) := spanDigits cs
    if digits.isEmpty then none
    else
      let value := digits.foldl (fun n d => n * 10 + d) 0
      some (negative, if value ≤ maxExponent then some value else none, rest)

/-- Whether a character opens an exponent. -/
def isExponentMark (c : Char) : Bool := c == 'e' || c == 'E'

/-- The magnitude of a number whose significand and decimal places have been read, with a possible
exponent still to come. -/
def finish? (significand : Nat) (places : Int) (cs : List Char) : Option (Binary64 × List Char) :=
  match cs with
  | c :: cs =>
    if isExponentMark c then do
      let (negative, value, rest) ← exponent? cs
      match value with
      | some value =>
        let x ← ofParts? significand (if negative then places - value else places + value)
        return (x, rest)
      | none => if significand = 0 ∨ negative then return (.zero, rest) else none
    else do
      let x ← ofParts? significand places
      return (x, c :: cs)
  | [] => do
    let x ← ofParts? significand places
    return (x, [])

/-- The magnitude of a number from its fraction on. -/
def fraction? (significand : Nat) (places : Int) (cs : List Char) :
    Option (Binary64 × List Char) :=
  let (digits, rest) := spanDigits cs
  if digits.isEmpty then none
  else
    let (significand, excess) := accumulate significand digits
    finish? significand (places - (digits.length - excess.length : Nat)) rest

/-- Give a magnitude its sign. -/
def signed (negative : Bool) (x : Binary64) : Binary64 := if negative then x.neg else x

/-- The number that a significand without fraction and exponent stands for. -/
def ofSignificand (negative : Bool) (significand : Nat) : Number :=
  if negative then
    if significand = 0 ∨ 0x8000000000000000 < significand then
      .float (Binary64.ofNat significand).neg
    else .int (-significand)
  else .int significand

/-- Read a number that starts with the given text, its sign already taken. -/
def unsigned? (negative : Bool) (cs : List Char) : Option (Number × List Char) := do
  let (digits, rest) := spanDigits cs
  if digits.isEmpty then none
  -- no number but 0 itself starts with 0
  else if digits.head? = some 0 ∧ 1 < digits.length then none
  else
    let (significand, excess) := accumulate 0 digits
    let float (result : Option (Binary64 × List Char)) : Option (Number × List Char) :=
      result.map fun (x, rest) => (.float (signed negative x), rest)
    match rest with
    | c :: cs =>
      if c = '.' then float (fraction? significand excess.length cs)
      -- all digits fit into the significand, and neither a fraction nor an exponent follows
      else if excess.isEmpty && !isExponentMark c then
        some (ofSignificand negative significand, rest)
      else float (finish? significand excess.length rest)
    | [] =>
      if excess.isEmpty then some (ofSignificand negative significand, [])
      else float (finish? significand excess.length [])

/-- Read a number and return the rest of the text. -/
def read? : List Char → Option (Number × List Char)
  | '-' :: cs => unsigned? true cs
  | cs => unsigned? false cs

end DualQuery.Json.Number
