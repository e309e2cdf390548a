import DualQuery.Decimal.Shortest

/-!
# Written forms of numbers

A `Style` says how a number is written once its shortest digits are known: where positional notation
ends, whether a whole number keeps `.0`, which way ties go and what stands for the infinities. Two
styles are used: `Style.json` in JSON texts and `Style.plain` where a value is shown to a reader.
-/

namespace DualQuery.Decimal

open DualQuery

/-- The decisions of a written form. -/
structure Style where
  tie : Tie
  /-- Positions of the decimal point, counted from the first digit, that are written positionally;
  `none` means all of them. -/
  positional : Option (Int × Int)
  /-- Whether a whole number ends in `.0`. -/
  keepPoint : Bool
  /-- The texts for the positive and the negative infinity. -/
  infinities : String × String
  /-- The text for a word that is no number. -/
  nan : String

/-- In JSON texts a point stands up to four places before and sixteen places after the first digit,
and what has no number is written `null`. -/
def Style.json : Style := ⟨.toEven, some (-4, 16), true, ("null", "null"), "null"⟩

/-- To a reader a number is shown positionally, a whole number without a point. -/
def Style.plain : Style := ⟨.up, none, false, ("inf", "-inf"), "NaN"⟩

/-- A run of zeros. -/
def zeros (n : Nat) : String := String.ofList (List.replicate n '0')

/-- Digits with the decimal point after `point` of them. -/
def positionalText (keepPoint : Bool) (digits : List Char) (point : Int) : String :=
  let count := digits.length
  if point ≤ 0 then "0." ++ zeros (-point).toNat ++ String.ofList digits
  else if point.toNat < count then
    String.ofList (digits.take point.toNat) ++ "." ++ String.ofList (digits.drop point.toNat)
  else String.ofList digits ++ zeros (point.toNat - count) ++ (if keepPoint then ".0" else "")

/-- Digits with a point after the first and a signed exponent. -/
def scientificText (digits : List Char) (point : Int) : String :=
  let exponent := point - 1
  let tail := digits.drop 1
  String.ofList (digits.take 1) ++ (if tail.isEmpty then "" else "." ++ String.ofList tail) ++
    (if exponent < 0 then "e-" else "e+") ++ toString exponent.natAbs

/-- A finite number without its sign. -/
def Style.magnitudeText (style : Style) (x : Binary64) : String :=
  if x.magnitude = 0 then if style.keepPoint then "0.0" else "0"
  else
    let s := shortest style.tie x
    let digits := Nat.toDigits 10 s.digits
    let point := (digits.length : Int) + s.exponent
    match style.positional with
    | none => positionalText style.keepPoint digits point
    | some (low, high) =>
      if low ≤ point ∧ point ≤ high then positionalText style.keepPoint digits point
      else scientificText digits point

/-- The written form of a number. -/
def Style.text (style : Style) (x : Binary64) : String :=
  if x.isNaN then style.nan
  else if x.isFinite then (if x.isNegative then "-" else "") ++ style.magnitudeText x
  else if x.isNegative then style.infinities.2
  else style.infinities.1

end DualQuery.Decimal
