/-!
# Written natural numbers

Decimal numerals of sixty-four bits, with an optional plus sign and any number of leading zeros.
-/

namespace DualQuery.Text

/-- The number of a decimal numeral; `none` when it is none or does not fit sixty-four bits. -/
def word? (s : String) : Option Nat :=
  let digits := match s.toList with
    | '+' :: digits => digits
    | digits => digits
  if digits.isEmpty || !digits.all Char.isDigit then none
  else
    let n := digits.foldl (fun n c => n * 10 + (c.toNat - 48)) 0
    if n < 0x10000000000000000 then some n else none

example : word? "0012" = some 12 ∧ word? "+7" = some 7 ∧ word? "" = none := by decide

end DualQuery.Text
