import DualQuery.Text.Ranges

/-!
# Characters in bytes

`byteForms` gives the ways in which the characters of a set are written in UTF-8. Each way is a
range for every byte, and the bytes in these ranges may be combined freely, so that ranges of
characters are cut where a byte before the last one changes.
-/

namespace DualQuery.Text

/-- The ways to write characters: a range for each byte. -/
abbrev ByteForm := List (Nat × Nat)

/-- Cut a range of codes before one of them. -/
def cutBefore (code : Nat) (range : Nat × Nat) : List (Nat × Nat) :=
  if range.1 < code ∧ code ≤ range.2 then [(range.1, code - 1), (code, range.2)] else [range]

/-- Cut a range of codes so that each part holds only whole blocks of a size, or lies in one. -/
def cutBlocks (size : Nat) (range : Nat × Nat) : List (Nat × Nat) :=
  let (low, high) := range
  if low / size = high / size then [range]
  else
    let first := (low + size - 1) / size * size
    let behind := (high + 1) / size * size
    (if low < first then [(low, first - 1)] else []) ++
      (if first < behind then [(first, behind - 1)] else []) ++
      (if behind ≤ high then [(behind, high)] else [])

/-- Cut a range of codes so that each part is written in one way. -/
def cutForms (range : Nat × Nat) : List (Nat × Nat) :=
  let lengths := ((cutBefore 0x80 range).flatMap (cutBefore 0x800)).flatMap (cutBefore 0x10000)
  lengths.flatMap fun range =>
    if range.2 < 0x80 then [range]
    else ((cutBlocks 0x40 range).flatMap (cutBlocks 0x1000)).flatMap (cutBlocks 0x40000)

/-- The bytes of the character of a code. -/
def bytesOf (code : Nat) : List Nat := (String.utf8EncodeChar (Char.ofNat code)).map UInt8.toNat

/-- The ways to write the characters of ranges that are in order. -/
def byteForms (ranges : List (Nat × Nat)) : List ByteForm :=
  (ranges.flatMap cutForms).map fun range => (bytesOf range.1).zip (bytesOf range.2)

example : byteForms [(0x41, 0x5A), (0x3B1, 0x3C9)] =
    [[(0x41, 0x5A)], [(0xCE, 0xCE), (0xB1, 0xBF)], [(0xCF, 0xCF), (0x80, 0x89)]] := by cbv

end DualQuery.Text
