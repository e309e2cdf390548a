import DualQuery.Json.Writer
import DualQuery.Proofs.ShortestDecimal

/-!
# Texts of numbers

`decimalOf` reads a written magnitude back as a rational number: digits with a point and an
exponent. In the style of JSON texts it gives the shortest decimal of the number, which determines
the number up to its sign, and the sign is written in front. A double always shows a point or an
exponent mark and an integer never does, so the text of a number of a JSON value determines the
number.

## Key results

- `written_magnitudeText`: a magnitude is written as its shortest decimal
- `Binary64.eq_of_text`: the text determines a finite double
- `Json.Number.text_injective`: the text determines a number of a JSON value
-/

namespace DualQuery

namespace Decimal

/-! ## Reading a magnitude back -/

/-- The number that digits before and after a point stand for. -/
def mantissa (whole fraction : List Char) : ℚ :=
  (Nat.ofDigitChars 10 (whole ++ fraction) 0 : Nat) / 10 ^ fraction.length

/-- The exponent at the end of a magnitude, zero where none is written. -/
def exponentOf : List Char → Int
  | 'e' :: '-' :: digits => -(Nat.ofDigitChars 10 digits 0 : Nat)
  | 'e' :: '+' :: digits => (Nat.ofDigitChars 10 digits 0 : Nat)
  | _ => 0

/-- Where nothing is written the exponent is zero. -/
@[simp] theorem exponentOf_nil : exponentOf [] = 0 := rfl

/-- The number that a written magnitude stands for. -/
def decimalOf (cs : List Char) : ℚ :=
  match cs.dropWhile Char.isDigit with
  | '.' :: rest =>
    mantissa (cs.takeWhile Char.isDigit) (rest.takeWhile Char.isDigit) *
      10 ^ exponentOf (rest.dropWhile Char.isDigit)
  | rest => mantissa (cs.takeWhile Char.isDigit) [] * 10 ^ exponentOf rest

section Reading

variable {whole fraction tail : List Char}

/-- Digits end where a text goes on with something else. -/
theorem takeWhile_isDigit_append (hw : ∀ c ∈ whole, c.isDigit = true)
    (ht : tail.head?.all (!·.isDigit) = true) :
    (whole ++ tail).takeWhile Char.isDigit = whole := by
  rw [List.takeWhile_append_of_pos hw]
  cases tail with
  | nil => simp
  | cons c tail =>
    simp only [List.head?_cons, Option.all_some, Bool.not_eq_true'] at ht
    simp [ht]

/-- What stands behind the digits. -/
theorem dropWhile_isDigit_append (hw : ∀ c ∈ whole, c.isDigit = true)
    (ht : tail.head?.all (!·.isDigit) = true) :
    (whole ++ tail).dropWhile Char.isDigit = tail := by
  rw [List.dropWhile_append_of_pos hw]
  cases tail with
  | nil => rfl
  | cons c tail =>
    simp only [List.head?_cons, Option.all_some, Bool.not_eq_true'] at ht
    simp [ht]

/-- Digits on both sides of a point are read with the exponent behind them. -/
theorem decimalOf_point (hw : ∀ c ∈ whole, c.isDigit = true)
    (hf : ∀ c ∈ fraction, c.isDigit = true) (ht : tail.head?.all (!·.isDigit) = true) :
    decimalOf (whole ++ '.' :: (fraction ++ tail)) =
      mantissa whole fraction * 10 ^ exponentOf tail := by
  have hpoint : ('.' :: (fraction ++ tail)).head?.all (!·.isDigit) = true := rfl
  rw [decimalOf, dropWhile_isDigit_append hw hpoint, takeWhile_isDigit_append hw hpoint]
  change mantissa whole ((fraction ++ tail).takeWhile Char.isDigit) *
    10 ^ exponentOf ((fraction ++ tail).dropWhile Char.isDigit) = _
  rw [takeWhile_isDigit_append hf ht, dropWhile_isDigit_append hf ht]

/-- Digits in front of an exponent mark are read with the exponent. -/
theorem decimalOf_mark (hw : ∀ c ∈ whole, c.isDigit = true) :
    decimalOf (whole ++ 'e' :: tail) = mantissa whole [] * 10 ^ exponentOf ('e' :: tail) := by
  have hmark : ('e' :: tail).head?.all (!·.isDigit) = true := rfl
  rw [decimalOf, dropWhile_isDigit_append hw hmark, takeWhile_isDigit_append hw hmark]
  rfl

end Reading

/-! ## Written magnitudes -/

/-- The written form of an exponent. -/
def exponentText (exponent : Int) : List Char :=
  'e' :: (if exponent < 0 then '-' else '+') :: Nat.toDigits 10 exponent.natAbs

/-- The forms in which the magnitude of a double is written, with what they stand for: digits with a
point, with an exponent or with both. -/
inductive Written : List Char → ℚ → Prop
  | point {whole fraction : List Char} (hne : whole ≠ [])
      (hw : ∀ c ∈ whole, c.isDigit = true) (hf : ∀ c ∈ fraction, c.isDigit = true) :
      Written (whole ++ '.' :: fraction) (mantissa whole fraction)
  | mark {whole : List Char} (exponent : Int) (hne : whole ≠ [])
      (hw : ∀ c ∈ whole, c.isDigit = true) :
      Written (whole ++ exponentText exponent) (mantissa whole [] * 10 ^ exponent)
  | both {whole fraction : List Char} (exponent : Int) (hne : whole ≠ [])
      (hw : ∀ c ∈ whole, c.isDigit = true) (hf : ∀ c ∈ fraction, c.isDigit = true) :
      Written (whole ++ '.' :: (fraction ++ exponentText exponent))
        (mantissa whole fraction * 10 ^ exponent)

/-- Whether a character may stand in the text of a number. -/
def isNumeric (c : Char) : Bool := c.isDigit || c == '-' || c == '+' || c == '.' || c == 'e'

/-- A digit may stand in a number. -/
theorem isNumeric_of_isDigit {c : Char} (h : c.isDigit = true) : isNumeric c = true := by
  simp [isNumeric, h]

/-- The digits of a number are digits. -/
theorem isDigit_of_mem_toDigits_ten {c : Char} {n : Nat} (h : c ∈ Nat.toDigits 10 n) :
    c.isDigit = true := Nat.isDigit_of_mem_toDigits (by decide) (by decide) h

/-- An exponent is read back. -/
theorem exponentOf_exponentText (exponent : Int) :
    exponentOf (exponentText exponent) = exponent := by
  rw [exponentText]
  split
  · rw [exponentOf, Nat.ofDigitChars_ten_toDigits]
    omega
  · rw [exponentOf, Nat.ofDigitChars_ten_toDigits]
    omega

/-- The characters of an exponent may stand in a number. -/
theorem isNumeric_of_mem_exponentText {exponent : Int} {c : Char} (h : c ∈ exponentText exponent) :
    isNumeric c = true := by
  rw [exponentText, List.mem_cons, List.mem_cons] at h
  rcases h with rfl | rfl | h
  · rfl
  · split <;> rfl
  · exact isNumeric_of_isDigit (isDigit_of_mem_toDigits_ten h)

namespace Written

variable {cs : List Char} {value : ℚ}

/-- What is written for a number is read as the number. -/
theorem decimalOf_eq (h : Written cs value) : decimalOf cs = value := by
  -- the three forms differ in what is absent: an exponent, a point, or neither
  cases h with
  | point hne hw hf =>
    have hread := decimalOf_point hw hf (rfl : ([] : List Char).head?.all (!·.isDigit) = true)
    rwa [List.append_nil, exponentOf_nil, zpow_zero, mul_one] at hread
  | mark exponent hne hw =>
    rw [exponentText, decimalOf_mark hw, ← exponentText, exponentOf_exponentText]
  | both exponent hne hw hf =>
    rw [decimalOf_point hw hf rfl, exponentOf_exponentText]

/-- A written magnitude starts with a digit. -/
theorem exists_head (h : Written cs value) : ∃ c tail, cs = c :: tail ∧ c.isDigit = true := by
  cases h with
  | point hne hw hf | mark exponent hne hw | both exponent hne hw hf =>
    obtain ⟨c, others, rfl⟩ := List.exists_cons_of_ne_nil hne
    exact ⟨c, _, rfl, hw c List.mem_cons_self⟩

/-- Some character of a written magnitude is not a digit. -/
theorem exists_mark (h : Written cs value) : '.' ∈ cs ∨ 'e' ∈ cs := by
  cases h with
  | point hne hw hf | both exponent hne hw hf => exact .inl (by simp)
  | mark exponent hne hw => exact .inr (by simp [exponentText])

/-- The characters of a magnitude may stand in a number. -/
theorem isNumeric_of_mem (h : Written cs value) {c : Char} (hc : c ∈ cs) : isNumeric c = true := by
  -- besides digits there are only the point and the characters of an exponent
  cases h with
  | point hne hw hf =>
    rw [List.mem_append, List.mem_cons] at hc
    rcases hc with hc | rfl | hc
    · exact isNumeric_of_isDigit (hw c hc)
    · rfl
    · exact isNumeric_of_isDigit (hf c hc)
  | mark exponent hne hw =>
    rw [List.mem_append] at hc
    rcases hc with hc | hc
    · exact isNumeric_of_isDigit (hw c hc)
    · exact isNumeric_of_mem_exponentText hc
  | both exponent hne hw hf =>
    rw [List.mem_append, List.mem_cons, List.mem_append] at hc
    rcases hc with hc | rfl | hc | hc
    · exact isNumeric_of_isDigit (hw c hc)
    · rfl
    · exact isNumeric_of_isDigit (hf c hc)
    · exact isNumeric_of_mem_exponentText hc

end Written

/-- Zeros are digits. -/
theorem isDigit_of_mem_replicate {n : Nat} {c : Char} (h : c ∈ List.replicate n '0') :
    c.isDigit = true := by
  rw [List.eq_of_mem_replicate h]
  decide

/-- The characters of zeros. -/
theorem toList_zeros (n : Nat) : (zeros n).toList = List.replicate n '0' := String.toList_ofList

section Notation

variable {digits : List Char} {n : Nat} {point : Int}

/-- All digits stand behind the point, with zeros in front of them. -/
theorem written_behindPoint (hpoint : point ≤ 0) (hd : ∀ c ∈ digits, c.isDigit = true)
    (hn : Nat.ofDigitChars 10 digits 0 = n) :
    Written ("0." ++ zeros (-point).toNat ++ String.ofList digits).toList
      (n * 10 ^ (point - digits.length)) := by
  have hf (c : Char) (hc : c ∈ List.replicate (-point).toNat '0' ++ digits) :
      c.isDigit = true := by
    rcases List.mem_append.mp hc with hc | hc
    · exact isDigit_of_mem_replicate hc
    · exact hd c hc
  have htext : ("0." ++ zeros (-point).toNat ++ String.ofList digits).toList =
      ['0'] ++ '.' :: (List.replicate (-point).toNat '0' ++ digits) := by
    simp [toList_zeros]
  -- the zeros count for the exponent only
  have hvalue : mantissa ['0'] (List.replicate (-point).toNat '0' ++ digits) =
      n * 10 ^ (point - digits.length) := by
    have hexponent : point - digits.length =
        -(((-point).toNat + digits.length : Nat) : Int) := by omega
    rw [mantissa, hexponent, zpow_neg, zpow_natCast, List.length_append, List.length_replicate,
      Nat.ofDigitChars_append, Nat.ofDigitChars_append, Nat.ofDigitChars_replicate_zero]
    simp only [Nat.ofDigitChars_cons, Nat.ofDigitChars_nil, Nat.mul_zero, Nat.sub_self,
      Nat.add_zero, hn]
    rfl
  rw [htext, ← hvalue]
  exact .point (by simp) (fun _ => isDigit_of_mem_replicate (n := 1)) hf

/-- The point stands between the digits. -/
theorem written_betweenDigits (hpos : 0 < point) (hlt : point < digits.length)
    (hd : ∀ c ∈ digits, c.isDigit = true) (hn : Nat.ofDigitChars 10 digits 0 = n) :
    Written (String.ofList (digits.take point.toNat) ++ "." ++
      String.ofList (digits.drop point.toNat)).toList (n * 10 ^ (point - digits.length)) := by
  have htext : (String.ofList (digits.take point.toNat) ++ "." ++
      String.ofList (digits.drop point.toNat)).toList =
      digits.take point.toNat ++ '.' :: digits.drop point.toNat := by
    simp
  -- moving the point to the left by the digits behind it is what the exponent says
  have hvalue : mantissa (digits.take point.toNat) (digits.drop point.toNat) =
      n * 10 ^ (point - digits.length) := by
    have hexponent : point - digits.length =
        -((digits.length - point.toNat : Nat) : Int) := by omega
    rw [mantissa, List.take_append_drop, hn, List.length_drop, hexponent, zpow_neg, zpow_natCast]
    rfl
  have htake : digits.take point.toNat ≠ [] := by
    rw [ne_eq, List.take_eq_nil_iff]
    rintro (hzero | rfl)
    · omega
    · rw [List.length_nil] at hlt
      omega
  rw [htext, ← hvalue]
  exact .point htake (fun c hc => hd c (List.mem_of_mem_take hc))
    (fun c hc => hd c (List.mem_of_mem_drop hc))

/-- Zeros stand between the digits and the point. -/
theorem written_beforePoint (hge : digits.length ≤ point) (hne : digits ≠ [])
    (hd : ∀ c ∈ digits, c.isDigit = true) (hn : Nat.ofDigitChars 10 digits 0 = n) :
    Written (String.ofList digits ++ zeros (point.toNat - digits.length) ++ ".0").toList
      (n * 10 ^ (point - digits.length)) := by
  have hwhole (c : Char) (hc : c ∈ digits ++ List.replicate (point.toNat - digits.length) '0') :
      c.isDigit = true := by
    rcases List.mem_append.mp hc with hc | hc
    · exact hd c hc
    · exact isDigit_of_mem_replicate hc
  have htext : (String.ofList digits ++ zeros (point.toNat - digits.length) ++ ".0").toList =
      digits ++ List.replicate (point.toNat - digits.length) '0' ++ '.' :: ['0'] := by
    simp [toList_zeros]
  -- the zeros that are written are the power of ten, and the zero behind the point takes it down by
  -- one
  have hvalue : mantissa (digits ++ List.replicate (point.toNat - digits.length) '0') ['0'] =
      n * 10 ^ (point - digits.length) := by
    have hexponent : point - digits.length =
        ((point.toNat - digits.length : Nat) : Int) := by omega
    rw [mantissa, hexponent, zpow_natCast, List.append_assoc, Nat.ofDigitChars_append,
      Nat.ofDigitChars_append, Nat.ofDigitChars_replicate_zero, hn]
    simp only [Nat.ofDigitChars_cons, Nat.ofDigitChars_nil, Nat.sub_self, Nat.add_zero,
      List.length_singleton, pow_one]
    push_cast
    ring
  rw [htext, ← hvalue]
  exact .point (by simp [hne]) hwhole fun _ => isDigit_of_mem_replicate (n := 1)

/-- Positional notation writes the digits scaled by the place of the point. -/
theorem written_positionalText (hne : digits ≠ []) (hd : ∀ c ∈ digits, c.isDigit = true)
    (hn : Nat.ofDigitChars 10 digits 0 = n) :
    Written (positionalText true digits point).toList (n * 10 ^ (point - digits.length)) := by
  rw [positionalText]
  split
  · rename_i hpoint
    exact written_behindPoint hpoint hd hn
  · rename_i hpoint
    have hpos : 0 < point := Int.not_le.mp hpoint
    split
    · rename_i hlt
      exact written_betweenDigits hpos (by omega) hd hn
    · rename_i hge
      exact written_beforePoint (by omega) hne hd hn

/-- Scientific notation writes the digits scaled by the place of the point. -/
theorem written_scientificText (hne : digits ≠ []) (hd : ∀ c ∈ digits, c.isDigit = true)
    (hn : Nat.ofDigitChars 10 digits 0 = n) :
    Written (scientificText digits point).toList (n * 10 ^ (point - digits.length)) := by
  obtain ⟨first, others, rfl⟩ := List.exists_cons_of_ne_nil hne
  have hfirst : ∀ c ∈ [first], c.isDigit = true := by
    intro c hc
    exact hd c (by simp_all)
  have hothers : ∀ c ∈ others, c.isDigit = true := fun c hc => hd c (List.mem_cons_of_mem _ hc)
  -- the point stands behind the first digit, so the exponent is one less than its place
  have hvalue : n * 10 ^ (point - (first :: others).length) =
      mantissa [first] others * 10 ^ (point - 1) := by
    have hexponent : point - ((first :: others).length : Int) =
        point - 1 - (others.length : Int) := by
      rw [List.length_cons]
      push_cast
      ring
    have hpow : (10 : ℚ) ^ (point - 1 - (others.length : Int)) =
        10 ^ (point - 1) / 10 ^ others.length := by
      rw [zpow_sub₀ (by norm_num), zpow_natCast]
    rw [mantissa, List.singleton_append, hn, hexponent, hpow]
    ring
  rw [scientificText, hvalue]
  generalize point - 1 = exponent
  have hsign : (if exponent < 0 then "e-" else "e+").toList =
      ['e', if exponent < 0 then '-' else '+'] := by
    split <;> rfl
  -- a single digit is written without a point
  cases others with
  | nil =>
    have htext : (String.ofList ([first].take 1) ++
        (if ([first].drop 1).isEmpty = true then ""
          else "." ++ String.ofList ([first].drop 1)) ++
        (if exponent < 0 then "e-" else "e+") ++ toString exponent.natAbs).toList =
        [first] ++ exponentText exponent := by
      simp [hsign, Nat.toString_eq_repr, exponentText]
    rw [htext]
    exact .mark exponent hne hfirst
  | cons second others =>
    have htext : (String.ofList ((first :: second :: others).take 1) ++
        (if ((first :: second :: others).drop 1).isEmpty = true then ""
          else "." ++ String.ofList ((first :: second :: others).drop 1)) ++
        (if exponent < 0 then "e-" else "e+") ++ toString exponent.natAbs).toList =
        [first] ++ '.' :: (second :: others ++ exponentText exponent) := by
      simp [hsign, Nat.toString_eq_repr, exponentText]
    rw [htext]
    exact .both exponent (by simp) hfirst hothers

end Notation

/-- The magnitude of a number is written as its shortest decimal. -/
theorem written_magnitudeText (x : Binary64) :
    Written (Style.json.magnitudeText x).toList
      (if x.magnitude = 0 then 0 else (shortest .toEven x).value) := by
  rw [Style.magnitudeText]
  split
  · have hzero : mantissa ['0'] ['0'] = 0 := by simp [mantissa, Nat.ofDigitChars_cons]
    have hwritten : Written (['0'] ++ '.' :: ['0']) (mantissa ['0'] ['0']) :=
      .point (by simp) (fun _ => isDigit_of_mem_replicate (n := 1))
        fun _ => isDigit_of_mem_replicate (n := 1)
    rw [hzero] at hwritten
    exact hwritten
  · dsimp only [Style.json]
    have hd (c : Char) (hc : c ∈ Nat.toDigits 10 (shortest .toEven x).digits) :
        c.isDigit = true := isDigit_of_mem_toDigits_ten hc
    have hn : Nat.ofDigitChars 10 (Nat.toDigits 10 (shortest .toEven x).digits) 0 =
        (shortest .toEven x).digits := Nat.ofDigitChars_ten_toDigits
    -- the point stands where the digits and the exponent put it
    have hexponent : (shortest .toEven x).exponent =
        ((Nat.toDigits 10 (shortest .toEven x).digits).length : Int) +
          (shortest .toEven x).exponent -
          (Nat.toDigits 10 (shortest .toEven x).digits).length := by omega
    rw [Scientific.value]
    conv => rhs; rw [hexponent]
    split
    · exact written_positionalText Nat.toDigits_ne_nil hd hn
    · exact written_scientificText Nat.toDigits_ne_nil hd hn

/-- The written magnitude determines the bits without the sign. -/
theorem magnitude_eq_of_magnitudeText {x y : Binary64}
    (h : Style.json.magnitudeText x = Style.json.magnitudeText y) : x.magnitude = y.magnitude := by
  have hvalue := (written_magnitudeText x).decimalOf_eq
  rw [h, (written_magnitudeText y).decimalOf_eq] at hvalue
  split at hvalue
  · rename_i hy
    split at hvalue
    · rename_i hx
      rw [hx, hy]
    · rename_i hx
      exact absurd hvalue.symm (value_shortest_pos .toEven (Nat.pos_of_ne_zero hx)).ne'
  · rename_i hy
    split at hvalue
    · exact absurd hvalue (value_shortest_pos .toEven (Nat.pos_of_ne_zero hy)).ne'
    · rename_i hx
      exact magnitude_eq_of_shortest (Nat.pos_of_ne_zero hx) (Nat.pos_of_ne_zero hy) hvalue.symm

end Decimal

open Decimal

/-- The characters of a finite double: a sign, if it is negative, and the magnitude. -/
theorem Binary64.toList_text {x : Binary64} (hx : x.isFinite = true) :
    (Style.json.text x).toList =
      (if x.isNegative then ['-'] else []) ++ (Style.json.magnitudeText x).toList := by
  have hnan : x.isNaN = false := by
    simp only [Binary64.isFinite, decide_eq_true_eq] at hx
    simp only [Binary64.isNaN, decide_eq_false_iff_not]
    omega
  rw [Style.text, hnan, hx]
  cases x.isNegative with
  | false => simp
  | true => simp

/-- A sign in front of a magnitude that starts with a digit can be told apart from it. -/
theorem Decimal.signed_inj {s t : Prop} [Decidable s] [Decidable t] {xs ys : List Char}
    (hx : ∃ c tail, xs = c :: tail ∧ c.isDigit = true)
    (hy : ∃ c tail, ys = c :: tail ∧ c.isDigit = true)
    (h : (if s then ['-'] else []) ++ xs = (if t then ['-'] else []) ++ ys) :
    (s ↔ t) ∧ xs = ys := by
  obtain ⟨c, _, rfl, hc⟩ := hx
  obtain ⟨d, _, rfl, hd⟩ := hy
  by_cases hs : s
  · by_cases ht : t
    · rw [if_pos hs, if_pos ht] at h
      exact ⟨iff_of_true hs ht, (List.cons.inj h).2⟩
    · rw [if_pos hs, if_neg ht] at h
      -- a sign on one side only would have to be a digit
      rw [← (List.cons.inj h).1] at hd
      exact absurd hd (by decide)
  · by_cases ht : t
    · rw [if_neg hs, if_pos ht] at h
      rw [(List.cons.inj h).1] at hc
      exact absurd hc (by decide)
    · rw [if_neg hs, if_neg ht] at h
      exact ⟨iff_of_false hs ht, h⟩

/-- The text of a finite double determines it. -/
theorem Binary64.eq_of_text {x y : Binary64} (hx : x.isFinite = true) (hy : y.isFinite = true)
    (h : Style.json.text x = Style.json.text y) : x = y := by
  have htext := congrArg String.toList h
  rw [toList_text hx, toList_text hy] at htext
  obtain ⟨hsign, hmagnitude⟩ := signed_inj (written_magnitudeText x).exists_head
    (written_magnitudeText y).exists_head htext
  exact ext_of_magnitude (Bool.eq_iff_iff.mpr hsign)
    (magnitude_eq_of_magnitudeText (String.toList_inj.mp hmagnitude))

namespace Json.Number

/-- Whether a number has a value: an integer does, a double where it is finite. -/
def isValue : Json.Number → Bool
  | .int _ => true
  | .float x => x.isFinite

/-- The characters of an integer: a sign, if it is negative, and the digits. -/
theorem toList_text_int (i : Int) :
    (Number.text (.int i)).toList =
      (if i < 0 then ['-'] else []) ++ Nat.toDigits 10 i.natAbs := by
  rw [Number.text, Int.toString_eq_repr, Int.repr_eq_if]
  split
  · rw [if_neg (by omega), Nat.toList_repr, List.nil_append]
    congr 1
    omega
  · rw [if_pos (by omega), String.toList_append, Nat.toList_repr]
    congr 2
    omega

/-- The digits of a number start with a digit. -/
theorem exists_head_toDigits (n : Nat) :
    ∃ c tail, Nat.toDigits 10 n = c :: tail ∧ c.isDigit = true := by
  obtain ⟨c, tail, hdigits⟩ := List.exists_cons_of_ne_nil (Nat.toDigits_ne_nil (n := n) (b := 10))
  exact ⟨c, tail, hdigits, isDigit_of_mem_toDigits_ten (hdigits ▸ List.mem_cons_self)⟩

/-- The text of an integer determines it. -/
theorem eq_of_text_int {i j : Int} (h : Number.text (.int i) = Number.text (.int j)) : i = j := by
  have htext := congrArg String.toList h
  rw [toList_text_int, toList_text_int] at htext
  obtain ⟨hsign, hdigits⟩ := signed_inj (exists_head_toDigits _) (exists_head_toDigits _) htext
  have habs : i.natAbs = j.natAbs := by
    calc i.natAbs = Nat.ofDigitChars 10 (Nat.toDigits 10 i.natAbs) 0 :=
          Nat.ofDigitChars_ten_toDigits.symm
      _ = Nat.ofDigitChars 10 (Nat.toDigits 10 j.natAbs) 0 := by rw [hdigits]
      _ = j.natAbs := Nat.ofDigitChars_ten_toDigits
  omega

/-- The text of a number starts with a minus or a digit. -/
theorem exists_head_text {n : Json.Number} (hn : n.isValue = true) :
    ∃ c tail, n.text.toList = c :: tail ∧ (c = '-' ∨ c.isDigit = true) := by
  cases n with
  | int i =>
    obtain ⟨c, tail, hdigits, hc⟩ := exists_head_toDigits i.natAbs
    rw [toList_text_int, hdigits]
    split
    · exact ⟨'-', c :: tail, rfl, .inl rfl⟩
    · exact ⟨c, tail, rfl, .inr hc⟩
  | float x =>
    obtain ⟨c, tail, htext, hc⟩ := (written_magnitudeText x).exists_head
    rw [Number.text, Binary64.toList_text hn, htext]
    split
    · exact ⟨'-', c :: tail, rfl, .inl rfl⟩
    · exact ⟨c, tail, rfl, .inr hc⟩

/-- Only what may stand in a number stands in the text of one. -/
theorem isNumeric_of_mem_text {n : Json.Number} (hn : n.isValue = true) {c : Char}
    (hc : c ∈ n.text.toList) : isNumeric c = true := by
  cases n with
  | int i =>
    rw [toList_text_int, List.mem_append] at hc
    rcases hc with hc | hc
    · split at hc
      · rw [List.mem_singleton.mp hc]
        rfl
      · exact absurd hc (by simp)
    · exact isNumeric_of_isDigit (isDigit_of_mem_toDigits_ten hc)
  | float x =>
    rw [Number.text, Binary64.toList_text hn, List.mem_append] at hc
    rcases hc with hc | hc
    · split at hc
      · rw [List.mem_singleton.mp hc]
        rfl
      · exact absurd hc (by simp)
    · exact (written_magnitudeText x).isNumeric_of_mem hc

/-- An integer is written without a point and without an exponent. -/
theorem text_int_ne_float {i : Int} {x : Binary64} (hx : x.isFinite = true) :
    Number.text (.int i) ≠ Number.text (.float x) := by
  intro h
  have htext := congrArg String.toList h
  -- the text of a double has a point or an exponent, that of an integer has neither
  have hmark : '.' ∈ (Number.text (.int i)).toList ∨ 'e' ∈ (Number.text (.int i)).toList := by
    rw [htext, Number.text, Binary64.toList_text hx]
    rcases (written_magnitudeText x).exists_mark with hmark | hmark
    · exact .inl (List.mem_append_right _ hmark)
    · exact .inr (List.mem_append_right _ hmark)
  have hplain (c : Char) (hc : c ∈ (Number.text (.int i)).toList) : c = '-' ∨ c.isDigit = true := by
    rw [toList_text_int, List.mem_append] at hc
    rcases hc with hc | hc
    · split at hc
      · exact .inl (List.mem_singleton.mp hc)
      · exact absurd hc (by simp)
    · exact .inr (isDigit_of_mem_toDigits_ten hc)
  rcases hmark with hmark | hmark
  · exact absurd (hplain _ hmark) (by decide)
  · exact absurd (hplain _ hmark) (by decide)

/-- The text of a number determines it. -/
theorem text_injective {m n : Json.Number} (hm : m.isValue = true) (hn : n.isValue = true)
    (h : m.text = n.text) : m = n := by
  cases m with
  | int i =>
    cases n with
    | int j => rw [eq_of_text_int h]
    | float y => exact absurd h (text_int_ne_float hn)
  | float x =>
    cases n with
    | int j => exact absurd h.symm (text_int_ne_float hm)
    | float y => rw [Binary64.eq_of_text hm hn h]

end Json.Number

end DualQuery
