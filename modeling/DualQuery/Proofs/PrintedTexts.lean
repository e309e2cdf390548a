import DualQuery.Proofs.ReadValues

/-!
# Printed texts are read back

What is printed for a value is read as the value, if it nests no deeper than the reader goes and all
its numbers are integers of the range that is read exactly. Printed texts have no blanks, so the
reader sees the first character of each value at once. The fuel of the reader is twice the length of
the text, and each step of it goes past at least one character.

## Key results

- `Json.Number.read?_text`: integers
- `Json.value?_text`: values in front of what may follow them
- `Json.outline?_text`: whole texts
-/

namespace DualQuery.Json

open DualQuery.Decimal

/-! ## Integers -/

namespace Number

/-- Whether a number is an integer that is read exactly. -/
def isExact : Json.Number → Bool
  | .int i => decide (-0x8000000000000000 ≤ i ∧ i ≤ maxSignificand)
  | .float _ => false

/-- Digits behind a number do not make it smaller. -/
theorem le_ofDigitChars (cs : List Char) (init : Nat) : init ≤ Nat.ofDigitChars 10 cs init := by
  rw [Nat.ofDigitChars_eq_ofDigitChars_zero]
  have hpow : 1 ≤ 10 ^ cs.length := Nat.one_le_pow _ _ (by decide)
  have hmul : 1 * init ≤ 10 ^ cs.length * init := Nat.mul_le_mul_right init hpow
  omega

/-- Digits that fit the significand all count. -/
theorem accumulate_map_digitValue {cs : List Char} {significand : Nat}
    (h : Nat.ofDigitChars 10 cs significand ≤ maxSignificand) :
    accumulate significand (cs.map digitValue) = (Nat.ofDigitChars 10 cs significand, []) := by
  induction cs generalizing significand with
  | nil => rfl
  | cons c cs ih =>
    have hstep : Nat.ofDigitChars 10 (c :: cs) significand =
        Nat.ofDigitChars 10 cs (significand * 10 + digitValue c) := by
      rw [Nat.ofDigitChars_cons, Nat.mul_comm]
      rfl
    rw [hstep] at h ⊢
    -- more digits only make it larger, so the bound holds of the number so far
    have hle := le_ofDigitChars cs (significand * 10 + digitValue c)
    rw [List.map_cons, accumulate, if_neg (by omega), ih h]

/-- A number of more than one digit does not start with zero. -/
theorem head_toDigits {n : Nat} (hn : 0 < n) :
    ∃ c tail, Nat.toDigits 10 n = c :: tail ∧ digitValue c ≠ 0 := by
  have hdigit : ∀ d < 10, 0 < d → digitValue d.digitChar ≠ 0 := by decide
  induction n using Nat.strongRecOn with
  | _ n ih =>
    -- the first digit is that of the quotient by ten, until one digit is left
    by_cases hlt : n < 10
    · exact ⟨n.digitChar, [], Nat.toDigits_of_lt_base hlt, hdigit n hlt hn⟩
    · obtain ⟨c, tail, hdigits, hc⟩ := ih (n / 10) (by omega) (by omega)
      refine ⟨c, tail ++ [(n % 10).digitChar], ?_, hc⟩
      rw [Nat.toDigits_of_base_le (by decide) (by omega), hdigits, List.cons_append]

end Number

/-- Whether a text goes on as it may behind a value: not at all, with a comma, or with a closing
bracket. -/
def endsValue (cs : List Char) : Bool :=
  cs.head?.all fun c => c == ',' || c == ']' || c == '\x7d'

/-- Behind a value come a comma and the two closing brackets only. -/
theorem eq_of_endsValue_cons {c : Char} {cs : List Char} (h : endsValue (c :: cs) = true) :
    c = ',' ∨ c = ']' ∨ c = '\x7d' := by
  simpa [endsValue, or_assoc] using h

namespace Number

/-- Digits in front of what may follow a value are read as their number. -/
theorem unsigned?_toDigits (negative : Bool) {n : Nat} (hn : n ≤ maxSignificand) {rest : List Char}
    (hrest : endsValue rest = true) :
    unsigned? negative (Nat.toDigits 10 n ++ rest) = some (ofSignificand negative n, rest) := by
  have hend : rest.head?.all (!·.isDigit) = true := by
    cases rest with
    | nil => rfl
    | cons c rest =>
      rcases eq_of_endsValue_cons hrest with rfl | rfl | rfl <;> rfl
  have hdigits : ∀ c ∈ Nat.toDigits 10 n, c.isDigit = true :=
    fun c hc => isDigit_of_mem_toDigits_ten hc
  have hspan : spanDigits (Nat.toDigits 10 n ++ rest) =
      ((Nat.toDigits 10 n).map digitValue, rest) := by
    rw [spanDigits, takeWhile_isDigit_append hdigits hend, dropWhile_isDigit_append hdigits hend]
  have hvalue : accumulate 0 ((Nat.toDigits 10 n).map digitValue) = (n, []) := by
    rw [accumulate_map_digitValue] <;> rw [Nat.ofDigitChars_ten_toDigits]
    exact hn
  have hempty : ((Nat.toDigits 10 n).map digitValue).isEmpty = false := by
    simp [Nat.toDigits_ne_nil]
  -- no number but 0 itself is printed with a leading 0
  have hlead : ¬ (((Nat.toDigits 10 n).map digitValue).head? = some 0 ∧
      1 < ((Nat.toDigits 10 n).map digitValue).length) := by
    rintro ⟨hzero, hlength⟩
    by_cases hpos : 0 < n
    · obtain ⟨c, tail, hcons, hc⟩ := head_toDigits hpos
      rw [hcons, List.map_cons, List.head?_cons, Option.some.injEq] at hzero
      exact hc hzero
    · obtain rfl : n = 0 := by omega
      revert hlength
      decide
  simp only [unsigned?, hspan, hempty, hlead, hvalue, if_false, Bool.false_eq_true]
  -- no fraction and no exponent follow
  cases rest with
  | nil => rfl
  | cons c rest => rcases eq_of_endsValue_cons hrest with rfl | rfl | rfl <;> rfl

/-- An integer is read back from its text. -/
theorem read?_text {n : Json.Number} (hn : n.isExact = true) {rest : List Char}
    (hrest : endsValue rest = true) : read? (n.text.toList ++ rest) = some (n, rest) := by
  cases n with
  | float x => cases hn
  | int i =>
    have hbounds : -0x8000000000000000 ≤ i ∧ i ≤ maxSignificand := of_decide_eq_true hn
    have hmax : maxSignificand = 0xFFFFFFFFFFFFFFFF := rfl
    rw [toList_text_int]
    by_cases hneg : i < 0
    · rw [if_pos hneg, List.append_assoc, List.singleton_append, read?,
        unsigned?_toDigits true (by omega) hrest, ofSignificand, if_pos rfl, if_neg (by omega)]
      have habs : -(i.natAbs : Int) = i := by omega
      rw [habs]
    · rw [if_neg hneg, List.nil_append]
      -- the first digit is no sign
      have hread : read? (Nat.toDigits 10 i.natAbs ++ rest) =
          unsigned? false (Nat.toDigits 10 i.natAbs ++ rest) := by
        obtain ⟨c, tail, hcons, hc⟩ := exists_head_toDigits i.natAbs
        rw [hcons, List.cons_append, read?]
        intro tail hsign
        obtain ⟨rfl, -⟩ := List.cons.inj hsign
        cases hc
      have habs : (i.natAbs : Int) = i := by omega
      rw [hread, unsigned?_toDigits false (by omega) hrest, ofSignificand,
        if_neg Bool.false_ne_true, habs]

end Number

/-! ## Values -/

/-- The text of a value starts with no blank. -/
theorem skipSpace_text {j : Json} (hj : j.isValue = true) (xs : List Char) :
    skipSpace ((text j).toList ++ xs) = (text j).toList ++ xs := by
  obtain ⟨c, tail, htext, hc⟩ := exists_head_text hj
  have hspace : isSpace c = false := by
    -- the kind of a value is told by its first character, and no kind is told by a blank
    have hkind : j.kind ≠ 7 := by
      cases j with
      | bool b => cases b <;> simp [kind]
      | _ => simp [kind]
    rw [← hc] at hkind
    by_contra hblank
    simp only [isSpace, Bool.not_eq_false, Bool.or_eq_true, beq_iff_eq] at hblank
    rcases hblank with ((rfl | rfl) | rfl) | rfl <;> exact hkind rfl
  rw [htext, List.cons_append, skipSpace, List.dropWhile_cons_of_neg (by simp [hspace])]

/-- Behind an item an array goes on as it may. -/
theorem endsValue_itemsTail (items : List Json) (xs : List Char) :
    endsValue (itemsTail items ++ ']' :: xs) = true := by
  cases items <;> rfl

/-- Behind an entry an object goes on as it may. -/
theorem endsValue_entriesTail (entries : List (String × Json)) (xs : List Char) :
    endsValue (entriesTail entries ++ '\x7d' :: xs) = true := by
  cases entries <;> rfl

/-- No value has an empty text. -/
theorem length_text_pos {j : Json} (hj : j.isValue = true) : 0 < (text j).toList.length := by
  obtain ⟨c, tail, htext, -⟩ := exists_head_text hj
  rw [htext, List.length_cons]
  omega

/-- A text that starts with a sign or a digit is read as a number. -/
theorem value?_of_numeric {fuel depth : Nat} {c : Char} {cs rest : List Char} {n : Number}
    (hc : c = '-' ∨ c.isDigit = true) (hspace : skipSpace (c :: cs) = c :: cs)
    (hread : Number.read? (c :: cs) = some (n, rest)) :
    value? (fuel + 1) depth (c :: cs) = some (.num n, rest) := by
  have hne (d : Char) (hd : ¬ (d = '-' ∨ d.isDigit = true)) : c ≠ d := fun heq => hd (heq ▸ hc)
  rw [value?, hspace]
  split
  next heq => exact absurd (List.cons.inj heq).1 (hne '"' (by decide))
  next heq => exact absurd (List.cons.inj heq).1 (hne '[' (by decide))
  next heq => exact absurd (List.cons.inj heq).1 (hne '\x7b' (by decide))
  next heq => exact absurd (List.cons.inj heq).1 (hne 'n' (by decide))
  next heq => exact absurd (List.cons.inj heq).1 (hne 't' (by decide))
  next heq => exact absurd (List.cons.inj heq).1 (hne 'f' (by decide))
  next =>
    rw [hread]
    rfl

/-- A quoted text starts with no blank. -/
theorem skipSpace_quote (s : String) (xs : List Char) :
    skipSpace ((quote s).toList ++ xs) = (quote s).toList ++ xs := by
  rw [toList_quote]
  rfl

/-- Behind a key and its value, which can be read, an object goes on or ends. -/
theorem entries?_of_value? {fuel depth : Nat} {key : String} {value : Json} {cs tail : List Char}
    (hvalue : value? fuel depth cs = some (value, tail)) :
    entries? (fuel + 1) depth ((quote key).toList ++ ':' :: cs) =
      match skipSpace tail with
      | ',' :: rest => do
        let (entries, rest) ← entries? fuel depth rest
        return ((key, value) :: entries, rest)
      | '\x7d' :: rest => some ([(key, value)], rest)
      | _ => none := by
  have hcolon : skipSpace (':' :: cs) = ':' :: cs := rfl
  rw [entries?, skipSpace_quote, toList_quote]
  simp only [List.cons_append, List.append_assoc, List.nil_append, Quoted.decode_encode,
    Option.bind_eq_bind, Option.bind_some, hcolon, hvalue, String.ofList_toList]
  rfl

mutual
/-- A value is read back from its text, in front of what may follow it. -/
theorem value?_text : ∀ (j : Json) {fuel depth : Nat} {rest : List Char}, j.isValue = true →
    j.fits Number.isExact depth = true → endsValue rest = true →
    2 * (text j).toList.length ≤ fuel →
    value? fuel depth ((text j).toList ++ rest) = some (j, rest)
  | j, 0, depth, rest, hj, _, _, hfuel => by
    -- no value is printed as the empty text, so some fuel is left
    have hpos := length_text_pos hj
    omega
  | .null, fuel + 1, depth, rest, hj, hfits, hrest, hfuel => by
    rw [value?, skipSpace_text hj]
    rfl
  | .bool b, fuel + 1, depth, rest, hj, hfits, hrest, hfuel => by
    rw [value?, skipSpace_text hj]
    cases b <;> rfl
  | .num n, fuel + 1, depth, rest, hj, hfits, hrest, hfuel => by
    obtain ⟨c, tail, htext, hc⟩ := Number.exists_head_text hj
    have hspace := skipSpace_text hj rest
    have hread := Number.read?_text hfits hrest
    rw [text] at hspace ⊢
    rw [htext] at hspace hread ⊢
    exact value?_of_numeric hc hspace hread
  | .str s, fuel + 1, depth, rest, hj, hfits, hrest, hfuel => by
    have htext : (text (.str s)).toList ++ rest =
        '"' :: (Quoted.encode s.toList ++ '"' :: rest) := by
      simp [text, toList_quote]
    rw [value?, skipSpace_text hj, htext]
    simp only [Quoted.decode_encode, Option.map_some, String.ofList_toList, orSkim?]
  | .arr items, fuel + 1, 0, rest, hj, hfits, hrest, hfuel => by cases hfits
  | .obj entries, fuel + 1, 0, rest, hj, hfits, hrest, hfuel => by cases hfits
  | .arr [], fuel + 1, depth + 1, rest, hj, hfits, hrest, hfuel => by
    rw [value?, skipSpace_text hj, toList_text_arr_nil]
    rfl
  | .obj [], fuel + 1, depth + 1, rest, hj, hfits, hrest, hfuel => by
    rw [value?, skipSpace_text hj, toList_text_obj_nil]
    rfl
  | .arr (item :: items), fuel + 1, depth + 1, rest, hj, hfits, hrest, hfuel => by
    have htext : (text (.arr (item :: items))).toList ++ rest =
        '[' :: ((text item).toList ++ (itemsTail items ++ ']' :: rest)) := by
      simp [toList_text_arr_cons]
    have hlength : (text (.arr (item :: items))).toList.length =
        (text item).toList.length + (itemsTail items).length + 2 := by
      simp only [toList_text_arr_cons, List.length_cons, List.length_append, List.length_nil]
      omega
    -- the brackets have left fuel for the step from value to items
    have hitems := items?_text item items rest hj ((fits_arr _).1 hfits)
      (by omega : 2 * ((text item).toList.length + (itemsTail items).length) + 1 ≤ fuel)
    have hvalues := hj
    rw [isValue, areValues, Bool.and_eq_true] at hvalues
    rw [value?, skipSpace_text hj, htext]
    simp only [if_neg (Nat.succ_ne_zero depth), Nat.add_sub_cancel, skipSpace_text hvalues.1]
    split
    next hclosed => exact absurd hclosed (text_append_ne_bracket hvalues.1)
    next =>
      rw [hitems]
      rfl
  | .obj ((key, value) :: entries), fuel + 1, depth + 1, rest, hj, hfits, hrest, hfuel => by
    have htext : (text (.obj ((key, value) :: entries))).toList ++ rest =
        '\x7b' :: ((quote key).toList ++
          ':' :: ((text value).toList ++ (entriesTail entries ++ '\x7d' :: rest))) := by
      simp [toList_text_obj_cons, entryChars]
    have hlength : 2 + (text value).toList.length + (entriesTail entries).length <
        (text (.obj ((key, value) :: entries))).toList.length := by
      simp only [toList_text_obj_cons, entryChars, List.length_cons, List.length_append,
        List.length_nil]
      omega
    have hentries := entries?_text key value entries rest hj ((fits_obj _).1 hfits)
      (by omega : 2 * ((text value).toList.length + (entriesTail entries).length) + 1 ≤ fuel)
    rw [value?, skipSpace_text hj, htext]
    simp only [if_neg (Nat.succ_ne_zero depth), Nat.add_sub_cancel, skipSpace_quote]
    split
    next hclosed =>
      rw [toList_quote] at hclosed
      exact absurd (List.cons.inj hclosed).1 (by decide)
    next =>
      rw [hentries]
      rfl

/-- `value?_text` for the items of an array through the closing bracket. -/
theorem items?_text : ∀ (item : Json) (items : List Json) (rest : List Char) {fuel depth : Nat},
    areValues (item :: items) = true →
    (∀ i ∈ item :: items, i.fits Number.isExact depth = true) →
    2 * ((text item).toList.length + (itemsTail items).length) + 1 ≤ fuel →
    items? fuel depth ((text item).toList ++ (itemsTail items ++ ']' :: rest)) =
      some (item :: items, rest)
  | item, items, rest, 0, depth, hvalues, hfits, hfuel => by omega
  | item, [], rest, fuel + 1, depth, hvalues, hfits, hfuel => by
    rw [areValues, Bool.and_eq_true] at hvalues
    rw [List.forall_mem_cons] at hfits
    rw [items?, value?_text item hvalues.1 hfits.1 (endsValue_itemsTail [] rest) (by omega)]
    rfl
  | item, next :: items, rest, fuel + 1, depth, hvalues, hfits, hfuel => by
    rw [areValues, Bool.and_eq_true] at hvalues
    rw [List.forall_mem_cons] at hfits
    have hlength : (itemsTail (next :: items)).length =
        (text next).toList.length + (itemsTail items).length + 1 := by
      simp only [itemsTail, List.flatMap_cons, List.length_append, List.length_cons]
      omega
    -- the fuel that a separator and the next item take is two for each of their characters
    have hmore := items?_text next items rest hvalues.2 hfits.2
      (by omega : 2 * ((text next).toList.length + (itemsTail items).length) + 1 ≤ fuel)
    rw [items?, value?_text item hvalues.1 hfits.1 (endsValue_itemsTail _ rest) (by omega),
      itemsTail_cons_append]
    have hcomma (cs : List Char) : skipSpace (',' :: cs) = ',' :: cs := rfl
    simp only [Option.bind_eq_bind, Option.bind_some, hcomma, hmore]
    rfl

/-- `value?_text` for the entries of an object through the closing brace. -/
theorem entries?_text : ∀ (key : String) (value : Json) (entries : List (String × Json))
    (rest : List Char) {fuel depth : Nat}, entriesAreValues ((key, value) :: entries) = true →
    (∀ e ∈ (key, value) :: entries, e.2.fits Number.isExact depth = true) →
    2 * ((text value).toList.length + (entriesTail entries).length) + 1 ≤ fuel →
    entries? fuel depth ((quote key).toList ++
        ':' :: ((text value).toList ++ (entriesTail entries ++ '\x7d' :: rest))) =
      some ((key, value) :: entries, rest)
  | key, value, entries, rest, 0, depth, hvalues, hfits, hfuel => by omega
  | key, value, [], rest, fuel + 1, depth, hvalues, hfits, hfuel => by
    rw [entriesAreValues, Bool.and_eq_true] at hvalues
    rw [List.forall_mem_cons] at hfits
    have hvalue := value?_text value hvalues.1 hfits.1 (endsValue_entriesTail [] rest)
      (by omega : 2 * (text value).toList.length ≤ fuel)
    rw [entries?_of_value? hvalue]
    rfl
  | key, value, (key', value') :: entries, rest, fuel + 1, depth, hvalues, hfits, hfuel => by
    rw [entriesAreValues, Bool.and_eq_true] at hvalues
    rw [List.forall_mem_cons] at hfits
    -- a key with its quotes, a colon and a comma are at least four characters
    have hlength : 1 + (text value').toList.length + (entriesTail entries).length <
        (entriesTail ((key', value') :: entries)).length := by
      simp only [entriesTail, entryChars, List.flatMap_cons, List.length_append, List.length_cons]
      omega
    have hvalue := value?_text value hvalues.1 hfits.1
      (endsValue_entriesTail ((key', value') :: entries) rest)
      (by omega : 2 * (text value).toList.length ≤ fuel)
    have hmore := entries?_text key' value' entries rest hvalues.2 hfits.2
      (by omega : 2 * ((text value').toList.length + (entriesTail entries).length) + 1 ≤ fuel)
    have hcomma (cs : List Char) : skipSpace (',' :: cs) = ',' :: cs := rfl
    rw [entries?_of_value? hvalue, entriesTail_cons_append, hcomma]
    simp only [hmore, Option.bind_eq_bind, Option.bind_some]
    rfl
end

/-- The text of a value is read as the value. -/
theorem outline?_text {j : Json} (hj : j.isValue = true)
    (hfits : j.fits Number.isExact maxDepth = true) : outline? j.text = some j := by
  have hread : value? (2 * j.text.toList.length + 2) maxDepth (j.text.toList ++ []) =
      some (j, []) := value?_text j hj hfits rfl (by omega)
  rw [List.append_nil] at hread
  simp only [outline?, outlineWithin?, hread]
  rfl

end DualQuery.Json
