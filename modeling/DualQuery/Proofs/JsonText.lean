import DualQuery.Proofs.NumberText

/-!
# JSON texts determine their values

The quoted form of a text is read back by `Quoted.decode`, the text of a number ends before the
first character that cannot stand in one, and brackets and commas part what an array or an object
holds. So the text of a value, followed by anything that does not continue a number, determines the
value and what follows it. This holds for values all of whose parts have a value: an unreadable
part, an infinity and a missing number are all written as null.

## Key results

- `Quoted.decode_encode`: a quoted text is read back
- `Json.text_append_inj`: a value is told apart from what follows its text
- `Json.text_injective`: the text determines the value
-/

namespace DualQuery.Json

open DualQuery.Decimal

/-! ## Quoted texts -/

namespace Quoted

/-- A hexadecimal digit is read back. -/
theorem hexValue?_hexDigit : ∀ n < 16, hexValue? (hexDigit n) = some n := by decide

/-- A character that is written as four hexadecimal digits is read back from them. -/
theorem decode_unicode {c : Char} (hc : c.toNat < 0x20) (rest : List Char) :
    decode ('\\' :: 'u' :: '0' :: '0' :: hexDigit (c.toNat / 16) :: hexDigit c.toNat :: rest) =
      (decode rest).map fun p => (c :: p.1, p.2) := by
  have hhigh := hexValue?_hexDigit (c.toNat / 16) (by omega)
  have hlow : hexValue? (hexDigit c.toNat) = some (c.toNat % 16) := by
    have hdigit : hexDigit c.toNat = hexDigit (c.toNat % 16) := by
      rw [hexDigit, hexDigit, Nat.mod_mod]
    rw [hdigit, hexValue?_hexDigit _ (by omega)]
  have hzero : hexValue? '0' = some 0 := rfl
  have hunit : unit? '0' '0' (hexDigit (c.toNat / 16)) (hexDigit c.toNat) = some c.toNat := by
    simp only [unit?, hzero, hhigh, hlow, Option.bind_eq_bind, Option.bind_some, Option.pure_def]
    rw [Option.some.injEq]
    omega
  have hnotHigh : isHigh c.toNat = false := by
    simp only [isHigh, Bool.and_eq_false_iff, decide_eq_false_iff_not]
    omega
  have hnotLow : isLow c.toNat = false := by
    simp only [isLow, Bool.and_eq_false_iff, decide_eq_false_iff_not]
    omega
  have hchar : Char.ofNat c.toNat = c := Char.ofNat_toNat c
  -- a second escape may follow, but the first unit is no surrogate
  by_cases hpair : ∃ e f g h others, rest = '\\' :: 'u' :: e :: f :: g :: h :: others
  · obtain ⟨e, f, g, h, others, rfl⟩ := hpair
    conv => lhs; rw [decode]
    simp [hunit, hnotHigh, hnotLow, hchar, Option.map_eq_bind]
  · have hnot (e f g h : Char) (others : List Char) :
        rest = '\\' :: 'u' :: e :: f :: g :: h :: others → False :=
      fun heq => hpair ⟨e, f, g, h, others, heq⟩
    rw [decode.eq_3 _ _ _ _ _ hnot]
    simp [hunit, hnotHigh, hnotLow, hchar, Option.map_eq_bind]

/-- A character with an escape of one letter is read back from it. -/
theorem decode_escape {letter c : Char} (h : escape? letter = some c) (rest : List Char) :
    decode ('\\' :: letter :: rest) = (decode rest).map fun p => (c :: p.1, p.2) := by
  have hletter : letter ≠ 'u' := by
    intro heq
    rw [heq] at h
    exact absurd h (by simp [escape?])
  rw [decode.eq_4 _ _ (by simp [hletter]) (by simp [hletter]), h]
  simp [Option.map_eq_bind]

/-- An encoded character is read back, and the rest of the text behind it. -/
theorem decode_encodeChar (c : Char) (rest : List Char) :
    decode (encodeChar c ++ rest) = (decode rest).map fun p => (c :: p.1, p.2) := by
  rw [encodeChar]
  -- one case for each character that has an escape of its own, one for control characters, and one
  -- for those that stand for themselves
  split_ifs with hquote hslash hb hf hn hr ht hcontrol
  · subst hquote
    exact decode_escape rfl rest
  · subst hslash
    exact decode_escape rfl rest
  · subst hb
    exact decode_escape rfl rest
  · subst hf
    exact decode_escape rfl rest
  · subst hn
    exact decode_escape rfl rest
  · subst hr
    exact decode_escape rfl rest
  · subst ht
    exact decode_escape rfl rest
  · exact decode_unicode hcontrol rest
  · rw [List.singleton_append, decode.eq_5 _ _ hquote (by simp [hslash]) (by simp [hslash])
      (by simp [hslash])]
    simp [hcontrol, hslash, Option.map_eq_bind]

/-- An encoded text is read back up to the quote that ends it. -/
theorem decode_encode (cs rest : List Char) :
    decode (encode cs ++ '"' :: rest) = some (cs, rest) := by
  induction cs with
  | nil => simp [encode, decode]
  | cons c cs ih =>
    rw [encode, List.flatMap_cons, List.append_assoc, decode_encodeChar, ← encode, ih]
    rfl

end Quoted

/-- The characters of a quoted text. -/
theorem toList_quote (s : String) :
    (quote s).toList = '"' :: (Quoted.encode s.toList ++ ['"']) := by
  simp [quote]

/-- A quoted text is told apart from what follows it. -/
theorem quote_append_inj {s t : String} {xs ys : List Char}
    (h : (quote s).toList ++ xs = (quote t).toList ++ ys) : s = t ∧ xs = ys := by
  rw [toList_quote, toList_quote, List.cons_append, List.cons_append, List.append_assoc,
    List.append_assoc, List.singleton_append, List.singleton_append] at h
  have hs := Quoted.decode_encode s.toList xs
  have ht := Quoted.decode_encode t.toList ys
  rw [(List.cons.inj h).2] at hs
  have hpair := hs.symm.trans ht
  rw [Option.some.injEq, Prod.mk.injEq] at hpair
  exact ⟨String.toList_inj.mp hpair.1, hpair.2⟩

/-! ## What may follow a value -/

/-- Whether a text does not continue a number. -/
def endsNumber (cs : List Char) : Bool := cs.head?.all (!isNumeric ·)

/-- The text of a number is told apart from what follows it. -/
theorem Number.text_append_inj {m n : Json.Number} (hm : m.isValue = true) (hn : n.isValue = true)
    {xs ys : List Char} (hx : endsNumber xs = true) (hy : endsNumber ys = true)
    (h : m.text.toList ++ xs = n.text.toList ++ ys) : m = n ∧ xs = ys := by
  -- the text of a number is all that is numeric in front of what follows
  have hspan {n : Json.Number} (hn : n.isValue = true) {xs : List Char}
      (hx : endsNumber xs = true) : (n.text.toList ++ xs).takeWhile isNumeric = n.text.toList := by
    rw [List.takeWhile_append_of_pos fun c hc => Number.isNumeric_of_mem_text hn hc]
    cases xs with
    | nil => simp
    | cons c xs =>
      simp only [endsNumber, List.head?_cons, Option.all_some, Bool.not_eq_true'] at hx
      simp [hx]
  have htext : m.text.toList = n.text.toList := by
    rw [← hspan hm hx, h, hspan hn hy]
  rw [htext] at h
  exact ⟨Number.text_injective hm hn (String.toList_inj.mp htext), List.append_cancel_left h⟩

/-! ## Values -/

mutual
/-- Whether every part of a value has a value: none is unreadable and every double is finite. -/
def isValue : Json → Bool
  | .unreadable => false
  | .num n => n.isValue
  | .arr items => areValues items
  | .obj entries => entriesAreValues entries
  | .null | .bool _ | .str _ => true

/-- `isValue` on every item. -/
def areValues : List Json → Bool
  | [] => true
  | item :: items => isValue item && areValues items

/-- `isValue` on every entry's value. -/
def entriesAreValues : List (String × Json) → Bool
  | [] => true
  | (_, value) :: entries => isValue value && entriesAreValues entries
end

/-- The characters of the text of an entry. -/
def entryChars (entry : String × Json) : List Char :=
  (quote entry.1).toList ++ ':' :: (text entry.2).toList

/-- The characters of further items of an array. -/
def itemsTail (items : List Json) : List Char := items.flatMap fun item => ',' :: (text item).toList

/-- The characters of further entries of an object. -/
def entriesTail (entries : List (String × Json)) : List Char :=
  entries.flatMap fun entry => ',' :: entryChars entry

/-- Behind the first one, each text has the separator in front of it. -/
theorem intercalate_cons {α : Type} (separator x : List α) (xs : List (List α)) :
    separator.intercalate (x :: xs) = x ++ xs.flatMap (separator ++ ·) := by
  induction xs generalizing x with
  | nil => simp
  | cons y ys ih =>
    rw [List.intercalate_cons_cons, ih, List.flatMap_cons, List.append_assoc, List.append_assoc]

/-- The characters of the texts of items. -/
theorem toList_itemTexts (items : List Json) :
    (itemTexts items).map String.toList = items.map fun item => (text item).toList := by
  induction items with
  | nil => rfl
  | cons item items ih => rw [itemTexts, List.map_cons, List.map_cons, ih]

/-- The characters of the texts of entries. -/
theorem toList_entryTexts (entries : List (String × Json)) :
    (entryTexts entries).map String.toList = entries.map entryChars := by
  induction entries with
  | nil => rfl
  | cons entry entries ih =>
    obtain ⟨key, value⟩ := entry
    have hentry : (quote key ++ ":" ++ text value).toList = entryChars (key, value) := by
      simp [entryChars]
    rw [entryTexts, List.map_cons, List.map_cons, ih, hentry]

/-- The characters of an empty array. -/
theorem toList_text_arr_nil : (text (.arr [])).toList = ['[', ']'] := by
  simp [text, itemTexts]

/-- The characters of an array with items. -/
theorem toList_text_arr_cons (item : Json) (items : List Json) :
    (text (.arr (item :: items))).toList =
      '[' :: ((text item).toList ++ (itemsTail items ++ [']'])) := by
  have hitems := toList_itemTexts (item :: items)
  rw [text, String.toList_append, String.toList_append, String.toList_intercalate, hitems,
    List.map_cons, intercalate_cons, List.flatMap_map]
  simp [itemsTail]

/-- The characters of an empty object. -/
theorem toList_text_obj_nil : (text (.obj [])).toList = ['\x7b', '\x7d'] := by
  simp [text, entryTexts]

/-- The characters of an object with entries. -/
theorem toList_text_obj_cons (entry : String × Json) (entries : List (String × Json)) :
    (text (.obj (entry :: entries))).toList =
      '\x7b' :: (entryChars entry ++ (entriesTail entries ++ ['\x7d'])) := by
  have hentries := toList_entryTexts (entry :: entries)
  rw [text, String.toList_append, String.toList_append, String.toList_intercalate, hentries,
    List.map_cons, intercalate_cons, List.flatMap_map]
  simp [entriesTail]

/-- The kinds of values that the first character of a text tells apart. -/
def kindOfChar (c : Char) : Nat :=
  if c = 'n' then 0
  else if c = 't' then 1
  else if c = 'f' then 2
  else if c = '"' then 3
  else if c = '[' then 4
  else if c = '\x7b' then 5
  else if c = '-' ∨ c.isDigit = true then 6
  else 7

/-- The kind of a value that has one. -/
def kind : Json → Nat
  | .null | .unreadable => 0
  | .bool true => 1
  | .bool false => 2
  | .str _ => 3
  | .arr _ => 4
  | .obj _ => 5
  | .num _ => 6

/-- A minus or a digit starts a number. -/
theorem kindOfChar_of_numeric {c : Char} (h : c = '-' ∨ c.isDigit = true) : kindOfChar c = 6 := by
  have hne (d : Char) (hd : ¬ (d = '-' ∨ d.isDigit = true)) : c ≠ d := fun heq => hd (heq ▸ h)
  rw [kindOfChar, if_neg (hne 'n' (by decide)), if_neg (hne 't' (by decide)),
    if_neg (hne 'f' (by decide)), if_neg (hne '"' (by decide)), if_neg (hne '[' (by decide)),
    if_neg (hne '\x7b' (by decide)), if_pos h]

/-- The first character of a text tells the kind of the value. -/
theorem exists_head_text {j : Json} (hj : j.isValue = true) :
    ∃ c tail, (text j).toList = c :: tail ∧ kindOfChar c = j.kind := by
  cases j with
  | null => exact ⟨'n', ['u', 'l', 'l'], rfl, rfl⟩
  | bool b =>
    cases b with
    | false => exact ⟨'f', ['a', 'l', 's', 'e'], rfl, rfl⟩
    | true => exact ⟨'t', ['r', 'u', 'e'], rfl, rfl⟩
  | num n =>
    obtain ⟨c, tail, htext, hc⟩ := Number.exists_head_text hj
    exact ⟨c, tail, htext, kindOfChar_of_numeric hc⟩
  | str s => exact ⟨'"', _, toList_quote s, rfl⟩
  | arr items =>
    cases items with
    | nil => exact ⟨'[', _, toList_text_arr_nil, rfl⟩
    | cons item items => exact ⟨'[', _, toList_text_arr_cons item items, rfl⟩
  | obj entries =>
    cases entries with
    | nil => exact ⟨'\x7b', _, toList_text_obj_nil, rfl⟩
    | cons entry entries => exact ⟨'\x7b', _, toList_text_obj_cons entry entries, rfl⟩
  | unreadable => exact absurd hj (by simp [isValue])

/-- Values whose texts go on to be equal are of the same kind. -/
theorem kind_eq_of_text_append {j k : Json} (hj : j.isValue = true) (hk : k.isValue = true)
    {xs ys : List Char} (h : (text j).toList ++ xs = (text k).toList ++ ys) : j.kind = k.kind := by
  obtain ⟨c, _, hjtext, hc⟩ := exists_head_text hj
  obtain ⟨d, _, hktext, hd⟩ := exists_head_text hk
  rw [hjtext, hktext] at h
  rw [← hc, ← hd, (List.cons.inj h).1]

/-- The bracket that closes an array opens no value. -/
theorem text_append_ne_bracket {j : Json} (hj : j.isValue = true) {xs ys : List Char} :
    (text j).toList ++ xs ≠ ']' :: ys := by
  obtain ⟨c, _, htext, hc⟩ := exists_head_text hj
  intro h
  rw [htext] at h
  rw [(List.cons.inj h).1] at hc
  have hkind : kindOfChar ']' = 7 := by decide
  rw [hkind] at hc
  cases j with
  | bool b => cases b <;> simp [kind] at hc
  | _ => simp [kind] at hc

/-- Behind an item stands a comma or a bracket. -/
theorem endsNumber_itemsTail (items : List Json) (xs : List Char) :
    endsNumber (itemsTail items ++ ']' :: xs) = true := by
  cases items with
  | nil => rfl
  | cons item items => rfl

/-- Behind an entry stands a comma or a brace. -/
theorem endsNumber_entriesTail (entries : List (String × Json)) (xs : List Char) :
    endsNumber (entriesTail entries ++ '\x7d' :: xs) = true := by
  cases entries with
  | nil => rfl
  | cons entry entries => rfl

/-- A further item and what stands behind it. -/
theorem itemsTail_cons_append (item : Json) (items : List Json) (xs : List Char) :
    itemsTail (item :: items) ++ ']' :: xs =
      ',' :: ((text item).toList ++ (itemsTail items ++ ']' :: xs)) := by
  simp [itemsTail]

/-- A further entry and what stands behind it. -/
theorem entriesTail_cons_append (key : String) (value : Json) (entries : List (String × Json))
    (xs : List Char) :
    entriesTail ((key, value) :: entries) ++ '\x7d' :: xs =
      ',' :: ((quote key).toList ++
        ':' :: ((text value).toList ++ (entriesTail entries ++ '\x7d' :: xs))) := by
  simp [entriesTail, entryChars]

/-- Behind the opening bracket the texts of two arrays go on as further items do. -/
theorem itemsTail_of_text_arr {items items' : List Json} (hi : areValues items = true)
    (hi' : areValues items' = true) {xs ys : List Char}
    (h : (text (.arr items)).toList ++ xs = (text (.arr items')).toList ++ ys) :
    itemsTail items ++ ']' :: xs = itemsTail items' ++ ']' :: ys := by
  have hcons (item : Json) (items : List Json) (xs : List Char) :
      (text (.arr (item :: items))).toList ++ xs =
        '[' :: ((text item).toList ++ (itemsTail items ++ ']' :: xs)) := by
    simp [toList_text_arr_cons]
  have hnil (xs : List Char) : (text (.arr [])).toList ++ xs = '[' :: ']' :: xs := by
    simp [toList_text_arr_nil]
  -- one of the arrays may be empty, where the other one goes on with a value: no value starts with
  -- the bracket
  cases items with
  | nil =>
    cases items' with
    | nil => rw [List.append_cancel_left h]
    | cons item' items' =>
      rw [areValues, Bool.and_eq_true] at hi'
      rw [hnil, hcons] at h
      exact absurd (List.cons.inj h).2.symm (text_append_ne_bracket hi'.1)
  | cons item items =>
    rw [areValues, Bool.and_eq_true] at hi
    cases items' with
    | nil =>
      rw [hnil, hcons] at h
      exact absurd (List.cons.inj h).2 (text_append_ne_bracket hi.1)
    | cons item' items' =>
      rw [hcons, hcons] at h
      rw [itemsTail_cons_append, itemsTail_cons_append, (List.cons.inj h).2]

/-- Behind the opening brace the texts of two objects go on as further entries do. -/
theorem entriesTail_of_text_obj {entries entries' : List (String × Json)} {xs ys : List Char}
    (h : (text (.obj entries)).toList ++ xs = (text (.obj entries')).toList ++ ys) :
    entriesTail entries ++ '\x7d' :: xs = entriesTail entries' ++ '\x7d' :: ys := by
  have hcons (key : String) (value : Json) (entries : List (String × Json)) (xs : List Char) :
      (text (.obj ((key, value) :: entries))).toList ++ xs =
        '\x7b' :: ((quote key).toList ++
          ':' :: ((text value).toList ++ (entriesTail entries ++ '\x7d' :: xs))) := by
    simp [toList_text_obj_cons, entryChars]
  have hnil (xs : List Char) : (text (.obj [])).toList ++ xs = '\x7b' :: '\x7d' :: xs := by
    simp [toList_text_obj_nil]
  -- an entry starts with a quote, which the closing brace is not
  cases entries with
  | nil =>
    cases entries' with
    | nil => rw [List.append_cancel_left h]
    | cons entry' entries' =>
      rw [hnil, hcons, toList_quote] at h
      exact absurd (List.cons.inj (List.cons.inj h).2).1 (by decide)
  | cons entry entries =>
    cases entries' with
    | nil =>
      rw [hnil, hcons, toList_quote] at h
      exact absurd (List.cons.inj (List.cons.inj h).2).1 (by decide)
    | cons entry' entries' =>
      rw [hcons, hcons] at h
      rw [entriesTail_cons_append, entriesTail_cons_append, (List.cons.inj h).2]

mutual
/-- A value is told apart from what follows its text, if that does not continue a number. -/
theorem text_append_inj : ∀ (j k : Json), j.isValue = true → k.isValue = true →
    ∀ {xs ys : List Char}, endsNumber xs = true → endsNumber ys = true →
    (text j).toList ++ xs = (text k).toList ++ ys → j = k ∧ xs = ys
  -- the first character tells the kind of both values, so only one case is left for the second
  | .null, k, hj, hk, xs, ys, hx, hy, h => by
    have hkind := kind_eq_of_text_append hj hk h
    cases k with
    | null => exact ⟨rfl, List.append_cancel_left h⟩
    | bool b => cases b <;> simp [kind] at hkind
    | unreadable => exact absurd hk (by simp [isValue])
    | _ => simp [kind] at hkind
  | .bool b, k, hj, hk, xs, ys, hx, hy, h => by
    have hkind := kind_eq_of_text_append hj hk h
    cases k with
    | bool b' =>
      have hb : b = b' := by cases b <;> cases b' <;> simp_all [kind]
      subst hb
      exact ⟨rfl, List.append_cancel_left h⟩
    | _ => cases b <;> simp [kind] at hkind
  | .num m, k, hj, hk, xs, ys, hx, hy, h => by
    have hkind := kind_eq_of_text_append hj hk h
    cases k with
    | num n =>
      obtain ⟨hmn, hrest⟩ := Number.text_append_inj hj hk hx hy h
      exact ⟨by rw [hmn], hrest⟩
    | bool b => cases b <;> simp [kind] at hkind
    | _ => simp [kind] at hkind
  | .str s, k, hj, hk, xs, ys, hx, hy, h => by
    have hkind := kind_eq_of_text_append hj hk h
    cases k with
    | str t =>
      obtain ⟨hst, hrest⟩ := quote_append_inj h
      exact ⟨by rw [hst], hrest⟩
    | bool b => cases b <;> simp [kind] at hkind
    | _ => simp [kind] at hkind
  | .arr items, k, hj, hk, xs, ys, hx, hy, h => by
    have hkind := kind_eq_of_text_append hj hk h
    cases k with
    | arr items' =>
      rw [isValue] at hj hk
      obtain ⟨hitems, hrest⟩ := itemsTail_append_inj items items' hj hk
        (itemsTail_of_text_arr hj hk h)
      exact ⟨by rw [hitems], hrest⟩
    | bool b => cases b <;> simp [kind] at hkind
    | _ => simp [kind] at hkind
  | .obj entries, k, hj, hk, xs, ys, hx, hy, h => by
    have hkind := kind_eq_of_text_append hj hk h
    cases k with
    | obj entries' =>
      rw [isValue] at hj hk
      obtain ⟨hentries, hrest⟩ := entriesTail_append_inj entries entries' hj hk
        (entriesTail_of_text_obj h)
      exact ⟨by rw [hentries], hrest⟩
    | bool b => cases b <;> simp [kind] at hkind
    | _ => simp [kind] at hkind
  | .unreadable, k, hj, hk, xs, ys, hx, hy, h => absurd hj (by simp [isValue])

/-- `text_append_inj` on further items up to the closing bracket. -/
theorem itemsTail_append_inj : ∀ (items items' : List Json), areValues items = true →
    areValues items' = true → ∀ {xs ys : List Char},
    itemsTail items ++ ']' :: xs = itemsTail items' ++ ']' :: ys → items = items' ∧ xs = ys
  | [], [], _, _, xs, ys, h => ⟨rfl, (List.cons.inj h).2⟩
  | [], _ :: _, _, _, xs, ys, h => absurd (List.cons.inj h).1 (by decide)
  | _ :: _, [], _, _, xs, ys, h => absurd (List.cons.inj h).1 (by decide)
  | item :: items, item' :: items', hi, hi', xs, ys, h => by
    rw [areValues, Bool.and_eq_true] at hi hi'
    rw [itemsTail_cons_append, itemsTail_cons_append] at h
    obtain ⟨hitem, hrest⟩ := text_append_inj item item' hi.1 hi'.1
      (endsNumber_itemsTail items xs) (endsNumber_itemsTail items' ys) (List.cons.inj h).2
    obtain ⟨hitems, hrest⟩ := itemsTail_append_inj items items' hi.2 hi'.2 hrest
    exact ⟨by rw [hitem, hitems], hrest⟩

/-- `text_append_inj` on further entries up to the closing brace. -/
theorem entriesTail_append_inj : ∀ (entries entries' : List (String × Json)),
    entriesAreValues entries = true → entriesAreValues entries' = true → ∀ {xs ys : List Char},
    entriesTail entries ++ '\x7d' :: xs = entriesTail entries' ++ '\x7d' :: ys →
    entries = entries' ∧ xs = ys
  | [], [], _, _, xs, ys, h => ⟨rfl, (List.cons.inj h).2⟩
  | [], _ :: _, _, _, xs, ys, h => absurd (List.cons.inj h).1 (by decide)
  | _ :: _, [], _, _, xs, ys, h => absurd (List.cons.inj h).1 (by decide)
  | (key, value) :: entries, (key', value') :: entries', he, he', xs, ys, h => by
    rw [entriesAreValues, Bool.and_eq_true] at he he'
    rw [entriesTail_cons_append, entriesTail_cons_append] at h
    obtain ⟨hkey, hvalue⟩ := quote_append_inj (List.cons.inj h).2
    obtain ⟨hvalue, hrest⟩ := text_append_inj value value' he.1 he'.1
      (endsNumber_entriesTail entries xs) (endsNumber_entriesTail entries' ys)
      (List.cons.inj hvalue).2
    obtain ⟨hentries, hrest⟩ := entriesTail_append_inj entries entries' he.2 he'.2 hrest
    exact ⟨by rw [hkey, hvalue, hentries], hrest⟩
end

/-- The text of a value determines it. -/
theorem text_injective {j k : Json} (hj : j.isValue = true) (hk : k.isValue = true)
    (h : j.text = k.text) : j = k := by
  have happend : (text j).toList ++ [] = (text k).toList ++ [] := by rw [h]
  exact (text_append_inj j k hj hk rfl rfl happend).1

end DualQuery.Json
