import DualQuery.Json.Reader
import DualQuery.Proofs.Canonical
import DualQuery.Proofs.JsonText
import DualQuery.Proofs.RoundedQuotient
import DualQuery.Proofs.TimestampOperands

/-!
# Values that are read

Every double that is read from a text is finite: a significand has at most sixty-four bits, it is
divided by powers of ten that are at least one, and a product out of range is refused. The values
that are read are therefore written with all their numbers, and read back from what is written.

## Key results

- `Json.Number.isInRange_of_read?`: numbers
- `Json.fits_of_outline?`: texts, whose depth is bounded too
- `Value.ofJson_toJson`: values are read back from what is written for them
-/

namespace DualQuery.Json

open Binary64

/-! ## Numbers -/

namespace Number

/-- Whether a number is in the range of what can be read: an integer has sixty-four bits, a double
is finite. -/
def isInRange : Json.Number → Bool
  | .int i => decide (i.natAbs ≤ maxSignificand)
  | .float x => x.isFinite

/-- Digits are taken as long as they fit a word. -/
theorem fst_accumulate_le {significand : Nat} (h : significand ≤ maxSignificand)
    (digits : List Nat) : (accumulate significand digits).1 ≤ maxSignificand := by
  -- the significand so far is the invariant, and a digit that does not fit ends the loop
  induction digits generalizing significand with
  | nil => exact h
  | cons d ds ih =>
    rw [accumulate]
    split
    · exact h
    · exact ih (by omega)

/-- A significand is finite as a double. -/
theorem isFinite_ofNat_of_le {significand : Nat} (h : significand ≤ maxSignificand) :
    (Binary64.ofNat significand).isFinite = true := by
  have hmax : maxSignificand ≤ 2 ^ 64 := by decide
  exact isFinite_ofRatio_one false (h.trans hmax)

/-- A division by a power of ten keeps a double finite. -/
theorem isFinite_div_powerOfTen {x : Binary64} (hx : x.isFinite = true) (places : Nat) :
    (x.div (powerOfTen places)).isFinite = true :=
  -- the divisor is at least one
  isFinite_div hx (oneMagnitude_le_ofNat (Nat.pow_pos (by decide))) (magnitude_ofRatio_le _ _ _)

/-- So do several of them, for a large number of places. -/
theorem isFinite_scaleDown {x : Binary64} (hx : x.isFinite = true) (places : Nat) :
    (scaleDown x places).isFinite = true := by
  -- the places are taken three hundred and eight at a time, as the function does
  induction x, places using scaleDown.induct with
  | case1 x places hplaces =>
    rw [scaleDown, dif_pos hplaces]
    exact isFinite_div_powerOfTen hx places
  | case2 x places hplaces hzero =>
    rw [scaleDown, dif_neg hplaces, if_pos hzero]
    exact hx
  | case3 x places hplaces hzero ih =>
    rw [scaleDown, dif_neg hplaces, if_neg hzero]
    exact ih (isFinite_div_powerOfTen hx 308)

/-- The double with a significand and an exponent is finite where there is one. -/
theorem isFinite_of_ofParts? {significand : Nat} (h : significand ≤ maxSignificand)
    {exponent : Int} {x : Binary64} (hx : ofParts? significand exponent = some x) :
    x.isFinite = true := by
  have hsignificand := isFinite_ofNat_of_le h
  -- a negative exponent divides, a positive one multiplies and is asked whether the result is
  -- finite
  simp only [ofParts?] at hx
  split at hx
  · rw [← Option.some.inj hx]
    exact isFinite_scaleDown hsignificand _
  · split at hx
    · split at hx
      next hfinite =>
        rw [← Option.some.inj hx]
        exact hfinite
      next => cases hx
    · split at hx
      · rw [← Option.some.inj hx]
        exact hsignificand
      · cases hx

/-- So is what is read from behind a point, with or without an exponent. -/
theorem isFinite_of_finish? {significand : Nat} (h : significand ≤ maxSignificand) {places : Int}
    {cs rest : List Char} {x : Binary64} (hx : finish? significand places cs = some (x, rest)) :
    x.isFinite = true := by
  have hzero : Binary64.zero.isFinite = true := by decide
  have hparts : ∀ {exponent : Int} {cs : List Char},
      (ofParts? significand exponent >>= fun x => some (x, cs)) = some (x, rest) →
        x.isFinite = true := by
    intro exponent cs hread
    obtain ⟨y, hy, hxy⟩ := Option.bind_eq_some_iff.1 hread
    obtain ⟨rfl, -⟩ := Prod.mk.inj (Option.some.inj hxy)
    exact isFinite_of_ofParts? h hy
  cases cs with
  | nil => exact hparts hx
  | cons c cs =>
    simp only [finish?] at hx
    split at hx
    · obtain ⟨⟨negative, value, tail⟩, -, hx⟩ := Option.bind_eq_some_iff.1 hx
      cases value with
      | some value => exact hparts hx
      | none =>
        -- an exponent too large to count leaves zero, or is refused
        simp only at hx
        split at hx
        · obtain ⟨rfl, -⟩ := Prod.mk.inj (Option.some.inj hx)
          exact hzero
        · cases hx
    · exact hparts hx

/-- So is what is read with digits behind the point. -/
theorem isFinite_of_fraction? {significand : Nat} (h : significand ≤ maxSignificand) {places : Int}
    {cs rest : List Char} {x : Binary64} (hx : fraction? significand places cs = some (x, rest)) :
    x.isFinite = true := by
  simp only [fraction?] at hx
  split at hx
  · cases hx
  · exact isFinite_of_finish? (fst_accumulate_le h _) hx

/-- A sign keeps a double finite. -/
theorem isFinite_signed {x : Binary64} (hx : x.isFinite = true) (negative : Bool) :
    (signed negative x).isFinite = true := by
  cases negative with
  | false => exact hx
  | true => exact isFinite_neg hx

/-- A number without point and exponent is an integer in range or a finite double. -/
theorem isInRange_ofSignificand {significand : Nat} (h : significand ≤ maxSignificand)
    (negative : Bool) : (ofSignificand negative significand).isInRange = true := by
  unfold ofSignificand
  split
  · split
    · exact isFinite_neg (isFinite_ofNat_of_le h)
    · rw [isInRange, Int.natAbs_neg, Int.natAbs_natCast]
      exact decide_eq_true h
  · rw [isInRange, Int.natAbs_natCast]
    exact decide_eq_true h

/-- What is read behind a sign is in range. -/
theorem isInRange_of_unsigned? {negative : Bool} {cs rest : List Char} {n : Json.Number}
    (hn : unsigned? negative cs = some (n, rest)) : n.isInRange = true := by
  have hle := fst_accumulate_le (Nat.zero_le maxSignificand) (spanDigits cs).1
  -- a point or an exponent makes a double, anything else a whole number
  have hfloat : ∀ {result : Option (Binary64 × List Char)},
      (∀ x tail, result = some (x, tail) → x.isFinite = true) →
        (result.map fun read => (Number.float (signed negative read.1), read.2)) = some (n, rest) →
          n.isInRange = true := by
    intro result hresult hread
    obtain ⟨⟨x, tail⟩, hx, hxn⟩ := Option.map_eq_some_iff.1 hread
    obtain ⟨rfl, -⟩ := Prod.mk.inj hxn
    exact isFinite_signed (hresult x tail hx) negative
  have hwhole : ∀ {tail : List Char},
      some (ofSignificand negative (accumulate 0 (spanDigits cs).1).1, tail) = some (n, rest) →
        n.isInRange = true := by
    intro tail hread
    obtain ⟨rfl, -⟩ := Prod.mk.inj (Option.some.inj hread)
    exact isInRange_ofSignificand hle negative
  simp only [unsigned?] at hn
  split at hn
  · cases hn
  · split at hn
    · cases hn
    · split at hn
      · split at hn
        · exact hfloat (fun _ _ hx => isFinite_of_fraction? hle hx) hn
        · split at hn
          · exact hwhole hn
          · exact hfloat (fun _ _ hx => isFinite_of_finish? hle hx) hn
      · split at hn
        · exact hwhole hn
        · exact hfloat (fun _ _ hx => isFinite_of_finish? hle hx) hn

/-- A number that is read is in range. -/
theorem isInRange_of_read? {cs rest : List Char} {n : Json.Number}
    (hn : read? cs = some (n, rest)) : n.isInRange = true := by
  unfold read? at hn
  split at hn
  · exact isInRange_of_unsigned? hn
  · exact isInRange_of_unsigned? hn

end Number

/-! ## Depth and numbers -/

mutual
/-- Whether a value nests at most `depth` deep and all its numbers are of some kind. -/
def fits (p : Number → Bool) : Nat → Json → Bool
  | _, .num n => p n
  | 0, .arr _ | 0, .obj _ => false
  | depth + 1, .arr items => allFit p depth items
  | depth + 1, .obj entries => entriesFit p depth entries
  | _, .null | _, .bool _ | _, .str _ | _, .unreadable => true

/-- `fits` on every item. -/
def allFit (p : Number → Bool) : Nat → List Json → Bool
  | _, [] => true
  | depth, item :: items => fits p depth item && allFit p depth items

/-- `fits` on every entry's value. -/
def entriesFit (p : Number → Bool) : Nat → List (String × Json) → Bool
  | _, [] => true
  | depth, (_, value) :: entries => fits p depth value && entriesFit p depth entries
end

section Fits

variable {p : Number → Bool} {depth : Nat}

/-- Null is no deeper than any bound. -/
@[simp] theorem fits_null : fits p depth .null = true := by cases depth <;> rfl

/-- Nor is a truth value. -/
@[simp] theorem fits_bool (b : Bool) : fits p depth (.bool b) = true := by cases depth <;> rfl

/-- Nor is a text. -/
@[simp] theorem fits_str (s : String) : fits p depth (.str s) = true := by cases depth <;> rfl

/-- Nor is what cannot be read. -/
@[simp] theorem fits_unreadable : fits p depth .unreadable = true := by cases depth <;> rfl

/-- A number is no deeper than any bound, if it is of the kind. -/
@[simp] theorem fits_num (n : Number) : fits p depth (.num n) = p n := by cases depth <;> rfl

/-- All items fit if each of them does. -/
theorem allFit_iff (items : List Json) :
    allFit p depth items = true ↔ ∀ item ∈ items, fits p depth item = true := by
  induction items with
  | nil => simp [allFit]
  | cons item items ih => rw [allFit, Bool.and_eq_true, ih, List.forall_mem_cons]

/-- All entries fit if the value of each of them does. -/
theorem entriesFit_iff (entries : List (String × Json)) :
    entriesFit p depth entries = true ↔ ∀ entry ∈ entries, fits p depth entry.2 = true := by
  induction entries with
  | nil => simp [entriesFit]
  | cons entry entries ih => rw [entriesFit, Bool.and_eq_true, ih, List.forall_mem_cons]

/-- An array fits if its items do one level below. -/
@[simp] theorem fits_arr (items : List Json) :
    fits p (depth + 1) (.arr items) = true ↔ ∀ item ∈ items, fits p depth item = true :=
  allFit_iff items

/-- An object fits if its values do one level below. -/
@[simp] theorem fits_obj (entries : List (String × Json)) :
    fits p (depth + 1) (.obj entries) = true ↔ ∀ entry ∈ entries, fits p depth entry.2 = true :=
  entriesFit_iff entries

end Fits

/-! ## Texts -/

mutual
/-- Whether every number of a value is in range. -/
def isInRange : Json → Bool
  | .num n => n.isInRange
  | .arr items => areInRange items
  | .obj entries => entriesAreInRange entries
  | .null | .bool _ | .str _ | .unreadable => true

/-- `isInRange` on every item. -/
def areInRange : List Json → Bool
  | [] => true
  | item :: items => isInRange item && areInRange items

/-- `isInRange` on every entry's value. -/
def entriesAreInRange : List (String × Json) → Bool
  | [] => true
  | (_, value) :: entries => isInRange value && entriesAreInRange entries
end

/-- All items are in range if each of them is. -/
theorem areInRange_iff (items : List Json) :
    areInRange items = true ↔ ∀ item ∈ items, item.isInRange = true := by
  induction items with
  | nil => simp [areInRange]
  | cons item items ih => rw [areInRange, Bool.and_eq_true, ih, List.forall_mem_cons]

/-- All entries are in range if the value of each of them is. -/
theorem entriesAreInRange_iff (entries : List (String × Json)) :
    entriesAreInRange entries = true ↔ ∀ entry ∈ entries, entry.2.isInRange = true := by
  induction entries with
  | nil => simp [entriesAreInRange]
  | cons entry entries ih => rw [entriesAreInRange, Bool.and_eq_true, ih, List.forall_mem_cons]

/-- What is read in place of a value is the value, or unreadable. -/
theorem orSkim?_eq_some {cs rest : List Char} {read : Option (Json × List Char)} {j : Json}
    (h : orSkim? cs read = some (j, rest)) : read = some (j, rest) ∨ j = .unreadable := by
  unfold orSkim? at h
  split at h
  · exact .inl h
  · obtain ⟨_, -, hj⟩ := Option.map_eq_some_iff.1 h
    exact .inr (Prod.mk.inj hj).1.symm

mutual
/-- A value that is read nests no deeper than the reader goes, and its numbers are in range. -/
theorem fits_of_value? : ∀ {fuel depth : Nat} {cs rest : List Char} {j : Json},
    value? fuel depth cs = some (j, rest) → j.fits Number.isInRange depth = true
  | 0, depth, cs, rest, j, h => by
    rw [value?] at h
    cases h
  | fuel + 1, depth, cs, rest, j, h => by
    rw [value?] at h
    -- what is skimmed over is unreadable, which has no depth and holds no number
    rcases orSkim?_eq_some h with h | rfl
    · have hword : ∀ {word cs : List Char} {value : Json},
          value.fits Number.isInRange depth = true →
            word? word value cs = some (j, rest) → j.fits Number.isInRange depth = true := by
        intro word cs value hvalue hread
        obtain ⟨_, -, hmem⟩ := Option.map_eq_some_iff.1 hread
        obtain ⟨rfl, -⟩ := Prod.mk.inj hmem
        exact hvalue
      split at h
      · obtain ⟨_, -, hmem⟩ := Option.map_eq_some_iff.1 h
        obtain ⟨rfl, -⟩ := Prod.mk.inj hmem
        exact fits_str _
      · cases depth with
        | zero => cases h
        | succ depth =>
          rw [if_neg (Nat.succ_ne_zero depth), Nat.add_sub_cancel] at h
          split at h
          · obtain ⟨rfl, -⟩ := Prod.mk.inj (Option.some.inj h)
            rfl
          · obtain ⟨⟨items, tail⟩, hitems, hmem⟩ := Option.map_eq_some_iff.1 h
            obtain ⟨rfl, -⟩ := Prod.mk.inj hmem
            exact (fits_arr items).2 (fits_of_items? hitems)
      · cases depth with
        | zero => cases h
        | succ depth =>
          rw [if_neg (Nat.succ_ne_zero depth), Nat.add_sub_cancel] at h
          split at h
          · obtain ⟨rfl, -⟩ := Prod.mk.inj (Option.some.inj h)
            rfl
          · obtain ⟨⟨entries, tail⟩, hentries, hmem⟩ := Option.map_eq_some_iff.1 h
            obtain ⟨rfl, -⟩ := Prod.mk.inj hmem
            exact (fits_obj entries).2 (fits_of_entries? hentries)
      · exact hword fits_null h
      · exact hword (fits_bool true) h
      · exact hword (fits_bool false) h
      · obtain ⟨⟨n, tail⟩, hn, hmem⟩ := Option.map_eq_some_iff.1 h
        obtain ⟨rfl, -⟩ := Prod.mk.inj hmem
        rw [fits_num]
        exact Number.isInRange_of_read? hn
    · exact fits_unreadable

/-- `fits_of_value?` for the items of an array. -/
theorem fits_of_items? : ∀ {fuel depth : Nat} {cs rest : List Char} {items : List Json},
    items? fuel depth cs = some (items, rest) →
      ∀ item ∈ items, item.fits Number.isInRange depth = true
  | 0, depth, cs, rest, items, h => by
    rw [items?] at h
    cases h
  | fuel + 1, depth, cs, rest, items, h => by
    rw [items?] at h
    obtain ⟨⟨item, tail⟩, hitem, h⟩ := Option.bind_eq_some_iff.1 h
    simp only at h
    split at h
    · obtain ⟨⟨more, tail⟩, hmore, h⟩ := Option.bind_eq_some_iff.1 h
      obtain ⟨rfl, -⟩ := Prod.mk.inj (Option.some.inj h)
      exact List.forall_mem_cons.2 ⟨fits_of_value? hitem, fits_of_items? hmore⟩
    · obtain ⟨rfl, -⟩ := Prod.mk.inj (Option.some.inj h)
      exact List.forall_mem_singleton.2 (fits_of_value? hitem)
    · cases h

/-- `fits_of_value?` for the entries of an object. -/
theorem fits_of_entries? : ∀ {fuel depth : Nat} {cs rest : List Char}
    {entries : List (String × Json)}, entries? fuel depth cs = some (entries, rest) →
      ∀ entry ∈ entries, entry.2.fits Number.isInRange depth = true
  | 0, depth, cs, rest, entries, h => by
    rw [entries?] at h
    cases h
  | fuel + 1, depth, cs, rest, entries, h => by
    rw [entries?] at h
    split at h
    · obtain ⟨⟨key, tail⟩, -, h⟩ := Option.bind_eq_some_iff.1 h
      simp only at h
      split at h
      · obtain ⟨⟨value, tail⟩, hvalue, h⟩ := Option.bind_eq_some_iff.1 h
        simp only at h
        split at h
        · obtain ⟨⟨more, tail⟩, hmore, h⟩ := Option.bind_eq_some_iff.1 h
          obtain ⟨rfl, -⟩ := Prod.mk.inj (Option.some.inj h)
          exact List.forall_mem_cons.2 ⟨fits_of_value? hvalue, fits_of_entries? hmore⟩
        · obtain ⟨rfl, -⟩ := Prod.mk.inj (Option.some.inj h)
          exact List.forall_mem_singleton.2 (fits_of_value? hvalue)
        · cases h
      · cases h
    · cases h
end

/-- A text that is read nests no deeper than the reader goes, and its numbers are in range. -/
theorem fits_of_outline? {text : String} {j : Json} (h : outline? text = some j) :
    j.fits Number.isInRange maxDepth = true := by
  -- what is left behind the value must be blank
  simp only [outline?, outlineWithin?] at h
  split at h
  · split at h
    · rw [← Option.some.inj h]
      exact fits_of_value? ‹_›
    · cases h
  · cases h

/-- A value that fits has all its numbers in range, whatever its depth. -/
theorem isInRange_of_fits {depth : Nat} {j : Json} (h : j.fits Number.isInRange depth = true) :
    j.isInRange = true := by
  -- the depth bounds the recursion through items and entries
  induction depth generalizing j with
  | zero =>
    cases j with
    | num n => exact h
    | arr _ | obj _ => cases h
    | _ => rfl
  | succ depth ih =>
    cases j with
    | num n => exact h
    | arr items =>
      exact (areInRange_iff items).2 fun item hitem => ih ((fits_arr items).1 h item hitem)
    | obj entries =>
      refine (entriesAreInRange_iff entries).2 fun entry hentry => ?_
      exact ih ((fits_obj entries).1 h entry hentry)
    | _ => rfl

/-- Every number that is read from a text is in range. -/
theorem isInRange_of_outline? {text : String} {j : Json} (h : outline? text = some j) :
    j.isInRange = true :=
  isInRange_of_fits (fits_of_outline? h)

end DualQuery.Json

/-! ## Values of JSON -/

namespace DualQuery.Value

mutual
/-- Whether every double of a value is finite. -/
def isFinite : Value → Bool
  | float x => x.isFinite
  | array items => areFiniteItems items
  | object fields => areFiniteFields fields
  | _ => true

/-- `isFinite` on every item. -/
def areFiniteItems : List Value → Bool
  | [] => true
  | item :: items => isFinite item && areFiniteItems items

/-- `isFinite` on the value of every field. -/
def areFiniteFields : List (String × Value) → Bool
  | [] => true
  | (_, value) :: fields => isFinite value && areFiniteFields fields
end

/-- All fields are finite if the value of each of them is. -/
theorem areFiniteFields_iff {fields : List (String × Value)} :
    areFiniteFields fields = true ↔ ∀ field ∈ fields, field.2.isFinite = true := by
  induction fields with
  | nil => simp [areFiniteFields]
  | cons field fields ih => rw [areFiniteFields, Bool.and_eq_true, ih, List.forall_mem_cons]

/-- A number in range is finite as a value. -/
theorem isFinite_ofNumber {n : Json.Number} (hn : n.isInRange = true) :
    (ofNumber n).isFinite = true := by
  cases n with
  | float x => exact hn
  | int i =>
    -- an integer that is no word becomes a double, which is finite as it has sixty-four bits
    rw [ofNumber]
    split
    · rfl
    · have hmax : Json.Number.maxSignificand ≤ 2 ^ 64 := by decide
      exact Binary64.isFinite_ofRatio_one _ ((of_decide_eq_true hn).trans hmax)

mutual
/-- The value of JSON whose numbers are in range is finite. -/
theorem isFinite_ofJson : ∀ {j : Json}, j.isInRange = true → (ofJson j).isFinite = true
  | .null, _ | .unreadable, _ | .bool _, _ | .str _, _ => rfl
  | .num _, h => isFinite_ofNumber h
  | .arr _, h => isFinite_ofJsonItems h
  | .obj entries, h => by
    rw [ofJson, isFinite, areFiniteFields_iff]
    intro field hfield
    exact areFiniteFields_iff.1 (isFinite_ofJsonEntries h) field (Keyed.mem_ofList hfield)

/-- So are all items. -/
theorem isFinite_ofJsonItems : ∀ {items : List Json}, Json.areInRange items = true →
    areFiniteItems (ofJsonItems items) = true
  | [], _ => rfl
  | item :: items, h => by
    rw [Json.areInRange, Bool.and_eq_true] at h
    rw [ofJsonItems, areFiniteItems, isFinite_ofJson h.1, isFinite_ofJsonItems h.2]
    rfl

/-- So are the values of all entries. -/
theorem isFinite_ofJsonEntries : ∀ {entries : List (String × Json)},
    Json.entriesAreInRange entries = true → areFiniteFields (ofJsonEntries entries) = true
  | [], _ => rfl
  | (_, value) :: entries, h => by
    rw [Json.entriesAreInRange, Bool.and_eq_true] at h
    rw [ofJsonEntries, areFiniteFields, isFinite_ofJson h.1, isFinite_ofJsonEntries h.2]
    rfl
end

/-- A word is read back from the integer that is written for it. -/
theorem ofJson_ofInt_toInt (i : Int64) : ofJson (Json.ofInt i.toInt) = int i := by
  have hfits : fitsInt64 i.toInt = true := decide_eq_true ⟨i.le_toInt, i.toInt_lt⟩
  rw [Json.ofInt, ofJson, ofNumber, if_pos hfits, Int64.ofInt_toInt]

/-- Fields keep their order when timestamps become integers. -/
theorem sorted_untimedFields {fields : List (String × Value)} (h : Keyed.Sorted fields) :
    Keyed.Sorted (untimedFields fields) := by
  rw [untimedFields_eq_map, Keyed.Sorted, List.pairwise_map]
  exact h

mutual
/-- A canonical value without infinite or missing numbers is read back from its JSON form, with
integers for its timestamps. -/
theorem ofJson_toJson : ∀ {v : Value}, v.isCanonical = true → v.isFinite = true →
    ofJson v.toJson = v.untimed
  | null, _, _ | bool _, _, _ | string _, _, _ => rfl
  | int i, _, _ => ofJson_ofInt_toInt i
  | timestamp t, _, _ => ofJson_ofInt_toInt t
  | float x, _, hfinite => by
    rw [isFinite] at hfinite
    rw [toJson, if_pos hfinite]
    rfl
  | array items, hcanonical, hfinite => by
    rw [isCanonical] at hcanonical
    rw [toJson, ofJson, untimed, ofJsonItems_toJsonItems hcanonical hfinite]
  | object fields, hcanonical, hfinite => by
    rw [isCanonical, Bool.and_eq_true, decide_eq_true_iff] at hcanonical
    rw [toJson, ofJson, untimed, ofJsonEntries_toJsonEntries hcanonical.2 hfinite,
      (sorted_untimedFields hcanonical.1).ofList_eq]

/-- So are the items of an array. -/
theorem ofJsonItems_toJsonItems : ∀ {items : List Value}, areCanonicalItems items = true →
    areFiniteItems items = true → ofJsonItems (toJsonItems items) = untimedItems items
  | [], _, _ => rfl
  | item :: items, hcanonical, hfinite => by
    rw [areCanonicalItems, Bool.and_eq_true] at hcanonical
    rw [areFiniteItems, Bool.and_eq_true] at hfinite
    rw [toJsonItems, ofJsonItems, untimedItems, ofJson_toJson hcanonical.1 hfinite.1,
      ofJsonItems_toJsonItems hcanonical.2 hfinite.2]

/-- So are the fields of an object, in the order of their names. -/
theorem ofJsonEntries_toJsonEntries : ∀ {fields : List (String × Value)},
    areCanonicalFields fields = true → areFiniteFields fields = true →
    ofJsonEntries (toJsonEntries fields) = untimedFields fields
  | [], _, _ => rfl
  | (key, value) :: fields, hcanonical, hfinite => by
    rw [areCanonicalFields, Bool.and_eq_true] at hcanonical
    rw [areFiniteFields, Bool.and_eq_true] at hfinite
    rw [toJsonEntries, ofJsonEntries, untimedFields, ofJson_toJson hcanonical.1 hfinite.1,
      ofJsonEntries_toJsonEntries hcanonical.2 hfinite.2]
end

end DualQuery.Value
