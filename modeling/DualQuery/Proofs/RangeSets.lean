import DualQuery.Text.Ranges
import Mathlib.Data.List.Nodup
import Mathlib.Data.List.Perm.Subperm

/-!
# Ranges in order

The operations on sets of characters give ranges that are in order and do not meet, whatever is
joined or taken away, and these ranges hold the codes they should. Since no code is held twice there
are no more ranges than codes.

## Key results

- `Text.inRanges_joined`, `Text.inOrder_joined`: ranges that are joined
- `Text.inRanges_complementRanges`, `Text.inOrder_complementRanges`: the codes outside of ranges
- `Text.inRanges_removeRanges`: the codes of one set that are not in another
- `Text.InOrder.length_codes_le`: how many codes ranges hold
-/

namespace DualQuery.Text

/-- Whether ranges of codes are in order: none is empty, and each is in front of those behind it. -/
structure InOrder (ranges : List (Nat × Nat)) : Prop where
  valid : ∀ range ∈ ranges, range.1 ≤ range.2 ∧ range.2 ≤ maxCode
  apart : ranges.Pairwise fun a b => a.2 < b.1

variable {ranges rest : List (Nat × Nat)} {range : Nat × Nat} {low high next code : Nat}

/-- No ranges hold no code. -/
theorem inRanges_nil : inRanges [] code = false := rfl

/-- A code lies in the first range or in the others. -/
theorem inRanges_cons : inRanges (range :: ranges) code = true ↔
    (range.1 ≤ code ∧ code ≤ range.2) ∨ inRanges ranges code = true := by
  rw [inRanges, List.any_cons, Bool.or_eq_true, Bool.and_eq_true, decide_eq_true_eq,
    decide_eq_true_eq]
  rfl

/-- A code lies in the ranges of either list. -/
theorem inRanges_append {first second : List (Nat × Nat)} :
    inRanges (first ++ second) code = true ↔
      inRanges first code = true ∨ inRanges second code = true := by
  rw [inRanges, List.any_append, Bool.or_eq_true]
  rfl

/-- The order of the ranges does not matter. -/
theorem inRanges_congr_perm {first second : List (Nat × Nat)} (h : first.Perm second) :
    inRanges first code = inRanges second code := h.any_eq

/-! ## Joining -/

/-- Joining keeps the codes, where the ranges stand in the order of their starts. -/
theorem inRanges_joinFrom (hlow : ∀ range ∈ rest, low ≤ range.1)
    (hrest : rest.Pairwise fun a b => a.1 ≤ b.1) :
    inRanges (joinFrom low high rest) code = true ↔
      (low ≤ code ∧ code ≤ high) ∨ inRanges rest code = true := by
  -- the induction is on the ranges behind the one that grows
  induction rest generalizing low high with
  | nil => rw [joinFrom, inRanges_cons]
  | cons range rest ih =>
    obtain ⟨first, last⟩ := range
    obtain ⟨hfirst, hrest⟩ := List.pairwise_cons.1 hrest
    obtain ⟨hlowfirst, hlow⟩ := List.forall_mem_cons.1 hlow
    change low ≤ first at hlowfirst
    rw [joinFrom, inRanges_cons]
    split
    next hmeet =>
      -- nothing lies between the two ranges that are joined
      have hjoined : (low ≤ code ∧ code ≤ max high last) ↔
          (low ≤ code ∧ code ≤ high) ∨ (first ≤ code ∧ code ≤ last) := by omega
      rw [ih hlow hrest, hjoined, or_assoc]
    next hmeet => rw [inRanges_cons, ih hfirst hrest]

/-- Joining leaves ranges in order, from the start of the first one on. -/
theorem inOrder_joinFrom (hlow : ∀ range ∈ rest, low ≤ range.1)
    (hrest : rest.Pairwise fun a b => a.1 ≤ b.1)
    (hvalid : ∀ range ∈ (low, high) :: rest, range.1 ≤ range.2 ∧ range.2 ≤ maxCode) :
    InOrder (joinFrom low high rest) ∧ ∀ range ∈ joinFrom low high rest, low ≤ range.1 := by
  induction rest generalizing low high with
  | nil =>
    rw [joinFrom]
    exact ⟨⟨hvalid, List.pairwise_singleton _ _⟩, List.forall_mem_singleton.2 (Nat.le_refl _)⟩
  | cons range rest ih =>
    obtain ⟨first, last⟩ := range
    obtain ⟨hfirst, hrest⟩ := List.pairwise_cons.1 hrest
    obtain ⟨hlowfirst, hlow⟩ := List.forall_mem_cons.1 hlow
    obtain ⟨hvalidlow, hvalid⟩ := List.forall_mem_cons.1 hvalid
    obtain ⟨hvalidfirst, hvalidrest⟩ := List.forall_mem_cons.1 hvalid
    change low ≤ first at hlowfirst
    change low ≤ high ∧ high ≤ maxCode at hvalidlow
    change first ≤ last ∧ last ≤ maxCode at hvalidfirst
    rw [joinFrom]
    split
    next hmeet =>
      -- the ranges meet, so they go on as one
      have hmax : low ≤ max high last ∧ max high last ≤ maxCode := by omega
      exact ih hlow hrest (List.forall_mem_cons.2 ⟨hmax, hvalidrest⟩)
    -- the range is closed: the next one starts behind a gap
    next hmeet =>
      obtain ⟨⟨hvalid, hapart⟩, hbehind⟩ := ih hfirst hrest hvalid
      refine ⟨⟨List.forall_mem_cons.2 ⟨hvalidlow, hvalid⟩, List.pairwise_cons.2 ⟨?_, hapart⟩⟩,
        List.forall_mem_cons.2 ⟨Nat.le_refl _, ?_⟩⟩
      · intro range hrange
        have := hbehind range hrange
        change high < range.1
        omega
      · intro range hrange
        exact Nat.le_trans hlowfirst (hbehind range hrange)

/-- The order in which ranges are joined. -/
theorem pairwise_mergeSort_ranges (ranges : List (Nat × Nat)) :
    (ranges.mergeSort fun a b => a.1 ≤ b.1).Pairwise fun a b => a.1 ≤ b.1 := by
  have hsorted := @List.pairwise_mergeSort _ (fun a b : Nat × Nat => decide (a.1 ≤ b.1))
    (fun _ _ _ h h' => by simp only [decide_eq_true_eq] at *; omega)
    (fun _ _ => by simp only [Bool.or_eq_true, decide_eq_true_eq]; omega) ranges
  exact hsorted.imp of_decide_eq_true

/-- Joined ranges hold the codes they held before. -/
theorem inRanges_joined : inRanges (joined ranges) code = true ↔ inRanges ranges code = true := by
  have hperm := List.mergeSort_perm ranges fun a b => decide (a.1 ≤ b.1)
  have hsorted := pairwise_mergeSort_ranges ranges
  rw [← inRanges_congr_perm hperm, joined]
  split
  next hnil => rw [hnil]
  next range rest hcons =>
    rw [hcons] at hsorted ⊢
    obtain ⟨hlow, hrest⟩ := List.pairwise_cons.1 hsorted
    rw [inRanges_joinFrom hlow hrest, inRanges_cons]

/-- Joined ranges are in order. -/
theorem inOrder_joined (h : ∀ range ∈ ranges, range.1 ≤ range.2 ∧ range.2 ≤ maxCode) :
    InOrder (joined ranges) := by
  have hperm := List.mergeSort_perm ranges fun a b => decide (a.1 ≤ b.1)
  have hsorted := pairwise_mergeSort_ranges ranges
  rw [joined]
  split
  next => exact ⟨fun _ h => absurd h List.not_mem_nil, .nil⟩
  next range rest hcons =>
    rw [hcons] at hsorted hperm
    obtain ⟨hlow, hrest⟩ := List.pairwise_cons.1 hsorted
    exact (inOrder_joinFrom hlow hrest fun range hrange => h range (hperm.mem_iff.1 hrange)).1

/-! ## Taking away -/

/-- A code in front of all ranges lies in none. -/
theorem not_inRanges_of_lt (h : ∀ range ∈ ranges, next ≤ range.1) (hcode : code < next) :
    ¬ inRanges ranges code = true := by
  rw [inRanges, List.any_eq_true]
  rintro ⟨range, hrange, hin⟩
  rw [Bool.and_eq_true, decide_eq_true_eq] at hin
  have := h range hrange
  omega

/-- The ranges behind the first one are in order and start behind it. -/
theorem InOrder.tail (h : InOrder (range :: ranges)) :
    InOrder ranges ∧ ∀ later ∈ ranges, range.2 + 1 ≤ later.1 :=
  ⟨⟨fun later hlater => h.valid later (List.mem_cons_of_mem _ hlater), h.apart.of_cons⟩,
    (List.pairwise_cons.1 h.apart).1⟩

/-- The gaps between ranges from a code on hold the codes from there on that the ranges do not. -/
theorem inRanges_gapsFrom (h : InOrder ranges) (hnext : ∀ range ∈ ranges, next ≤ range.1) :
    inRanges (gapsFrom next ranges) code = true ↔
      next ≤ code ∧ code ≤ maxCode ∧ ¬ inRanges ranges code = true := by
  induction ranges generalizing next with
  | nil =>
    rw [gapsFrom, inRanges_nil]
    split
    · rw [inRanges_cons, inRanges_nil]
      simp
    · rw [inRanges_nil]
      simp
      omega
  | cons range ranges ih =>
    obtain ⟨first, last⟩ := range
    obtain ⟨hvalid, -⟩ := List.forall_mem_cons.1 h.valid
    obtain ⟨hnextfirst, -⟩ := List.forall_mem_cons.1 hnext
    obtain ⟨htail, hbehind⟩ := h.tail
    change first ≤ last ∧ last ≤ maxCode at hvalid
    change next ≤ first at hnextfirst
    have hrest := ih htail hbehind
    -- what is in front of the range is in front of all others
    have hfront : code < first → ¬ inRanges ranges code = true := fun hcode =>
      not_inRanges_of_lt hbehind (by omega)
    -- the code is in the gap in front of the range or in a gap behind it
    have hgap : (next ≤ code ∧ code ≤ maxCode ∧ ¬ inRanges ((first, last) :: ranges) code = true) ↔
        (next ≤ code ∧ code < first) ∨
          (last + 1 ≤ code ∧ code ≤ maxCode ∧ ¬ inRanges ranges code = true) := by
      rw [inRanges_cons]
      grind
    rw [gapsFrom, hgap]
    split
    next hlt =>
      rw [inRanges_cons, hrest]
      exact or_congr (and_congr_right fun _ => (Nat.le_sub_one_iff_lt (by omega))) Iff.rfl
    next hge =>
      rw [hrest]
      exact (or_iff_right (by omega)).symm

/-- The gaps from a code on are in order and lie behind it. -/
theorem inOrder_gapsFrom (h : InOrder ranges) (hnext : ∀ range ∈ ranges, next ≤ range.1) :
    InOrder (gapsFrom next ranges) ∧ ∀ gap ∈ gapsFrom next ranges, next ≤ gap.1 := by
  induction ranges generalizing next with
  | nil =>
    rw [gapsFrom]
    split
    next hle =>
      exact ⟨⟨List.forall_mem_singleton.2 ⟨hle, Nat.le_refl _⟩, List.pairwise_singleton _ _⟩,
        List.forall_mem_singleton.2 (Nat.le_refl _)⟩
    next => exact ⟨⟨by simp, .nil⟩, by simp⟩
  | cons range ranges ih =>
    obtain ⟨first, last⟩ := range
    obtain ⟨hvalid, -⟩ := List.forall_mem_cons.1 h.valid
    obtain ⟨hnextfirst, -⟩ := List.forall_mem_cons.1 hnext
    obtain ⟨htail, hbehind⟩ := h.tail
    change first ≤ last ∧ last ≤ maxCode at hvalid
    change next ≤ first at hnextfirst
    obtain ⟨⟨hgaps, hapart⟩, hlater⟩ := ih htail hbehind
    rw [gapsFrom]
    split
    -- there is a gap in front of the first range, and the others lie behind that range
    next hlt =>
      have hfront : next ≤ first - 1 ∧ first - 1 ≤ maxCode := by omega
      refine ⟨⟨List.forall_mem_cons.2 ⟨hfront, hgaps⟩, List.pairwise_cons.2 ⟨?_, hapart⟩⟩,
        List.forall_mem_cons.2 ⟨Nat.le_refl _, ?_⟩⟩
      · intro gap hgap
        have := hlater gap hgap
        change first - 1 < gap.1
        omega
      · intro gap hgap
        have := hlater gap hgap
        omega
    next hge =>
      refine ⟨⟨hgaps, hapart⟩, fun gap hgap => ?_⟩
      have := hlater gap hgap
      omega

/-- The complement holds exactly the codes that the ranges do not. -/
theorem inRanges_complementRanges (h : InOrder ranges) :
    inRanges (complementRanges ranges) code = true ↔
      code ≤ maxCode ∧ ¬ inRanges ranges code = true := by
  rw [complementRanges, inRanges_gapsFrom h fun _ _ => Nat.zero_le _]
  exact and_iff_right (Nat.zero_le _)

/-- The complement is in order. -/
theorem inOrder_complementRanges (h : InOrder ranges) : InOrder (complementRanges ranges) :=
  (inOrder_gapsFrom h fun _ _ => Nat.zero_le _).1

variable {first second : List (Nat × Nat)}

/-- So is the union. -/
theorem inOrder_unionRanges (hfirst : InOrder first) (hsecond : InOrder second) :
    InOrder (unionRanges first second) :=
  inOrder_joined fun range hrange =>
    (List.mem_append.1 hrange).elim (hfirst.valid range) (hsecond.valid range)

/-- And what is left of one set without another. -/
theorem inOrder_removeRanges (hfirst : InOrder first) (hsecond : InOrder second) :
    InOrder (removeRanges first second) :=
  inOrder_complementRanges (inOrder_unionRanges (inOrder_complementRanges hfirst) hsecond)

/-- What is left of a set after another one has been taken away. -/
theorem inRanges_removeRanges (hfirst : InOrder first) (hsecond : InOrder second) :
    inRanges (removeRanges first second) code = true ↔
      code ≤ maxCode ∧ inRanges first code = true ∧ ¬ inRanges second code = true := by
  have houtside := inOrder_unionRanges (inOrder_complementRanges hfirst) hsecond
  rw [removeRanges, inRanges_complementRanges houtside, unionRanges, inRanges_joined,
    inRanges_append, inRanges_complementRanges hfirst]
  refine and_congr_right fun hcode => ?_
  rw [not_or, not_and, not_not]
  exact and_congr_left fun _ => forall_prop_of_true hcode

/-- The surrogates, which are no characters. -/
theorem inOrder_surrogates : InOrder [(0xD800, 0xDFFF)] :=
  ⟨List.forall_mem_singleton.2 (by decide), List.pairwise_singleton _ _⟩

/-- The ranges of characters are in order, without surrogates. -/
theorem inOrder_characterRanges (h : InOrder ranges) : InOrder (characterRanges ranges) :=
  inOrder_removeRanges h inOrder_surrogates

/-- The characters of ranges are among their codes. -/
theorem inRanges_of_characterRanges (h : InOrder ranges)
    (hcode : inRanges (characterRanges ranges) code = true) : inRanges ranges code = true :=
  ((inRanges_removeRanges h inOrder_surrogates).1 hcode).2.1

/-! ## Codes -/

/-- The codes of ranges, one after the other. -/
def codes (ranges : List (Nat × Nat)) : List Nat :=
  ranges.flatMap fun range => List.range' range.1 (range.2 + 1 - range.1)

/-- Codes are listed range by range. -/
theorem codes_append (first second : List (Nat × Nat)) :
    codes (first ++ second) = codes first ++ codes second := List.flatMap_append

/-- The numbers of a range lie between its ends. -/
theorem mem_range'_of_range : code ∈ List.range' range.1 (range.2 + 1 - range.1) ↔
    range.1 ≤ code ∧ code ≤ range.2 := by
  rw [List.mem_range'_1]
  omega

/-- The codes of ranges are those that lie in them. -/
theorem mem_codes : code ∈ codes ranges ↔ inRanges ranges code = true := by
  rw [codes, List.mem_flatMap, inRanges, List.any_eq_true]
  simp only [mem_range'_of_range, Bool.and_eq_true, decide_eq_true_eq]

/-- No code is held twice by ranges in order. -/
theorem InOrder.nodup_codes (h : InOrder ranges) : (codes ranges).Nodup := by
  have hincreasing : (codes ranges).Pairwise (· < ·) := by
    rw [codes, List.pairwise_flatMap]
    refine ⟨fun range _ => List.pairwise_lt_range' 1, h.apart.imp fun {a b} hlt x hx y hy => ?_⟩
    rw [mem_range'_of_range] at hx hy
    omega
  exact hincreasing.imp Nat.ne_of_lt

/-- Ranges in order hold no more codes than any list of all of them. -/
theorem InOrder.length_codes_le (h : InOrder ranges) {all : List Nat}
    (hall : ∀ code, inRanges ranges code = true → code ∈ all) :
    (codes ranges).length ≤ all.length := by
  have hsubset : codes ranges ⊆ all := fun code hcode => hall code (mem_codes.1 hcode)
  exact (h.nodup_codes.subperm hsubset).length_le

/-- There are no more ranges than codes. -/
theorem length_le_length_codes (h : ∀ range ∈ ranges, range.1 ≤ range.2) :
    ranges.length ≤ (codes ranges).length := by
  induction ranges with
  | nil => exact Nat.le_refl _
  | cons range ranges ih =>
    obtain ⟨hrange, hranges⟩ := List.forall_mem_cons.1 h
    have hrest := ih hranges
    rw [codes, List.flatMap_cons, ← codes, List.length_append, List.length_range',
      List.length_cons]
    omega

end DualQuery.Text
