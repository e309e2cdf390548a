import Mathlib
import DualQuery.Proofs.FirstOccurrences
import DualQuery.Proofs.PatternRoom
import DualQuery.Proofs.RangeSets

/-!
# The room of a character

A character that is matched in any case is a set of few codes: no more than four characters fold to
one. A set of few codes is written in few ways, so that its states are few as well. The room of a
search term is therefore bounded by its length.

## Key results

- `Text.length_caseVariants_le`: how many characters are case variants of each other
- `Text.length_byteForms_le`: how many ways there are to write the characters of a set
- `Regex.setRoom_le`: the room of a set of four codes
- `MatchStrategy.fits_of_length`: search terms whose patterns are not too large
-/

namespace DualQuery

namespace Text

/-! ## Case variants -/

/-- The code of a character is no larger than the largest code. -/
theorem toNat_le_maxCode (c : Char) : c.toNat ≤ maxCode := by
  have hvalid : c.toNat < 0xD800 ∨ (0xDFFF < c.toNat ∧ c.toNat < 0x110000) := c.valid
  rw [maxCode]
  omega

/-- Whether a range of the table maps some character to a code, its step apart. -/
def FoldRange.Covers (r : FoldRange) (code : Int) : Prop :=
  r.first + r.shift ≤ code ∧ code ≤ r.last + r.shift

instance (r : FoldRange) (code : Int) : Decidable (r.Covers code) :=
  inferInstanceAs (Decidable (_ ∧ _))

/-- Whether few ranges of a table cover any of `2 ^ n` codes, as far as halving these codes until
few ranges are left shows. -/
def coveredAtMost (most : Nat) : Nat → Int → List FoldRange → Bool
  | 0, _, rs => rs.length ≤ most
  | n + 1, start, rs =>
    rs.length ≤ most ||
      (coveredAtMost most n start (rs.filter fun r => r.first + r.shift < start + 2 ^ n) &&
        coveredAtMost most n (start + 2 ^ n) (rs.filter fun r => start + 2 ^ n ≤ r.last + r.shift))

/-- A test that every range covering a code passes drops none of these ranges. -/
theorem countP_covers_filter {rs : List FoldRange} {code : Int} {test : FoldRange → Bool}
    (h : ∀ r : FoldRange, r.Covers code → test r = true) :
    (rs.filter test).countP (·.Covers code) = rs.countP (·.Covers code) := by
  rw [List.countP_filter]
  refine List.countP_congr fun r _ => ?_
  rw [Bool.and_eq_true, decide_eq_true_eq]
  exact and_iff_left_of_imp (h r)

/-- Halving is right: where it finds few ranges, no code among the halved ones is covered by
more. -/
theorem countP_covers_le {most n : Nat} {start code : Int} {rs : List FoldRange}
    (h : coveredAtMost most n start rs = true) (hstart : start ≤ code)
    (hcode : code < start + 2 ^ n) : rs.countP (·.Covers code) ≤ most := by
  induction n generalizing start rs with
  | zero => exact Nat.le_trans List.countP_le_length (of_decide_eq_true h)
  | succ n ih =>
    rw [coveredAtMost, Bool.or_eq_true, Bool.and_eq_true, decide_eq_true_eq] at h
    rcases h with hfew | ⟨hlower, hupper⟩
    · exact Nat.le_trans List.countP_le_length hfew
    · rw [pow_succ] at hcode
      -- the half that the code lies in keeps all ranges that cover it
      by_cases hhalf : code < start + 2 ^ n
      · have hcount := ih hlower hstart hhalf
        rwa [countP_covers_filter fun r hr => decide_eq_true (hr.1.trans_lt hhalf)] at hcount
      · have hcount := ih hupper (not_lt.1 hhalf) (by omega)
        rwa [countP_covers_filter fun r hr =>
          decide_eq_true ((not_lt.1 hhalf).trans hr.2)] at hcount

/-- No more than four characters are case variants of each other. -/
theorem length_caseVariants_le (c : Char) : (caseVariants c).length ≤ 4 := by
  rw [caseVariants, List.length_cons]
  refine Nat.succ_le_succ (Nat.le_trans (List.length_filter_le ..) ?_)
  rw [List.length_filterMap_eq_countP]
  have htable : coveredAtMost 3 21 0 foldRanges = true := by decide +kernel
  have hcode : ((fold c).toNat : Int) < 0 + 2 ^ 21 := by
    have hmax := toNat_le_maxCode (fold c)
    rw [maxCode] at hmax
    omega
  -- a variant is mapped to the target by a range that covers the target
  refine Nat.le_trans (List.countP_mono_left fun r hr hsource => ?_)
    (countP_covers_le htable (Int.natCast_nonneg _) hcode)
  have hfirst : ∀ r ∈ foldRanges, 0 < r.first := by decide +kernel
  have hpos := hfirst r hr
  rw [Option.isSome_ite, FoldRange.maps, decide_eq_true_eq] at hsource
  rw [decide_eq_true_eq, FoldRange.Covers]
  omega

/-! ## Cutting -/

/-- Whether ranges are other ranges that have been cut. -/
structure Cuts (parts ranges : List (Nat × Nat)) : Prop where
  valid : ∀ part ∈ parts, part.1 ≤ part.2
  codes_eq : codes parts = codes ranges

/-- The codes of cut ranges are those of the pieces. -/
theorem codes_flatMap (cut : Nat × Nat → List (Nat × Nat)) (ranges : List (Nat × Nat)) :
    codes (ranges.flatMap cut) = ranges.flatMap fun range => codes (cut range) :=
  List.flatMap_assoc

/-- The codes of one range are the numbers from its first to its last. -/
theorem codes_singleton (range : Nat × Nat) :
    codes [range] = List.range' range.1 (range.2 + 1 - range.1) := List.flatMap_singleton ..

namespace Cuts

variable {parts ranges : List (Nat × Nat)}

/-- Ranges are cuts of themselves. -/
theorem refl (h : ∀ range ∈ ranges, range.1 ≤ range.2) : Cuts ranges ranges := ⟨h, rfl⟩

/-- So is one range, where it is left as it is. -/
theorem uncut {range : Nat × Nat} (h : range.1 ≤ range.2) : Cuts [range] [range] :=
  refl (List.forall_mem_singleton.2 h)

/-- The parts may be cut in turn. -/
theorem flatMap (h : Cuts parts ranges) {cut : Nat × Nat → List (Nat × Nat)}
    (hcut : ∀ part, part.1 ≤ part.2 → Cuts (cut part) [part]) :
    Cuts (parts.flatMap cut) ranges := by
  constructor
  · intro piece hpiece
    obtain ⟨part, hpart, hpiece⟩ := List.mem_flatMap.1 hpiece
    exact (hcut part (h.valid part hpart)).valid piece hpiece
  · rw [codes_flatMap, ← h.codes_eq, codes]
    refine List.flatMap_congr fun part hpart => ?_
    rw [(hcut part (h.valid part hpart)).codes_eq, codes_singleton]

/-- There are no more parts than codes. -/
theorem length_le (h : Cuts parts ranges) : parts.length ≤ (codes ranges).length :=
  h.codes_eq ▸ length_le_length_codes h.valid

end Cuts

/-- A range that is cut in front of a code keeps its codes. -/
theorem cuts_cutBefore (code : Nat) {range : Nat × Nat} (h : range.1 ≤ range.2) :
    Cuts (cutBefore code range) [range] := by
  rw [cutBefore]
  split
  next hcode =>
    refine ⟨by simp; omega, ?_⟩
    rw [codes_singleton, codes, List.flatMap_cons, List.flatMap_singleton]
    -- the numbers up to the cut and those from it are the numbers of the range
    have hsum : range.2 + 1 - range.1 = (code - 1 + 1 - range.1) + (range.2 + 1 - code) := by omega
    have hcodes : code = range.1 + (code - 1 + 1 - range.1) := by omega
    rw [hsum, ← List.range'_append_1, ← hcodes]
  next => exact .uncut h

/-- The codes of the part in front of a number, which may be empty. -/
theorem codes_in_front (low next : Nat) :
    codes (if low < next then [(low, next - 1)] else []) = List.range' low (next - low) := by
  split
  next hlt =>
    rw [codes_singleton]
    exact congrArg (List.range' low) (by omega)
  next hge =>
    rw [Nat.sub_eq_zero_of_le (by omega)]
    rfl

/-- The codes of the part behind a number, which may be empty. -/
theorem codes_from (low high : Nat) :
    codes (if low ≤ high then [(low, high)] else []) = List.range' low (high + 1 - low) := by
  split
  next => rw [codes_singleton]
  next hgt =>
    rw [Nat.sub_eq_zero_of_le (by omega)]
    rfl

/-- Three parts that meet are the whole. -/
theorem range'_append_append {low first behind high : Nat} (hlow : low ≤ first)
    (hmiddle : first ≤ behind) (hhigh : behind ≤ high + 1) :
    List.range' low (first - low) ++ List.range' first (behind - first) ++
      List.range' behind (high + 1 - behind) = List.range' low (high + 1 - low) := by
  have hfirst : first = low + (first - low) := by omega
  have hbehind : behind = low + (behind - low) := by omega
  have hfront : List.range' low (first - low) ++ List.range' first (behind - first) =
      List.range' low (behind - low) := by
    nth_rewrite 2 [hfirst]
    rw [List.range'_append_1]
    exact congrArg (List.range' low) (by omega)
  rw [hfront]
  nth_rewrite 2 [hbehind]
  rw [List.range'_append_1]
  exact congrArg (List.range' low) (by omega)

/-- A range that is cut at the borders of blocks keeps its codes. -/
theorem cuts_cutBlocks {size : Nat} (hsize : 0 < size) {range : Nat × Nat}
    (h : range.1 ≤ range.2) : Cuts (cutBlocks size range) [range] := by
  obtain ⟨low, high⟩ := range
  change low ≤ high at h
  simp only [cutBlocks]
  split
  next => exact Cuts.uncut (show (low, high).1 ≤ (low, high).2 from h)
  next hblocks =>
    -- the first border at or above the start and the last one at or below the end lie in the range,
    -- in this order, unless the range lies in one block
    have hup : (low + size - 1) / size ≤ low / size + 1 := by
      rw [← Nat.add_div_right low hsize]
      exact Nat.div_le_div_right (by omega)
    have hblock : low / size ≤ high / size := Nat.div_le_div_right h
    have hdown : high / size ≤ (high + 1) / size := Nat.div_le_div_right (Nat.le_succ high)
    have hmiddle : (low + size - 1) / size * size ≤ (high + 1) / size * size :=
      Nat.mul_le_mul_right size (by omega)
    have hhigh : (high + 1) / size * size ≤ high + 1 := Nat.div_mul_le_self ..
    have hlow : low ≤ (low + size - 1) / size * size := by
      have := Nat.div_add_mod (low + size - 1) size
      have := Nat.mod_lt (low + size - 1) hsize
      rw [Nat.mul_comm ((low + size - 1) / size)]
      omega
    -- from here on only the order of the four numbers counts
    generalize (low + size - 1) / size * size = first at hlow hmiddle
    generalize (high + 1) / size * size = behind at hmiddle hhigh
    constructor
    · intro part hpart
      simp only [List.mem_append] at hpart
      rcases hpart with (hpart | hpart) | hpart <;> split at hpart <;> simp at hpart <;>
        subst hpart <;> simp <;> omega
    · rw [codes_append, codes_append, codes_in_front, codes_in_front, codes_from, codes_singleton]
      exact range'_append_append hlow hmiddle hhigh

/-- A range that is cut into forms keeps its codes. -/
theorem cuts_cutForms {range : Nat × Nat} (h : range.1 ≤ range.2) :
    Cuts (cutForms range) [range] := by
  -- first the codes of different lengths are set apart, then the blocks of their last bytes
  have hlengths := ((cuts_cutBefore 0x80 h).flatMap fun _ => cuts_cutBefore 0x800).flatMap
    fun _ => cuts_cutBefore 0x10000
  refine hlengths.flatMap fun part hpart => ?_
  split
  · exact .uncut hpart
  · exact ((cuts_cutBlocks (by decide) hpart).flatMap fun _ => cuts_cutBlocks (by decide)).flatMap
      fun _ => cuts_cutBlocks (by decide)

/-- There are no more ways to write the characters of ranges than codes. -/
theorem length_byteForms_le {ranges : List (Nat × Nat)} (h : InOrder ranges) :
    (byteForms ranges).length ≤ (codes ranges).length := by
  have hranges := Cuts.refl fun range hrange => (h.valid range hrange).1
  rw [byteForms, List.length_map]
  exact (hranges.flatMap fun _ => cuts_cutForms).length_le

/-- A code takes four bytes at most. -/
theorem length_bytesOf_le (code : Nat) : (bytesOf code).length ≤ 4 := by
  rw [bytesOf, List.length_map, String.length_utf8EncodeChar]
  exact Char.utf8Size_le_four _

/-- So does each form of the characters of a set. -/
theorem length_le_of_mem_byteForms {ranges : List (Nat × Nat)} {form : ByteForm}
    (h : form ∈ byteForms ranges) : form.length ≤ 4 := by
  obtain ⟨range, -, rfl⟩ := List.mem_map.1 h
  rw [List.length_zip]
  exact Nat.le_trans (Nat.min_le_left ..) (length_bytesOf_le range.1)

end Text

namespace Regex

open Text

/-! ## States -/

/-- There are no more groups of neighbours than members. -/
theorem length_splitBy_le {α : Type} (alike : α → α → Bool) (as : List α) :
    (as.splitBy alike).length ≤ as.length := by
  have hflatten := congrArg List.length (List.flatten_splitBy alike as)
  have hgroups : ∀ n ∈ (as.splitBy alike).map List.length, 1 ≤ n := by
    intro n hn
    obtain ⟨group, hgroup, rfl⟩ := List.mem_map.1 hn
    exact List.length_pos_iff.2 (List.ne_nil_of_mem_splitBy hgroup)
  have hle := List.length_le_sum_of_one_le _ hgroups
  rwa [List.length_map, ← List.length_flatten, hflatten] at hle

/-- Each byte adds as many states as there are forms at most. -/
theorem length_formStates_le (length : Nat) (forms : List ByteForm) :
    (formStates length forms).length ≤ length * forms.length := by
  induction length generalizing forms with
  | zero => exact Nat.zero_le _
  | succ length ih =>
    rw [formStates]
    -- no state is left of an empty set of forms; otherwise there is this state and those of the
    -- groups that share a first byte
    split
    next => exact Nat.zero_le _
    next hsome =>
      have hpos : 0 < forms.length := List.length_pos_iff.2 fun hnil => hsome (hnil ▸ rfl)
      have hflatten := congrArg List.length
        (List.flatten_splitBy (fun a b : ByteForm => a.head? == b.head?) forms)
      generalize forms.splitBy (fun a b => a.head? == b.head?) = groups at hflatten
      have hgroups : (groups.flatMap fun group => formStates length (group.map List.tail)).length ≤
          (groups.map fun group => length * group.length).sum := by
        rw [List.length_flatMap]
        refine List.sum_le_sum fun group _ => ?_
        simpa using ih (group.map List.tail)
      rw [List.sum_map_mul_left, ← List.length_flatten, hflatten] at hgroups
      rw [List.length_cons, Nat.succ_mul]
      omega

/-- No state has more forms than there were. -/
theorem length_le_of_mem_formStates {length : Nat} {forms state : List ByteForm}
    (h : state ∈ formStates length forms) : state.length ≤ forms.length := by
  induction length generalizing forms with
  | zero => cases h
  | succ length ih =>
    rw [formStates] at h
    split at h
    next => cases h
    next =>
      rcases List.mem_cons.1 h with rfl | hdeeper
      · exact Nat.le_refl _
      · -- the forms of a deeper state are one of the groups, each a byte shorter
        obtain ⟨group, hgroup, hstate⟩ := List.mem_flatMap.1 hdeeper
        have hlength := (List.sublist_flatten_of_mem hgroup).length_le
        rw [List.flatten_splitBy] at hlength
        have hle := ih hstate
        rw [List.length_map] at hle
        omega

/-! ## Sets -/

/-- What states take is at most what as many states of the most steps take. -/
theorem foldl_room_le {counts : List Nat} {most : Nat} (h : ∀ count ∈ counts, count ≤ most)
    (room : Nat) : counts.foldl (fun room count => room + stateRoom + stepRoom * count) room ≤
      room + counts.length * (stateRoom + stepRoom * most) := by
  induction counts generalizing room with
  | nil => exact Nat.le_add_right _ _
  | cons count counts ih =>
    obtain ⟨hcount, hcounts⟩ := List.forall_mem_cons.1 h
    have hstep : stepRoom * count ≤ stepRoom * most := Nat.mul_le_mul_left _ hcount
    have hrest := ih hcounts (room + stateRoom + stepRoom * count)
    rw [List.foldl_cons, List.length_cons, Nat.succ_mul]
    omega

/-- Four forms take seventeen states at most, with four steps each. -/
theorem formsRoom_le {forms : List ByteForm} (h : forms.length ≤ 4) : formsRoom forms ≤ 1056 := by
  have hcounts : ∀ count ∈ ((formStates 4 forms).eraseDups).map fun forms =>
      (forms.splitBy fun a b => a.head? == b.head?).length, count ≤ 4 := by
    intro count hcount
    obtain ⟨state, hstate, rfl⟩ := List.mem_map.1 hcount
    have hforms := length_le_of_mem_formStates (List.mem_eraseDups.1 hstate)
    have hgroups := length_splitBy_le (fun a b : ByteForm => a.head? == b.head?) state
    omega
  -- each of the four forms adds at most a state for every byte
  have hstates : ((formStates 4 forms).eraseDups).length ≤ 16 := by
    have herase := (List.eraseDups_sublist (formStates 4 forms)).length_le
    have hlength := length_formStates_le 4 forms
    omega
  have hfold := foldl_room_le hcounts stateRoom
  rw [List.length_map] at hfold
  refine Nat.le_trans hfold ?_
  rw [stateRoom, stepRoom]
  omega

/-- Forms of four bytes at most bring four new bytes each at most. -/
theorem newBytes_le {forms : List ByteForm} (h : ∀ form ∈ forms, form.length ≤ 4)
    (previous : ByteForm) : newBytes previous forms ≤ 4 * forms.length := by
  induction forms generalizing previous with
  | nil => exact Nat.le_refl _
  | cons form forms ih =>
    obtain ⟨hform, hforms⟩ := List.forall_mem_cons.1 h
    have hrest := ih hforms form
    rw [newBytes, List.length_cons]
    omega

/-- Read backwards four forms take no more. -/
theorem reversedFormsRoom_le {forms : List ByteForm} (hforms : forms.length ≤ 4)
    (hbytes : ∀ form ∈ forms, form.length ≤ 4) : reversedFormsRoom forms ≤ 1056 := by
  have hnew := newBytes_le hbytes []
  rw [reversedFormsRoom, stateRoom, forkRoom]
  omega

/-- A set of four codes takes little room, whichever way it is read. -/
theorem setRoom_le (reversed : Bool) {ranges : List (Nat × Nat)} (h : InOrder ranges)
    (hcodes : (codes ranges).length ≤ 4) : setRoom reversed ranges ≤ 1056 := by
  have hforms := Nat.le_trans (length_byteForms_le h) hcodes
  have hranges := length_le_length_codes fun range hrange => (h.valid range hrange).1
  rw [setRoom, stateRoom, stepRoom]
  split
  next => omega
  next =>
    split
    next => exact reversedFormsRoom_le hforms fun form => length_le_of_mem_byteForms
    next => exact formsRoom_le hforms

/-! ## Characters -/

/-- What lies in the ranges of some characters is the code of one of them. -/
theorem mem_of_inRanges_ofChars {cs : List Char} {code : Nat}
    (h : inRanges (cs.map fun c => (c.toNat, c.toNat)) code = true) : code ∈ cs.map Char.toNat := by
  rw [inRanges, List.any_map, List.any_eq_true] at h
  obtain ⟨c, hc, hcode⟩ := h
  simp only [Function.comp_apply, Bool.and_eq_true, decide_eq_true_eq] at hcode
  exact List.mem_map.2 ⟨c, hc, Nat.le_antisymm hcode.1 hcode.2⟩

/-- The ranges of some characters are in order once they are joined. -/
theorem inOrder_members_ofChars (cs : List Char) : InOrder (CharSet.ofChars cs).members := by
  refine inOrder_joined fun range hrange => ?_
  obtain ⟨c, -, rfl⟩ := List.mem_map.1 hrange
  exact ⟨Nat.le_refl _, toNat_le_maxCode c⟩

/-- The set of some characters holds no more codes than there are characters. -/
theorem length_codes_ofChars_le (cs : List Char) :
    (codes (characterRanges (CharSet.ofChars cs).members)).length ≤ cs.length := by
  have horder := inOrder_members_ofChars cs
  have hlength : (cs.map Char.toNat).length = cs.length := List.length_map ..
  rw [← hlength]
  refine (inOrder_characterRanges horder).length_codes_le fun code hcode => ?_
  exact mem_of_inRanges_ofChars (inRanges_joined.1 (inRanges_of_characterRanges horder hcode))

/-- A character takes little room, whichever way it is read. -/
theorem load_char_le (reversed : Bool) (c : Char) : (Piece.char c).load reversed true ≤ 1056 := by
  have horder := inOrder_characterRanges (inOrder_members_ofChars (caseVariants c))
  have hcodes := Nat.le_trans (length_codes_ofChars_le (caseVariants c)) (length_caseVariants_le c)
  have hset := setRoom_le reversed horder hcodes
  rw [Piece.load, Piece.normal, Normal.ofChar, if_pos rfl, Normal.ofSet]
  unfold Normal.ofRanges
  -- one character alone is written as its bytes, several as a set
  split
  next low high heq =>
    split
    next =>
      have hbytes := length_bytesOf_le (Char.ofNat low).toNat
      rw [Normal.room, textBytes, List.flatMap_singleton, stateRoom]
      omega
    next => exact hset
  next => exact hset

/-! ## Pieces -/

/-- Pieces that leave enough room for a search fit. -/
theorem fits_of_loadAll_le {pieces : List Piece}
    (h : ∀ reversed, Piece.loadAll reversed true pieces ≤ maxRoom - 256) :
    (ofPieces true pieces).fits = true := by
  -- the search in front of and behind the pattern takes a fixed room
  have hsearch (isAnchored : Bool) : Normal.searchRoom isAnchored ≤ 112 := by
    cases isAnchored <;> decide
  have hroom (reversed : Bool) :
      (ofPieces true pieces).normal.room reversed ≤ maxRoom - 256 := by
    have hmax : stateRoom ≤ maxRoom - 256 := by decide
    have hload := load_normal_ofPieces reversed true pieces ▸ h reversed
    exact Nat.le_trans (Normal.room_le ..) (Nat.max_le.2 ⟨hmax, hload⟩)
  have hforward := hroom false
  have hbackward := hroom true
  have hfront := hsearch ((ofPieces true pieces).normal.startsAt .start)
  have hback := hsearch ((ofPieces true pieces).normal.endsAt .finish)
  have hmax : 256 ≤ maxRoom := by decide
  rw [fits, Bool.and_eq_true, decide_eq_true_eq, decide_eq_true_eq]
  simp only [Normal.forwardRoom, Normal.backwardRoom, Normal.room, Bool.false_eq_true, if_false,
    if_true]
  rw [stateRoom]
  omega

/-- A run takes little room. -/
theorem load_run_le (reversed : Bool) : Piece.run.load reversed true ≤ 1040 := by
  cases reversed <;> cbv

/-- Characters take room in proportion to their number. -/
theorem loadAll_chars_le (reversed : Bool) (cs : List Char) :
    Piece.loadAll reversed true (cs.map .char) ≤ cs.length * 1056 := by
  induction cs with
  | nil => exact Nat.le_refl _
  | cons c cs ih =>
    rw [List.map_cons, Piece.loadAll, List.length_cons, Nat.succ_mul, Nat.add_comm]
    exact Nat.add_le_add ih (load_char_le reversed c)

/-- So do characters with a run behind each. -/
theorem loadAll_spaced_le (reversed : Bool) (cs : List Char) :
    Piece.loadAll reversed true (cs.flatMap fun c => [.char c, .run]) ≤
      cs.length * (1056 + 1040) := by
  induction cs with
  | nil => exact Nat.le_refl _
  | cons c cs ih =>
    rw [List.flatMap_cons, Piece.loadAll_append, List.length_cons, Nat.succ_mul, Nat.add_comm]
    refine Nat.add_le_add ih ?_
    rw [Piece.loadAll, Piece.loadAll, Piece.loadAll, Nat.add_zero]
    exact Nat.add_le_add (load_char_le reversed c) (load_run_le reversed)

end Regex

namespace MatchStrategy

open Regex

/-- The room of the LIKE pattern of a term. -/
theorem loadAll_likePieces_le (reversed : Bool) (strategy : MatchStrategy) (term : List Char) :
    Piece.loadAll reversed true (strategy.likePieces term) ≤ term.length * 2096 + 2080 := by
  have hchars := loadAll_chars_le reversed term
  have hrun := load_run_le reversed
  -- a fuzzy term has a run behind each character, the other terms have two runs at most
  cases strategy with
  | exact => exact Nat.le_trans hchars (by omega)
  | fuzzy =>
    have hspaced := loadAll_spaced_le reversed (fuzzyChars term)
    have hlength : (fuzzyChars term).length ≤ term.length := List.length_filter_le ..
    have hmul : (fuzzyChars term).length * 2096 ≤ term.length * 2096 :=
      Nat.mul_le_mul_right _ hlength
    rw [likePieces, Piece.loadAll]
    omega
  | contains | startsWith | endsWith =>
    simp only [likePieces, List.cons_append, Piece.loadAll, Piece.loadAll_append]
    omega

/-- The patterns of a term of at most five thousand characters are not too large. -/
theorem fits_of_length {term : List Char} (h : term.length ≤ 5000) (strategy : MatchStrategy) :
    (ofPieces true (.start :: strategy.likePieces term ++ [.finish])).fits = true ∧
      (ofPieces true (strategy.regexPieces term)).fits = true := by
  have hlike : (ofPieces true (.start :: strategy.likePieces term ++ [.finish])).fits = true := by
    refine fits_of_loadAll_le fun reversed => ?_
    have hpieces := loadAll_likePieces_le reversed strategy term
    have hmax : maxRoom - 256 = 10485504 := rfl
    simp only [List.cons_append, Piece.loadAll, Piece.loadAll_append, Piece.load_start,
      Piece.load_finish]
    rw [hmax, stateRoom]
    omega
  exact ⟨hlike, fits_regexPieces true strategy term hlike⟩

end MatchStrategy

end DualQuery
