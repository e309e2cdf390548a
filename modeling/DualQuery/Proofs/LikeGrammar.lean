import DualQuery.Proofs.SearchParity
import Mathlib.Data.List.Infix

/-!
# The grammar of LIKE patterns

`Like.accepts` reads a LIKE pattern character by character and goes back where a wildcard has passed
over too much or too little. Matching by way of the anchored regular expression comes to the same on
texts without a line feed: the pieces of the expression that are left at some point match what is
left of the text there just where the rest of the pattern accepts it.

## Key results

- `Regex.Piece.finishes_iff`: what the first piece passes over
- `Like.finishes_pieces_iff`: the rest of a pattern and the rest of a text
- `Value.matchesLike_iff_accepts`: values that match a LIKE pattern
-/

namespace DualQuery

open Text

namespace Like

/-- Whether a text starts with a character that passes a test and goes on in an accepted way. -/
def acceptsNext (test : Char → Bool) (accepts : List Char → Bool) : List Char → Bool
  | [] => false
  | c :: text => test c && accepts text

/-- Whether a LIKE pattern accepts a text as a whole. `%` stands for any text, `_` for one
character, a backslash and a character for that character, a final backslash for nothing and any
other character for itself. -/
def accepts (ignoreCase : Bool) : List Char → List Char → Bool
  | [], text => text.isEmpty
  | '\\' :: [], text => text.isEmpty
  | '\\' :: c :: pattern, text =>
    acceptsNext (sameChar ignoreCase c) (accepts ignoreCase pattern) text
  | '%' :: pattern, text => text.tails.any (accepts ignoreCase pattern)
  | '_' :: pattern, text => acceptsNext (fun _ => true) (accepts ignoreCase pattern) text
  | c :: pattern, text =>
    acceptsNext (sameChar ignoreCase c) (accepts ignoreCase pattern) text

/-- The next character is accepted where there is one that passes and the rest is accepted. -/
theorem acceptsNext_eq_true_iff {test : Char → Bool} {accepts : List Char → Bool}
    {text : List Char} : acceptsNext test accepts text = true ↔
      ∃ c rest, text = c :: rest ∧ test c = true ∧ accepts rest = true := by
  cases text <;> simp [acceptsNext]

end Like

namespace Regex

open Like (pieces)

variable {ignoreCase : Bool} {a : Place}

/-! ## The rest of a text -/

/-- Whether pieces match all that is left of a text at a place. -/
def Piece.Finishes (ignoreCase : Bool) (pieces : List Piece) (a : Place) : Prop :=
  ∃ b, Piece.Reaches ignoreCase (pieces ++ [.finish]) a b

namespace Piece

/-- No pieces match the end of a text. -/
theorem finishes_nil : Finishes ignoreCase [] a ↔ a.rest = [] := by
  simp only [Finishes, List.nil_append, reaches_finish, exists_eq_left']

/-- The first piece passes over a part of what is left. -/
theorem finishes_cons {piece : Piece} {pieces : List Piece} :
    Finishes ignoreCase (piece :: pieces) a ↔
      ∃ b, Reaches ignoreCase [piece] a b ∧ Finishes ignoreCase pieces b := by
  simp only [Finishes, List.cons_append]
  constructor
  · rintro ⟨c, hac⟩
    obtain ⟨b, hab, hbc⟩ := reaches_cons.1 hac
    exact ⟨b, hab, c, hbc⟩
  · rintro ⟨b, hab, c, hbc⟩
    exact ⟨c, reaches_cons.2 ⟨b, hab, hbc⟩⟩

/-- A piece that stands for one character passes over the next one. -/
theorem finishes_cons_of_afterChar {piece : Piece} {test : Char → Bool}
    (hpiece : (piece.regex ignoreCase).Reaches = fun a b => afterChar test a = some b)
    {pieces : List Piece} : Finishes ignoreCase (piece :: pieces) a ↔
      ∃ d rest, a.rest = d :: rest ∧ test d = true ∧
        Finishes ignoreCase pieces ⟨some d, rest⟩ := by
  have hsingle (b : Place) : Reaches ignoreCase [piece] a b ↔ afterChar test a = some b := by
    simp only [Reaches, hpiece, exists_eq_right]
  simp only [finishes_cons, hsingle, afterChar_eq_some_iff]
  constructor
  · rintro ⟨⟨before, rest⟩, ⟨d, hd, hrest, rfl⟩, hb⟩
    exact ⟨d, rest, hrest, hd, hb⟩
  · rintro ⟨d, rest, hrest, hd, hb⟩
    exact ⟨⟨some d, rest⟩, ⟨d, hd, hrest, rfl⟩, hb⟩

/-- A run passes over any part of a text without a line feed. -/
theorem finishes_run {pieces : List Piece} (hfeed : '\n' ∉ a.rest) :
    Finishes ignoreCase (run :: pieces) a ↔
      ∃ passed rest, passed ++ rest = a.rest ∧
        Finishes ignoreCase pieces ⟨passed.getLast?.or a.before, rest⟩ := by
  simp only [finishes_cons, reaches_run]
  constructor
  · rintro ⟨⟨before, rest⟩, ⟨passed, ⟨hrest, rfl⟩, -⟩, hb⟩
    exact ⟨passed, rest, hrest.symm, hb⟩
  · rintro ⟨passed, rest, hrest, hb⟩
    -- what is passed over is a part of a rest that has no line feed
    have hpassed : '\n' ∉ passed := fun hmem => hfeed (hrest ▸ List.mem_append_left _ hmem)
    exact ⟨⟨_, rest⟩, ⟨passed, ⟨hrest.symm, rfl⟩, hpassed⟩, hb⟩

end Piece

/-- Only the place in front of a text has nothing before it. -/
theorem Place.IsOf.eq_front {text : List Char} (h : a.IsOf text) (hbefore : a.before = none) :
    a = front text := by
  obtain ⟨passed, hpassed⟩ := h
  -- a text that is passed over ends in the character before the place
  have hnil : passed.getLast? = none := by
    rw [← hbefore, hpassed.2, front, Option.or_none]
  obtain rfl := List.getLast?_eq_none_iff.1 hnil
  exact (Place.passes_nil.1 hpassed).symm

/-- Pieces between the two ends of a text are found where they match the text as a whole. -/
theorem accepts_between_ends {pieces : List Piece} {text : List Char} :
    (ofPieces ignoreCase (.start :: pieces ++ [.finish])).accepts text = true ↔
      Piece.Finishes ignoreCase pieces (Place.front text) := by
  rw [accepts_ofPieces, List.cons_append]
  constructor
  · rintro ⟨a, c, ha, hac⟩
    obtain ⟨b, hab, hbc⟩ := Piece.reaches_cons.1 hac
    -- nothing stands before the place where the text starts, so it is the front of the text
    obtain ⟨rfl, hbefore⟩ := Piece.reaches_start.1 hab
    exact ⟨c, ha.eq_front hbefore ▸ hbc⟩
  · rintro ⟨c, hc⟩
    exact ⟨_, c, Place.isOf_front text,
      Piece.reaches_cons.2 ⟨_, Piece.reaches_start.2 ⟨rfl, rfl⟩, hc⟩⟩

end Regex

namespace Like

open Regex Piece

variable {ignoreCase : Bool} {a : Place}

/-- A piece that stands for one character is followed by what the rest of the pieces accept. -/
theorem finishes_cons_iff_acceptsNext {piece : Piece} {test passes : Char → Bool}
    (hpiece : (piece.regex ignoreCase).Reaches = fun a b => afterChar test a = some b)
    (htest : ∀ c, c ≠ '\n' → test c = passes c) {pieces : List Piece}
    {accepts : List Char → Bool}
    (hpieces : ∀ b : Place, '\n' ∉ b.rest →
      (Finishes ignoreCase pieces b ↔ accepts b.rest = true))
    (hfeed : '\n' ∉ a.rest) :
    Finishes ignoreCase (piece :: pieces) a ↔ acceptsNext passes accepts a.rest = true := by
  rw [finishes_cons_of_afterChar hpiece, acceptsNext_eq_true_iff]
  refine exists_congr fun c => exists_congr fun rest => and_congr_right fun hrest => ?_
  obtain ⟨hc, hfeed⟩ := List.ne_and_not_mem_of_not_mem_cons (hrest ▸ hfeed)
  rw [htest c hc.symm, hpieces ⟨some c, rest⟩ hfeed]

/-- What is left of the pieces of a pattern matches what is left of a text where the rest of the
pattern accepts it. -/
theorem finishes_pieces_iff (pattern : List Char) (hfeed : '\n' ∉ a.rest) :
    Finishes ignoreCase (pieces pattern) a ↔ accepts ignoreCase pattern a.rest = true := by
  -- the cases are those in which the pieces are made; the place moves on with every piece
  induction pattern using pieces.induct generalizing a with
  | case1 => rw [pieces, finishes_nil, accepts, List.isEmpty_iff]
  | case2 => rw [pieces, finishes_nil, accepts, List.isEmpty_iff]
  | case3 c pattern ih =>
    rw [pieces, accepts]
    exact finishes_cons_iff_acceptsNext rfl (fun _ _ => rfl) (fun _ => ih) hfeed
  | case4 pattern ih =>
    rw [pieces, finishes_run hfeed, accepts, List.any_eq_true]
    -- the place behind what the wildcard passes over is known by the rest of the text alone
    constructor
    · rintro ⟨passed, rest, hrest, hfinishes⟩
      have hmem : '\n' ∉ rest := fun hmem => hfeed (hrest ▸ List.mem_append_right _ hmem)
      exact ⟨rest, (List.mem_tails _ _).2 ⟨passed, hrest⟩, (ih hmem).1 hfinishes⟩
    · rintro ⟨rest, htail, haccepts⟩
      obtain ⟨passed, hrest⟩ := (List.mem_tails _ _).1 htail
      have hmem : '\n' ∉ rest := fun hmem => hfeed (hrest ▸ List.mem_append_right _ hmem)
      exact ⟨passed, rest, hrest, (ih hmem).2 haccepts⟩
  | case5 pattern ih =>
    rw [pieces, accepts]
    exact finishes_cons_iff_acceptsNext rfl (fun _ hc => bne_iff_ne.2 hc) (fun _ => ih) hfeed
  | case6 c pattern hlast hescape hrun hpoint ih =>
    -- neither an escape nor a wildcard
    rw [pieces, accepts]
    · exact finishes_cons_iff_acceptsNext rfl (fun _ _ => rfl) (fun _ => ih) hfeed
    all_goals assumption

/-- The pieces of the regular expression of a pattern. -/
def wholePieces (pattern : String) : List Piece := .start :: pieces pattern.toList ++ [.finish]

/-- The regular expression of a pattern is read, unless it is too large. -/
theorem parse?_toRegex (ignoreCase : Bool) (pattern : String) :
    Regex.parse? ignoreCase (toRegex pattern) =
      if (ofPieces ignoreCase (wholePieces pattern)).fits then
        some (ofPieces ignoreCase (wholePieces pattern)) else none := by
  rw [toRegex_eq, parse?_written, wholePieces]

/-- The regular expression that is read is found in what the pattern accepts. -/
theorem accepts_of_parse? {pattern : String} {regex : Regex}
    (hregex : Regex.parse? ignoreCase (toRegex pattern) = some regex) {text : List Char}
    (hfeed : '\n' ∉ text) :
    regex.accepts text = accepts ignoreCase pattern.toList text := by
  rw [parse?_toRegex, Option.ite_none_right_eq_some, Option.some.injEq] at hregex
  obtain ⟨-, rfl⟩ := hregex
  rw [Bool.eq_iff_iff, wholePieces, accepts_between_ends]
  exact finishes_pieces_iff pattern.toList hfeed

end Like

namespace Value

/-- A value has a text where it is one. -/
theorem string?_eq_some_iff {value : Value} {text : String} :
    value.string? = some text ↔ value = string text := by
  cases value <;> simp [string?]

/-- A value matches a LIKE pattern where the regular expression of the pattern is not too large and
the value is a text that the pattern accepts. -/
theorem matchesLike_iff_accepts {value : Value} {pattern : String} {ignoreCase : Bool}
    (hfeed : ∀ text, value = string text → '\n' ∉ text.toList) :
    value.matchesLike pattern ignoreCase = true ↔
      (Regex.parse? ignoreCase (Like.toRegex pattern)).isSome ∧
        ∃ text, value = string text ∧
          Like.accepts ignoreCase pattern.toList text.toList = true := by
  rw [matchesLike, matchesRegex_eq_true_iff]
  constructor
  · rintro ⟨text, regex, htext, hregex, haccepts⟩
    obtain rfl : value = string text := string?_eq_some_iff.1 htext
    rw [Like.accepts_of_parse? hregex (hfeed text rfl)] at haccepts
    exact ⟨hregex ▸ rfl, text, rfl, haccepts⟩
  · rintro ⟨hread, text, rfl, haccepts⟩
    obtain ⟨regex, hregex⟩ := Option.isSome_iff_exists.1 hread
    rw [← Like.accepts_of_parse? hregex (hfeed text rfl)] at haccepts
    exact ⟨text, regex, rfl, hregex, haccepts⟩

/-- The pattern of a letter, any character and a percent sign, with any text behind, is not too
large. -/
theorem fits_discount :
    (Regex.ofPieces true (Like.wholePieces "a_\\%%")).fits = true := by
  have hletter : Regex.Normal.ofChar true 'a' = .set [(65, 65), (97, 97)] := by
    have hvariants : caseVariants 'a' = ['a', 'A'] := by decide +kernel
    rw [Regex.Normal.ofChar, if_pos rfl, hvariants]
    cbv
  have hsign : Regex.Normal.ofChar true '%' = .literal ['%'] := by
    have hvariants : caseVariants '%' = ['%'] := by decide +kernel
    rw [Regex.Normal.ofChar, if_pos rfl, hvariants]
    cbv
  -- each character is brought to its normal form by itself, so that the table of cases is read once
  have hnormal : (Regex.ofPieces true (Like.wholePieces "a_\\%%")).normal =
      [Regex.Piece.normal true .start, .set [(65, 65), (97, 97)], Regex.Piece.normal true .point,
        .literal ['%'], Regex.Piece.normal true .run,
        Regex.Piece.normal true .finish].foldr Regex.Normal.append .empty := by
    rw [Regex.normal_ofPieces, ← hletter, ← hsign]
    rfl
  rw [Regex.fits, hnormal]
  cbv

/-- An escaped percent sign in front of a free one. -/
theorem matchesLike_iff_accepts_discount :
    (∀ text, string "Ax% off" = string text → '\n' ∉ text.toList) ∧
      (string "Ax% off").matchesLike "a_\\%%" true = true := by
  have hfeed : ∀ text, string "Ax% off" = string text → '\n' ∉ text.toList := by
    rintro text ⟨⟩
    decide
  have hread : (Regex.parse? true (Like.toRegex "a_\\%%")).isSome := by
    rw [Like.parse?_toRegex, if_pos fits_discount]
    rfl
  exact ⟨hfeed, (matchesLike_iff_accepts hfeed).2 ⟨hread, _, rfl, by decide +kernel⟩⟩

end Value

end DualQuery
