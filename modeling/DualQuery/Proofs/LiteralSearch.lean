import DualQuery.Proofs.CharacterRoom
import DualQuery.Proofs.LikeGrammar

/-!
# Searching for a term as it stands

A search term may hold characters that mean something in a LIKE pattern or in a regular expression.
They are escaped in both languages, so that a text is found by what its characters and those of the
term are, whatever these would mean. A pattern that is too large finds nothing.

## Key results

- `Like.accepts_escapeChars`: an escaped text stands for itself
- `MatchStrategy.accepts_likePattern`: what the LIKE pattern of a term accepts
- `MatchStrategy.not_fits_fuzzy`: fuzzy patterns that are too large
- `MatchStrategy.matches_iff_finds`: the texts that the two patterns of a term match
-/

namespace DualQuery

open Text

namespace Like

/-- Characters are the same but for their case where they fold alike. -/
theorem sameChar_ignoreCase {c d : Char} : sameChar true c d = true ↔ fold d = fold c := by
  rw [sameChar, Bool.or_eq_true, Bool.true_and, beq_iff_eq, beq_iff_eq]
  exact ⟨fun h => h.elim (· ▸ rfl) Eq.symm, fun h => .inr h.symm⟩

variable {pattern text : List Char}

/-! ## Parts of a pattern -/

/-- An escaped character stands for one character. -/
theorem accepts_escapeChars_singleton (ignoreCase : Bool) (c : Char) :
    accepts ignoreCase (escapeChars [c] ++ pattern) text =
      acceptsNext (sameChar ignoreCase c) (accepts ignoreCase pattern) text := by
  rw [escapeChars, List.flatMap_singleton]
  split
  next => rfl
  next hc =>
    simp only [not_or] at hc
    rw [List.singleton_append, accepts]
    all_goals simp_all

/-- An escaped text stands for any text of its length and of the same characters, apart from their
case. -/
theorem accepts_escapeChars (cs : List Char) :
    accepts true (escapeChars cs ++ pattern) text = true ↔
      ∃ head tail, head ++ tail = text ∧ head.map fold = cs.map fold ∧
        accepts true pattern tail = true := by
  induction cs generalizing text with
  | nil => simp [escapeChars]
  | cons c cs ih =>
    have hcons : escapeChars (c :: cs) ++ pattern =
        escapeChars [c] ++ (escapeChars cs ++ pattern) := by
      simp [escapeChars]
    -- one character at a time: the escaped one takes one of the text, and the rest of the pattern
    -- the rest
    rw [hcons, accepts_escapeChars_singleton, acceptsNext_eq_true_iff]
    simp only [ih, sameChar_ignoreCase]
    constructor
    · rintro ⟨d, rest, rfl, hd, head, tail, rfl, hhead, haccepts⟩
      exact ⟨d :: head, tail, rfl, by rw [List.map_cons, List.map_cons, hd, hhead], haccepts⟩
    · rintro ⟨head, tail, rfl, hhead, haccepts⟩
      obtain ⟨d, head, rfl, hd, hhead⟩ := List.map_eq_cons_iff.1 hhead
      exact ⟨d, head ++ tail, rfl, hd, head, tail, rfl, hhead, haccepts⟩

/-- A percent sign stands for any text. -/
theorem accepts_run (ignoreCase : Bool) :
    accepts ignoreCase ('%' :: pattern) text = true ↔
      ∃ tail, tail <:+ text ∧ accepts ignoreCase pattern tail = true := by
  rw [accepts, List.any_eq_true]
  simp only [List.mem_tails]

/-- A percent sign at the end accepts any text. -/
theorem accepts_run_nil (ignoreCase : Bool) : accepts ignoreCase ['%'] text = true :=
  (accepts_run ignoreCase).2 ⟨[], List.nil_suffix, rfl⟩

/-- An escaped text accepts itself, whatever the case of its characters. -/
theorem accepts_escaped (cs : List Char) :
    accepts true (escapeChars cs) text = true ↔ text.map fold = cs.map fold := by
  rw [← List.append_nil (escapeChars cs), accepts_escapeChars]
  simp only [accepts, List.isEmpty_iff]
  constructor
  · rintro ⟨head, _, rfl, hhead, rfl⟩
    rwa [List.append_nil]
  · intro h
    exact ⟨text, [], List.append_nil text, h, rfl⟩

/-- An escaped text with a percent sign behind accepts the texts that begin with it. -/
theorem accepts_escaped_run (cs : List Char) :
    accepts true (escapeChars cs ++ ['%']) text = true ↔ cs.map fold <+: text.map fold := by
  rw [accepts_escapeChars, List.prefix_map_iff]
  simp only [accepts_run_nil, and_true]
  constructor
  · rintro ⟨head, tail, htext, hhead⟩
    exact ⟨head, ⟨tail, htext⟩, hhead.symm⟩
  · rintro ⟨head, ⟨tail, htext⟩, hhead⟩
    exact ⟨head, tail, htext, hhead.symm⟩

/-- Escaped characters with a percent sign in front and behind each stand for a text that holds them
in order. -/
theorem accepts_escaped_spaced (cs : List Char) :
    accepts true ('%' :: cs.flatMap fun c => escapeChars [c] ++ ['%']) text = true ↔
      (cs.map fold).Sublist (text.map fold) := by
  induction cs generalizing text with
  | nil => simp [accepts_run_nil]
  | cons c cs ih =>
    rw [List.flatMap_cons, List.append_assoc, List.singleton_append, accepts_run]
    simp only [accepts_escapeChars_singleton, acceptsNext_eq_true_iff, sameChar_ignoreCase, ih]
    rw [List.map_cons, List.cons_sublist_iff]
    -- a run passes over what is in front of the character, which is the part a sublist leaves out
    constructor
    · rintro ⟨_, ⟨head, rfl⟩, d, tail, rfl, hd, h⟩
      refine ⟨(head ++ [d]).map fold, tail.map fold, ?_, ?_, h⟩
      · simp
      · simp [hd]
    · -- the text is cut where one of its characters folds like the first one that is looked for
      rintro ⟨_, _, htext, hmem, h⟩
      obtain ⟨front, back, rfl, rfl, rfl⟩ := List.map_eq_append_iff.1 htext
      obtain ⟨d, hd, hfold⟩ := List.mem_map.1 hmem
      obtain ⟨head, tail, rfl⟩ := List.append_of_mem hd
      refine ⟨d :: (tail ++ back), ⟨head, ?_⟩, d, tail ++ back, rfl, hfold, ?_⟩
      · rw [List.append_assoc, List.cons_append]
      · rw [List.map_append]
        exact h.trans (List.sublist_append_right ..)

end Like

namespace MatchStrategy

open Regex

/-- Whether a text is what a strategy looks for, whatever the case of its characters. Blanks are not
looked for by a fuzzy match. -/
def Finds (strategy : MatchStrategy) (term text : String) : Prop :=
  let sought := term.toList.map fold
  let found := text.toList.map fold
  match strategy with
  | exact => found = sought
  | contains => sought <:+: found
  | startsWith => sought <+: found
  | endsWith => sought <:+ found
  | fuzzy => ((fuzzyChars term.toList).map fold).Sublist found

instance : (strategy : MatchStrategy) → (term text : String) →
    Decidable (strategy.Finds term text)
  | exact, _, _ => inferInstanceAs (Decidable (_ = _))
  | contains, _, _ => inferInstanceAs (Decidable (_ <:+: _))
  | startsWith, _, _ => inferInstanceAs (Decidable (_ <+: _))
  | endsWith, _, _ => inferInstanceAs (Decidable (_ <:+ _))
  | fuzzy, _, _ => inferInstanceAs (Decidable (List.Sublist _ _))

/-! ## The LIKE pattern of a term -/

/-- The LIKE pattern of a term accepts what the strategy looks for. -/
theorem accepts_likePattern (strategy : MatchStrategy) (term text : String) :
    Like.accepts true (strategy.likePattern term).toList text.toList = true ↔
      strategy.Finds term text := by
  -- the strategies differ in the ends at which a percent sign stands, and the fuzzy one has one
  -- everywhere
  cases strategy <;> rw [likePattern, String.toList_ofList, Finds]
  case exact => exact Like.accepts_escaped _
  case contains =>
    rw [List.cons_append, Like.accepts_run, List.infix_iff_prefix_suffix]
    simp only [Like.accepts_escaped_run]
    constructor
    · rintro ⟨tail, htail, h⟩
      exact ⟨tail.map fold, h, htail.map fold⟩
    · rintro ⟨_, h, hsuffix⟩
      obtain ⟨tail, htail, rfl⟩ := List.suffix_map_iff.1 hsuffix
      exact ⟨tail, htail, h⟩
  case startsWith => exact Like.accepts_escaped_run _
  case endsWith =>
    rw [Like.accepts_run, List.suffix_map_iff]
    simp only [Like.accepts_escaped, @eq_comm (List Char) (List.map fold term.toList)]
  case fuzzy => exact Like.accepts_escaped_spaced _

/-- The expression of the LIKE pattern of a term is found in what the strategy looks for. -/
theorem accepts_wholePieces_iff (strategy : MatchStrategy) (term text : String)
    (hfeed : '\n' ∉ text.toList) :
    (ofPieces true (strategy.wholePieces term.toList)).accepts text.toList = true ↔
      strategy.Finds term text := by
  rw [wholePieces, accepts_between_ends, ← pieces_likePattern, Like.finishes_pieces_iff _ hfeed]
  exact strategy.accepts_likePattern term text

/-! ## Patterns that are too large -/

/-- A run takes so much room in an automaton that reads backwards. -/
theorem load_run : Piece.run.load true true = 1040 := by cbv

/-- A character takes a state at least. -/
theorem le_load_char (reversed : Bool) (c : Char) :
    stateRoom ≤ (Piece.char c).load reversed true := by
  rw [Piece.load, Piece.normal, Normal.ofChar, if_pos rfl]
  exact Normal.le_room_ofSet ..

/-- The room of characters with a run behind each. -/
theorem le_loadAll_flatMap (cs : List Char) :
    cs.length * 1072 ≤
      Piece.loadAll true true (cs.flatMap fun c => [.char c, .run]) := by
  induction cs with
  | nil => exact Nat.zero_le _
  | cons c cs ih =>
    -- a state for the character, and a run behind it
    have hfirst : 1072 ≤ Piece.loadAll true true [.char c, .run] := by
      rw [Piece.loadAll, Piece.loadAll, Piece.loadAll, load_run]
      exact Nat.add_le_add_right (le_load_char true c) 1040
    rw [List.flatMap_cons, Piece.loadAll_append, List.length_cons, Nat.succ_mul, Nat.add_comm]
    exact Nat.add_le_add hfirst ih

/-- Pieces that take too much room in the automaton that reads backwards do not fit. -/
theorem not_fits_of_loadAll {pieces : List Piece} (h : maxRoom < Piece.loadAll true true pieces) :
    (ofPieces true pieces).fits = false := by
  have hload := (ofPieces true pieces).normal.load_le true
  rw [load_normal_ofPieces] at hload
  rw [fits, Bool.and_eq_false_iff, decide_eq_false_iff_not, decide_eq_false_iff_not]
  refine .inr (Nat.not_le.2 ?_)
  simp only [Normal.backwardRoom, Normal.room, if_true]
  omega

/-- The patterns by which many characters are looked for in order are too large. -/
theorem not_fits_fuzzy {term : String} (h : 10083 ≤ (fuzzyChars term.toList).length) :
    (ofPieces true (fuzzy.wholePieces term.toList)).fits = false ∧
      (ofPieces true (fuzzy.regexPieces term.toList)).fits = false := by
  have hchars : fuzzyChars term.toList ≠ [] := List.ne_nil_of_length_pos (by omega)
  have hload := le_loadAll_flatMap (fuzzyChars term.toList)
  have hmax : maxRoom = 10485760 := rfl
  constructor
  · refine not_fits_of_loadAll ?_
    simp only [wholePieces, likePieces, List.cons_append, Piece.loadAll, Piece.loadAll_append]
    omega
  · refine not_fits_of_loadAll ?_
    -- there is no run behind the last character
    rw [flatMap_run hchars, Piece.loadAll_append] at hload
    simp only [Piece.loadAll, load_run] at hload
    rw [regexPieces]
    omega

/-! ## Texts that match -/

/-- Pieces match the texts they are found in, unless their expression is too large. -/
theorem matchesRegex_iff_fits {pattern : String} {pieces : List Piece} {text : String}
    (hparse : Regex.parse? true pattern =
      if (ofPieces true pieces).fits then some (ofPieces true pieces) else none) :
    (Value.string text).matchesRegex pattern true = true ↔
      (ofPieces true pieces).fits = true ∧
        (ofPieces true pieces).accepts text.toList = true := by
  rw [Value.matchesRegex_eq_true_iff, hparse]
  constructor
  · rintro ⟨_, _, ⟨⟩, hregex, haccepts⟩
    obtain ⟨hfits, hregex⟩ := Option.ite_none_right_eq_some.1 hregex
    obtain rfl := Option.some.inj hregex
    exact ⟨hfits, haccepts⟩
  · rintro ⟨hfits, haccepts⟩
    exact ⟨text, _, rfl, if_pos hfits, haccepts⟩

/-- A text without a line feed matches each of the two patterns of a term where the pattern is not
too large and the text is what the strategy looks for. No pattern is too large whose term has no
more than five thousand characters. -/
theorem matches_iff_finds (strategy : MatchStrategy) (term text : String)
    (hfeed : '\n' ∉ text.toList) :
    ((Value.string text).matchesLike (strategy.likePattern term) true = true ↔
        (ofPieces true (strategy.wholePieces term.toList)).fits = true ∧
          strategy.Finds term text) ∧
      ((Value.string text).matchesRegex (strategy.regexPattern term) true = true ↔
        (ofPieces true (strategy.regexPieces term.toList)).fits = true ∧
          strategy.Finds term text) ∧
      (term.length ≤ 5000 →
        (ofPieces true (strategy.wholePieces term.toList)).fits = true ∧
          (ofPieces true (strategy.regexPieces term.toList)).fits = true) := by
  have hfinds := strategy.accepts_wholePieces_iff term text hfeed
  have hlike := strategy.parse?_likePattern true term
  have hregex := strategy.parse?_regexPattern true term
  refine ⟨?_, ?_, fun hlength => fits_of_length hlength strategy⟩
  · rw [Value.matchesLike, matchesRegex_iff_fits hlike, hfinds]
  · rw [matchesRegex_iff_fits hregex, ← strategy.accepts_wholePieces true term.toList hfeed, hfinds]

/-- A percent sign is found where there is one. -/
theorem matches_iff_finds_percent :
    ('\n' ∉ "100% off".toList ∧
        (Value.string "100% off").matchesLike (contains.likePattern "%") true = true ∧
        (Value.string "100% off").matchesRegex (contains.regexPattern "%") true = true) ∧
      '\n' ∉ "100 off".toList ∧
        (Value.string "100 off").matchesLike (contains.likePattern "%") true = false ∧
        (Value.string "100 off").matchesRegex (contains.regexPattern "%") true = false := by
  have hfeed : '\n' ∉ "100% off".toList := by decide
  have hfeed' : '\n' ∉ "100 off".toList := by decide
  have hfound : contains.Finds "%" "100% off" := by decide +kernel
  have hmissed : ¬ contains.Finds "%" "100 off" := by decide +kernel
  obtain ⟨hlike, hregex, hfits⟩ := matches_iff_finds contains "%" "100% off" hfeed
  obtain ⟨hlike', hregex', -⟩ := matches_iff_finds contains "%" "100 off" hfeed'
  obtain ⟨hfitslike, hfitsregex⟩ := hfits (by decide)
  refine ⟨⟨hfeed, hlike.2 ⟨hfitslike, hfound⟩, hregex.2 ⟨hfitsregex, hfound⟩⟩, hfeed', ?_, ?_⟩
  · exact Bool.eq_false_iff.2 fun h => hmissed (hlike'.1 h).2
  · exact Bool.eq_false_iff.2 fun h => hmissed (hregex'.1 h).2

/-- A term is found in itself. -/
theorem finds_self (strategy : MatchStrategy) (term : String) : strategy.Finds term term := by
  cases strategy
  case exact => exact rfl
  case contains => exact List.infix_rfl
  case startsWith => exact List.prefix_rfl
  case endsWith => exact List.suffix_rfl
  case fuzzy => exact List.filter_sublist.map fold

/-- Twelve thousand letters. -/
def manyLetters : String := String.ofList (List.replicate 12000 'a')

/-- Many letters are not found in themselves in order. -/
theorem manyLetters_unmatched :
    '\n' ∉ manyLetters.toList ∧ fuzzy.Finds manyLetters manyLetters ∧
      (Value.string manyLetters).matchesLike (fuzzy.likePattern manyLetters) true = false ∧
      (Value.string manyLetters).matchesRegex (fuzzy.regexPattern manyLetters) true = false := by
  have hchars : manyLetters.toList = List.replicate 12000 'a' := String.toList_ofList
  have hlength : (fuzzyChars manyLetters.toList).length = 12000 := by
    have hletter : (!isBlank 'a') = true := by decide
    rw [hchars, fuzzyChars, List.filter_replicate, if_pos hletter, List.length_replicate]
  -- one run for each letter is more than the reverse automaton has room for
  have hlong : 10083 ≤ (fuzzyChars manyLetters.toList).length := by omega
  obtain ⟨hlike, hregex⟩ := not_fits_fuzzy hlong
  refine ⟨?_, finds_self fuzzy manyLetters, ?_, ?_⟩
  · rw [hchars, List.mem_replicate]
    exact fun h => absurd h.2 (by decide)
  · rw [Bool.eq_false_iff, Value.matchesLike, Ne,
      matchesRegex_iff_fits (fuzzy.parse?_likePattern true manyLetters), hlike]
    exact fun h => Bool.false_ne_true h.1
  · rw [Bool.eq_false_iff, Ne,
      matchesRegex_iff_fits (fuzzy.parse?_regexPattern true manyLetters), hregex]
    exact fun h => Bool.false_ne_true h.1

end MatchStrategy

end DualQuery
