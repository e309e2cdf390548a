import DualQuery.Proofs.WrittenPieces

/-!
# The room of patterns

The automaton of pieces that stand one after the other has room for each of them, and whether the
text is searched or matched as a whole makes a small difference only. So the LIKE pattern of a
search term is larger than its regular expression by more than that difference, and where the LIKE
pattern fits so does the regular expression.

## Key results

- `Regex.Normal.load_append`: room is added up
- `Regex.load_normal_ofPieces`: the room of pieces
- `MatchStrategy.fits_regexPieces`: the two patterns of a search term
-/

namespace DualQuery

namespace Regex

namespace Normal

/-! ## One after the other -/

/-- Whether a normal form is a single part of a sequence, and not a choice. -/
def isAtom : Normal → Bool
  | literal _ | set _ | anchor _ | times _ _ _ => true
  | empty | capture _ | seq _ _ | alt _ _ | words _ => false

/-- The room of a normal form as a part of a sequence, where the empty text takes none. -/
def load (reversed : Bool) (normal : Normal) : Nat :=
  if normal = .empty then 0 else normal.room reversed

/-- Room is added up along a sequence. -/
theorem load_append (reversed : Bool) {first : Normal} (h : first.isAtom = true) (rest : Normal) :
    load reversed (first.append rest) = first.room reversed + load reversed rest := by
  cases first with
  | literal text =>
    -- literals that meet become one, whose bytes are those of both
    have hjoined (more : List Char) : (literal (text ++ more)).room reversed =
        (literal text).room reversed + (literal more).room reversed := by
      simp only [room, textBytes, List.flatMap_append, List.length_append, Nat.mul_add]
    cases rest with
    | literal more => exact hjoined more
    | seq second rest =>
      cases second with
      | literal more =>
        change (literal (text ++ more)).room reversed + rest.room reversed = _
        rw [hjoined, Nat.add_assoc]
        rfl
      | _ => rfl
    | _ => rfl
  | set | anchor | times => cases rest <;> rfl
  | _ => cases h

/-- A sequence that starts with a single part is no choice. -/
theorem isAlt_append {first : Normal} (h : first.isAtom = true) (rest : Normal) :
    (first.append rest).isAlt = false := by
  cases first with
  | literal text =>
    cases rest with
    | seq second rest => cases second <;> rfl
    | _ => rfl
  | set | anchor | times => cases rest <;> rfl
  | _ => cases h

/-- In front of nothing it stays what it is. -/
theorem append_empty {first : Normal} (h : first.isAtom = true) :
    first.append .empty = first := by
  cases first <;> first | rfl | cases h

/-- What is no choice needs no parentheses. -/
theorem closed_of_not_isAlt {normal : Normal} (h : normal.isAlt = false) :
    normal.closed = normal := by
  cases normal <;> first | rfl | cases h

/-! ## Sets -/

/-- A set takes at least one state. -/
theorem le_setRoom (reversed : Bool) (ranges : List (Nat × Nat)) :
    stateRoom ≤ setRoom reversed ranges := by
  have hfold (counts : List Nat) (room : Nat) :
      room ≤ counts.foldl (fun room count => room + stateRoom + stepRoom * count) room := by
    induction counts generalizing room with
    | nil => exact Nat.le_refl _
    | cons count counts ih =>
      rw [List.foldl_cons]
      exact Nat.le_trans (by omega) (ih _)
  unfold setRoom
  split
  · omega
  · split
    · rw [reversedFormsRoom]
      omega
    · exact hfold _ _

/-- A set of one character is the character. -/
theorem ofSet_eq (chars : CharSet) :
    (∃ c, ofSet chars = literal [c]) ∨ ∃ ranges, ofSet chars = set ranges := by
  unfold ofSet ofRanges
  split
  · split
    · exact .inl ⟨_, rfl⟩
    · exact .inr ⟨_, rfl⟩
  · exact .inr ⟨_, rfl⟩

/-- A set is a single part. -/
theorem isAtom_ofSet (chars : CharSet) : (ofSet chars).isAtom = true := by
  obtain ⟨c, h⟩ | ⟨ranges, h⟩ := ofSet_eq chars <;> rw [h] <;> rfl

/-- A set does not match the empty text only. -/
theorem isEmptyOnly_ofSet (chars : CharSet) : (ofSet chars).isEmptyOnly = false := by
  obtain ⟨c, h⟩ | ⟨ranges, h⟩ := ofSet_eq chars <;> rw [h] <;> rfl

/-- The normal form of a set takes at least one state. -/
theorem le_room_ofSet (reversed : Bool) (chars : CharSet) :
    stateRoom ≤ (ofSet chars).room reversed := by
  obtain ⟨c, h⟩ | ⟨ranges, h⟩ := ofSet_eq chars
  · have hbytes : 0 < (textBytes [c]).length := by
      simp [textBytes, Text.bytesOf, Char.utf8Size_pos]
    rw [h, room]
    exact Nat.le_mul_of_pos_right _ hbytes
  · rw [h]
    exact le_setRoom reversed ranges

/-- A character is a single part, whether its case counts or not. -/
theorem isAtom_ofChar (ignoreCase : Bool) (c : Char) : (ofChar ignoreCase c).isAtom = true := by
  rw [ofChar]
  split
  · exact isAtom_ofSet _
  · rfl

end Normal

/-! ## Pieces -/

namespace Piece

/-- The normal form of a piece. -/
def normal (ignoreCase : Bool) : Piece → Normal
  | char c => .ofChar ignoreCase c
  | point => .ofSet (.complement (.single '\n'))
  | run => .times 0 none (.ofSet (.complement (.single '\n')))
  | start => .anchor .start
  | finish => .anchor .finish

/-- A piece is a single part. -/
theorem isAtom_normal (ignoreCase : Bool) (piece : Piece) :
    (piece.normal ignoreCase).isAtom = true := by
  cases piece with
  | char c => exact Normal.isAtom_ofChar ignoreCase c
  | point => exact Normal.isAtom_ofSet _
  | run | start | finish => rfl

/-- The normal form of a piece is put in front of the rest. -/
theorem normalBefore_regex (ignoreCase : Bool) (piece : Piece) (rest : Normal) :
    (piece.regex ignoreCase).normalBefore rest = (piece.normal ignoreCase).append rest := by
  cases piece with
  | char | point | start | finish => rfl
  | run =>
    have hatom := Normal.isAtom_ofSet (.complement (.single '\n'))
    have hpoint : (Regex.any.normalBefore .empty).closed =
        .ofSet (.complement (.single '\n')) := by
      rw [normalBefore, Normal.closed_of_not_isAlt (Normal.isAlt_append hatom _),
        Normal.append_empty hatom]
    rw [regex, star, normalBefore, hpoint, Normal.repetition, Normal.isEmptyOnly_ofSet]
    rfl

/-- What a piece adds to the room of an automaton. -/
def load (reversed ignoreCase : Bool) (piece : Piece) : Nat :=
  (piece.normal ignoreCase).room reversed

/-- The room of pieces. -/
def loadAll (reversed ignoreCase : Bool) : List Piece → Nat
  | [] => 0
  | piece :: pieces => piece.load reversed ignoreCase + loadAll reversed ignoreCase pieces

/-- The room of pieces is added up. -/
theorem loadAll_append (reversed ignoreCase : Bool) (first second : List Piece) :
    loadAll reversed ignoreCase (first ++ second) =
      loadAll reversed ignoreCase first + loadAll reversed ignoreCase second := by
  induction first with
  | nil => exact (Nat.zero_add _).symm
  | cons piece pieces ih => rw [List.cons_append, loadAll, loadAll, ih, Nat.add_assoc]

/-- The start of a text takes one state. -/
theorem load_start (reversed ignoreCase : Bool) : start.load reversed ignoreCase = stateRoom := rfl

/-- So does its end. -/
theorem load_finish (reversed ignoreCase : Bool) : finish.load reversed ignoreCase = stateRoom :=
  rfl

/-- A run takes a set and the states that lead back to it. -/
theorem le_load_run (reversed ignoreCase : Bool) :
    stateRoom + branchRoom ≤ run.load reversed ignoreCase := by
  have hset := Normal.le_room_ofSet reversed (.complement (.single '\n'))
  rw [load, normal, Normal.room, Normal.timesRoom]
  split <;> omega

end Piece

/-- The normal form of pieces that stand one after the other. -/
theorem normalBefore_ofPieces (ignoreCase : Bool) (pieces : List Piece) (rest : Normal) :
    (ofPieces ignoreCase pieces).normalBefore rest =
      (pieces.map (Piece.normal ignoreCase)).foldr Normal.append rest := by
  cases pieces with
  | nil => rfl
  | cons first pieces =>
    -- the expression is nested to the left, so the rest is put behind it piece by piece from the
    -- right
    have hfold (regex : Regex) : (pieces.foldl (fun regex piece =>
        .seq regex (piece.regex ignoreCase)) regex).normalBefore rest =
          regex.normalBefore ((pieces.map (Piece.normal ignoreCase)).foldr Normal.append rest) := by
      induction pieces generalizing regex with
      | nil => rfl
      | cons piece pieces ih =>
        rw [List.foldl_cons, ih, normalBefore, Piece.normalBefore_regex]
        rfl
    exact (hfold _).trans (first.normalBefore_regex ignoreCase _)

/-- The normal form of pieces is the sequence of their normal forms. -/
theorem normal_ofPieces (ignoreCase : Bool) (pieces : List Piece) :
    (ofPieces ignoreCase pieces).normal =
      (pieces.map (Piece.normal ignoreCase)).foldr Normal.append .empty := by
  rw [Regex.normal, normalBefore_ofPieces]
  cases pieces with
  | nil => rfl
  | cons first pieces =>
    exact Normal.closed_of_not_isAlt (Normal.isAlt_append (first.isAtom_normal ignoreCase) _)

/-- The room of the normal form of pieces is that of all of them. -/
theorem load_normal_ofPieces (reversed ignoreCase : Bool) (pieces : List Piece) :
    (ofPieces ignoreCase pieces).normal.load reversed =
      Piece.loadAll reversed ignoreCase pieces := by
  rw [normal_ofPieces]
  induction pieces with
  | nil => rfl
  | cons piece pieces ih =>
    rw [List.map_cons, List.foldr_cons,
      Normal.load_append reversed (piece.isAtom_normal ignoreCase), ih, Piece.loadAll]
    rfl

/-! ## Which patterns fit -/

namespace Normal

/-- A normal form takes one state or its load. -/
theorem room_le (reversed : Bool) (normal : Normal) :
    normal.room reversed ≤ max stateRoom (normal.load reversed) := by
  rw [load]
  split
  next h =>
    subst h
    exact Nat.le_max_left _ _
  next => exact Nat.le_max_right _ _

/-- The load is no more than the room: the empty text has none. -/
theorem load_le (reversed : Bool) (normal : Normal) :
    normal.load reversed ≤ normal.room reversed := by
  rw [load]
  split <;> omega

end Normal

/-- The most by which searching a text may be larger than matching it as a whole. -/
def searchMargin : Nat := Normal.searchRoom false - Normal.searchRoom true

/-- Pieces fit where pieces fit that are larger by what searching takes. -/
theorem fits_of_loadAll {ignoreCase : Bool} {small large : List Piece}
    (h : ∀ reversed, max stateRoom (Piece.loadAll reversed ignoreCase small) + searchMargin ≤
      Piece.loadAll reversed ignoreCase large)
    (hlarge : (ofPieces ignoreCase large).fits = true) :
    (ofPieces ignoreCase small).fits = true := by
  have hsearch (isAnchored : Bool) : Normal.searchRoom true ≤ Normal.searchRoom isAnchored ∧
      Normal.searchRoom isAnchored ≤ Normal.searchRoom true + searchMargin := by
    cases isAnchored <;> decide
  have hroom (reversed : Bool) : (ofPieces ignoreCase small).normal.room reversed + searchMargin ≤
      (ofPieces ignoreCase large).normal.room reversed := by
    have hsmall := (ofPieces ignoreCase small).normal.room_le reversed
    have hlarge := (ofPieces ignoreCase large).normal.load_le reversed
    rw [load_normal_ofPieces] at hsmall hlarge
    have hmargin := h reversed
    omega
  simp only [fits, Bool.and_eq_true, decide_eq_true_eq, Normal.forwardRoom, Normal.backwardRoom,
    Normal.room, Bool.false_eq_true, if_false, if_true] at hlarge ⊢
  have hforward := hroom false
  have hbackward := hroom true
  constructor
  · have hs := hsearch ((ofPieces ignoreCase small).normal.startsAt .start)
    have hl := hsearch ((ofPieces ignoreCase large).normal.startsAt .start)
    omega
  · have hs := hsearch ((ofPieces ignoreCase small).normal.endsAt .finish)
    have hl := hsearch ((ofPieces ignoreCase large).normal.endsAt .finish)
    omega

end Regex

/-! ## Search terms -/

namespace MatchStrategy

open Regex

/-- The regular expression of a term fits where its LIKE pattern does. -/
theorem fits_regexPieces (ignoreCase : Bool) (strategy : MatchStrategy) (term : List Char)
    (h : (ofPieces ignoreCase (.start :: strategy.likePieces term ++ [.finish])).fits = true) :
    (ofPieces ignoreCase (strategy.regexPieces term)).fits = true := by
  -- a run that is left out pays for a search that is no longer anchored
  have hrun (reversed : Bool) := Piece.le_load_run reversed ignoreCase
  have hmargin : searchMargin = 80 := rfl
  have hstate : stateRoom = 32 := rfl
  have hbranch : branchRoom = 40 := rfl
  cases strategy with
  | exact => exact h
  | fuzzy =>
    refine fits_of_loadAll (fun reversed => ?_) h
    have hrun := hrun reversed
    rw [likePieces, regexPieces]
    by_cases hchars : fuzzyChars term = []
    · rw [hchars]
      simp only [spaced, List.flatMap_nil, List.cons_append, List.nil_append,
        Piece.loadAll, Piece.load_start, Piece.load_finish]
      omega
    · rw [flatMap_run hchars]
      simp only [List.cons_append, Piece.loadAll, Piece.loadAll_append, Piece.load_start,
        Piece.load_finish]
      omega
  | contains | startsWith | endsWith =>
    -- the LIKE pattern has an end of the text and a run for each end that is left open
    refine fits_of_loadAll (fun reversed => ?_) h
    have hrun := hrun reversed
    simp only [likePieces, regexPieces, List.cons_append, Piece.loadAll, Piece.loadAll_append,
      Piece.load_start, Piece.load_finish]
    omega

end MatchStrategy

end DualQuery
