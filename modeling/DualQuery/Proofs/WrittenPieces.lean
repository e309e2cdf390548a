import DualQuery.Pattern.Reader
import DualQuery.Proofs.RegexMatch
import DualQuery.Query.Search

/-!
# Patterns that are written piece by piece

The regular expressions of LIKE patterns and of search terms are written without groups, choices and
sets: they are literal characters, points, points that are repeated, and the two ends of a text, one
after the other. Such a text is read as the sequence of its pieces, whatever the characters are,
because all characters that mean something are escaped.

## Key results

- `Regex.State.run?_writtenAll`: the pieces are read one by one
- `Regex.parse?_written`: the expression that is read, unless it is too large
- `Like.toRegex_eq`: the pieces of a LIKE pattern
- `Regex.reaches_ofPieces`: pieces match one after the other
- `MatchStrategy.pieces_likePattern`, `MatchStrategy.regexPattern_eq`: the pieces of a search term
-/

namespace DualQuery

namespace Regex

/-- A piece of a written expression. -/
inductive Piece where
  /-- A literal character. -/
  | char (c : Char)
  /-- Any character but the line feed. -/
  | point
  /-- Any text without a line feed. -/
  | run
  /-- The start of the text. -/
  | start
  /-- The end of the text. -/
  | finish
  deriving DecidableEq, Repr

namespace Piece

/-- The written form of a piece. -/
def written : Piece → List Char
  | char c => escapeChars [c]
  | point => ['.']
  | run => ['.', '*']
  | start => ['^']
  | finish => ['$']

/-- How many tokens a piece is read from. -/
def tokens : Piece → Nat
  | run => 2
  | char _ | point | start | finish => 1

/-- The expression of a piece. -/
def regex (ignoreCase : Bool) : Piece → Regex
  | char c => .char ignoreCase c
  | point => .any
  | run => .star .any
  | start => .anchor .start
  | finish => .anchor .finish

/-- How deep the expression of a piece nests. -/
def depth : Piece → Nat
  | run => 1
  | char _ | point | start | finish => 0

/-- What is read from a piece. -/
def part (ignoreCase : Bool) (piece : Piece) : Part := ⟨piece.regex ignoreCase, piece.depth, true⟩

/-- The written form of pieces. -/
def writtenAll (pieces : List Piece) : List Char := pieces.flatMap written

end Piece

/-- The flags of an expression whose case counts or is ignored. -/
def caseFlags (ignoreCase : Bool) : Flags := ⟨ignoreCase, false, false, false, false⟩

/-! ## Reading -/

/-- The characters that must be escaped, one by one. -/
theorem isMeta_iff (c : Char) :
    isMeta c = true ↔ c ∈ "\\.+*?()|[]\x7b\x7d^$#&-~".toList := by
  rw [isMeta, List.contains_iff_mem]

/-- A character that must be escaped is read from behind a backslash. -/
theorem ofEscape?_of_isMeta {c : Char} (h : isMeta c = true) (cs : List Char) :
    Primitive.ofEscape? (c :: cs) = some (.char c, cs) := by
  rw [isMeta_iff] at h
  simp only [String.reduceToList, List.mem_cons, List.not_mem_nil, or_false] at h
  rcases h with rfl | rfl | rfl | rfl | rfl | rfl | rfl | rfl | rfl | rfl | rfl | rfl | rfl | rfl |
    rfl | rfl | rfl | rfl <;> rfl

/-- Any other character is read as itself. -/
theorem next?_of_not_isMeta (flags : Flags) {c : Char} (h : isMeta c = false) (cs : List Char) :
    next? flags (c :: cs) = some (.part ⟨.char flags.ignoreCase c, 0, true⟩, cs) := by
  unfold next?
  split
  case h_1 heq => cases heq
  case h_14 heq =>
    obtain ⟨rfl, rfl⟩ := List.cons.inj heq
    rfl
  all_goals
    -- the characters with a meaning of their own
    next heq =>
      obtain ⟨rfl, -⟩ := List.cons.inj heq
      exact absurd h (by decide)

namespace Piece

/-- Pieces are written one behind the other. -/
theorem writtenAll_cons (piece : Piece) (pieces : List Piece) :
    writtenAll (piece :: pieces) = piece.written ++ writtenAll pieces := List.flatMap_cons

/-- So are lists of pieces. -/
theorem writtenAll_append (first second : List Piece) :
    writtenAll (first ++ second) = writtenAll first ++ writtenAll second := List.flatMap_append

/-- No piece starts with a question mark, which would make a repetition before it lazy. -/
theorem dropLazy_writtenAll (pieces : List Piece) :
    dropLazy (writtenAll pieces) = writtenAll pieces := by
  cases pieces with
  | nil => rfl
  | cons piece pieces =>
    rw [writtenAll_cons]
    cases piece with
    | char c =>
      cases hc : isMeta c with
      | true => simp [written, escapeChars, hc, dropLazy]
      | false =>
        -- a question mark among the characters would have been escaped
        have hne : c ≠ '?' := fun h => absurd (h ▸ hc) (by decide)
        simp [written, escapeChars, hc, dropLazy, hne]
    | point | run | start | finish => rfl

/-- No piece is read from more tokens than it has characters. -/
theorem tokens_le_length (piece : Piece) : piece.tokens ≤ piece.written.length := by
  cases piece with
  | char c => cases hc : isMeta c <;> simp [tokens, written, escapeChars, hc]
  | point | run | start | finish => exact Nat.le_refl _

/-- No piece nests deeper than a repetition. -/
theorem depth_le_one (piece : Piece) : piece.depth ≤ 1 := by
  cases piece <;> simp [depth]

end Piece

namespace State

/-- What has been read with one more piece. -/
def add (state : State) (piece : Piece) : State :=
  { state with group := state.group.push (piece.part state.flags.ignoreCase) }

/-- The first token of a text is applied before the rest is read. -/
theorem run?_succ (state : State) (hverbose : state.flags.verbose = false) (fuel : Nat) {c : Char}
    {cs rest : List Char} {token : Token} (h : next? state.flags (c :: cs) = some (token, rest)) :
    run? (fuel + 1) state (c :: cs) =
      (state.push? token).bind fun state => run? fuel state rest := by
  rw [run?, skipBlanks, hverbose]
  simp only [Bool.false_eq_true, if_false, h]
  rfl

/-- A piece is read from its written form. -/
theorem run?_piece (ignoreCase : Bool) {state : State} (hflags : state.flags = caseFlags ignoreCase)
    (fuel : Nat) (piece : Piece) (pieces : List Piece) :
    run? (fuel + piece.tokens) state (piece.written ++ Piece.writtenAll pieces) =
      run? fuel (state.add piece) (Piece.writtenAll pieces) := by
  obtain ⟨flags, group, outer, names⟩ := state
  obtain rfl : flags = caseFlags ignoreCase := hflags
  have hfirst := @run?_succ ⟨caseFlags ignoreCase, group, outer, names⟩ rfl
  cases piece with
  | char c =>
    -- a character that means something in a pattern is escaped
    cases hc : isMeta c with
    | true =>
      have hwritten : (Piece.char c).written = ['\\', c] := by simp [Piece.written, escapeChars, hc]
      have hnext : next? (caseFlags ignoreCase) ('\\' :: c :: Piece.writtenAll pieces) =
          some (.part ⟨.char ignoreCase c, 0, true⟩, Piece.writtenAll pieces) := by
        rw [next?, ofEscape?_of_isMeta hc]
        rfl
      rw [hwritten]
      exact hfirst fuel hnext
    | false =>
      have hwritten : (Piece.char c).written = [c] := by simp [Piece.written, escapeChars, hc]
      rw [hwritten]
      exact hfirst fuel (next?_of_not_isMeta (caseFlags ignoreCase) hc _)
  | run =>
    -- the point is read as a part of its own, which is then repeated
    have hnext : next? (caseFlags ignoreCase) ('*' :: Piece.writtenAll pieces) =
        some (.repetition 0 none, Piece.writtenAll pieces) := by
      rw [next?, Piece.dropLazy_writtenAll]
    refine (hfirst (fuel + 1) rfl).trans ?_
    exact run?_succ ⟨caseFlags ignoreCase, group.push ⟨.any, 0, true⟩, outer, names⟩ rfl fuel hnext
  | point | start | finish => rfl

/-- What has been read with some more pieces. -/
def addAll (state : State) (pieces : List Piece) : State := pieces.foldl add state

/-- Pieces are read one by one from their written form. -/
theorem run?_writtenAll (ignoreCase : Bool) (state : State)
    (hflags : state.flags = caseFlags ignoreCase) (pieces : List Piece) {fuel : Nat}
    (hfuel : (Piece.writtenAll pieces).length < fuel) :
    run? fuel state (Piece.writtenAll pieces) = some (state.addAll pieces) := by
  induction pieces generalizing state fuel with
  | nil =>
    obtain ⟨fuel, rfl⟩ := Nat.exists_eq_succ_of_ne_zero (Nat.ne_of_gt hfuel)
    rw [Piece.writtenAll, List.flatMap_nil, run?, skipBlanks, hflags]
    rfl
  | cons piece pieces ih =>
    -- the fuel covers the tokens of the first piece, and what is left of it covers the others
    rw [Piece.writtenAll_cons, List.length_append] at hfuel
    have htokens := piece.tokens_le_length
    obtain ⟨fuel, rfl⟩ := Nat.exists_eq_add_of_le' (show piece.tokens ≤ fuel by omega)
    rw [Piece.writtenAll_cons, run?_piece ignoreCase hflags]
    exact ih (state.add piece) hflags (by omega)

/-- Pieces are added to the parts that have been read, the last one in front. -/
theorem parts_addAll (state : State) (pieces : List Piece) :
    state.addAll pieces = { state with group := ⟨state.group.choices,
      (pieces.map (Piece.part state.flags.ignoreCase)).reverse ++ state.group.parts⟩ } := by
  induction pieces generalizing state with
  | nil => rfl
  | cons piece pieces ih =>
    rw [addAll, List.foldl_cons, ← addAll, ih, List.map_cons, List.reverse_cons, List.append_assoc]
    rfl

end State

/-! ## The expression of pieces -/

/-- The expression of pieces that stand one after the other. -/
def ofPieces (ignoreCase : Bool) : List Piece → Regex
  | [] => .empty
  | piece :: pieces =>
    pieces.foldl (fun regex piece => .seq regex (piece.regex ignoreCase)) (piece.regex ignoreCase)

/-- Joined to what nests no deeper than a repetition, pieces nest no deeper. -/
theorem depth_join_pieces (ignoreCase : Bool) (pieces : List Piece) {depth : Nat}
    (h : depth ≤ 1) : (pieces.map (Piece.part ignoreCase)).foldl
      (fun depth part => max depth part.depth) depth ≤ 1 := by
  induction pieces generalizing depth with
  | nil => exact h
  | cons piece pieces ih =>
    exact ih (Nat.max_le.2 ⟨h, piece.depth_le_one⟩)

/-- The parts of pieces make the expression of the pieces, within the depth that is allowed. -/
theorem ofParts_pieces (ignoreCase : Bool) (pieces : List Piece) :
    (ofParts (pieces.map (Piece.part ignoreCase)).reverse).regex = ofPieces ignoreCase pieces ∧
      (ofParts (pieces.map (Piece.part ignoreCase)).reverse).depth ≤ maxDepth := by
  rw [ofParts, List.reverse_reverse]
  -- one piece stands for itself; a sequence is one level deeper than its parts
  match pieces with
  | [] => exact ⟨rfl, Nat.zero_le _⟩
  | [piece] => exact ⟨rfl, Nat.le_trans piece.depth_le_one (by decide)⟩
  | first :: second :: pieces =>
    have hdepth := depth_join_pieces ignoreCase (second :: pieces) first.depth_le_one
    refine ⟨?_, Nat.succ_le_succ (Nat.le_trans hdepth (by decide))⟩
    exact List.foldl_map

/-- The written form of pieces is read as their expression, unless that is too large. -/
theorem parse?_written (ignoreCase : Bool) (pieces : List Piece) :
    parse? ignoreCase (String.ofList (Piece.writtenAll pieces)) =
      if (ofPieces ignoreCase pieces).fits then some (ofPieces ignoreCase pieces) else none := by
  obtain ⟨hregex, hdepth⟩ := ofParts_pieces ignoreCase pieces
  have hrun := State.run?_writtenAll ignoreCase ⟨caseFlags ignoreCase, {}, [], []⟩ rfl
    pieces (Nat.lt_succ_self _)
  rw [State.parts_addAll, List.append_nil] at hrun
  -- reading gives the parts in reverse, as they were pushed
  have hparse : parse? ignoreCase (String.ofList (Piece.writtenAll pieces)) =
      let part := ofParts (pieces.map (Piece.part ignoreCase)).reverse
      if decide (part.depth ≤ maxDepth) && part.regex.fits then some part.regex else none := by
    simp only [parse?, String.toList_ofList, Option.bind_eq_bind]
    rw [← caseFlags, hrun]
    rfl
  simp only [hparse, hregex, decide_eq_true hdepth, Bool.true_and]

/-! ## What pieces match -/

namespace Piece

/-- Whether pieces match from one place to another, one after the other. -/
def Reaches (ignoreCase : Bool) : List Piece → Place → Place → Prop
  | [] => fun a b => a = b
  | piece :: pieces => fun a c =>
    ∃ b, (piece.regex ignoreCase).Reaches a b ∧ Reaches ignoreCase pieces b c

variable {ignoreCase : Bool} {a b c : Place}

/-- A sequence of two lists of pieces matches through a place between them. -/
theorem reaches_append {first second : List Piece} :
    Reaches ignoreCase (first ++ second) a c ↔
      ∃ b, Reaches ignoreCase first a b ∧ Reaches ignoreCase second b c := by
  induction first generalizing a with
  | nil => simp [Reaches]
  | cons piece pieces ih =>
    simp only [List.cons_append, Reaches, ih]
    constructor
    · rintro ⟨d, had, b, hdb, hbc⟩
      exact ⟨b, ⟨d, had, hdb⟩, hbc⟩
    · rintro ⟨b, ⟨d, had, hdb⟩, hbc⟩
      exact ⟨d, had, b, hdb, hbc⟩

/-- A first piece matches up to the place where the others go on. -/
theorem reaches_cons {piece : Piece} {pieces : List Piece} :
    Reaches ignoreCase (piece :: pieces) a c ↔
      ∃ b, Reaches ignoreCase [piece] a b ∧ Reaches ignoreCase pieces b c := by
  rw [← List.singleton_append, reaches_append]

/-- Pieces never go back in the text. -/
theorem goesOn_reaches (ignoreCase : Bool) (pieces : List Piece) :
    GoesOn (Reaches ignoreCase pieces) := by
  induction pieces with
  | nil => exact fun a b h => ⟨[], Place.passes_nil.2 h⟩
  | cons piece pieces ih =>
    rintro a c ⟨b, hab, hbc⟩
    obtain ⟨passed, hpassed⟩ := Regex.goesOn_reaches (piece.regex ignoreCase) a b hab
    obtain ⟨more, hmore⟩ := ih b c hbc
    exact ⟨passed ++ more, hpassed.trans hmore⟩

/-- The start stays at a place that nothing is in front of. -/
theorem reaches_start : Reaches ignoreCase [start] a b ↔ a = b ∧ a.before = none := by
  simp [Reaches, regex, Regex.Reaches, Anchor.allows]

/-- The end stays at a place that nothing is left behind. -/
theorem reaches_finish : Reaches ignoreCase [finish] a b ↔ a = b ∧ a.rest = [] := by
  simp [Reaches, regex, Regex.Reaches, Anchor.allows]

/-- A point passes over one character that is no line feed. -/
theorem reaches_any : Regex.any.Reaches a b ↔ ∃ c, c ≠ '\n' ∧ a.Passes [c] b := by
  simp only [Regex.Reaches, afterChar_eq_some_iff, bne_iff_ne]

/-- A number of points passes over as many characters, none of them a line feed. -/
theorem repeats_any {n : Nat} : Repeats Regex.any.Reaches n a b ↔
    ∃ passed, a.Passes passed b ∧ passed.length = n ∧ '\n' ∉ passed := by
  induction n generalizing a with
  | zero =>
    constructor
    · exact fun h => ⟨[], Place.passes_nil.2 h, rfl, List.not_mem_nil⟩
    · rintro ⟨passed, hpassed, hlength, -⟩
      obtain rfl := List.length_eq_zero_iff.1 hlength
      exact Place.passes_nil.1 hpassed
  | succ n ih =>
    simp only [Repeats, ih, reaches_any]
    constructor
    · rintro ⟨c, ⟨x, hx, hac⟩, more, hcb, hlength, hmore⟩
      exact ⟨x :: more, hac.trans hcb, congrArg (· + 1) hlength,
        List.not_mem_cons_of_ne_of_not_mem hx.symm hmore⟩
    · rintro ⟨passed, hpassed, hlength, hfeed⟩
      -- the first character is passed over by the first point, the others by the rest
      cases passed with
      | nil => cases hlength
      | cons x more =>
        have hpassed : a.Passes ([x] ++ more) b := hpassed
        obtain ⟨c, hac, hcb⟩ := hpassed.exists_between
        obtain ⟨hx, hmore⟩ := List.ne_and_not_mem_of_not_mem_cons hfeed
        exact ⟨c, ⟨x, hx.symm, hac⟩, more, hcb, Nat.succ.inj hlength, hmore⟩

/-- A run passes over any text without a line feed. -/
theorem reaches_run : Reaches ignoreCase [run] a b ↔
    ∃ passed, a.Passes passed b ∧ '\n' ∉ passed := by
  constructor
  · rintro ⟨c, ⟨n, -, -, hac⟩, rfl⟩
    obtain ⟨passed, hpassed, -, hfeed⟩ := repeats_any.1 hac
    exact ⟨passed, hpassed, hfeed⟩
  · rintro ⟨passed, hpassed, hfeed⟩
    exact ⟨b, ⟨passed.length, Nat.zero_le _, fun _ h => (nomatch h),
      repeats_any.2 ⟨passed, hpassed, rfl, hfeed⟩⟩, rfl⟩

end Piece

/-- The expression of pieces matches as the pieces do, one after the other. -/
theorem reaches_ofPieces {ignoreCase : Bool} {pieces : List Piece} {a b : Place} :
    (ofPieces ignoreCase pieces).Reaches a b ↔ Piece.Reaches ignoreCase pieces a b := by
  cases pieces with
  | nil => exact Iff.rfl
  | cons first pieces =>
    -- the expression is nested to the left: what has been folded reaches the place between
    have hfold (regex : Regex) (a b : Place) : (pieces.foldl (fun regex piece =>
        .seq regex (piece.regex ignoreCase)) regex).Reaches a b ↔
          ∃ c, regex.Reaches a c ∧ Piece.Reaches ignoreCase pieces c b := by
      induction pieces generalizing regex with
      | nil => simp [Piece.Reaches]
      | cons piece pieces ih =>
        simp only [List.foldl_cons, ih, Regex.Reaches, Piece.Reaches]
        constructor
        · rintro ⟨d, ⟨c, hac, hcd⟩, hdb⟩
          exact ⟨c, hac, d, hcd, hdb⟩
        · rintro ⟨c, hac, d, hcd, hdb⟩
          exact ⟨d, ⟨c, hac, hcd⟩, hdb⟩
    exact hfold (first.regex ignoreCase) a b

end Regex

/-! ## LIKE patterns -/

namespace Like

open Regex

/-- The pieces of a LIKE pattern. -/
def pieces : List Char → List Piece
  | [] => []
  | '\\' :: [] => []
  | '\\' :: c :: cs => .char c :: pieces cs
  | '%' :: cs => .run :: pieces cs
  | '_' :: cs => .point :: pieces cs
  | c :: cs => .char c :: pieces cs

/-- The regular expression of a LIKE pattern is that of its pieces. -/
theorem regexChars_eq (cs : List Char) : regexChars cs = Piece.writtenAll (pieces cs) := by
  induction cs using regexChars.induct <;>
    simp_all [regexChars, pieces, Piece.writtenAll, Piece.written]

/-- The regular expression of a LIKE pattern takes the text as a whole. -/
theorem toRegex_eq (pattern : String) : toRegex pattern =
    String.ofList (Piece.writtenAll (.start :: pieces pattern.toList ++ [.finish])) := by
  rw [toRegex, regexChars_eq, Piece.writtenAll_append, Piece.writtenAll_cons]
  rfl

/-- A text that has been escaped stands for itself. -/
theorem pieces_escapeChars (cs rest : List Char) :
    pieces (escapeChars cs ++ rest) = cs.map .char ++ pieces rest := by
  induction cs with
  | nil => rfl
  | cons c cs ih =>
    -- an escaped character is one literal piece, whether the escape was needed or not
    have hstep : pieces ((if c = '%' ∨ c = '_' ∨ c = '\\' then ['\\', c] else [c]) ++
        (escapeChars cs ++ rest)) = .char c :: pieces (escapeChars cs ++ rest) := by
      split
      next => rfl
      next hc =>
        simp only [not_or] at hc
        rw [List.singleton_append, pieces]
        all_goals simp_all
    rw [escapeChars, List.flatMap_cons, ← escapeChars, List.append_assoc, hstep, ih]
    rfl

end Like

/-! ## Search terms -/

namespace MatchStrategy

open Regex

/-- Characters with runs between them. -/
def spaced : List Char → List Piece
  | [] => []
  | [c] => [.char c]
  | c :: cs => .char c :: .run :: spaced cs

/-- The pieces of the LIKE pattern of a term. -/
def likePieces (strategy : MatchStrategy) (term : List Char) : List Piece :=
  let chars := term.map Piece.char
  match strategy with
  | exact => chars
  | contains => .run :: chars ++ [.run]
  | startsWith => chars ++ [.run]
  | endsWith => .run :: chars
  | fuzzy => .run :: (fuzzyChars term).flatMap fun c => [.char c, .run]

/-- The pieces of the regular expression of a term. -/
def regexPieces (strategy : MatchStrategy) (term : List Char) : List Piece :=
  let chars := term.map Piece.char
  match strategy with
  | exact => .start :: chars ++ [.finish]
  | contains => chars
  | startsWith => .start :: chars
  | endsWith => chars ++ [.finish]
  | fuzzy => spaced (fuzzyChars term)

/-- Characters with a run behind each are characters with runs between them and one in the end. -/
theorem flatMap_run {cs : List Char} (h : cs ≠ []) :
    (cs.flatMap fun c => [.char c, .run]) = spaced cs ++ [.run] := by
  induction cs using spaced.induct with
  | case1 => exact absurd rfl h
  | case2 c => rfl
  | case3 c cs hcs ih =>
    rw [List.flatMap_cons, ih hcs]
    cases cs with
    | nil => exact absurd rfl hcs
    | cons d cs => rfl

/-- The pieces of the LIKE pattern of a term. -/
theorem pieces_likePattern (strategy : MatchStrategy) (term : String) :
    Like.pieces (strategy.likePattern term).toList = strategy.likePieces term.toList := by
  have hescaped := Like.pieces_escapeChars term.toList
  cases strategy <;> rw [likePattern, String.toList_ofList]
  case exact => simpa [likePieces, Like.pieces] using hescaped []
  case contains => exact congrArg (Piece.run :: ·) (hescaped ['%'])
  case startsWith => exact hescaped ['%']
  case endsWith => simpa [likePieces, Like.pieces] using hescaped []
  -- a fuzzy pattern has a run in front of every letter, so the letters are taken one by one
  case fuzzy =>
    refine congrArg (Piece.run :: ·) ?_
    induction fuzzyChars term.toList with
    | nil => rfl
    | cons c cs ih =>
      rw [List.flatMap_cons, List.flatMap_cons, List.append_assoc, Like.pieces_escapeChars, ← ih]
      rfl

/-- Literal characters are written as the escaped text. -/
theorem writtenAll_char (cs : List Char) :
    Piece.writtenAll (cs.map .char) = Regex.escapeChars cs := by
  induction cs with
  | nil => rfl
  | cons c cs ih =>
    rw [List.map_cons, Piece.writtenAll_cons, ih, Piece.written, Regex.escapeChars,
      Regex.escapeChars, List.flatMap_cons, List.flatMap_nil, List.append_nil]
    rfl

/-- Characters with runs between them are written with the two characters of a run between them. -/
theorem writtenAll_spaced (cs : List Char) : Piece.writtenAll (spaced cs) =
    ['.', '*'].intercalate (cs.map fun c => Regex.escapeChars [c]) := by
  induction cs using spaced.induct with
  | case1 => rfl
  | case2 c => simp [spaced, Piece.writtenAll, Piece.written]
  | case3 c cs hcs ih =>
    cases cs with
    | nil => exact absurd rfl hcs
    | cons d cs =>
      -- the first letter and its run are written in front of the others
      have hspaced : spaced (c :: d :: cs) = .char c :: .run :: spaced (d :: cs) := rfl
      rw [hspaced, Piece.writtenAll_cons, Piece.writtenAll_cons, ih, List.map_cons, List.map_cons,
        List.map_cons, List.intercalate_cons_cons, List.append_assoc]
      rfl

/-- The regular expression of a term is written from its pieces. -/
theorem regexPattern_eq (strategy : MatchStrategy) (term : String) :
    strategy.regexPattern term =
      String.ofList (Piece.writtenAll (strategy.regexPieces term.toList)) := by
  have hchars := writtenAll_char term.toList
  cases strategy <;> refine congrArg String.ofList ?_
  case exact =>
    rw [regexPieces, Piece.writtenAll_append, Piece.writtenAll_cons, hchars]
    rfl
  case contains => exact hchars.symm
  case startsWith =>
    rw [regexPieces, Piece.writtenAll_cons, hchars]
    rfl
  case endsWith =>
    rw [regexPieces, Piece.writtenAll_append, hchars]
    rfl
  case fuzzy => exact (writtenAll_spaced _).symm

end MatchStrategy

end DualQuery
