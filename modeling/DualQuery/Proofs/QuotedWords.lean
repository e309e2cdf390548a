import DualQuery.Proofs.NumberText
import DualQuery.Sql.Identifier
import DualQuery.Sql.Token
import Mathlib.Data.List.Forall2

/-!
# Quoted words of SQL texts

A written identifier is read back up to its closing quote, whatever its name holds, since a quote
in the name is doubled and no quote stands behind the identifier. So it is one token, a word in
quotes with the name as its text.

The other parts of a statement are keywords, numbers, placeholders, symbols and literals. None of
them is a word in quotes, and each ends in front of a mark: a blank, a parenthesis, a comma or an
asterisk, which are parts of their own wherever they stand. So the quoted words of a text that is
put together from such parts are those of its parts, one after the other.

## Key results

- `untilQuote?_doubleQuotes`: the name of an identifier is read back
- `identifier_append_inj`: an identifier is told apart from what follows it
- `quotedWords?_identifier`: an identifier is one quoted word
- `quotedWords?_keywords`: keywords are no quoted words
- `Quotes.append`, `Quotes.separate`, `Continues.join`, `quotes_intercalate`: texts put together
-/

namespace DualQuery.Sql

/-! ## Identifiers -/

section Quote

variable {quote : Char} {cs rest : List Char}

/-- A single quote ends a text. -/
theorem untilQuote?_end (h : rest.head? ≠ some quote) :
    untilQuote? quote (quote :: rest) = some ([], rest) := by
  cases rest with
  | nil => simp [untilQuote?]
  | cons d ds =>
    have hd : d ≠ quote := fun heq => h (congrArg some heq)
    simp [untilQuote?, hd]

/-- A doubled quote stands for one and does not end the text. -/
theorem untilQuote?_doubled (quote : Char) (cs : List Char) :
    untilQuote? quote (quote :: quote :: cs) =
      (untilQuote? quote cs).map fun (inner, rest) => (quote :: inner, rest) := by
  simp [untilQuote?]

/-- Any other character is part of the text. -/
theorem untilQuote?_cons {c : Char} (h : c ≠ quote) (cs : List Char) :
    untilQuote? quote (c :: cs) =
      (untilQuote? quote cs).map fun (inner, rest) => (c :: inner, rest) := by
  rw [untilQuote?.eq_def]
  exact if_neg h

/-- A text without quotes ends at the first one. -/
theorem untilQuote?_append (hcs : quote ∉ cs) (h : rest.head? ≠ some quote) :
    untilQuote? quote (cs ++ quote :: rest) = some (cs, rest) := by
  induction cs with
  | nil => exact untilQuote?_end h
  | cons c cs ih =>
    rw [List.mem_cons, not_or] at hcs
    rw [List.cons_append, untilQuote?_cons (Ne.symm hcs.1), ih hcs.2, Option.map_some]

/-- A doubled quote is part of the name, and the first other quote ends it. -/
theorem untilQuote?_doubleQuotes (cs : List Char) (h : rest.head? ≠ some '"') :
    untilQuote? '"' (doubleQuotes cs ++ '"' :: rest) = some (cs, rest) := by
  -- the characters of the name are read in turn, a quote as two
  induction cs with
  | nil => exact untilQuote?_end h
  | cons c cs ih =>
    rw [doubleQuotes]
    split
    next hc =>
      rw [List.cons_append, List.cons_append, untilQuote?_doubled, ih, hc, Option.map_some]
    next hc => rw [List.cons_append, untilQuote?_cons hc, ih, Option.map_some]

end Quote

/-- An identifier is its name between quotes, with the quotes of the name doubled. -/
theorem toList_identifier (name : String) :
    (identifier name).toList = '"' :: doubleQuotes name.toList ++ ['"'] := String.toList_ofList

/-- An identifier is told apart from what follows it. -/
theorem identifier_append_inj {a b : String} {xs ys : List Char} (hx : xs.head? ≠ some '"')
    (hy : ys.head? ≠ some '"') (h : (identifier a).toList ++ xs = (identifier b).toList ++ ys) :
    a = b ∧ xs = ys := by
  simp only [toList_identifier, List.cons_append, List.append_assoc, List.nil_append,
    List.cons.injEq, true_and] at h
  have hread := untilQuote?_doubleQuotes a.toList hx
  rw [h, untilQuote?_doubleQuotes b.toList hy, Option.some.injEq, Prod.mk.injEq] at hread
  exact ⟨String.toList_inj.mp hread.1.symm, hread.2.symm⟩

/-! ## Quoted words -/

/-- The text of a word in quotes. -/
def Token.quoted? : Token → Option String
  | .word text (some _) => some text
  | _ => none

/-- The words in quotes among the tokens of a text. -/
def quotedWords? (cs : List Char) : Option (List String) :=
  (tokens? cs).map (·.filterMap Token.quoted?)

/-- An empty text has no words. -/
@[simp] theorem quotedWords?_nil : quotedWords? [] = some [] := by
  rw [quotedWords?, tokens?]
  rfl

/-- The quoted words of a text are that of its first token, if it is one, and those of the rest. -/
theorem quotedWords?_of_next? {cs rest : List Char} {token : Option Token}
    (h : next? cs = some (token, rest)) (hlt : rest.length < cs.length) :
    quotedWords? cs = (quotedWords? rest).map ((token.bind Token.quoted?).toList ++ ·) := by
  cases cs with
  | nil => cases h
  | cons c cs =>
    -- a token is shorter than the text, so the reader goes on with the rest
    have htokens : tokens? (c :: cs) = (tokens? rest).map (token.toList ++ ·) := by
      rw [tokens?, h]
      exact if_pos hlt
    rw [quotedWords?, htokens, quotedWords?, Option.map_map, Option.map_map]
    refine Option.map_congr fun tokens _ => ?_
    cases token with
    | none => simp
    | some t => cases hquoted : t.quoted? <;> simp [hquoted]

/-- A token that is no word in quotes can be passed over. -/
theorem quotedWords?_of_unquoted {cs rest : List Char} {token : Option Token}
    (h : next? cs = some (token, rest)) (hlt : rest.length < cs.length)
    (htoken : token.bind Token.quoted? = none) : quotedWords? cs = quotedWords? rest := by
  rw [quotedWords?_of_next? h hlt, htoken]
  exact Option.map_id'

/-- The characters that may start a comment, a literal, a placeholder or a symbol, each in its own
way. -/
def openers : List Char := ['-', '/', '\'', '$', '?', '#', '@', '.']

/-- A character that opens nothing is a blank, the quote of a word, or the start of a plain
token. -/
theorem next?_of_notMem_openers {c : Char} (h : c ∉ openers) (cs : List Char) :
    next? (c :: cs) =
      if Text.isBlank c then some (none, cs)
      else if c == '"' || c == '\x60' then
        (untilQuote? c cs).map fun (inner, rest) =>
          (some (.word (String.ofList inner) (some c)), rest)
      else (plain? c cs).map fun (token, rest) => (some token, rest) := by
  simp only [openers, List.mem_cons, List.not_mem_nil, or_false, not_or] at h
  unfold next?
  split <;> simp_all

/-- An identifier is one token, as no quote follows it. -/
theorem next?_identifier (name : String) {rest : List Char} (h : rest.head? ≠ some '"') :
    next? ((identifier name).toList ++ rest) = some (some (.word name (some '"')), rest) := by
  rw [toList_identifier, List.cons_append, List.cons_append, List.append_assoc,
    List.singleton_append, next?_of_notMem_openers (by decide), untilQuote?_doubleQuotes _ h,
    Option.map_some]
  simp [Text.isBlank]

/-- An identifier is one quoted word. -/
theorem quotedWords?_identifier (name : String) {rest : List Char} (h : rest.head? ≠ some '"') :
    quotedWords? ((identifier name).toList ++ rest) = (quotedWords? rest).map ([name] ++ ·) := by
  refine quotedWords?_of_next? (next?_identifier name h) ?_
  rw [List.length_append, toList_identifier, List.cons_append, List.length_cons]
  omega

/-! ## Marks -/

/-- The characters that are a token, or a blank, wherever they stand. -/
def marks : List Char := [' ', '(', ')', ',', '*']

/-- Whether a text is empty or starts with a mark, so that no part in front of it goes on. -/
def endsPart (cs : List Char) : Bool := cs.head?.all marks.contains

section EndsPart

variable {p : Char → Bool} {part rest : List Char}

/-- What holds of all marks holds of the character behind a part. -/
theorem head?_of_endsPart (hp : marks.all p = true) (h : endsPart rest = true) :
    rest.head?.all p = true := by
  cases rest with
  | nil => rfl
  | cons c rest => exact List.all_eq_true.1 hp c (List.contains_iff_mem.1 h)

/-- A run of characters that no mark is like stops in front of a mark. -/
theorem takeWhile_of_endsPart (hp : marks.all (!p ·) = true) (h : endsPart rest = true) :
    rest.takeWhile p = [] := by
  have hhead := head?_of_endsPart hp h
  -- the text is empty or its first character is a mark
  cases rest with
  | nil => rfl
  | cons c rest =>
    rw [List.head?_cons, Option.all_some, Bool.not_eq_true'] at hhead
    rw [List.takeWhile_cons, hhead]
    rfl

/-- So nothing is dropped in front of a mark. -/
theorem dropWhile_of_endsPart (hp : marks.all (!p ·) = true) (h : endsPart rest = true) :
    rest.dropWhile p = rest := by
  have hnone := takeWhile_of_endsPart hp h
  have hboth := List.takeWhile_append_dropWhile (p := p) (l := rest)
  rwa [hnone, List.nil_append] at hboth

/-- A part of characters that no mark is like ends in front of a mark. -/
theorem takeWhile_part (hp : marks.all (!p ·) = true) (hpart : ∀ c ∈ part, p c = true)
    (h : endsPart rest = true) : (part ++ rest).takeWhile p = part := by
  rw [List.takeWhile_append_of_pos hpart, takeWhile_of_endsPart hp h, List.append_nil]

/-- What is left behind a part is what starts with the mark. -/
theorem dropWhile_part (hp : marks.all (!p ·) = true) (hpart : ∀ c ∈ part, p c = true)
    (h : endsPart rest = true) : (part ++ rest).dropWhile p = rest := by
  rw [List.dropWhile_append_of_pos hpart, dropWhile_of_endsPart hp h]

end EndsPart

/-- A text ends the part in front of it if its own parts do. -/
theorem endsPart_append {xs ys : List Char} (hx : endsPart xs = true) (hy : endsPart ys = true) :
    endsPart (xs ++ ys) = true := by
  cases xs with
  | nil => exact hy
  | cons x xs => exact hx

/-- The letters that may stand in front of a literal. -/
def literalLetters : List Char := ['b', 'e', 'n', 'r', 'x']

/-- Only some letters may stand in front of a literal. -/
theorem prefixed?_eq_none {c : Char} (h : c.toLower ∉ literalLetters) (cs : List Char) :
    prefixed? c cs = none := by
  simp only [literalLetters, List.mem_cons, List.not_mem_nil, or_false, not_or] at h
  unfold prefixed?
  split <;> simp [h]

/-- A mark is a token of its own, and a blank is none. -/
theorem next?_mark {c : Char} (h : c ∈ marks) (rest : List Char) :
    next? (c :: rest) =
      some (if c = ' ' then none else some (.symbol (String.singleton c)), rest) := by
  simp only [marks, List.mem_cons, List.not_mem_nil, or_false] at h
  -- a blank is passed over, the other marks are symbols
  rcases h with rfl | rfl | rfl | rfl | rfl
  · rfl
  all_goals
    rw [next?_of_notMem_openers (by decide), plain?, prefixed?_eq_none (by decide)]
    rfl

/-- A mark can be passed over. -/
theorem quotedWords?_mark {c : Char} (h : c ∈ marks) (rest : List Char) :
    quotedWords? (c :: rest) = quotedWords? rest := by
  refine quotedWords?_of_unquoted (next?_mark h rest) (Nat.lt_succ_self _) ?_
  split <;> rfl

/-! ## Keywords -/

/-- The characters of keywords and of the names of functions. -/
def letters : List Char := "ABCDEFGHIJKLMNOPQRSTUVWXYZ_".toList

/-- Whether a character may stand in keywords or between them. -/
def isKeywordChar (c : Char) : Bool := letters.contains c || marks.contains c

/-- Whether a text is made of keywords and marks. -/
def isKeywords (cs : List Char) : Bool := cs.all isKeywordChar

/-- A letter starts a word, as long as no quote follows it. -/
theorem next?_letter {c : Char} (h : c ∈ letters) {cs : List Char}
    (hcs : cs.head?.all isKeywordChar = true) :
    next? (c :: cs) = some (some (wordFrom [c] cs).1, (wordFrom [c] cs).2) := by
  have hprefixed : prefixed? c cs = none := by
    -- no quote stands behind the letter
    unfold prefixed?
    split
    · cases hcs
    · cases hcs
    · rfl
  -- all letters are tried: none of them opens anything else
  have hletters : (letters.all fun c => c ∉ openers ∧ startsWord c = true ∧
      Text.isBlank c = false ∧ (c == '"' || c == '\x60') = false) = true := by decide
  obtain ⟨hopener, hstart, hblank, hquote⟩ := of_decide_eq_true (List.all_eq_true.1 hletters c h)
  rw [next?_of_notMem_openers hopener, hblank, hquote, plain?, hprefixed, hstart]
  rfl

/-- A word ends within the keywords that it begins. -/
theorem quotedWords?_word {c : Char} (h : c ∈ letters) {cs rest : List Char}
    (hcs : isKeywords cs = true) (hrest : endsPart rest = true) :
    quotedWords? (c :: (cs ++ rest)) = quotedWords? (cs.dropWhile continuesWord ++ rest) := by
  have hhead : (cs ++ rest).head?.all isKeywordChar = true := by
    cases cs with
    | nil => exact head?_of_endsPart (by decide) hrest
    | cons d cs => exact List.all_eq_true.1 hcs d List.mem_cons_self
  have hword : (wordFrom [c] (cs ++ rest)).2 = cs.dropWhile continuesWord ++ rest := by
    rw [wordFrom, List.dropWhile_append, dropWhile_of_endsPart (by decide) hrest]
    -- the word may take all keywords, but no more than these
    split
    next hnil => rw [List.isEmpty_iff.1 hnil, List.nil_append]
    next => rfl
  have hnext := next?_letter h hhead
  rw [hword] at hnext
  have hlength : (cs.dropWhile continuesWord).length ≤ cs.length :=
    (List.dropWhile_suffix continuesWord).length_le
  refine quotedWords?_of_unquoted hnext ?_ rfl
  rw [List.length_cons, List.length_append, List.length_append]
  omega

/-- Keywords can be passed over. -/
theorem quotedWords?_keywords (text : List Char) (htext : isKeywords text = true)
    {rest : List Char} (hrest : endsPart rest = true) :
    quotedWords? (text ++ rest) = quotedWords? rest := by
  -- a word takes several characters at once, so the recursion is on the length
  match text with
  | [] => rfl
  | c :: cs =>
    rw [isKeywords, List.all_cons, Bool.and_eq_true, isKeywordChar, Bool.or_eq_true] at htext
    obtain ⟨hletter | hmark, hcs⟩ := htext
    · have hsuffix := List.dropWhile_suffix (l := cs) continuesWord
      have hrest' : isKeywords (cs.dropWhile continuesWord) = true :=
        List.all_eq_true.2 fun d hd => List.all_eq_true.1 hcs d (hsuffix.subset hd)
      rw [List.cons_append, quotedWords?_word (List.contains_iff_mem.1 hletter) hcs hrest,
        quotedWords?_keywords _ hrest' hrest]
    · rw [List.cons_append, quotedWords?_mark (List.contains_iff_mem.1 hmark),
        quotedWords?_keywords cs hcs hrest]
termination_by text.length
decreasing_by
  · exact Nat.lt_succ_of_le hsuffix.length_le
  · exact Nat.lt_succ_self cs.length

/-! ## Numbers, placeholders and symbols -/

/-- The digits of a number in a statement. -/
def digits : List Char := "0123456789".toList

/-- A digit is one of ten characters. -/
theorem mem_digits {c : Char} (h : c.isDigit = true) : c ∈ digits := by
  -- the codes of the digits are ten in a row
  have hrange : 48 ≤ c.toNat ∧ c.toNat ≤ 57 := by
    rw [Char.isDigit, Bool.and_eq_true, decide_eq_true_eq, decide_eq_true_eq] at h
    exact ⟨UInt32.le_iff_toNat_le.1 h.1, UInt32.le_iff_toNat_le.1 h.2⟩
  have hall : ∀ n ∈ List.range' 48 10, Char.ofNat n ∈ digits := by decide
  have hmem := hall c.toNat (by rw [List.mem_range'_1]; omega)
  rwa [Char.ofNat_toNat] at hmem

/-- A number is no word in quotes. -/
theorem quoted?_number (cs : List Char) : (number cs).1.quoted? = none := by
  unfold number
  split
  · rfl
  · dsimp only
    split <;> rfl

/-- A digit starts a number. -/
theorem next?_digit {d : Char} (h : d.isDigit = true) (cs : List Char) :
    next? (d :: cs) = some (some (number (d :: cs)).1, (number (d :: cs)).2) := by
  -- all digits are tried, as the letters were
  have hdigits : (digits.all fun d => d ∉ openers ∧ Text.isBlank d = false ∧
      (d == '"' || d == '\x60') = false ∧ startsWord d = false ∧
        d.toLower ∉ literalLetters) = true := by decide
  obtain ⟨hopener, hblank, hquote, hstart, hletter⟩ :=
    of_decide_eq_true (List.all_eq_true.1 hdigits d (mem_digits h))
  rw [next?_of_notMem_openers hopener, hblank, hquote, plain?, prefixed?_eq_none hletter, hstart, h]
  rfl

section Digits

variable {ds rest : List Char}

/-- A mark is no hexadecimal marker. -/
theorem append_ne_hex (hds : ∀ d ∈ ds, d.isDigit = true) (hrest : endsPart rest = true)
    (tail : List Char) : ds ++ rest ≠ '0' :: 'x' :: tail := by
  intro heq
  have hmark := head?_of_endsPart (p := fun c => c != '0' && c != 'x') (by decide) hrest
  -- the marker would have to be a mark or a second digit
  match ds with
  | [] => simp_all
  | [d] => simp_all
  | d :: e :: ds =>
    rw [List.cons_append, List.cons_append, List.cons.injEq, List.cons.injEq] at heq
    have he := hds e (by simp)
    rw [heq.2.1] at he
    cases he

/-- A number ends in front of a mark. -/
theorem number_append (hds : ∀ d ∈ ds, d.isDigit = true) (hrest : endsPart rest = true) :
    (number (ds ++ rest)).2 = rest := by
  have hwhole : (ds ++ rest).takeWhile Char.isDigit = ds :=
    takeWhile_part (by decide) hds hrest
  have hmark := head?_of_endsPart (p := fun c => c != '.' && c != 'e' && c != 'E' && c != 'L')
    (by decide) hrest
  unfold number
  split
  next tail heq => exact absurd heq (append_ne_hex hds hrest tail)
  next =>
    simp only [hwhole, List.drop_left]
    -- there is no point, no exponent and no L
    cases rest with
    | nil => simp [exponent]
    | cons m tail =>
      simp at hmark
      simp [exponent, hmark]

/-- Numbers can be passed over. -/
theorem quotedWords?_number (hne : ds ≠ []) (hds : ∀ d ∈ ds, d.isDigit = true)
    (hrest : endsPart rest = true) : quotedWords? (ds ++ rest) = quotedWords? rest := by
  obtain ⟨d, tail, rfl⟩ := List.exists_cons_of_ne_nil hne
  have hnext := next?_digit (hds d List.mem_cons_self) (tail ++ rest)
  -- the number takes all digits, and what it is does not matter
  rw [← List.cons_append, number_append hds hrest] at hnext
  refine quotedWords?_of_unquoted hnext ?_ (quoted?_number _)
  rw [List.length_append, List.length_cons]
  omega

/-- The digits behind a dollar are no tag, since no dollar follows them. -/
theorem dollar?_append (hne : ds ≠ []) (hds : ∀ d ∈ ds, d.isDigit = true)
    (hrest : endsPart rest = true) : dollar? (ds ++ rest) = some (.placeholder, rest) := by
  have hdigits : (digits.all fun d => Text.isAlphanumeric d || d == '_') = true := by decide
  -- a tag would be made of the same characters as the digits are
  have htag : ∀ d ∈ ds, (Text.isAlphanumeric d || d == '_') = true :=
    fun d hd => List.all_eq_true.1 hdigits d (mem_digits (hds d hd))
  have hmarks : (marks.all fun c => !(Text.isAlphanumeric c || c == '_')) = true := by decide
  have hdollar := head?_of_endsPart (p := (· != '$')) (by decide) hrest
  simp only [dollar?, takeWhile_part hmarks htag hrest, dropWhile_part hmarks htag hrest]
  split
  next => exact absurd rfl hne
  next => simp_all
  next => rfl

/-- Placeholders can be passed over. -/
theorem quotedWords?_placeholder (hne : ds ≠ []) (hds : ∀ d ∈ ds, d.isDigit = true)
    (hrest : endsPart rest = true) : quotedWords? ('$' :: (ds ++ rest)) = quotedWords? rest := by
  have hstep : next? ('$' :: (ds ++ rest)) =
      (dollar? (ds ++ rest)).map fun (token, rest) => (some token, rest) := rfl
  have hnext : next? ('$' :: (ds ++ rest)) = some (some .placeholder, rest) := by
    rw [hstep, dollar?_append hne hds hrest, Option.map_some]
  refine quotedWords?_of_unquoted hnext ?_ rfl
  rw [List.length_cons, List.length_append]
  omega

end Digits

/-- The symbols of comparisons. -/
def comparisons : List String := ["=", "<>", "<", "<=", ">", ">="]

/-- The symbol of a comparison is one token, since a blank follows it. -/
theorem next?_comparison {symbol : String} (h : symbol ∈ comparisons) (rest : List Char) :
    next? (symbol.toList ++ ' ' :: rest) = some (some (.symbol symbol), ' ' :: rest) := by
  simp only [comparisons, List.mem_cons, List.not_mem_nil, or_false] at h
  rcases h with rfl | rfl | rfl | rfl | rfl | rfl <;> rfl

/-- Comparisons can be passed over. -/
theorem quotedWords?_comparison {symbol : String} (h : symbol ∈ comparisons) (rest : List Char) :
    quotedWords? (symbol.toList ++ ' ' :: rest) = quotedWords? rest := by
  have hne : ∀ symbol ∈ comparisons, 0 < symbol.toList.length := by decide
  have hlength := hne symbol h
  rw [quotedWords?_of_unquoted (next?_comparison h rest) (by simp; omega) rfl,
    quotedWords?_mark (by decide)]

/-- A point in front of what is no digit stands alone. -/
theorem quotedWords?_point {c : Char} (h : c.isDigit = false) (cs : List Char) :
    quotedWords? ('.' :: c :: cs) = quotedWords? (c :: cs) := by
  have hnext : next? ('.' :: c :: cs) = some (some (.symbol "."), c :: cs) := by
    unfold next?
    exact if_neg (by simp [h])
  exact quotedWords?_of_unquoted hnext (Nat.lt_succ_self _) rfl

/-- Literals without quotes can be passed over. -/
theorem quotedWords?_literal {cs rest : List Char} (hcs : '\'' ∉ cs)
    (hrest : rest.head? ≠ some '\'') :
    quotedWords? ('\'' :: (cs ++ '\'' :: rest)) = quotedWords? rest := by
  -- an apostrophe opens a literal, which goes on to the next one
  have hstep : next? ('\'' :: (cs ++ '\'' :: rest)) =
      (untilQuote? '\'' (cs ++ '\'' :: rest)).map fun (inner, rest) =>
        (some (.literal (String.ofList inner)), rest) := rfl
  have hnext : next? ('\'' :: (cs ++ '\'' :: rest)) =
      some (some (.literal (String.ofList cs)), rest) := by
    rw [hstep, untilQuote?_append hcs hrest, Option.map_some]
  refine quotedWords?_of_unquoted hnext ?_ rfl
  rw [List.length_cons, List.length_append, List.length_cons]
  omega

/-! ## Parts of texts -/

/-- The quoted words of a text, in front of a mark, are the given names. -/
def Quotes (text : String) (names : List String) : Prop :=
  ∀ rest, endsPart rest = true →
    quotedWords? (text.toList ++ rest) = (quotedWords? rest).map (names ++ ·)

/-- The same of a text that may stand behind any part, since it is empty or starts with a mark. -/
structure Continues (text : String) (names : List String) : Prop where
  startsApart : endsPart text.toList = true
  quotes : Quotes text names

/-- A text without quoted words that may stand in front of anything. -/
def Leads (text : String) : Prop := ∀ rest, quotedWords? (text.toList ++ rest) = quotedWords? rest

/-- A text without quoted words that may stand between any two parts. -/
structure Separates (text : String) : Prop where
  startsWithMark : text.toList.head?.any marks.contains = true
  leads : Leads text

/-- Whether a text is made of keywords between marks. -/
def isSeparator (text : String) : Bool :=
  isKeywords text.toList && text.toList.head?.any marks.contains &&
    text.toList.getLast?.any marks.contains

/-- A part that can be passed over quotes nothing. -/
theorem quotes_of_eq {text : String} (h : ∀ rest, endsPart rest = true →
    quotedWords? (text.toList ++ rest) = quotedWords? rest) : Quotes text [] :=
  fun rest hrest => (h rest hrest).trans Option.map_id'.symm

/-- Keywords quote nothing. -/
theorem quotes_of_keywords {text : String} (h : isKeywords text.toList = true) : Quotes text [] :=
  quotes_of_eq fun _ => quotedWords?_keywords _ h

/-- An empty text may stand behind anything. -/
theorem Continues.empty : Continues "" [] := ⟨rfl, quotes_of_keywords rfl⟩

/-- Keywords that start with a mark may stand behind anything. -/
theorem continues_of_keywords {text : String} (h : isKeywords text.toList = true)
    (hhead : endsPart text.toList = true) : Continues text [] := ⟨hhead, quotes_of_keywords h⟩

/-- Keywords that end with a mark may stand in front of anything. -/
theorem leads_of_keywords {text : String} (h : isKeywords text.toList = true)
    (hlast : text.toList.getLast?.any marks.contains = true) : Leads text := by
  intro rest
  rcases List.eq_nil_or_concat text.toList with hnil | ⟨front, last, hconcat⟩
  · rw [hnil] at hlast
    cases hlast
  · rw [hconcat, List.concat_eq_append] at h hlast ⊢
    rw [isKeywords, List.all_append, Bool.and_eq_true] at h
    rw [List.getLast?_concat, Option.any_some] at hlast
    -- the last mark ends what stands in front of it, and then goes by itself
    have hends : endsPart (last :: rest) = true := hlast
    rw [List.append_assoc, List.singleton_append, quotedWords?_keywords front h.1 hends,
      quotedWords?_mark (List.contains_iff_mem.1 hlast)]

/-- Keywords between marks may stand between any two parts. -/
theorem separates_of_isSeparator {text : String} (h : isSeparator text = true) :
    Separates text := by
  rw [isSeparator, Bool.and_eq_true, Bool.and_eq_true] at h
  exact ⟨h.1.2, leads_of_keywords h.1.1 h.2⟩

/-- A blank separates parts. -/
theorem separates_blank : Separates " " := separates_of_isSeparator rfl

/-- A comma separates parts. -/
theorem separates_comma : Separates ", " := separates_of_isSeparator rfl

/-- An identifier quotes its name. -/
theorem quotes_identifier (name : String) : Quotes (identifier name) [name] := by
  intro rest hrest
  refine quotedWords?_identifier name fun hquote => ?_
  have hmark := head?_of_endsPart (p := (· != '"')) (by decide) hrest
  rw [hquote] at hmark
  cases hmark

/-- A number quotes nothing. -/
theorem quotes_toString (n : Nat) : Quotes (toString n) [] := by
  refine quotes_of_eq fun rest hrest => ?_
  rw [Nat.toString_eq_repr, Nat.toList_repr]
  exact quotedWords?_number Nat.toDigits_ne_nil
    (fun _ => Decimal.isDigit_of_mem_toDigits_ten) hrest

/-- A placeholder has a number behind a dollar. -/
theorem quotes_dollar (n : Nat) : Quotes ("$" ++ toString n) [] := by
  refine quotes_of_eq fun rest hrest => ?_
  rw [String.toList_append, Nat.toString_eq_repr, Nat.toList_repr]
  exact quotedWords?_placeholder Nat.toDigits_ne_nil
    (fun _ => Decimal.isDigit_of_mem_toDigits_ten) hrest

/-- A comparison stands between blanks. -/
theorem separates_comparison {symbol : String} (h : symbol ∈ comparisons) :
    Separates (" " ++ symbol ++ " ") where
  startsWithMark := by simp [marks]
  leads rest := by
    have htext : (" " ++ symbol ++ " ").toList ++ rest = ' ' :: (symbol.toList ++ ' ' :: rest) := by
      simp
    rw [htext, quotedWords?_mark (by decide), quotedWords?_comparison h]

/-- A qualified name. -/
theorem Quotes.qualify (qualifier : String) {b : String} {ms : List String} (hb : Quotes b ms)
    {c : Char} (hhead : b.toList.head? = some c) (hc : c.isDigit = false) :
    Quotes (identifier qualifier ++ "." ++ b) (qualifier :: ms) := by
  intro rest hrest
  obtain ⟨cs, hcs⟩ := List.head?_eq_some_iff.1 hhead
  have htext : (identifier qualifier ++ "." ++ b).toList ++ rest =
      (identifier qualifier).toList ++ '.' :: c :: (cs ++ rest) := by simp [hcs]
  rw [htext, quotedWords?_identifier qualifier (by simp), quotedWords?_point hc,
    ← List.cons_append, ← hcs, hb rest hrest, Option.map_map]
  rfl

/-! ## Texts put together -/

section Together

variable {a b sep : String} {ns ms : List String}

/-- The quoted words of two parts, the second of which starts with a mark. -/
theorem Quotes.append (ha : Quotes a ns) (hb : Continues b ms) : Quotes (a ++ b) (ns ++ ms) := by
  intro rest hrest
  -- what is behind the first part starts with a mark, whether the second is empty or not
  rw [String.toList_append, List.append_assoc, ha _ (endsPart_append hb.startsApart hrest),
    hb.quotes rest hrest, Option.map_map]
  refine Option.map_congr fun words _ => ?_
  exact (List.append_assoc ns ms words).symm

/-- Two texts that may stand behind any part may do so together. -/
theorem Continues.append (ha : Continues a ns) (hb : Continues b ms) :
    Continues (a ++ b) (ns ++ ms) where
  startsApart := by
    rw [String.toList_append]
    exact endsPart_append ha.startsApart hb.startsApart
  quotes := ha.quotes.append hb

/-- A text that leads adds no quoted words to the part behind it. -/
theorem Leads.quotes (ha : Leads a) (hb : Quotes b ms) : Quotes (a ++ b) ms := by
  intro rest hrest
  rw [String.toList_append, List.append_assoc, ha, hb rest hrest]

/-- A part with a separator in front of it may stand behind any other. -/
theorem Separates.continues (hsep : Separates sep) (hb : Quotes b ms) :
    Continues (sep ++ b) ms where
  startsApart := by
    obtain ⟨hmark, -⟩ := hsep
    rw [String.toList_append]
    cases hchars : sep.toList with
    | nil =>
      rw [hchars] at hmark
      cases hmark
    | cons c cs =>
      rw [hchars] at hmark
      exact hmark
  quotes := hsep.leads.quotes hb

/-- Two parts with a text between them. -/
theorem Quotes.separate (ha : Quotes a ns) (hsep : Separates sep) (hb : Quotes b ms) :
    Quotes (a ++ sep ++ b) (ns ++ ms) := by
  rw [String.append_assoc]
  exact ha.append (hsep.continues hb)

/-- Two parts with a text between them may stand behind any part, if the first one may. -/
theorem Continues.separate (ha : Continues a ns) (hsep : Separates sep) (hb : Quotes b ms) :
    Continues (a ++ sep ++ b) (ns ++ ms) := by
  rw [String.append_assoc]
  exact ha.append (hsep.continues hb)

/-- A part with keywords behind it. -/
theorem Quotes.close (ha : Quotes a ns) (hb : Continues b []) : Quotes (a ++ b) ns := by
  have h := ha.append hb
  rwa [List.append_nil] at h

end Together

/-- Any number of texts that may stand behind any part, one after the other. -/
theorem Continues.join {texts : List String} {names : List (List String)}
    (h : List.Forall₂ Continues texts names) : Continues (String.join texts) names.flatten := by
  induction h with
  | nil => exact .empty
  | cons hhead _ ih =>
    rw [String.join_cons, List.flatten_cons]
    exact hhead.append ih

/-- Any number of parts with a separator between them. -/
theorem quotes_intercalate {sep : String} (hsep : Separates sep) {texts : List String}
    {names : List (List String)} (h : List.Forall₂ Quotes texts names) :
    Quotes (sep.intercalate texts) names.flatten := by
  -- a separator stands in front of every part but the first
  induction h with
  | nil => exact Continues.empty.quotes
  | cons hhead htail ih =>
    rw [List.flatten_cons]
    cases htail with
    | nil =>
      rw [String.intercalate_singleton, List.flatten_nil, List.append_nil]
      exact hhead
    | cons hsecond hrest =>
      rw [String.intercalate_cons_cons]
      exact hhead.separate hsep ih

end DualQuery.Sql
