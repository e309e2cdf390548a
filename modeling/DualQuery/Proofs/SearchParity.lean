import Mathlib
import DualQuery.Proofs.CompiledPlans
import DualQuery.Proofs.PatternRoom

/-!
# Searching in both languages

A relational plan looks for a term by a LIKE pattern that takes a text as a whole, a document
pipeline by a regular expression that is found anywhere in it. The LIKE pattern is the regular
expression with an end of the text and any text put in front and behind, so whatever a plan finds is
found by the pipeline too. The pipeline may find more for two reasons: the text that is put in front
and behind holds no line feed, and a LIKE pattern may be too large where the regular expression is
not.

## Key results

- `MatchStrategy.accepts_wholePieces`: the two patterns of a term, on texts without a line feed
- `SearchMatch.holdsRegex_of_holdsLike`, `SearchMatch.IsAlike.holds_eq`: one field
- `Descriptor.meetsSearch_toMatch`: the search of a query
-/

namespace DualQuery

open Document Relational

namespace Regex

/-! ## Open ends -/

variable {ignoreCase : Bool} {pieces : List Piece} {text : List Char}

/-- Pieces are found in a text where they lead from some place in it to another. -/
theorem accepts_ofPieces : (ofPieces ignoreCase pieces).accepts text = true ↔
    ∃ a b, a.IsOf text ∧ Piece.Reaches ignoreCase pieces a b := by
  simp only [accepts_iff, reaches_ofPieces]

/-- Pieces are found where they are found between others. -/
theorem accepts_of_infix {opening closing : List Piece}
    (h : (ofPieces ignoreCase (opening ++ pieces ++ closing)).accepts text = true) :
    (ofPieces ignoreCase pieces).accepts text = true := by
  obtain ⟨a, d, ha, had⟩ := accepts_ofPieces.1 h
  obtain ⟨c, hac, -⟩ := Piece.reaches_append.1 had
  obtain ⟨b, hab, hbc⟩ := Piece.reaches_append.1 hac
  obtain ⟨passed, hpassed⟩ := Piece.goesOn_reaches ignoreCase opening a b hab
  exact accepts_ofPieces.2 ⟨b, c, ha.passes hpassed, hbc⟩

/-- What is left of a text without a line feed has none either. -/
theorem Place.IsOf.feedless {a : Place} (h : a.IsOf text) (hfeed : '\n' ∉ text) :
    '\n' ∉ a.rest := by
  obtain ⟨passed, hrest, -⟩ := h
  change text = passed ++ a.rest at hrest
  exact fun hmem => hfeed (hrest ▸ List.mem_append_right _ hmem)

/-- The start of the text and any text in front of pieces make no difference. -/
theorem reaches_opening (hfeed : '\n' ∉ text) {a : Place} (h : a.IsOf text) :
    Piece.Reaches ignoreCase [.start, .run] (Place.front text) a := by
  obtain ⟨passed, hpassed⟩ := h
  have hrest : text = passed ++ a.rest := hpassed.1
  have hmem : '\n' ∉ passed := fun hmem => hfeed (hrest ▸ List.mem_append_left _ hmem)
  exact Piece.reaches_cons.2
    ⟨Place.front text, Piece.reaches_start.2 ⟨rfl, rfl⟩,
      Piece.reaches_run.2 ⟨passed, hpassed, hmem⟩⟩

/-- Any text and the end of the text behind pieces make no difference. -/
theorem exists_reaches_closing (hfeed : '\n' ∉ text) {a : Place} (h : a.IsOf text) :
    ∃ b, Piece.Reaches ignoreCase [.run, .finish] a b := by
  have hpassed : a.Passes a.rest ⟨a.rest.getLast?.or a.before, []⟩ :=
    ⟨(List.append_nil _).symm, rfl⟩
  exact ⟨_, Piece.reaches_cons.2
    ⟨_, Piece.reaches_run.2 ⟨_, hpassed, h.feedless hfeed⟩, Piece.reaches_finish.2 ⟨rfl, rfl⟩⟩⟩

/-- Pieces that are found are found in the text as a whole once its ends are left open. -/
theorem accepts_opened (hfeed : '\n' ∉ text) {opening closing : List Piece}
    (hopening : opening = [] ∨ opening = [.start, .run])
    (hclosing : closing = [] ∨ closing = [.run, .finish])
    (h : (ofPieces ignoreCase pieces).accepts text = true) :
    (ofPieces ignoreCase (opening ++ pieces ++ closing)).accepts text = true := by
  obtain ⟨b, c, hb, hbc⟩ := accepts_ofPieces.1 h
  obtain ⟨passed, hpassed⟩ := Piece.goesOn_reaches ignoreCase pieces b c hbc
  -- the place where the pieces start is reached from the front of the text, or is itself the start
  have hfront : ∃ a, a.IsOf text ∧ Piece.Reaches ignoreCase opening a b := by
    rcases hopening with rfl | rfl
    · exact ⟨b, hb, rfl⟩
    · exact ⟨_, Place.isOf_front text, reaches_opening hfeed hb⟩
  have hback : ∃ d, Piece.Reaches ignoreCase closing c d := by
    rcases hclosing with rfl | rfl
    · exact ⟨c, rfl⟩
    · exact exists_reaches_closing hfeed (hb.passes hpassed)
  obtain ⟨a, ha, hab⟩ := hfront
  obtain ⟨d, hcd⟩ := hback
  exact accepts_ofPieces.2
    ⟨a, d, ha, Piece.reaches_append.2 ⟨c, Piece.reaches_append.2 ⟨b, hab, hbc⟩, hcd⟩⟩

/-- No pieces are found in any text. -/
theorem accepts_nil (ignoreCase : Bool) (text : List Char) :
    (ofPieces ignoreCase []).accepts text = true :=
  accepts_ofPieces.2 ⟨_, _, Place.isOf_front text, rfl⟩

/-- Any text without a line feed as a whole. -/
theorem accepts_anything (ignoreCase : Bool) (hfeed : '\n' ∉ text) :
    (ofPieces ignoreCase [.start, .run, .finish]).accepts text = true := by
  obtain ⟨b, hb⟩ : ∃ b, Piece.Reaches ignoreCase [.run, .finish] (Place.front text) b :=
    exists_reaches_closing hfeed (Place.isOf_front text)
  exact accepts_ofPieces.2 ⟨_, b, Place.isOf_front text,
    Piece.reaches_cons.2 ⟨_, Piece.reaches_start.2 ⟨rfl, rfl⟩, hb⟩⟩

end Regex

/-! ## The two patterns of a term -/

namespace MatchStrategy

open Regex

/-- The pieces by which a LIKE pattern takes a text as a whole. -/
def wholePieces (strategy : MatchStrategy) (term : List Char) : List Piece :=
  .start :: strategy.likePieces term ++ [.finish]

/-- The LIKE pattern of a term is its regular expression with open ends, save that of a term without
characters to look for. -/
theorem wholePieces_eq (strategy : MatchStrategy) {term : List Char}
    (h : strategy = fuzzy → fuzzyChars term ≠ []) :
    ∃ opening closing, (opening = [] ∨ opening = [.start, .run]) ∧
      (closing = [] ∨ closing = [.run, .finish]) ∧
      strategy.wholePieces term = opening ++ strategy.regexPieces term ++ closing := by
  -- each strategy leaves open the ends that it does not look at
  cases strategy with
  | exact => exact ⟨[], [], .inl rfl, .inl rfl, (List.append_nil _).symm⟩
  | contains =>
    exact ⟨_, _, .inr rfl, .inr rfl, by simp [wholePieces, likePieces, regexPieces]⟩
  | startsWith =>
    exact ⟨[], _, .inl rfl, .inr rfl, by simp [wholePieces, likePieces, regexPieces]⟩
  | endsWith =>
    exact ⟨_, [], .inr rfl, .inl rfl, by simp [wholePieces, likePieces, regexPieces]⟩
  | fuzzy =>
    refine ⟨_, _, .inr rfl, .inr rfl, ?_⟩
    rw [wholePieces, likePieces, flatMap_run (h rfl)]
    simp [regexPieces]

/-- Whatever the LIKE pattern takes as a whole the regular expression finds. -/
theorem accepts_regexPieces {ignoreCase : Bool} {strategy : MatchStrategy}
    {term text : List Char}
    (h : (ofPieces ignoreCase (strategy.wholePieces term)).accepts text = true) :
    (ofPieces ignoreCase (strategy.regexPieces term)).accepts text = true := by
  by_cases hchars : strategy = fuzzy → fuzzyChars term ≠ []
  · obtain ⟨opening, closing, -, -, heq⟩ := strategy.wholePieces_eq hchars
    rw [heq] at h
    exact accepts_of_infix h
  · -- without characters to look for the regular expression is empty, which is found in any text
    obtain ⟨rfl, hnil⟩ := Classical.not_imp.1 hchars
    rw [regexPieces, not_not.1 hnil]
    exact accepts_nil ignoreCase text

/-- On a text without a line feed the two patterns of a term agree. -/
theorem accepts_wholePieces (ignoreCase : Bool) (strategy : MatchStrategy) (term : List Char)
    {text : List Char} (hfeed : '\n' ∉ text) :
    (ofPieces ignoreCase (strategy.wholePieces term)).accepts text =
      (ofPieces ignoreCase (strategy.regexPieces term)).accepts text := by
  refine Bool.eq_iff_iff.2 ⟨accepts_regexPieces, fun h => ?_⟩
  by_cases hchars : strategy = fuzzy → fuzzyChars term ≠ []
  · obtain ⟨opening, closing, hopening, hclosing, heq⟩ := strategy.wholePieces_eq hchars
    rw [heq]
    exact accepts_opened hfeed hopening hclosing h
  · obtain ⟨rfl, hnil⟩ := Classical.not_imp.1 hchars
    rw [wholePieces, likePieces, not_not.1 hnil]
    exact accepts_anything ignoreCase hfeed

/-- The LIKE pattern of a term is read, unless it is too large. -/
theorem parse?_likePattern (ignoreCase : Bool) (strategy : MatchStrategy) (term : String) :
    Regex.parse? ignoreCase (Like.toRegex (strategy.likePattern term)) =
      if (ofPieces ignoreCase (strategy.wholePieces term.toList)).fits then
        some (ofPieces ignoreCase (strategy.wholePieces term.toList)) else none := by
  rw [Like.toRegex_eq, pieces_likePattern, parse?_written, wholePieces]

/-- The regular expression of a term is read, unless it is too large. -/
theorem parse?_regexPattern (ignoreCase : Bool) (strategy : MatchStrategy) (term : String) :
    Regex.parse? ignoreCase (strategy.regexPattern term) =
      if (ofPieces ignoreCase (strategy.regexPieces term.toList)).fits then
        some (ofPieces ignoreCase (strategy.regexPieces term.toList)) else none := by
  rw [regexPattern_eq, parse?_written]

end MatchStrategy

/-! ## One field -/

namespace Value

/-- A value matches a regular expression where it is a text that the expression is found in. -/
theorem matchesRegex_eq_true_iff {value : Value} {pattern : String} {ignoreCase : Bool} :
    value.matchesRegex pattern ignoreCase = true ↔
      ∃ text regex, value.string? = some text ∧ Regex.parse? ignoreCase pattern = some regex ∧
        regex.accepts text.toList = true := by
  unfold matchesRegex
  split
  next text regex htext hregex => simp [htext, hregex]
  next hnone =>
    simp only [Bool.false_eq_true, false_iff]
    rintro ⟨text, regex, htext, hregex, -⟩
    exact hnone text regex htext hregex

variable {value : Value} {ignoreCase : Bool} {strategy : MatchStrategy} {term : String}

/-- What matches the LIKE pattern of a term matches its regular expression. -/
theorem matchesRegex_of_matchesLike
    (h : value.matchesLike (strategy.likePattern term) ignoreCase = true) :
    value.matchesRegex (strategy.regexPattern term) ignoreCase = true := by
  obtain ⟨text, regex, htext, hregex, haccepts⟩ := matchesRegex_eq_true_iff.1 h
  rw [strategy.parse?_likePattern, Option.ite_none_right_eq_some, Option.some.injEq] at hregex
  obtain ⟨hfits, rfl⟩ := hregex
  have hfits := strategy.fits_regexPieces ignoreCase term.toList hfits
  refine matchesRegex_eq_true_iff.2 ⟨text, _, htext, ?_, MatchStrategy.accepts_regexPieces haccepts⟩
  rw [strategy.parse?_regexPattern, if_pos hfits]

/-- A text without a line feed matches both patterns of a term or neither, where no pattern is too
large. -/
theorem matchesLike_eq_matchesRegex
    (hfeed : ∀ text, value.string? = some text → '\n' ∉ text.toList)
    (hread : (Regex.parse? ignoreCase (strategy.regexPattern term)).isSome →
      (Regex.parse? ignoreCase (Like.toRegex (strategy.likePattern term))).isSome) :
    value.matchesLike (strategy.likePattern term) ignoreCase =
      value.matchesRegex (strategy.regexPattern term) ignoreCase := by
  refine Bool.eq_iff_iff.2 ⟨matchesRegex_of_matchesLike, fun h => ?_⟩
  obtain ⟨text, regex, htext, hregex, haccepts⟩ := matchesRegex_eq_true_iff.1 h
  obtain ⟨whole, hwhole⟩ := Option.isSome_iff_exists.1 (hread (hregex ▸ rfl))
  refine matchesRegex_eq_true_iff.2 ⟨text, whole, htext, hwhole, ?_⟩
  rw [strategy.parse?_regexPattern, Option.ite_none_right_eq_some, Option.some.injEq] at hregex
  rw [strategy.parse?_likePattern, Option.ite_none_right_eq_some, Option.some.injEq] at hwhole
  obtain ⟨-, rfl⟩ := hregex
  obtain ⟨-, rfl⟩ := hwhole
  rw [strategy.accepts_wholePieces ignoreCase term.toList (hfeed text htext), haccepts]

end Value

namespace SearchMatch

/-- Whether the value of a field is found by a relational plan. -/
def holdsLike (m : SearchMatch) (term : String) (value : Value) : Bool :=
  match m.strategy with
  | .exact => Operator.eq.holds value (.string term)
  | strategy => value.matchesLike (strategy.likePattern term) true

/-- Whether the value of a field is found by a document pipeline. -/
def holdsRegex (m : SearchMatch) (term : String) (value : Value) : Bool :=
  match m.strategy with
  | .exact => Operator.eq.holds value (.string term)
  | strategy => value.matchesRegex (strategy.regexPattern term) true

variable {m : SearchMatch} {term : String} {value : Value}

/-- What a plan finds in a field the pipeline finds there. -/
theorem holdsRegex_of_holdsLike (h : m.holdsLike term value = true) :
    m.holdsRegex term value = true := by
  obtain ⟨field, strategy⟩ := m
  cases strategy with
  | exact => exact h
  | _ => exact Value.matchesRegex_of_matchesLike h

/-- A value is searched alike in both languages: the term is looked for as a whole, or there is no
line feed and the LIKE pattern is not too large. -/
structure IsAlike (m : SearchMatch) (term : String) (value : Value) : Prop where
  feedless : m.strategy ≠ .exact → ∀ text, value.string? = some text → '\n' ∉ text.toList
  read : (Regex.parse? true (m.strategy.regexPattern term)).isSome →
    (Regex.parse? true (Like.toRegex (m.strategy.likePattern term))).isSome

/-- A value that is searched alike is found in both languages or in neither. -/
theorem IsAlike.holds_eq (h : m.IsAlike term value) :
    m.holdsLike term value = m.holdsRegex term value := by
  obtain ⟨field, strategy⟩ := m
  cases strategy with
  | exact => rfl
  | _ => exact Value.matchesLike_eq_matchesRegex (h.feedless (by simp)) h.read

end SearchMatch

/-! ## Searches -/

namespace Relational

/-- The predicate on a field, whose parameter is at a position. -/
theorem holds_matchPredicate (resolve : String → Column) {params : List Value} {m : SearchMatch}
    {term : String} {position : Nat}
    (h : params[position]?.getD .null = searchParam term m) (value : Column → Value) :
    (matchPredicate resolve m position).holds params value =
      m.holdsLike term (value (resolve m.field)) := by
  obtain ⟨field, strategy⟩ := m
  cases strategy <;> simp only [matchPredicate, Predicate.holds, h] <;> rfl

/-- The predicates on the fields of a search hold where one of the fields is found. -/
theorem anyHolds_matchPredicates (resolve : String → Column) {params rest : List Value}
    {start : Nat} {term : String} {fieldMatches : List SearchMatch}
    (h : params.drop start = fieldMatches.map (searchParam term) ++ rest)
    (value : Column → Value) :
    Predicate.anyHolds params value
        (fieldMatches.mapIdx fun i m => matchPredicate resolve m (start + i)) =
      fieldMatches.any fun m => m.holdsLike term (value (resolve m.field)) := by
  induction fieldMatches generalizing start with
  | nil => rfl
  | cons m fieldMatches ih =>
    -- each predicate reads the parameter at its own position, so the rest starts one further on
    have hrest : params.drop (start + 1) = fieldMatches.map (searchParam term) ++ rest := by
      rw [← List.drop_drop, h]
      rfl
    have hnext : (fun i m => matchPredicate resolve m (start + (i + 1))) =
        fun i m => matchPredicate resolve m (start + 1 + i) := by
      funext i m
      rw [Nat.add_right_comm, Nat.add_assoc]
    rw [List.mapIdx_cons, Predicate.anyHolds, List.any_cons, ← ih hrest, Nat.add_zero,
      holds_matchPredicate resolve (param_of_drop h), hnext]

/-- The predicate of a search whose parameters start at a position. -/
theorem holds_searchPredicate (resolve : String → Column) {params rest : List Value}
    {start : Nat} {search : SearchPlan} (hfields : search.fieldMatches ≠ [])
    (h : params.drop start = search.fieldMatches.map (searchParam search.term) ++ rest)
    (value : Column → Value) :
    (searchPredicate resolve start search).holds params value =
      search.fieldMatches.any fun m => m.holdsLike search.term (value (resolve m.field)) := by
  have hempty : (search.fieldMatches.mapIdx fun i m =>
      matchPredicate resolve m (start + i)).isEmpty = false := by
    rw [List.isEmpty_eq_false_iff]
    exact fun hnil => hfields (List.mapIdx_eq_nil_iff.1 hnil)
  rw [searchPredicate, Predicate.holds, hempty, Bool.false_or, anyHolds_matchPredicates resolve h]

end Relational

namespace SearchPlan

/-- The condition of a search. -/
theorem holds_toMatch (search : SearchPlan) (row : Record) :
    search.toMatch.holds row =
      search.fieldMatches.any fun m => m.holdsRegex search.term (Record.valueAt row m.field) := by
  rw [toMatch, Match.holds]
  -- field by field; both conditions look for the same expression
  induction search.fieldMatches with
  | nil => rfl
  | cons m fieldMatches ih =>
    rw [List.map_cons, Match.anyHolds, ih, List.any_cons]
    congr 1
    obtain ⟨field, strategy⟩ := m
    cases strategy <;> rfl

/-- A search looks at one field at least. -/
theorem fieldMatches_ne_nil {spec : Option SearchSpec} {config : SearchConfig}
    {search : SearchPlan} (h : of? spec config = some search) : search.fieldMatches ≠ [] := by
  simp only [of?, Option.bind_eq_bind, Option.bind_eq_some_iff] at h
  obtain ⟨spec, -, h⟩ := h
  generalize (if spec.fields.isEmpty then Keyed.keys config else spec.fields) = fields at h
  split at h
  next => cases h
  next hsome =>
    obtain rfl := Option.some.inj h
    simp only [Bool.or_eq_true, not_or, List.isEmpty_iff] at hsome
    exact fun hnil => hsome.2 (List.map_eq_nil_iff.1 hnil)

end SearchPlan

namespace Descriptor

open Regex

variable {ctx : QueryContext} {d : Descriptor} {search : SearchPlan}

/-- A row meets the search of a query in a plan where one of the fields is found. -/
theorem meetsSearch_eq (hsearch : SearchPlan.of? d.search ctx.searchConfig = some search)
    (row : Record) : d.meetsSearch ctx (d.relationalPlans ctx).data.params row =
      search.fieldMatches.any fun m => m.holdsLike search.term (Record.valueAt row m.field) := by
  obtain ⟨rest, hparams⟩ := d.exists_params_data ctx
  -- the parameters of the search stand behind those of the filters
  have hdrop : (d.relationalPlans ctx).data.params.drop
      ((d.filtersOn ctx).flatMap filterParams).length =
        search.fieldMatches.map (searchParam search.term) ++ rest := by
    rw [hparams, paramsOn, hsearch, Option.toList_some, List.flatMap_singleton, List.append_assoc,
      List.drop_left]
  rw [meetsSearch, hsearch, Option.toList_some, List.map_singleton, List.all_cons, List.all_nil,
    Bool.and_true, holds_searchPredicate _ (SearchPlan.fieldMatches_ne_nil hsearch) hdrop]
  simp only [value_columnOn]

/-- A row that meets the search of a query in a relational plan meets it in a pipeline, and the
other way round where its fields are searched alike in both languages. -/
theorem meetsSearch_toMatch (hsearch : SearchPlan.of? d.search ctx.searchConfig = some search)
    (row : Record) :
    (d.meetsSearch ctx (d.relationalPlans ctx).data.params row = true →
        search.toMatch.holds row = true) ∧
      ((∀ m ∈ search.fieldMatches, m.IsAlike search.term (Record.valueAt row m.field)) →
        d.meetsSearch ctx (d.relationalPlans ctx).data.params row = search.toMatch.holds row) := by
  rw [meetsSearch_eq hsearch, search.holds_toMatch]
  constructor
  · intro h
    obtain ⟨m, hm, hholds⟩ := List.any_eq_true.1 h
    exact List.any_eq_true.2 ⟨m, hm, SearchMatch.holdsRegex_of_holdsLike hholds⟩
  · intro halike
    rw [Bool.eq_iff_iff, List.any_eq_true, List.any_eq_true]
    exact exists_congr fun m => and_congr_right fun hm => by rw [(halike m hm).holds_eq]

/-! ## One letter -/

/-- A search for a letter in one field. -/
def letterSearch : Descriptor := { search := some ⟨"a", ["body"]⟩ }

/-- The plan of the search. -/
def letterPlan : SearchPlan := ⟨"a", [⟨"body", .contains⟩]⟩

/-- A search for a letter is planned as it is. -/
theorem of?_letterSearch (entity : String) :
    SearchPlan.of? letterSearch.search ({ entity := entity } : QueryContext).searchConfig =
      some letterPlan := by
  cbv

/-- The LIKE pattern of a letter is not too large. -/
theorem fits_letter :
    (ofPieces true (MatchStrategy.contains.wholePieces letterPlan.term.toList)).fits = true := by
  have hletter : Normal.ofChar true 'a' = .set [(65, 65), (97, 97)] := by
    have hvariants : Text.caseVariants 'a' = ['a', 'A'] := by decide +kernel
    rw [Normal.ofChar, if_pos rfl, hvariants]
    cbv
  have hnormal :
      (ofPieces true (MatchStrategy.contains.wholePieces letterPlan.term.toList)).normal =
        [Piece.normal true .start, Piece.normal true .run, .set [(65, 65), (97, 97)],
          Piece.normal true .run, Piece.normal true .finish].foldr Normal.append .empty := by
    rw [normal_ofPieces, ← hletter]
    rfl
  rw [fits, hnormal]
  cbv

/-- A letter in a text of one line is found in both languages or in neither. -/
theorem meetsSearch_toMatch_letter :
    (letterSearch.meetsSearch { entity := "users" }
          (letterSearch.relationalPlans { entity := "users" }).data.params
          [("body", .string "Banana")] = true →
        letterPlan.toMatch.holds [("body", .string "Banana")] = true) ∧
      letterSearch.meetsSearch { entity := "users" }
          (letterSearch.relationalPlans { entity := "users" }).data.params
          [("body", .string "Banana")] =
        letterPlan.toMatch.holds [("body", .string "Banana")] := by
  have hboth := meetsSearch_toMatch (of?_letterSearch "users") [("body", .string "Banana")]
  have halike : ∀ m ∈ letterPlan.fieldMatches, m.IsAlike letterPlan.term
      (Record.valueAt [("body", .string "Banana")] m.field) := by
    intro m hm
    obtain rfl := List.mem_singleton.1 hm
    refine ⟨fun _ text htext => ?_, fun _ => ?_⟩
    · obtain rfl : "Banana" = text := Option.some.inj htext
      decide
    · rw [MatchStrategy.parse?_likePattern, if_pos fits_letter]
      rfl
  exact ⟨hboth.1, hboth.2 halike⟩

/-- A letter behind a line feed is found by the pipeline only. -/
theorem meetsSearch_second_line :
    SearchPlan.of? letterSearch.search ({ entity := "users" } : QueryContext).searchConfig =
        some letterPlan ∧
      letterSearch.meetsSearch { entity := "users" }
        (letterSearch.relationalPlans { entity := "users" }).data.params
        [("body", .string "first\na")] = false ∧
      letterPlan.toMatch.holds [("body", .string "first\na")] = true := by
  refine ⟨of?_letterSearch "users", ?_, ?_⟩
  · rw [meetsSearch_eq (of?_letterSearch "users"), ← Bool.not_eq_true, List.any_eq_true]
    rintro ⟨m, hm, hholds⟩
    obtain rfl := List.mem_singleton.1 hm
    obtain ⟨text, regex, htext, hregex, haccepts⟩ := Value.matchesRegex_eq_true_iff.1 hholds
    obtain rfl : "first\na" = text := Option.some.inj htext
    rw [MatchStrategy.parse?_likePattern, if_pos fits_letter] at hregex
    -- the pattern takes the text as a whole, and a run does not pass the line feed
    obtain rfl := Option.some.inj hregex
    exact absurd haccepts (by decide +kernel)
  · rw [letterPlan.holds_toMatch, List.any_eq_true]
    refine ⟨_, List.mem_singleton.2 rfl, Value.matchesRegex_eq_true_iff.2
      ⟨"first\na", ofPieces true (MatchStrategy.contains.regexPieces letterPlan.term.toList), rfl,
        ?_, ?_⟩⟩
    · rw [MatchStrategy.parse?_regexPattern,
        if_pos (MatchStrategy.contains.fits_regexPieces true _ fits_letter)]
    · decide +kernel

end Descriptor

end DualQuery
