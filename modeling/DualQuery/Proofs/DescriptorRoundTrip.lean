import Mathlib
import DualQuery.Proofs.FaithfulConditions

/-!
# Descriptors that survive being written

The text of a faithful descriptor is read as the descriptor. A descriptor is faithful if its
conditions are, no field is sorted by twice and its counts fit an unsigned word, and a descriptor
that is read is: what stands in its conditions decides.

## Key results

- `Descriptor.read?_text`: faithful descriptors are read back from their texts
- `Descriptor.faithful_of_ofJson?`: descriptors that are read are faithful
- `Descriptor.parse_text_of_parse`: the text of a parsed descriptor is parsed as the descriptor
-/

namespace DualQuery

namespace Json

/-! ## Fields of structures -/

/-- What stands under a name in a structure with the given field names. -/
def field? (names : List String) (name : String) (j : Json) : Option Json :=
  (slots? names j).bind (find? name)

/-- All entries of an object with exactly the names of a structure count. -/
theorem slots?_of_names {names : List String} {entries : List (String × Json)}
    (hnames : entries.map (·.1) = names) (hnodup : names.Nodup) :
    slots? names (.obj entries) = some entries := by
  have hknown : ∀ entry ∈ entries, names.contains entry.1 = true := fun entry hentry =>
    List.contains_iff_mem.2 (hnames ▸ List.mem_map_of_mem hentry)
  have hrepeats : noRepeats entries = true := decide_eq_true (hnames ▸ hnodup)
  rw [slots?, List.filter_eq_self.2 hknown, if_pos hrepeats]

/-- A field that is written as null where it is absent is read back. -/
theorem optional?_ofOption {α : Type} {slots : Slots} {name : String} {write : α → Json}
    {read : Json → Option α} {operand : Option α}
    (hfind : find? name slots = some (ofOption write operand))
    (hread : ∀ a ∈ operand, write a ≠ .null ∧ read (write a) = some a) :
    optional? slots name read = some operand := by
  rw [optional?, hfind]
  cases operand with
  | none => rfl
  | some a =>
    obtain ⟨hnull, ha⟩ := hread a rfl
    rw [ofOption]
    -- an operand is never written as null, which would be read as none
    split
    next h => cases h
    next h => exact absurd (Option.some.inj h) hnull
    next part _ h =>
      obtain rfl := Option.some.inj h
      rw [ha, Option.map_some]

/-- A text that may be absent is read back. -/
theorem optional?_str {slots : Slots} {name : String} (text : Option String)
    (hfind : find? name slots = some (ofOption .str text)) :
    optional? slots name str? = some text :=
  optional?_ofOption hfind fun _ _ => ⟨by simp, rfl⟩

/-- A list of texts is read back. -/
theorem strings?_ofStrings (texts : List String) : strings? (ofStrings texts) = some texts :=
  mapM_map_eq_some fun _ _ => rfl

/-- A part that may be absent is no deeper than what is written for it. -/
theorem fits_ofOption {α : Type} {p : Number → Bool} {depth : Nat} {write : α → Json}
    {operand : Option α} (h : ∀ a ∈ operand, (write a).fits p depth = true) :
    (ofOption write operand).fits p depth = true := by
  cases operand with
  | none => exact fits_null
  | some a => exact h a rfl

/-- A list of texts is one level deep. -/
theorem fits_ofStrings {p : Number → Bool} {depth : Nat} (texts : List String) :
    (ofStrings texts).fits p (depth + 1) = true := by
  rw [ofStrings, fits_arr, List.forall_mem_map]
  exact fun text _ => fits_str text

end Json

/-! ## Joins -/

/-- The type of a join is read back from its JSON form. -/
theorem JoinType.ofJson?_toJson (joinType : JoinType) :
    ofJson? joinType.toJson = some joinType := by
  cases joinType <;> rfl

/-- A join is read back from its JSON form. -/
theorem JoinSpec.ofJson?_toJson (join : JoinSpec) : ofJson? join.toJson = some join := by
  have hslots : Json.slots? ["source", "localField", "foreignField", "alias", "joinType"]
      join.toJson = some _ := Json.slots?_of_names rfl (by decide)
  rw [ofJson?, hslots]
  simp only [Option.bind_eq_bind, Option.bind_some]
  rw [Json.optional?_str join.label rfl]
  simp [Json.orElse?, Json.find?, Json.str?, JoinType.ofJson?_toJson]

/-- The form of a join is one level deep. -/
theorem JoinSpec.fits_toJson {p : Json.Number → Bool} {depth : Nat} (join : JoinSpec) :
    join.toJson.fits p (depth + 1) = true := by
  have htype : join.joinType.toJson.fits p depth = true := by
    cases join.joinType <;> exact Json.fits_str _
  have hlabel : (Json.ofOption .str join.label).fits p depth = true :=
    Json.fits_ofOption fun label _ => Json.fits_str label
  rw [toJson, Json.fits_obj]
  simp [htype, hlabel]

/-! ## Aggregates -/

/-- An aggregate function is read back from its JSON form. -/
theorem AggregateOp.ofJson?_toJson (operation : AggregateOp) :
    ofJson? operation.toJson = some operation := by
  cases operation <;> rfl

namespace AggregationSpec

/-- The names of the parts of an aggregate. -/
def names : List String := ["operation", "field", "alias", "conditions"]

/-- An aggregate whose conditions are faithful. -/
def Faithful (depth : Nat) (spec : AggregationSpec) : Prop :=
  ∀ conditions ∈ spec.conditions, Conditions.Faithful depth conditions

/-- A faithful aggregate is read back from its JSON form. -/
theorem ofJson?_toJson {depth : Nat} {spec : AggregationSpec} (h : spec.Faithful depth) :
    ofJson? spec.toJson = some spec := by
  -- an object with exactly the names of the parts is read by name, so each part is found
  have hslots : Json.slots? names spec.toJson = some _ := Json.slots?_of_names rfl (by decide)
  have hconditions {slots : Json.Slots}
      (hfind : Json.find? "conditions" slots =
        some (Json.ofOption Conditions.toJson spec.conditions)) :
      Json.optional? slots "conditions" Conditions.ofJson? = some spec.conditions :=
    Json.optional?_ofOption hfind fun conditions hmem =>
      ⟨by simp [Conditions.toJson], Conditions.ofJson?_toJson (h conditions hmem)⟩
  rw [names] at hslots
  rw [ofJson?, hslots]
  simp only [Option.bind_eq_bind, Option.bind_some]
  rw [Json.optional?_str spec.field rfl, Json.optional?_str spec.label rfl, hconditions rfl]
  simp [Json.required?, Json.find?, AggregateOp.ofJson?_toJson]

/-- The form of an aggregate is two levels deeper than its conditions. -/
theorem fits_toJson {depth : Nat} {spec : AggregationSpec} (h : spec.Faithful depth) :
    spec.toJson.fits Json.Number.isExact (depth + 2) = true := by
  have hoperation : spec.operation.toJson.fits Json.Number.isExact (depth + 1) = true := by
    cases spec.operation <;> exact Json.fits_str _
  have hfield : (Json.ofOption .str spec.field).fits Json.Number.isExact (depth + 1) = true :=
    Json.fits_ofOption fun field _ => Json.fits_str field
  have hlabel : (Json.ofOption .str spec.label).fits Json.Number.isExact (depth + 1) = true :=
    Json.fits_ofOption fun label _ => Json.fits_str label
  have hconditions : (Json.ofOption Conditions.toJson spec.conditions).fits Json.Number.isExact
      (depth + 1) = true :=
    Json.fits_ofOption fun conditions hmem => Conditions.fits_toJson (h conditions hmem)
  rw [toJson, Json.fits_obj]
  simp [hoperation, hfield, hlabel, hconditions]

/-- An aggregate is faithful if its conditions are read from lossless JSON. -/
theorem faithful_of_ofJson? {depth : Nat} {j : Json} {spec : AggregationSpec}
    (hj : ∀ part, Json.field? names "conditions" j = some part → part.Lossless (depth + 1))
    (h : ofJson? j = some spec) : spec.Faithful depth := by
  intro own hown
  simp only [ofJson?, Option.bind_eq_bind, Option.bind_eq_some_iff] at h
  obtain ⟨slots, hslots, operation, -, field, -, label, -, read, hconditions, hspec⟩ := h
  obtain rfl := Option.some.inj hspec
  obtain rfl := Option.mem_def.1 hown
  obtain ⟨part, hfind, -, hread⟩ := Json.exists_of_optional? hconditions
  -- the conditions stand in the field of their name
  have hfield : Json.field? names "conditions" j = some part := by
    rw [Json.field?, names, hslots, Option.bind_some, hfind]
  exact Conditions.faithful_of_ofJson? (hj part hfield) hread

end AggregationSpec

/-! ## Fields to sort by -/

/-- A direction is read back from its JSON form. -/
theorem SortDirection.ofJson?_toJson (direction : SortDirection) :
    ofJson? direction.toJson = some direction := by
  cases direction <;> rfl

namespace SortSpec

/-- A field that is pushed keeps its place or comes last. -/
theorem fields_push (spec : SortSpec) (field : String) (direction : SortDirection) :
    (push spec field direction).map (·.field) =
      if field ∈ spec.map (·.field) then spec.map (·.field) else spec.map (·.field) ++ [field] := by
  induction spec with
  | nil => rfl
  | cons sort rest ih =>
    rw [push]
    by_cases hfield : sort.field = field
    · simp [hfield]
    · have hfield' : field ≠ sort.field := fun heq => hfield heq.symm
      rw [if_neg hfield, List.map_cons, ih]
      -- a field behind the first one is either there already or goes to the end
      by_cases hmem : field ∈ rest.map (·.field)
      · simp [hmem]
      · simp [hmem, hfield']

/-- Pushing a field leaves none of them twice. -/
theorem nodup_push {spec : SortSpec} (h : (spec.map (·.field)).Nodup) (field : String)
    (direction : SortDirection) : ((push spec field direction).map (·.field)).Nodup := by
  rw [fields_push]
  split
  next => exact h
  next hmem => simpa [List.nodup_append, h] using hmem

/-- A field that is not sorted by yet is added at the end. -/
theorem push_of_not_mem {spec : SortSpec} {field : String} (h : field ∉ spec.map (·.field))
    (direction : SortDirection) : push spec field direction = spec ++ [⟨field, direction⟩] := by
  induction spec with
  | nil => rfl
  | cons sort rest ih =>
    rw [List.map_cons, List.mem_cons, not_or] at h
    rw [push, if_neg (fun heq => h.1 heq.symm), ih h.2, List.cons_append]

/-- No field is sorted by twice. -/
theorem nodup_of_ofJson? {j : Json} {spec : SortSpec} (h : ofJson? j = some spec) :
    (spec.map (·.field)).Nodup := by
  cases j with
  | obj entries =>
    rw [ofJson?] at h
    -- no entry that is read adds a field that is there already
    have hfold : ∀ (entries : List (String × Json)) (start : SortSpec),
        (start.map (·.field)).Nodup →
        entries.foldlM (fun spec (entry : String × Json) =>
          (SortDirection.ofJson? entry.2).map (push spec entry.1)) start = some spec →
        (spec.map (·.field)).Nodup := by
      intro entries
      induction entries with
      | nil =>
        intro start hstart hread
        obtain rfl := Option.some.inj hread
        exact hstart
      | cons entry entries ih =>
        intro start hstart hread
        rw [List.foldlM_cons] at hread
        obtain ⟨next, hnext, hread⟩ := Option.bind_eq_some_iff.1 hread
        obtain ⟨direction, -, rfl⟩ := Option.map_eq_some_iff.1 hnext
        exact ih _ (nodup_push hstart entry.1 direction) hread
    exact hfold entries [] List.nodup_nil h
  | _ => cases h

/-- Fields to sort by, none of them twice, are read back from their JSON form. -/
theorem ofJson?_toJson {spec : SortSpec} (h : (spec.map (·.field)).Nodup) :
    ofJson? (toJson spec) = some spec := by
  have hfold : ∀ (rest start : SortSpec), ((start ++ rest).map (·.field)).Nodup →
      (rest.map fun sort => (sort.field, sort.direction.toJson)).foldlM
        (fun spec (entry : String × Json) =>
          (SortDirection.ofJson? entry.2).map (push spec entry.1)) start =
        some (start ++ rest) := by
    intro rest
    induction rest with
    | nil =>
      intro start _
      rw [List.append_nil]
      rfl
    | cons sort rest ih =>
      intro start hnodup
      -- the next field is not among those read so far, so it goes behind them
      have hmem : sort.field ∉ start.map (·.field) := by
        rw [List.map_append, List.nodup_append] at hnodup
        exact fun hmem => hnodup.2.2 _ hmem _ List.mem_cons_self rfl
      rw [List.map_cons, List.foldlM_cons, SortDirection.ofJson?_toJson, Option.map_some,
        push_of_not_mem hmem]
      have hrest := ih (start ++ [sort]) (by simpa using hnodup)
      rw [List.append_assoc, List.singleton_append] at hrest
      exact hrest
  exact hfold spec [] h

/-- The form of a sort is one level deep. -/
theorem fits_toJson {p : Json.Number → Bool} {depth : Nat} (spec : SortSpec) :
    (toJson spec).fits p (depth + 1) = true := by
  rw [toJson, Json.fits_obj, List.forall_mem_map]
  intro sort _
  cases sort.direction <;> exact Json.fits_str _

end SortSpec

/-! ## Pages and searches -/

/-- A count that fits an unsigned word is read back. -/
theorem Json.nat?_ofNat {n : Nat} (h : n ≤ maxCount) : (ofNat n).nat? = some n := by
  have hmax : maxCount = 0xFFFFFFFFFFFFFFFF := rfl
  rw [ofNat, ofInt, nat?, if_pos (by omega), Int.toNat_natCast]

/-- A count that is read fits an unsigned word. -/
theorem Json.le_of_nat? {j : Json} {n : Nat} (h : j.nat? = some n) : n ≤ maxCount := by
  have hmax : maxCount = 0xFFFFFFFFFFFFFFFF := rfl
  unfold nat? at h
  split at h
  · split at h
    · obtain rfl := Option.some.inj h
      omega
    · cases h
  · cases h

/-- A count that fits an unsigned word is written as an exact number. -/
theorem Json.fits_ofNat {depth n : Nat} (h : n ≤ maxCount) :
    (ofNat n).fits Number.isExact depth = true := by
  have hcount : maxCount = 0xFFFFFFFFFFFFFFFF := rfl
  have hmax : Number.maxSignificand = 0xFFFFFFFFFFFFFFFF := rfl
  have hbounds : -0x8000000000000000 ≤ (n : Int) ∧ (n : Int) ≤ Number.maxSignificand := by omega
  rw [ofNat, ofInt, fits_num]
  exact decide_eq_true hbounds

namespace Pagination

/-- Both counts of a page fit an unsigned word. -/
structure InRange (p : Pagination) : Prop where
  page : p.page ≤ maxCount
  limit : p.limit ≤ maxCount

/-- A page that is read has its counts in range. -/
theorem inRange_of_ofJson? {j : Json} {p : Pagination} (h : ofJson? j = some p) : p.InRange := by
  simp only [ofJson?, Option.bind_eq_bind, Option.bind_eq_some_iff] at h
  obtain ⟨slots, -, page, hpage, limit, hlimit, hp⟩ := h
  obtain rfl := Option.some.inj hp
  obtain ⟨_, -, hpage⟩ := Option.bind_eq_some_iff.1 hpage
  obtain ⟨_, -, hlimit⟩ := Option.bind_eq_some_iff.1 hlimit
  exact ⟨Json.le_of_nat? hpage, Json.le_of_nat? hlimit⟩

/-- A page whose counts are in range is read back from its JSON form. -/
theorem ofJson?_toJson {p : Pagination} (h : p.InRange) : ofJson? p.toJson = some p := by
  -- the slots stay a variable, else checking the proof counts down from the bound of a count
  obtain ⟨slots, hslots, hpage, hlimit⟩ : ∃ slots, Json.slots? ["page", "limit"] p.toJson =
      some slots ∧ Json.find? "page" slots = some (Json.ofNat p.page) ∧
        Json.find? "limit" slots = some (Json.ofNat p.limit) :=
    ⟨_, Json.slots?_of_names rfl (by decide), rfl, rfl⟩
  have hcount {name : String} {n : Nat} (hn : n ≤ maxCount)
      (hfind : Json.find? name slots = some (Json.ofNat n)) :
      Json.required? slots name Json.nat? = some n := by
    rw [Json.required?, hfind, Option.bind_some, Json.nat?_ofNat hn]
  rw [ofJson?, hslots]
  simp only [Option.bind_eq_bind, Option.bind_some]
  rw [hcount h.page hpage, hcount h.limit hlimit]
  rfl

/-- The form of a page is one level deep. -/
theorem fits_toJson {depth : Nat} {p : Pagination} (h : p.InRange) :
    p.toJson.fits Json.Number.isExact (depth + 1) = true := by
  rw [toJson, Json.fits_obj]
  simp [Json.fits_ofNat h.page, Json.fits_ofNat h.limit]

end Pagination

/-- What to search for is read back from its JSON form. -/
theorem SearchSpec.ofJson?_toJson (spec : SearchSpec) : ofJson? spec.toJson = some spec := by
  have hslots : Json.slots? ["term", "fields"] spec.toJson = some _ :=
    Json.slots?_of_names rfl (by decide)
  rw [ofJson?, hslots]
  simp [Json.orElse?, Json.find?, Json.str?, Json.strings?_ofStrings]

/-- The form of a search is two levels deep. -/
theorem SearchSpec.fits_toJson {p : Json.Number → Bool} {depth : Nat} (spec : SearchSpec) :
    spec.toJson.fits p (depth + 2) = true := by
  rw [toJson, Json.fits_obj]
  simp [Json.fits_ofStrings]

/-! ## Descriptors -/

namespace Descriptor

/-- What stands under the conditions of a descriptor and of its aggregates. -/
def conditionParts (j : Json) : List Json :=
  (Json.field? names "conditions" j).toList ++
    ((Json.field? names "aggregations" j).toList.flatMap Json.parts).flatMap fun item =>
      (Json.field? AggregationSpec.names "conditions" item).toList

/-- A descriptor that survives being written. Of the levels that are read, a condition stands below
two, and a condition of an aggregate below four. -/
structure Faithful (d : Descriptor) : Prop where
  conditions : Conditions.Faithful 125 d.conditions
  aggregations : ∀ spec ∈ d.aggregations, spec.Faithful 123
  sort : (d.sort.map (·.field)).Nodup
  pagination : ∀ p ∈ d.pagination, p.InRange

/-- A faithful descriptor is read back from its JSON form. -/
theorem ofJson?_toJson {d : Descriptor} (h : d.Faithful) : ofJson? d.toJson = some d := by
  have hslots : Json.slots? names d.toJson = some _ := Json.slots?_of_names rfl (by decide)
  have hjoins : Json.listOf? JoinSpec.ofJson? (.arr (d.joins.map JoinSpec.toJson)) =
      some d.joins := mapM_map_eq_some fun join _ => join.ofJson?_toJson
  have haggregations : Json.listOf? AggregationSpec.ofJson?
      (.arr (d.aggregations.map AggregationSpec.toJson)) = some d.aggregations :=
    mapM_map_eq_some fun spec hspec => AggregationSpec.ofJson?_toJson (h.aggregations spec hspec)
  have hpagination {slots : Json.Slots}
      (hfind : Json.find? "pagination" slots =
        some (Json.ofOption Pagination.toJson d.pagination)) :
      Json.optional? slots "pagination" Pagination.ofJson? = some d.pagination :=
    Json.optional?_ofOption hfind fun p hp =>
      ⟨by simp [Pagination.toJson], Pagination.ofJson?_toJson (h.pagination p hp)⟩
  have hsearch {slots : Json.Slots}
      (hfind : Json.find? "search" slots = some (Json.ofOption SearchSpec.toJson d.search)) :
      Json.optional? slots "search" SearchSpec.ofJson? = some d.search :=
    Json.optional?_ofOption hfind fun spec _ =>
      ⟨by simp [SearchSpec.toJson], spec.ofJson?_toJson⟩
  rw [ofJson?, hslots]
  simp only [Option.bind_eq_bind, Option.bind_some]
  -- the other slots are read by rewriting, one after the other
  rw [hpagination rfl, hsearch rfl]
  simp [Json.orElse?, Json.find?, Conditions.ofJson?_toJson h.conditions, hjoins, haggregations,
    SortSpec.ofJson?_toJson h.sort, Json.strings?_ofStrings]

/-- The form of a faithful descriptor is within the depth that is read. -/
theorem fits_toJson {d : Descriptor} (h : d.Faithful) :
    d.toJson.fits Json.Number.isExact Json.maxDepth = true := by
  have hconditions := Conditions.fits_toJson h.conditions
  have hjoins : (Json.arr (d.joins.map JoinSpec.toJson)).fits Json.Number.isExact 126 = true := by
    rw [Json.fits_arr, List.forall_mem_map]
    exact fun join _ => join.fits_toJson
  have haggregations : (Json.arr (d.aggregations.map AggregationSpec.toJson)).fits
      Json.Number.isExact 126 = true := by
    rw [Json.fits_arr, List.forall_mem_map]
    exact fun spec hspec => AggregationSpec.fits_toJson (h.aggregations spec hspec)
  have hpagination : (Json.ofOption Pagination.toJson d.pagination).fits Json.Number.isExact 126 =
      true := Json.fits_ofOption fun p hp => Pagination.fits_toJson (h.pagination p hp)
  have hsearch : (Json.ofOption SearchSpec.toJson d.search).fits Json.Number.isExact 126 = true :=
    Json.fits_ofOption fun spec _ => spec.fits_toJson
  rw [toJson, Json.maxDepth, Json.fits_obj]
  simp [hconditions, hjoins, haggregations, hpagination, hsearch, Json.fits_ofStrings,
    SortSpec.fits_toJson]

/-- A faithful descriptor is read back from its text. -/
theorem read?_text {d : Descriptor} (h : d.Faithful) : read? d.text = some d := by
  rw [read?, text, Json.outline?_text d.isValue_toJson (fits_toJson h)]
  exact ofJson?_toJson h

section Read

variable {j : Json} (hfits : j.fits Json.Number.isInRange Json.maxDepth = true)
  (hkeys : ∀ entries ∈ j.objects, Json.noRepeats entries = true)
  (hnumbers : ∀ part ∈ conditionParts j, ∀ n ∈ part.numbers, n.isWord = true)

include hfits hkeys hnumbers

/-- The conditions of a descriptor stand one level below it and inherit that nothing in them is
lost. -/
theorem lossless_conditions {part : Json} (hpart : Json.field? names "conditions" j = some part) :
    part.Lossless 126 := by
  obtain ⟨slots, hslots, hfind⟩ := Option.bind_eq_some_iff.1 hpart
  have hmem := Json.mem_parts_of_find? hslots hfind
  exact ⟨Json.fits_of_mem_parts hfits hmem,
    fun entries hentries => hkeys entries (Json.objects_subset_of_mem_parts hmem hentries),
    hnumbers part (List.mem_append_left _ (Option.mem_toList.2 hpart))⟩

/-- The conditions of an aggregate stand three levels below the descriptor. -/
theorem lossless_conditions_of_aggregation {list item part : Json}
    (hlist : Json.field? names "aggregations" j = some list) (hitem : item ∈ list.parts)
    (hpart : Json.field? AggregationSpec.names "conditions" item = some part) :
    part.Lossless 124 := by
  obtain ⟨slots, hslots, hfind⟩ := Option.bind_eq_some_iff.1 hlist
  obtain ⟨fields, hfields, hfind'⟩ := Option.bind_eq_some_iff.1 hpart
  have hmem := Json.mem_parts_of_find? hslots hfind
  have hmem' := Json.mem_parts_of_find? hfields hfind'
  -- the conditions lie three levels inside the descriptor
  have hobjects : part.objects ⊆ j.objects := fun entries hentries =>
    Json.objects_subset_of_mem_parts hmem (Json.objects_subset_of_mem_parts hitem
      (Json.objects_subset_of_mem_parts hmem' hentries))
  have hlisted : part ∈ conditionParts j := by
    refine List.mem_append_right _ (List.mem_flatMap.2 ⟨item, ?_, Option.mem_toList.2 hpart⟩)
    exact List.mem_flatMap.2 ⟨list, Option.mem_toList.2 hlist, hitem⟩
  exact ⟨Json.fits_of_mem_parts (Json.fits_of_mem_parts (Json.fits_of_mem_parts hfits hmem) hitem)
    hmem', fun entries hentries => hkeys entries (hobjects hentries), hnumbers part hlisted⟩

/-- A descriptor that is read is faithful if no object of the JSON repeats a key and all numbers in
its conditions are integers of sixty-four bits with sign. -/
theorem faithful_of_ofJson? {d : Descriptor} (h : ofJson? j = some d) : d.Faithful := by
  simp only [ofJson?, Option.bind_eq_bind, Option.bind_eq_some_iff] at h
  obtain ⟨slots, hslots, conditions, hconditions, joins, -, aggregations, haggregations, groupBy, -,
    sort, hsort, select, -, pagination, hpagination, search, -, relations, -, hd⟩ := h
  obtain rfl := Option.some.inj hd
  have hfield {name : String} {part : Json} (hfind : Json.find? name slots = some part) :
      Json.field? names name j = some part := by
    rw [Json.field?, hslots, Option.bind_some, hfind]
  constructor
  · -- an absent part takes its default, which is empty; a present one is read from a part of the
    -- JSON
    rcases Json.eq_or_exists_of_orElse? hconditions with rfl | ⟨part, hfind, hread⟩
    · exact Conditions.faithful_nil 125
    · exact Conditions.faithful_of_ofJson?
        (lossless_conditions hfits hkeys hnumbers (hfield hfind)) hread
  · rcases Json.eq_or_exists_of_orElse? haggregations with rfl | ⟨list, hfind, hlist⟩
    · exact fun spec hspec => absurd hspec List.not_mem_nil
    · intro spec hspec
      cases list with
      | arr items =>
        rw [Json.listOf?] at hlist
        obtain ⟨item, hitem, hread⟩ := exists_mem_of_mapM_eq_some hlist hspec
        refine AggregationSpec.faithful_of_ofJson? (fun part hpart => ?_) hread
        exact lossless_conditions_of_aggregation hfits hkeys hnumbers (hfield hfind) hitem hpart
      | _ => cases hlist
  · rcases Json.eq_or_exists_of_orElse? hsort with rfl | ⟨_, -, hread⟩
    · exact List.nodup_nil
    · exact SortSpec.nodup_of_ofJson? hread
  · intro p hp
    obtain rfl := Option.mem_def.1 hp
    obtain ⟨part, -, -, hread⟩ := Json.exists_of_optional? hpagination
    exact Pagination.inRange_of_ofJson? hread

end Read

/-- A descriptor that is parsed from a text in which no object repeats a key, and in whose
conditions all numbers are integers of sixty-four bits with sign, is parsed from its own text. -/
theorem parse_text_of_parse {t : String} {j : Json} {d : Descriptor}
    (hj : Json.outline? t = some j)
    (hkeys : ∀ entries ∈ j.objects, Json.noRepeats entries = true)
    (hnumbers : ∀ part ∈ conditionParts j, ∀ n ∈ part.numbers, n.isWord = true)
    (h : parse t = .ok d) : parse d.text = .ok d := by
  obtain ⟨hread, hvalid⟩ := parse_eq_ok_iff.1 h
  obtain ⟨j', hj', hd⟩ := Option.bind_eq_some_iff.1 hread
  obtain rfl : j = j' := Option.some.inj (hj.symm.trans hj')
  have hfaithful := faithful_of_ofJson? (Json.fits_of_outline? hj) hkeys hnumbers hd
  exact parse_eq_ok_iff.2 ⟨read?_text hfaithful, hvalid⟩

/-- The number of people of each city, written as an array, with fields and keys in no order. -/
def citySummaryText : String :=
  "[\x7b\"tags\":\x7b\"b\":[1,null],\"a\":\"\\u00e9\"\x7d,\"age\":[null,-3]\x7d,[]," ++
    "[[\"COUNT\",null,\"n\",\x7b\"x\":\x7b\"gt\":-5\x7d\x7d]],[\"city\"],\x7b\"n\":\"desc\"\x7d]"

/-- What stands in `citySummaryText`. -/
def citySummaryJson : Json :=
  .arr [.obj [("tags", .obj [("b", .arr [.ofInt 1, .null]), ("a", .str "é")]),
      ("age", .arr [.null, .ofInt (-3)])],
    .arr [], .arr [.arr [.str "COUNT", .null, .str "n", .obj [("x", .obj [("gt", .ofInt (-5))])]]],
    .arr [.str "city"], .obj [("n", .str "desc")]]

/-- What `citySummaryText` is read as. -/
def citySummary : Descriptor where
  conditions := [("age", .operators { ne := some (.int (-3)) }),
    ("tags", .equals (.object [("a", .string "é"), ("b", .array [.int 1, .null])]))]
  aggregations := [{
    operation := .count
    label := some "n"
    conditions := some [("x", .operators { gt := some (.int (-5)) })] }]
  groupBy := ["city"]
  sort := [⟨"n", .descending⟩]

/-- The array is parsed, and so is the object that is written for it. -/
theorem parse_text_of_parse_cities :
    Json.outline? citySummaryText = some citySummaryJson ∧
      parse citySummaryText = .ok citySummary ∧ parse citySummary.text = .ok citySummary := by
  have hj : Json.outline? citySummaryText = some citySummaryJson := by cbv
  have hkeys : ∀ entries ∈ citySummaryJson.objects, Json.noRepeats entries = true := by decide
  have hnumbers : ∀ part ∈ conditionParts citySummaryJson, ∀ n ∈ part.numbers,
      n.isWord = true := by decide
  have hread : parse citySummaryText = .ok citySummary := by cbv
  exact ⟨hj, hread, parse_text_of_parse hj hkeys hnumbers hread⟩

end Descriptor

end DualQuery
