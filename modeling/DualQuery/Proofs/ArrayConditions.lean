import Mathlib
import DualQuery.Proofs.FaithfulConditions
import DualQuery.Proofs.FilterCorrect

/-!
# Arrays as conditions

A bare array as a condition stands for membership. A set of operators may be written as an array
too, with its operands in the order of the operators, and a condition is read as a set of operators
wherever it can be. In a text, therefore, an array whose items can be the operands at their places
is never read as membership: at most ten items, of which only those of the two list operators, the
pattern and the null check are looked at. Of at most six items every array is of this kind.

## Key results

- `OperatorSet.isSome_ofJson?_arr_iff`: arrays that are read as sets of operators
- `Conditions.get?_of_ofJson?`: what is read under a field comes from the last entry for it
- `Descriptor.array_condition_is_membership_iff`: arrays that are read as membership
-/

namespace DualQuery

namespace Json

/-- The items of an array stand under the names at their places. -/
theorem find?_zip {names : List String} (hnames : names.Nodup) {name : String} {i : Nat}
    (hname : names[i]? = some name) (items : List Json) :
    find? name (names.zip items) = items[i]? := by
  induction names generalizing items i with
  | nil => cases hname
  | cons first names ih =>
    obtain ⟨hfirst, hnames⟩ := List.nodup_cons.1 hnames
    cases items with
    | nil => rfl
    | cons item items =>
      rw [List.zip_cons_cons, find?]
      -- the name at the first place is found at once; any other name differs from it, as none is
      -- repeated
      cases i with
      | zero =>
        rw [if_pos (Option.some.inj hname)]
        rfl
      | succ i =>
        have hmem : name ∈ names := List.mem_of_getElem? hname
        have hne : first ≠ name := fun heq => hfirst (heq ▸ hmem)
        rw [if_neg hne, ih hnames hname items]
        rfl

/-- Items can be read from an array and from nothing else. -/
theorem isSome_arr?_iff (part : Json) : part.arr?.isSome = true ↔ part.kind = 4 := by
  cases part with
  | bool b => cases b <;> simp [arr?, kind]
  | _ => simp [arr?, kind]

/-- Each item can be the operand of the operator at its place, where null stands for none. -/
structure AreOperands (items : List Json) : Prop where
  count : items.length ≤ 10
  oneOf : ∀ item ∈ items[6]?, item = .null ∨ item.arr?.isSome = true
  noneOf : ∀ item ∈ items[7]?, item = .null ∨ item.arr?.isSome = true
  like : ∀ item ∈ items[8]?, item = .null ∨ item.str?.isSome = true
  isPresent : ∀ item ∈ items[9]?, item = .null ∨ item.bool?.isSome = true

end Json

/-! ## Arrays of operands -/

/-- The items of an array are read one by one. -/
theorem Value.ofJsonItems_eq_map (items : List Json) : ofJsonItems items = items.map ofJson := by
  induction items with
  | nil => rfl
  | cons item items ih => rw [ofJsonItems, ih, List.map_cons]

/-- No array is among its own items. -/
theorem Value.array_notMem (items : List Value) : .array items ∉ items := by
  intro hmem
  have hlt := List.sizeOf_lt_of_mem hmem
  rw [array.sizeOf_spec] at hlt
  omega

namespace OperatorSet

open Json

/-- An array is read as a set of operators where its items can be operands at their places. -/
theorem isSome_ofJson?_arr_iff {items : List Json} (h : (Json.arr items).isReadable = true) :
    (ofJson? (.arr items)).isSome = true ↔ AreOperands items := by
  -- what a named slot must fit is what the item at the place of the name must be
  have hplace {name : String} {i : Nat} (hname : names[i]? = some name) {Fit Can : Json → Prop}
      (hfit : ∀ part, part.isReadable = true → (Fit part ↔ Can part)) :
      (∀ part ∈ find? name (names.zip items), Fit part) ↔ ∀ part ∈ items[i]?, Can part := by
    rw [find?_zip (by decide) hname]
    exact forall₂_congr fun part hpart =>
      hfit part (isReadable_of_mem_parts h (List.mem_of_getElem? hpart))
  have hlisted (part : Json) (hpart : part.isReadable = true) :
      part.kind = 0 ∨ part.kind = 4 ↔ part = .null ∨ part.arr?.isSome = true :=
    or_congr (kind_eq_zero_iff hpart) (isSome_arr?_iff part).symm
  have hlike (part : Json) (hpart : part.isReadable = true) :
      part.kind = 0 ∨ part.kind = 3 ↔ part = .null ∨ part.str?.isSome = true :=
    or_congr (kind_eq_zero_iff hpart) (isSome_str?_iff part).symm
  have hpresent (part : Json) (hpart : part.isReadable = true) :
      part.kind = 0 ∨ part.kind = 1 ∨ part.kind = 2 ↔ part = .null ∨ part.bool?.isSome = true :=
    or_congr (kind_eq_zero_iff hpart) (isSome_bool?_iff part).symm
  -- an array has a slot for each item, so all that can be wrong with it is its length
  have hslots : ∀ slots, strictSlots? names (.arr items) = some slots ↔
      items.length ≤ 10 ∧ slots = names.zip items := by
    intro slots
    have hnames : names.length = 10 := rfl
    simp only [strictSlots?, slots?, hnames]
    split
    next hlength => simp [hlength, eq_comm]
    next hlength => simp [hlength]
  rw [isSome_ofJson?_iff h]
  constructor
  · rintro ⟨slots, hread, hfits⟩
    obtain ⟨hcount, rfl⟩ := (hslots slots).1 hread
    exact ⟨hcount, (hplace rfl hlisted).1 hfits.oneOf, (hplace rfl hlisted).1 hfits.noneOf,
      (hplace rfl hlike).1 hfits.like, (hplace rfl hpresent).1 hfits.isPresent⟩
  · rintro ⟨hcount, honeOf, hnoneOf, hpattern, hexists⟩
    exact ⟨names.zip items, (hslots _).2 ⟨hcount, rfl⟩, (hplace rfl hlisted).2 honeOf,
      (hplace rfl hlisted).2 hnoneOf, (hplace rfl hlike).2 hpattern,
      (hplace rfl hpresent).2 hexists⟩

/-- A set of operators that is read from an array does not stand for membership in the array: the
list of the membership operator is an item of it. -/
theorem filters_ne_of_ofJson?_arr {items : List Json} {set : OperatorSet}
    (h : ofJson? (.arr items) = some set) (field : String) :
    set.filters field ≠ [⟨field, .oneOf, .array (items.map Value.ofJson)⟩] := by
  intro hfilters
  have hmem : ⟨field, .oneOf, .array (items.map Value.ofJson)⟩ ∈ set.filters field := by
    rw [hfilters]
    exact List.mem_singleton_self _
  have hset : set.oneOf = some (items.map Value.ofJson) := by
    simpa [filters, apply_ite, ite_eq_iff] using hmem
  -- the list stands at the place of the membership operator, so it is one of its own items
  obtain ⟨slots, hslots, hread⟩ := ofJson?_eq_some_iff.1 h
  have honeOf := hread.oneOf
  rw [hset] at honeOf
  obtain ⟨parts, hfind, hparts⟩ := exists_of_listed honeOf
  have hpart : .arr parts ∈ items := mem_parts_of_find? (slots?_of_strictSlots? hslots) hfind
  have hvalue : Value.ofJson (.arr parts) ∈ items.map Value.ofJson := List.mem_map_of_mem hpart
  rw [Value.ofJson, Value.ofJsonItems_eq_map, ← hparts] at hvalue
  exact Value.array_notMem _ hvalue

end OperatorSet

/-- An array is read as a condition, which stands for membership unless its items can be operands at
their places. -/
theorem Condition.exists_ofJson?_arr {items : List Json}
    (h : (Json.arr items).isReadable = true) :
    ∃ condition, ofJson? (.arr items) = some condition ∧ ∀ field,
      condition.filters field = [⟨field, .oneOf, .array (items.map Value.ofJson)⟩] ↔
        ¬ Json.AreOperands items := by
  rw [← OperatorSet.isSome_ofJson?_arr_iff h, ofJson?, if_pos h]
  cases hset : OperatorSet.ofJson? (.arr items) with
  | some set =>
    exact ⟨.operators set, rfl, fun field =>
      iff_of_false (OperatorSet.filters_ne_of_ofJson?_arr hset field) (by simp)⟩
  | none =>
    refine ⟨_, rfl, fun field => iff_of_true ?_ (by simp)⟩
    rw [Value.ofJson, Value.ofJsonItems_eq_map, filters]

/-! ## Conditions by field -/

/-- What is read under a key of a list, whose values are themselves read one by one, comes from the
last value for it. -/
theorem Keyed.get?_ofList_of_mapM {α β : Type} {read : α → Option β} {entries : List (String × α)}
    {results : List (String × β)}
    (h : entries.mapM (fun entry => (read entry.2).map fun b => (entry.1, b)) = some results)
    (key : String) : get? (ofList results) key = (get? (ofList entries) key).bind read := by
  -- the two lists of entries that are built up agree at every step
  have hfold : ∀ (entries : List (String × α)) (results : List (String × β)) (acc : Keyed α)
      (acc' : Keyed β), (∀ key, get? acc' key = (get? acc key).bind read) →
      entries.mapM (fun entry => (read entry.2).map fun b => (entry.1, b)) = some results →
      get? (results.foldl (fun acc entry => insert acc entry.1 entry.2) acc') key =
        (get? (entries.foldl (fun acc entry => insert acc entry.1 entry.2) acc) key).bind read := by
    intro entries
    induction entries with
    | nil =>
      intro results acc acc' hacc hresults
      obtain rfl := Option.some.inj hresults
      exact hacc key
    | cons entry entries ih =>
      intro results acc acc' hacc hresults
      rw [List.mapM_cons] at hresults
      obtain ⟨first, hfirst, hresults⟩ := Option.bind_eq_some_iff.1 hresults
      obtain ⟨others, hothers, hresults⟩ := Option.bind_eq_some_iff.1 hresults
      obtain rfl := Option.some.inj hresults
      obtain ⟨b, hb, rfl⟩ := Option.map_eq_some_iff.1 hfirst
      -- the first entry is written under its own key on both sides
      refine ih others _ _ (fun other => ?_) hothers
      by_cases hkey : entry.1 = other
      · rw [← hkey, get?_insert_self, get?_insert_self, Option.bind_some, hb]
      · rw [get?_insert_of_ne _ _ hkey, get?_insert_of_ne _ _ hkey, hacc]
  exact hfold entries results [] [] (fun _ => rfl) h

namespace Conditions

/-- The filters on one field. -/
def filtersFor (conditions : Conditions) (field : String) : List Filter :=
  (filters conditions).filter fun filter => filter.field == field

/-- The filters on a field are those of the condition on it. -/
theorem filtersFor_eq {conditions : Conditions} (h : Keyed.Sorted conditions) {field : String}
    {condition : Condition} (hget : Keyed.get? conditions field = some condition) :
    filtersFor conditions field = condition.filters field := by
  -- a condition gives filters on its own field only, so it contributes all of them or none
  have hentry (entry : String × Condition) :
      (entry.2.filters entry.1).filter (fun filter => filter.field == field) =
        if entry.1 = field then entry.2.filters entry.1 else [] := by
    split
    next heq =>
      refine List.filter_eq_self.2 fun filter hfilter => ?_
      rw [(Condition.mem_filters hfilter).1, heq, beq_self_eq_true]
    next hne =>
      refine List.filter_eq_nil_iff.2 fun filter hfilter => ?_
      rw [(Condition.mem_filters hfilter).1, beq_iff_eq]
      exact hne
  have hnodup := h.nodup
  clear h
  rw [filtersFor, filters, List.filter_flatMap]
  induction conditions with
  | nil => cases hget
  | cons entry conditions ih =>
    rw [List.map_cons, List.nodup_cons] at hnodup
    rw [List.flatMap_cons, hentry]
    rw [Keyed.get?] at hget
    split at hget
    next heq =>
      -- no other condition is on the field
      obtain rfl := Option.some.inj hget
      have hothers : conditions.flatMap (fun entry =>
          (entry.2.filters entry.1).filter fun filter => filter.field == field) = [] := by
        refine List.flatMap_eq_nil_iff.2 fun other hother => ?_
        rw [hentry, if_neg]
        exact fun hfield => hnodup.1 (heq.trans hfield.symm ▸ List.mem_map_of_mem hother)
      rw [if_pos heq, hothers, List.append_nil, heq]
    next hne =>
      rw [if_neg hne, List.nil_append]
      exact ih hget hnodup.2

/-- Readable JSON values can be read as conditions, each. -/
theorem exists_ofJson?_obj {entries : List (String × Json)}
    (h : ∀ entry ∈ entries, entry.2.isReadable = true) :
    ∃ conditions, ofJson? (.obj entries) = some conditions := by
  have hread : ∃ read, entries.mapM (fun entry =>
      (Condition.ofJson? entry.2).map fun condition => (entry.1, condition)) = some read := by
    induction entries with
    | nil => exact ⟨[], rfl⟩
    | cons entry entries ih =>
      rw [List.forall_mem_cons] at h
      obtain ⟨read, hread⟩ := ih h.2
      -- what is no set of operators is a bare value
      have hcondition : ∃ condition, Condition.ofJson? entry.2 = some condition := by
        rw [Condition.ofJson?, if_pos h.1]
        split
        next set _ => exact ⟨_, rfl⟩
        next => exact ⟨_, rfl⟩
      obtain ⟨condition, hcondition⟩ := hcondition
      exact ⟨_, by rw [List.mapM_cons, hcondition, hread]; rfl⟩
  obtain ⟨read, hread⟩ := hread
  exact ⟨Keyed.ofList read, by rw [ofJson?, hread]; rfl⟩

/-- What is read under a field comes from the last entry for it. -/
theorem get?_of_ofJson? {entries : List (String × Json)} {conditions : Conditions}
    (h : ofJson? (.obj entries) = some conditions) (field : String) :
    Keyed.get? conditions field =
      (Keyed.get? (Keyed.ofList entries) field).bind Condition.ofJson? := by
  rw [ofJson?] at h
  obtain ⟨read, hread, h⟩ := Option.bind_eq_some_iff.1 h
  obtain rfl := Option.some.inj h
  exact Keyed.get?_ofList_of_mapM hread field

end Conditions

/-! ## Descriptors -/

namespace Json

/-- Another name stands for what it stood for before a name was erased. -/
theorem find?_erase (slots : Slots) {key name : String} (h : name ≠ key) :
    find? name (Keyed.erase slots key) = find? name slots := by
  induction slots with
  | nil => rfl
  | cons slot slots ih =>
    rw [Keyed.erase, List.filter_cons]
    -- a slot of the erased key is not the one that is looked for, so passing over it changes
    -- nothing
    split
    next =>
      rw [find?, find?]
      split
      · rfl
      · exact ih
    next hkey =>
      have hkey : slot.1 = key := by simpa using hkey
      rw [find?, if_neg fun heq => h (heq.symm.trans hkey)]
      exact ih

/-- A field with a default is read as before another one was erased. -/
theorem orElse?_erase {α : Type} (slots : Slots) {key name : String} (h : name ≠ key) (default : α)
    (read : Json → Option α) :
    orElse? (Keyed.erase slots key) name default read = orElse? slots name default read := by
  rw [orElse?, find?_erase slots h, orElse?]

/-- An optional field is read as before another one was erased. -/
theorem optional?_erase {α : Type} (slots : Slots) {key name : String} (h : name ≠ key)
    (read : Json → Option α) :
    optional? (Keyed.erase slots key) name read = optional? slots name read := by
  rw [optional?, find?_erase slots h, optional?]

/-- The fields of a structure are under its names, each of them once. -/
theorem known_of_slots? {names : List String} (hnames : names.Nodup) {j : Json} {slots : Slots}
    (h : slots? names j = some slots) :
    (∀ slot ∈ slots, names.contains slot.1 = true) ∧ (slots.map (·.1)).Nodup := by
  cases j with
  | obj entries =>
    simp only [slots?, Option.ite_none_right_eq_some] at h
    obtain ⟨hrepeats, hslots⟩ := h
    obtain rfl := Option.some.inj hslots
    exact ⟨fun slot hslot => (List.mem_filter.1 hslot).2, of_decide_eq_true hrepeats⟩
  | arr items =>
    simp only [slots?, Option.ite_none_right_eq_some] at h
    obtain rfl := Option.some.inj h.2
    -- an array may be shorter than the list of names, which leaves out the names at the end
    have hsublist (names : List String) (items : List Json) :
        ((names.zip items).map (·.1)).Sublist names := by
      induction names generalizing items with
      | nil => exact List.nil_sublist _
      | cons name names ih =>
        cases items with
        | nil => exact List.nil_sublist _
        | cons item items => exact (ih items).cons_cons name
    exact ⟨fun slot hslot => List.contains_iff_mem.2 (List.of_mem_zip hslot).1,
      (hsublist names items).nodup hnames⟩
  | _ => cases h

/-- A structure may do without any of its fields. -/
theorem slots?_erase {names : List String} (hnames : names.Nodup) {j : Json} {slots : Slots}
    (h : slots? names j = some slots) (key : String) :
    slots? names (.obj (Keyed.erase slots key)) = some (Keyed.erase slots key) := by
  obtain ⟨hknown, hnodup⟩ := known_of_slots? hnames h
  have hsublist : (Keyed.erase slots key).Sublist slots := List.filter_sublist
  have hknown' : ∀ slot ∈ Keyed.erase slots key, names.contains slot.1 = true :=
    fun slot hslot => hknown slot (hsublist.subset hslot)
  have hrepeats : noRepeats (Keyed.erase slots key) = true :=
    decide_eq_true ((hsublist.map _).nodup hnodup)
  rw [slots?, List.filter_eq_self.2 hknown', if_pos hrepeats]

end Json

namespace Descriptor

/-- A descriptor can be read where its conditions and the rest of it can. -/
theorem ofJson?_of_rest {j part : Json} {slots : Json.Slots} {conditions : Conditions}
    {rest : Descriptor} (hslots : Json.slots? names j = some slots)
    (hfind : Json.find? "conditions" slots = some part)
    (hread : Conditions.ofJson? part = some conditions)
    (hrest : ofJson? (.obj (Keyed.erase slots "conditions")) = some rest) :
    ofJson? j = some { rest with conditions := conditions } := by
  have hconditions : Json.orElse? slots "conditions" [] Conditions.ofJson? = some conditions := by
    rw [Json.orElse?, hfind]
    exact hread
  -- the rest is read without conditions: what was read of each other field is what is read of it
  -- here
  simp only [ofJson?, Json.slots?_erase (by decide : names.Nodup) hslots, Option.bind_eq_bind,
    Option.bind_some, Json.orElse?_erase, Json.optional?_erase, ne_eq, String.reduceEq,
    not_false_eq_true, Option.bind_eq_some_iff] at hrest
  obtain ⟨erased, -, joins, hjoins, aggregations, haggregations, groupBy, hgroupBy, sort, hsort,
    select, hselect, pagination, hpagination, search, hsearch, relations, hrelations, hrest⟩ :=
      hrest
  obtain rfl := Option.some.inj hrest
  rw [ofJson?, hslots]
  simp only [Option.bind_eq_bind, Option.bind_some, hconditions, hjoins, haggregations, hgroupBy,
    hsort, hselect, hpagination, hsearch, hrelations]
  rfl

/-- Where the conditions of a text give an array to a field and the rest of the text can be read,
the text is parsed. The one filter on the field is then membership in the array, as it always is
when the array is set as the condition, if and only if the items cannot be the operands of the
operators at their places. -/
theorem array_condition_is_membership_iff {text : String} {j : Json} {slots : Json.Slots}
    {entries : List (String × Json)} {rest : Descriptor} {field : String} {items : List Json}
    (htext : Json.outline? text = some j) (hslots : Json.slots? names j = some slots)
    (hconditions : Json.find? "conditions" slots = some (.obj entries))
    (hreadable : ∀ entry ∈ entries, entry.2.isReadable = true)
    (hrest : ofJson? (.obj (Keyed.erase slots "conditions")) = some rest)
    (hvalid : rest.validate = .ok ())
    (hfield : Keyed.get? (Keyed.ofList entries) field = some (.arr items)) :
    ∃ d, parse text = .ok d ∧
      (Conditions.filtersFor d.conditions field =
          [⟨field, .oneOf, .array (items.map Value.ofJson)⟩] ↔
        ¬ Json.AreOperands items) ∧
      Conditions.filtersFor
          (d.constrain field (.equals (.array (items.map Value.ofJson)))).conditions field =
        [⟨field, .oneOf, .array (items.map Value.ofJson)⟩] := by
  obtain ⟨conditions, hread⟩ := Conditions.exists_ofJson?_obj hreadable
  have hsorted := Conditions.sorted_of_ofJson? hread
  have hitems : (Json.arr items).isReadable = true :=
    hreadable _ (Keyed.mem_ofList (Keyed.mem_of_get?_eq_some hfield))
  obtain ⟨condition, hcondition, hmembership⟩ := Condition.exists_ofJson?_arr hitems
  -- the condition that is read stands under the field, as the last one written there
  have hget : Keyed.get? conditions field = some condition := by
    rw [Conditions.get?_of_ofJson? hread, hfield, Option.bind_some, hcondition]
  refine ⟨{ rest with conditions := conditions }, ?_, ?_, ?_⟩
  · have hd : read? text = some { rest with conditions := conditions } := by
      rw [read?, htext, Option.bind_some, ofJson?_of_rest hslots hconditions hread hrest]
    exact parse_eq_ok_iff.2 ⟨hd, hvalid⟩
  · rw [Conditions.filtersFor_eq hsorted hget]
    exact hmembership field
  · rw [constrain, Conditions.filtersFor_eq (hsorted.insert _ _) (Keyed.get?_insert_self _ _ _),
      Condition.filters]

/-- Conditions on a rank, which is one of seven numbers, and a status, which is one of two texts. -/
def rankAndStatus : List (String × Json) :=
  [("rank", .arr [.ofInt 1, .ofInt 2, .ofInt 3, .ofInt 4, .ofInt 5, .ofInt 6, .ofInt 7]),
    ("status", .arr [.str "A", .str "B"])]

/-- The text of a descriptor with the conditions `rankAndStatus`. -/
def rankAndStatusText : String :=
  "\x7b\"conditions\":\x7b\"rank\":[1,2,3,4,5,6,7],\"status\":[\"A\",\"B\"]\x7d\x7d"

/-- The seventh number is not a list, so the ranks are read as membership. Both texts can be
operands, so the statuses are not. -/
theorem array_condition_is_membership_iff_ranks :
    (∃ d, parse rankAndStatusText = .ok d ∧ Conditions.filtersFor d.conditions "rank" =
      [⟨"rank", .oneOf, .array [.int 1, .int 2, .int 3, .int 4, .int 5, .int 6, .int 7]⟩]) ∧
    ∃ d, parse rankAndStatusText = .ok d ∧ Conditions.filtersFor d.conditions "status" ≠
      [⟨"status", .oneOf, .array [.string "A", .string "B"]⟩] := by
  have htext : Json.outline? rankAndStatusText =
      some (.obj [("conditions", .obj rankAndStatus)]) := by cbv
  have hslots : Json.slots? names (.obj [("conditions", .obj rankAndStatus)]) =
      some [("conditions", .obj rankAndStatus)] := by cbv
  have hreadable : ∀ entry ∈ rankAndStatus, entry.2.isReadable = true := by decide
  have hrest : ofJson? (.obj (Keyed.erase [("conditions", .obj rankAndStatus)] "conditions")) =
      some {} := by cbv
  constructor
  · obtain ⟨d, hd, hranks, -⟩ := array_condition_is_membership_iff htext hslots rfl hreadable hrest
      rfl (by cbv : Keyed.get? (Keyed.ofList rankAndStatus) "rank" = some _)
    refine ⟨d, hd, hranks.2 fun hoperands => ?_⟩
    -- the item at the place of `in` is a number
    rcases hoperands.oneOf _ rfl with h | h <;> cases h
  · obtain ⟨d, hd, hstatuses, -⟩ := array_condition_is_membership_iff htext hslots rfl hreadable
      hrest rfl (by cbv : Keyed.get? (Keyed.ofList rankAndStatus) "status" = some _)
    refine ⟨d, hd, mt hstatuses.1 (not_not_intro ⟨by decide, ?_, ?_, ?_, ?_⟩)⟩
    all_goals exact fun item hitem => by cases hitem

end Descriptor

end DualQuery
