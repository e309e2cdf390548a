import DualQuery.Proofs.PrintedTexts
import DualQuery.Proofs.RepeatedOperators

/-!
# Conditions that survive being written

A condition is faithful where the text that is written for it is read back as the condition itself:
its JSON form is read as the condition, and what stands in the form can be printed and read. A
condition that is read is faithful if no object in it repeats a key and each of its numbers is an
integer of sixty-four bits with sign. What is written for it holds nothing but what was read, in
another order, and a set of operators that was an array becomes an object.

## Key results

- `Json.fits_rewritten`: values that are read and written nest no deeper than before
- `Condition.faithful_of_ofJson?`: conditions
- `Conditions.ofJson?_toJson`, `Conditions.fits_toJson`: what faithful conditions are good for
-/

namespace DualQuery

namespace Json

/-! ## What stands inside a value -/

mutual
/-- The values inside a value, itself included. -/
def within : Json → List Json
  | .arr items => .arr items :: withinItems items
  | .obj entries => .obj entries :: withinEntries entries
  | .null => [.null]
  | .bool b => [.bool b]
  | .num n => [.num n]
  | .str s => [.str s]
  | .unreadable => [.unreadable]

/-- The values inside items. -/
def withinItems : List Json → List Json
  | [] => []
  | item :: items => within item ++ withinItems items

/-- The values inside the values of entries. -/
def withinEntries : List (String × Json) → List Json
  | [] => []
  | (_, value) :: entries => within value ++ withinEntries entries
end

/-- The number of a value that is one. -/
def number? : Json → Option Number
  | .num n => some n
  | _ => none

/-- The numbers inside a value. -/
def numbers (j : Json) : List Number := j.within.filterMap number?

/-- The entries of each object inside a value. -/
def objects (j : Json) : List (List (String × Json)) := j.within.filterMap obj?

/-- Whether a number is an integer of sixty-four bits with sign. -/
def Number.isWord : Number → Bool
  | .int i => fitsInt64 i
  | .float _ => false

/-- What is inside an item is inside the items. -/
theorem within_subset_withinItems {items : List Json} {item : Json} (h : item ∈ items) :
    item.within ⊆ withinItems items := by
  induction items with
  | nil => cases h
  | cons first items ih =>
    rw [withinItems]
    rcases List.mem_cons.1 h with rfl | h
    · exact List.subset_append_left _ _
    · exact List.subset_append_of_subset_right _ (ih h)

/-- What is inside the value of an entry is inside the entries. -/
theorem within_subset_withinEntries {entries : List (String × Json)} {entry : String × Json}
    (h : entry ∈ entries) : entry.2.within ⊆ withinEntries entries := by
  induction entries with
  | nil => cases h
  | cons first entries ih =>
    rw [withinEntries]
    rcases List.mem_cons.1 h with rfl | h
    · exact List.subset_append_left _ _
    · exact List.subset_append_of_subset_right _ (ih h)

/-- What is inside a part is inside the whole. -/
theorem within_subset_of_mem_parts {j part : Json} (h : part ∈ j.parts) :
    part.within ⊆ j.within := by
  cases j with
  | arr items =>
    exact List.subset_cons_of_subset _ (within_subset_withinItems h)
  | obj entries =>
    obtain ⟨entry, hentry, rfl⟩ := List.mem_map.1 h
    exact List.subset_cons_of_subset _ (within_subset_withinEntries hentry)
  | _ => cases h

/-- So are the numbers inside a part. -/
theorem numbers_subset_of_mem_parts {j part : Json} (h : part ∈ j.parts) :
    part.numbers ⊆ j.numbers :=
  List.filterMap_subset _ (within_subset_of_mem_parts h)

/-- And the objects. -/
theorem objects_subset_of_mem_parts {j part : Json} (h : part ∈ j.parts) :
    part.objects ⊆ j.objects :=
  List.filterMap_subset _ (within_subset_of_mem_parts h)

/-- A part is one level less deep than the whole. -/
theorem fits_of_mem_parts {p : Number → Bool} {depth : Nat} {j part : Json}
    (hj : j.fits p (depth + 1) = true) (hpart : part ∈ j.parts) : part.fits p depth = true := by
  cases j with
  | arr items => exact (fits_arr items).1 hj part hpart
  | obj entries =>
    obtain ⟨entry, hentry, rfl⟩ := List.mem_map.1 hpart
    exact (fits_obj entries).1 hj entry hentry
  | _ => cases hpart

/-- Depth and numbers are independent of each other. -/
theorem fits_of_numbers {p q : Number → Bool} {depth : Nat} {j : Json}
    (hfits : j.fits p depth = true) (hnumbers : ∀ n ∈ j.numbers, q n = true) :
    j.fits q depth = true := by
  -- the induction is on the levels that are left: a value without any has no parts
  induction depth generalizing j with
  | zero =>
    cases j with
    | num n => exact hnumbers n List.mem_cons_self
    | arr _ | obj _ => cases hfits
    | _ => rfl
  | succ depth ih =>
    have hpart : ∀ part ∈ j.parts, part.fits q depth = true := fun part hpart =>
      ih (fits_of_mem_parts hfits hpart)
        fun n hn => hnumbers n (numbers_subset_of_mem_parts hpart hn)
    cases j with
    | num n => exact hnumbers n List.mem_cons_self
    | arr items => exact (fits_arr items).2 hpart
    | obj entries =>
      exact (fits_obj entries).2 fun entry hentry => hpart _ (List.mem_map_of_mem hentry)
    | _ => rfl

end Json

/-! ## Values that are written again -/

namespace Value

/-- Items are written one by one. -/
theorem toJsonItems_eq_map (items : List Value) : toJsonItems items = items.map toJson := by
  induction items with
  | nil => rfl
  | cons item items ih => rw [toJsonItems, ih, List.map_cons]

/-- So are fields. -/
theorem toJsonEntries_eq_map (fields : List (String × Value)) :
    toJsonEntries fields = fields.map fun field => (field.1, field.2.toJson) := by
  induction fields with
  | nil => rfl
  | cons field fields ih => rw [toJsonEntries, ih, List.map_cons]

/-- Entries are read one by one. -/
theorem ofJsonEntries_eq_map (entries : List (String × Json)) :
    ofJsonEntries entries = entries.map fun entry => (entry.1, ofJson entry.2) := by
  induction entries with
  | nil => rfl
  | cons entry entries ih => rw [ofJsonEntries, ih, List.map_cons]

mutual
/-- No timestamp is read from JSON. -/
theorem untimed_ofJson : (j : Json) → (ofJson j).untimed = ofJson j
  | .null | .unreadable | .bool _ | .str _ => rfl
  | .num (.float _) => rfl
  | .num (.int i) => by
    simp only [ofJson, ofNumber]
    split <;> rfl
  | .arr items => by rw [ofJson, untimed, untimedItems_ofJsonItems items]
  | .obj entries => by
    have hfield : ∀ field ∈ Keyed.ofList (ofJsonEntries entries),
        (field.1, field.2.untimed) = id field := fun field hfield =>
      Prod.ext rfl (untimed_ofJsonEntries entries field (Keyed.mem_ofList hfield))
    rw [ofJson, untimed, untimedFields_eq_map, List.map_congr_left hfield, List.map_id]

/-- Nor is one read from the items of an array. -/
theorem untimedItems_ofJsonItems : (items : List Json) →
    untimedItems (ofJsonItems items) = ofJsonItems items
  | [] => rfl
  | item :: items => by
    rw [ofJsonItems, untimedItems, untimed_ofJson item, untimedItems_ofJsonItems items]

/-- Nor from the values of entries. -/
theorem untimed_ofJsonEntries : (entries : List (String × Json)) →
    ∀ field ∈ ofJsonEntries entries, field.2.untimed = field.2
  | [] => fun _ hfield => absurd hfield List.not_mem_nil
  | (_, value) :: entries =>
    List.forall_mem_cons.2 ⟨untimed_ofJson value, untimed_ofJsonEntries entries⟩
end

end Value

namespace Json

/-- An integer of sixty-four bits is written as it was read. -/
theorem rewritten_num {n : Number} (hn : n.isWord = true) : (Json.num n).rewritten = .num n := by
  cases n with
  | float x => cases hn
  | int i =>
    have hbounds : -0x8000000000000000 ≤ i ∧ i < 0x8000000000000000 := of_decide_eq_true hn
    have htoInt : (Int64.ofInt i).toInt = i := Int64.toInt_ofInt_of_le hbounds.1 hbounds.2
    rw [Number.isWord] at hn
    rw [rewritten, Value.ofJson, Value.ofNumber, if_pos hn, Value.toJson, htoInt, ofInt]

/-- An integer of sixty-four bits with sign is printed and read exactly. -/
theorem Number.isExact_of_isWord {n : Number} (hn : n.isWord = true) : n.isExact = true := by
  cases n with
  | float x => cases hn
  | int i =>
    have hbounds : -0x8000000000000000 ≤ i ∧ i < 0x8000000000000000 := of_decide_eq_true hn
    have hmax : maxSignificand = 0xFFFFFFFFFFFFFFFF := rfl
    exact decide_eq_true ⟨hbounds.1, by omega⟩

/-- A value that is written again nests no deeper than before, and its integers stay. -/
theorem fits_rewritten {depth : Nat} {j : Json} (h : j.fits Number.isWord depth = true) :
    j.rewritten.fits Number.isExact depth = true := by
  -- a number of the text is a word, and every word is written exactly
  have hnumber {depth : Nat} {n : Number} (hn : n.isWord = true) :
      (Json.num n).rewritten.fits Number.isExact depth = true := by
    rw [rewritten_num hn, fits_num]
    exact Number.isExact_of_isWord hn
  induction depth generalizing j with
  | zero =>
    cases j with
    | num n => exact hnumber h
    | arr _ | obj _ => cases h
    | _ => rfl
  | succ depth ih =>
    cases j with
    | num n => exact hnumber h
    | arr items =>
      rw [rewritten_arr, fits_arr, List.forall_mem_map]
      exact fun item hitem => ih ((fits_arr items).1 h item hitem)
    | obj entries =>
      rw [rewritten, Value.ofJson, Value.toJson, fits_obj, Value.toJsonEntries_eq_map,
        List.forall_mem_map]
      intro field hfield
      -- of repeated keys only the last value is written
      have hmem := Keyed.mem_ofList hfield
      rw [Value.ofJsonEntries_eq_map] at hmem
      obtain ⟨entry, hentry, rfl⟩ := List.mem_map.1 hmem
      exact ih ((fits_obj entries).1 h entry hentry)
    | _ => rfl

/-- What stands in the entry of a field that is written as it was read. -/
theorem exists_part_of_mem_toList {α : Type} {j : Json} {names : List String} {slots : Slots}
    {name : String} {read : Json → Option α} {write : α → Json} {operand : Option α}
    (hslots : slots? names j = some slots) (hoperand : optional? slots name read = some operand)
    (hwrite : ∀ part a, read part = some a → write a = part.rewritten) :
    ∀ entry ∈ (operand.map write).toList.map fun written => (name, written),
      ∃ part ∈ j.parts, entry.2 = part.rewritten := by
  cases operand with
  | none => exact fun entry hentry => absurd hentry List.not_mem_nil
  | some a =>
    obtain ⟨part, hfind, -, hread⟩ := exists_of_optional? hoperand
    exact List.forall_mem_singleton.2
      ⟨part, mem_parts_of_find? hslots hfind, hwrite part a hread⟩

end Json

/-! ## Sets of operators -/

namespace OperatorSet

/-- No timestamp is among the operands that are read. -/
theorem untimed_of_ofJson? {j : Json} {set : OperatorSet} (h : ofJson? j = some set) :
    set.untimed = set := by
  obtain ⟨slots, -, hset⟩ := ofJson?_eq_some_iff.1 h
  have hsingle {name : String} {operand : Option Value}
      (hoperand : Json.optional? slots name (fun j => some (Value.ofJson j)) = some operand) :
      operand.map Value.untimed = operand := by
    cases operand with
    | none => rfl
    | some v =>
      obtain ⟨part, -, -, rfl⟩ := Json.exists_of_single hoperand
      rw [Option.map_some, Value.untimed_ofJson]
  have hlisted {name : String} {operand : Option (List Value)}
      (hoperand : Json.optional? slots name (Json.listOf? fun j => some (Value.ofJson j)) =
        some operand) :
      operand.map Value.untimedItems = operand := by
    cases operand with
    | none => rfl
    | some items =>
      obtain ⟨parts, -, rfl⟩ := Json.exists_of_listed hoperand
      have hpart : ∀ part ∈ parts, (Value.untimed ∘ Value.ofJson) part = Value.ofJson part :=
        fun part _ => Value.untimed_ofJson part
      rw [Option.map_some, Value.untimedItems_eq_map, List.map_map, List.map_congr_left hpart]
  -- nothing that is read is a timestamp, so there is none to rewrite
  rw [untimed, hsingle hset.eq, hsingle hset.ne, hsingle hset.gt, hsingle hset.ge,
    hsingle hset.lt, hsingle hset.le, hlisted hset.oneOf, hlisted hset.noneOf]

/-- What is written for a set that is read are parts of what it was read from, written again. -/
theorem exists_part_of_mem_toJson {j : Json} {set : OperatorSet} (h : ofJson? j = some set)
    {entries : List (String × Json)} (hentries : set.toJson = .obj entries) :
    ∀ entry ∈ entries, ∃ part ∈ j.parts, entry.2 = part.rewritten := by
  obtain ⟨slots, hslots, hset⟩ := ofJson?_eq_some_iff.1 h
  rw [toJson, Json.obj.injEq] at hentries
  subst hentries
  have hslots' := Json.slots?_of_strictSlots? hslots
  -- each kind of operand is written as what it was read from, rewritten
  have hsingle (part : Json) (v : Value) (hread : some (Value.ofJson part) = some v) :
      v.toJson = part.rewritten := by
    rw [← Option.some.inj hread, Json.rewritten]
  have hlisted (part : Json) (items : List Value)
      (hread : Json.listOf? (fun j => some (Value.ofJson j)) part = some items) :
      Json.arr (Value.toJsonItems items) = part.rewritten := by
    cases part with
    | arr parts =>
      rw [Json.listOf?_ofJson] at hread
      rw [← Option.some.inj hread, Json.rewritten_arr, Value.toJsonItems_eq_map, List.map_map]
      rfl
    | _ => cases hread
  have hstr (part : Json) (pattern : String) (hread : part.str? = some pattern) :
      Json.str pattern = part.rewritten := by
    cases part with
    | str s =>
      obtain rfl := Option.some.inj hread
      rfl
    | _ => cases hread
  have hbool (part : Json) (present : Bool) (hread : part.bool? = some present) :
      Json.bool present = part.rewritten := by
    cases part with
    | bool b =>
      obtain rfl := Option.some.inj hread
      rfl
    | _ => cases hread
  -- the entries are those of the ten operators in turn
  simp only [List.forall_mem_append]
  exact ⟨⟨⟨⟨⟨⟨⟨⟨⟨Json.exists_part_of_mem_toList hslots' hset.eq hsingle,
    Json.exists_part_of_mem_toList hslots' hset.ne hsingle⟩,
    Json.exists_part_of_mem_toList hslots' hset.gt hsingle⟩,
    Json.exists_part_of_mem_toList hslots' hset.ge hsingle⟩,
    Json.exists_part_of_mem_toList hslots' hset.lt hsingle⟩,
    Json.exists_part_of_mem_toList hslots' hset.le hsingle⟩,
    Json.exists_part_of_mem_toList hslots' hset.oneOf hlisted⟩,
    Json.exists_part_of_mem_toList hslots' hset.noneOf hlisted⟩,
    Json.exists_part_of_mem_toList hslots' hset.like hstr⟩,
    Json.exists_part_of_mem_toList hslots' hset.isPresent hbool⟩

end OperatorSet

/-! ## Conditions -/

/-- JSON as conditions may be read from without loss: it is read from a text, no object in it
repeats a key, and all its numbers are integers of sixty-four bits with sign. -/
structure Json.Lossless (depth : Nat) (j : Json) : Prop where
  fits : j.fits Number.isInRange depth = true
  keys : ∀ entries ∈ j.objects, noRepeats entries = true
  numbers : ∀ n ∈ j.numbers, n.isWord = true

/-- A part of lossless JSON is lossless, one level less deep. -/
theorem Json.Lossless.of_mem_parts {depth : Nat} {j part : Json} (h : j.Lossless (depth + 1))
    (hpart : part ∈ j.parts) : part.Lossless depth where
  fits := fits_of_mem_parts h.fits hpart
  keys entries hentries := h.keys entries (objects_subset_of_mem_parts hpart hentries)
  numbers n hn := h.numbers n (numbers_subset_of_mem_parts hpart hn)

namespace Condition

/-- What is written for a condition is read back as the condition, `depth` levels deep at most. -/
structure Faithful (depth : Nat) (condition : Condition) : Prop where
  readsBack : ofJson? condition.toJson = some condition
  fits : condition.toJson.fits Json.Number.isExact depth = true

/-- No timestamp is read as part of a condition. -/
theorem untimed_of_ofJson? {j : Json} {condition : Condition} (h : ofJson? j = some condition) :
    condition.untimed = condition := by
  rw [ofJson?] at h
  split at h
  next =>
    split at h
    next set hset =>
      obtain rfl := Option.some.inj h
      rw [untimed, OperatorSet.untimed_of_ofJson? hset]
    next =>
      obtain rfl := Option.some.inj h
      rw [untimed, Value.untimed_ofJson]
  next => cases h

/-- What is written for a condition that is read nests no deeper than what it was read from. -/
theorem fits_toJson_of_ofJson? {depth : Nat} {j : Json} {condition : Condition}
    (hfits : j.fits Json.Number.isWord depth = true) (h : ofJson? j = some condition) :
    condition.toJson.fits Json.Number.isExact depth = true := by
  rw [ofJson?] at h
  split at h
  next =>
    split at h
    next set hset =>
      obtain rfl := Option.some.inj h
      obtain ⟨entries, hentries, -⟩ := set.strictSlots?_toJson
      cases depth with
      | zero =>
        -- a set of operators is read from an array or an object, which has a level of its own
        cases j with
        | arr _ | obj _ => cases hfits
        | _ => cases hset
      | succ depth =>
        rw [toJson, hentries, Json.fits_obj]
        intro entry hentry
        obtain ⟨part, hpart, hwritten⟩ :=
          OperatorSet.exists_part_of_mem_toJson hset hentries entry hentry
        rw [hwritten]
        exact Json.fits_rewritten (Json.fits_of_mem_parts hfits hpart)
    next =>
      obtain rfl := Option.some.inj h
      exact Json.fits_rewritten hfits
  next => cases h

/-- A condition that is read from lossless JSON is faithful. -/
theorem faithful_of_ofJson? {depth : Nat} {j : Json} {condition : Condition}
    (hj : j.Lossless depth) (h : ofJson? j = some condition) : condition.Faithful depth := by
  have hrange := Json.isInRange_of_fits hj.fits
  -- a bare value that looks like a set of operators takes a repeated key, which there is none of
  have hdisguised : condition.isDisguised = false := by
    rw [← Bool.not_eq_true]
    intro hdisguised
    obtain ⟨entries, rfl, hrepeats⟩ := exists_repeated_of_isDisguised hrange h hdisguised
    have hkeys := hj.keys entries List.mem_cons_self
    rw [hrepeats] at hkeys
    cases hkeys
  have hread := readsBack_of_ofJson? hrange h hdisguised
  rw [ReadsBack, untimed_of_ofJson? h] at hread
  exact ⟨hread, fits_toJson_of_ofJson? (Json.fits_of_numbers hj.fits hj.numbers) h⟩

end Condition

namespace Conditions

/-- Conditions in the order of their fields, each of which is faithful. -/
structure Faithful (depth : Nat) (conditions : Conditions) : Prop where
  sorted : Keyed.Sorted conditions
  faithful : ∀ entry ∈ conditions, entry.2.Faithful depth

/-- No conditions are faithful. -/
theorem faithful_nil (depth : Nat) : Faithful depth [] :=
  ⟨Keyed.sorted_nil, fun _ hentry => absurd hentry List.not_mem_nil⟩

/-- Conditions that are read are in the order of their fields. -/
theorem sorted_of_ofJson? {j : Json} {conditions : Conditions}
    (h : ofJson? j = some conditions) : Keyed.Sorted conditions := by
  cases j with
  | obj entries =>
    rw [ofJson?] at h
    obtain ⟨read, -, h⟩ := Option.bind_eq_some_iff.1 h
    obtain rfl := Option.some.inj h
    exact Keyed.sorted_ofList read
  | _ => cases h

/-- Conditions that are read from lossless JSON are faithful. -/
theorem faithful_of_ofJson? {depth : Nat} {j : Json} {conditions : Conditions}
    (hj : j.Lossless (depth + 1)) (h : ofJson? j = some conditions) :
    Faithful depth conditions := by
  refine ⟨sorted_of_ofJson? h, fun entry hentry => ?_⟩
  obtain ⟨part, hpart, hread⟩ := exists_part_of_mem h hentry
  exact Condition.faithful_of_ofJson? (hj.of_mem_parts hpart) hread

/-- Faithful conditions are read back from their JSON form. -/
theorem ofJson?_toJson {depth : Nat} {conditions : Conditions} (h : Faithful depth conditions) :
    ofJson? (toJson conditions) = some conditions := by
  have hread : (conditions.map fun entry => (entry.1, entry.2.toJson)).mapM
      (fun entry => (Condition.ofJson? entry.2).map fun condition => (entry.1, condition)) =
        some conditions := by
    refine mapM_map_eq_some fun entry hentry => ?_
    rw [(h.faithful entry hentry).readsBack, Option.map_some]
  rw [toJson, ofJson?, hread]
  exact congrArg some h.sorted.ofList_eq

/-- The form of conditions is one level deeper than each of them. -/
theorem fits_toJson {depth : Nat} {conditions : Conditions} (h : Faithful depth conditions) :
    (toJson conditions).fits Json.Number.isExact (depth + 1) = true := by
  rw [toJson, Json.fits_obj, List.forall_mem_map]
  exact fun entry hentry => (h.faithful entry hentry).fits

end Conditions

end DualQuery
