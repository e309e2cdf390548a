import DualQuery.Proofs.KeyMaterial
import DualQuery.Proofs.ReadValues

/-!
# Conditions that are read

A condition that is read from a text is told by its own JSON form, save one: a bare value that has
the form of a set of operators, `Condition.isDisguised`. Such a value is read only where a text
repeats the name of an operator, because a set of operators does not admit this and a value keeps
the last of the repeated fields.

## Key results

- `OperatorSet.ofJson?_eq_some_iff`: what a set of operators is read from
- `OperatorSet.ofJson?_toJson`: a set of operators is read back from its JSON form
- `Condition.readsBack_of_ofJson?`: conditions that are read
- `Descriptor.readsBack_of_parse`: descriptors that are read
-/

namespace DualQuery

/-- What is gathered from a list comes from its items. -/
theorem exists_mem_of_mapM_eq_some {α β : Type} {f : α → Option β} {as : List α} {bs : List β}
    (h : as.mapM f = some bs) {b : β} (hb : b ∈ bs) : ∃ a ∈ as, f a = some b := by
  induction as generalizing bs with
  | nil =>
    obtain rfl := Option.some.inj h
    cases hb
  | cons a as ih =>
    rw [List.mapM_cons] at h
    obtain ⟨c, hc, h⟩ := Option.bind_eq_some_iff.1 h
    obtain ⟨cs, hcs, h⟩ := Option.bind_eq_some_iff.1 h
    obtain rfl := Option.some.inj h
    rcases List.mem_cons.1 hb with rfl | hb
    · exact ⟨a, List.mem_cons_self, hc⟩
    · obtain ⟨a', ha', hb⟩ := ih hcs hb
      exact ⟨a', List.mem_cons_of_mem _ ha', hb⟩

/-- What is gathered from the forms of items, each of which gives its item, are the items. -/
theorem mapM_map_eq_some {α β : Type} {form : α → β} {f : β → Option α} {as : List α}
    (h : ∀ a ∈ as, f (form a) = some a) : (as.map form).mapM f = some as := by
  induction as with
  | nil => rfl
  | cons a as ih =>
    rw [List.forall_mem_cons] at h
    rw [List.map_cons, List.mapM_cons, h.1, ih h.2]
    rfl

/-! ## Fields of structures -/

namespace Json

/-- The immediate parts of a value. -/
def parts : Json → List Json
  | .arr items => items
  | .obj entries => entries.map (·.2)
  | _ => []

/-- All items can be read if each of them can. -/
theorem areReadable_iff (items : List Json) :
    areReadable items = true ↔ ∀ item ∈ items, item.isReadable = true := by
  induction items with
  | nil => simp [areReadable]
  | cons item items ih => rw [areReadable, Bool.and_eq_true, ih, List.forall_mem_cons]

/-- All entries can be read if the value of each of them can. -/
theorem entriesAreReadable_iff (entries : List (String × Json)) :
    entriesAreReadable entries = true ↔ ∀ entry ∈ entries, entry.2.isReadable = true := by
  induction entries with
  | nil => simp [entriesAreReadable]
  | cons entry entries ih => rw [entriesAreReadable, Bool.and_eq_true, ih, List.forall_mem_cons]

/-- The parts of what can be read can be read. -/
theorem isReadable_of_mem_parts {j part : Json} (hj : j.isReadable = true)
    (hpart : part ∈ j.parts) : part.isReadable = true := by
  cases j with
  | arr items => exact (areReadable_iff items).1 hj part hpart
  | obj entries =>
    obtain ⟨entry, hentry, rfl⟩ := List.mem_map.1 hpart
    exact (entriesAreReadable_iff entries).1 hj entry hentry
  | _ => cases hpart

/-- The parts of what is in range are in range. -/
theorem isInRange_of_mem_parts {j part : Json} (hj : j.isInRange = true)
    (hpart : part ∈ j.parts) : part.isInRange = true := by
  cases j with
  | arr items => exact (areInRange_iff items).1 hj part hpart
  | obj entries =>
    obtain ⟨entry, hentry, rfl⟩ := List.mem_map.1 hpart
    exact (entriesAreInRange_iff entries).1 hj entry hentry
  | _ => cases hpart

mutual
/-- What can be written can be read. -/
theorem isReadable_of_isValue : ∀ {j : Json}, j.isValue = true → j.isReadable = true
  | .null, _ | .bool _, _ | .num _, _ | .str _, _ => rfl
  | .arr _, h => areReadable_of_areValues h
  | .obj _, h => entriesAreReadable_of_entriesAreValues h

/-- So can the items of an array. -/
theorem areReadable_of_areValues : ∀ {items : List Json}, areValues items = true →
    areReadable items = true
  | [], _ => rfl
  | item :: items, h => by
    rw [areValues, Bool.and_eq_true] at h
    rw [areReadable, isReadable_of_isValue h.1, areReadable_of_areValues h.2]
    rfl

/-- So can the entries of an object. -/
theorem entriesAreReadable_of_entriesAreValues : ∀ {entries : List (String × Json)},
    entriesAreValues entries = true → entriesAreReadable entries = true
  | [], _ => rfl
  | (_, value) :: entries, h => by
    rw [entriesAreValues, Bool.and_eq_true] at h
    rw [entriesAreReadable, isReadable_of_isValue h.1, entriesAreReadable_of_entriesAreValues h.2]
    rfl
end

/-- A key is looked up in the first entries and then in the others. -/
theorem find?_append (key : String) (entries entries' : List (String × Json)) :
    find? key (entries ++ entries') = (find? key entries).or (find? key entries') := by
  induction entries with
  | nil => rfl
  | cons entry entries ih =>
    rw [List.cons_append, find?, find?]
    split
    · rfl
    · exact ih

/-- The entry of an operand is found under its name, if the operand is there. -/
theorem find?_toList (key name : String) (operand : Option Json) :
    find? key (operand.toList.map fun j => (name, j)) = if name = key then operand else none := by
  cases operand with
  | none => simp [find?]
  | some j => simp [find?]

/-- What is found stands in an entry. -/
theorem mem_of_find?_eq_some {key : String} {entries : List (String × Json)} {j : Json}
    (h : find? key entries = some j) : (key, j) ∈ entries := by
  induction entries with
  | nil => simp [find?] at h
  | cons entry entries ih =>
    rw [find?] at h
    split at h
    next hkey =>
      obtain rfl := Option.some.inj h
      rw [← hkey]
      exact List.mem_cons_self
    next => exact List.mem_cons_of_mem _ (ih h)

/-- What stands under a name of a structure is a part of what it is read from. -/
theorem mem_parts_of_find? {names : List String} {name : String} {j part : Json} {slots : Slots}
    (h : slots? names j = some slots) (hfind : find? name slots = some part) :
    part ∈ j.parts := by
  have hslot := mem_of_find?_eq_some hfind
  cases j with
  | obj entries =>
    simp only [slots?] at h
    split at h
    · obtain rfl := Option.some.inj h
      exact List.mem_map.2 ⟨(name, part), (List.mem_filter.1 hslot).1, rfl⟩
    · cases h
  | arr items =>
    simp only [slots?] at h
    split at h
    · obtain rfl := Option.some.inj h
      exact (List.of_mem_zip hslot).2
    · cases h
  | _ => cases h

/-- Fields that are read strictly are read in the same way otherwise. -/
theorem slots?_of_strictSlots? {names : List String} {j : Json} {slots : Slots}
    (h : strictSlots? names j = some slots) : slots? names j = some slots := by
  unfold strictSlots? at h
  split at h
  · split at h
    · exact h
    · cases h
  · exact h

/-- A field that is read is read from a part that is not null. -/
theorem exists_of_optional? {α : Type} {slots : Slots} {name : String} {read : Json → Option α}
    {a : α} (h : optional? slots name read = some (some a)) :
    ∃ part, find? name slots = some part ∧ part ≠ .null ∧ read part = some a := by
  unfold optional? at h
  split at h
  · cases Option.some.inj h
  · cases Option.some.inj h
  next part hnull hfind =>
    obtain ⟨b, hb, hab⟩ := Option.map_eq_some_iff.1 h
    obtain rfl := Option.some.inj hab
    exact ⟨part, hfind, hnull, hb⟩

/-- A field with a default has it, or is read from a part. -/
theorem eq_or_exists_of_orElse? {α : Type} {slots : Slots} {name : String} {default a : α}
    {read : Json → Option α} (h : orElse? slots name default read = some a) :
    a = default ∨ ∃ part, find? name slots = some part ∧ read part = some a := by
  unfold orElse? at h
  split at h
  next => exact .inl (Option.some.inj h).symm
  next part hfind => exact .inr ⟨part, hfind, h⟩

/-- A field that was written is read. -/
theorem optional?_of_find? {α β : Type} {slots : Slots} {name : String} {operand : Option α}
    {write : α → Json} {read : Json → Option β} {view : α → β}
    (hfind : find? name slots = operand.map write)
    (hread : ∀ a ∈ operand, write a ≠ .null ∧ read (write a) = some (view a)) :
    optional? slots name read = some (operand.map view) := by
  unfold optional?
  rw [hfind]
  cases operand with
  | none => rfl
  | some a =>
    obtain ⟨hnull, ha⟩ := hread a rfl
    rw [Option.map_some]
    -- null means that the field is absent, so what was written must not be null
    split
    next h => cases h
    next h => exact absurd (Option.some.inj h) hnull
    next part _ h =>
      obtain rfl := Option.some.inj h
      rw [ha]
      rfl

end Json

/-! ## Sets of operators -/

namespace Json

/-- The items of an array are read as values one by one. -/
theorem listOf?_ofJson (items : List Json) :
    listOf? (fun j => some (Value.ofJson j)) (.arr items) = some (items.map Value.ofJson) := by
  rw [listOf?]
  induction items with
  | nil => rfl
  | cons item items ih =>
    rw [List.mapM_cons, ih]
    rfl

/-- What an operand that is one value is read from. -/
theorem exists_of_single {slots : Slots} {name : String} {v : Value}
    (h : optional? slots name (fun j => some (Value.ofJson j)) = some (some v)) :
    ∃ part, find? name slots = some part ∧ part ≠ .null ∧ v = Value.ofJson part := by
  obtain ⟨part, hfind, hnull, hread⟩ := exists_of_optional? h
  exact ⟨part, hfind, hnull, (Option.some.inj hread).symm⟩

/-- What an operand that is a list of values is read from. -/
theorem exists_of_listed {slots : Slots} {name : String} {items : List Value}
    (h : optional? slots name (listOf? fun j => some (Value.ofJson j)) = some (some items)) :
    ∃ parts, find? name slots = some (.arr parts) ∧ items = parts.map Value.ofJson := by
  obtain ⟨part, hfind, -, hread⟩ := exists_of_optional? h
  cases part with
  | arr parts =>
    rw [listOf?_ofJson] at hread
    exact ⟨parts, hfind, (Option.some.inj hread).symm⟩
  | _ => cases hread

end Json

/-- The operators of a set are what is read from fields by their names. -/
structure OperatorSet.ReadFrom (set : OperatorSet) (slots : Json.Slots) : Prop where
  eq : Json.optional? slots "eq" (fun j => some (Value.ofJson j)) = some set.eq
  ne : Json.optional? slots "ne" (fun j => some (Value.ofJson j)) = some set.ne
  gt : Json.optional? slots "gt" (fun j => some (Value.ofJson j)) = some set.gt
  ge : Json.optional? slots "gte" (fun j => some (Value.ofJson j)) = some set.ge
  lt : Json.optional? slots "lt" (fun j => some (Value.ofJson j)) = some set.lt
  le : Json.optional? slots "lte" (fun j => some (Value.ofJson j)) = some set.le
  oneOf : Json.optional? slots "in" (Json.listOf? fun j => some (Value.ofJson j)) = some set.oneOf
  noneOf : Json.optional? slots "nin" (Json.listOf? fun j => some (Value.ofJson j)) =
    some set.noneOf
  like : Json.optional? slots "like" Json.str? = some set.like
  isPresent : Json.optional? slots "exists" Json.bool? = some set.isPresent

/-- A set of operators is what is read from fields that have no other names and no name twice. -/
theorem OperatorSet.ofJson?_eq_some_iff {j : Json} {set : OperatorSet} :
    ofJson? j = some set ↔
      ∃ slots, Json.strictSlots? names j = some slots ∧ set.ReadFrom slots := by
  simp only [ofJson?, Option.bind_eq_bind, Option.bind_eq_some_iff]
  constructor
  · rintro ⟨slots, hslots, eq, heq, ne, hne, gt, hgt, ge, hge, lt, hlt, le, hle, oneOf, hin,
      noneOf, hnin, like, hlike, isPresent, hpresent, hset⟩
    obtain rfl := Option.some.inj hset
    exact ⟨slots, hslots, heq, hne, hgt, hge, hlt, hle, hin, hnin, hlike, hpresent⟩
  · rintro ⟨slots, hslots, h⟩
    exact ⟨slots, hslots, _, h.eq, _, h.ne, _, h.gt, _, h.ge, _, h.lt, _, h.le, _, h.oneOf, _,
      h.noneOf, _, h.like, _, h.isPresent, rfl⟩

/-- A value is told by its JSON form: what is read from the form is the value, with integers for its
timestamps. -/
def Value.ReadsBack (v : Value) : Prop := ofJson v.toJson = v.untimed

/-- Every operand of a set is told by its JSON form, and none of them is null where null means that
there is no operand. -/
structure OperatorSet.OperandsReadBack (set : OperatorSet) : Prop where
  single : ∀ operand ∈ [set.eq, set.ne, set.gt, set.ge, set.lt, set.le],
    ∀ v ∈ operand, v.ReadsBack ∧ v.isNull = false
  listed : ∀ operand ∈ [set.oneOf, set.noneOf], ∀ items ∈ operand, ∀ v ∈ items, v.ReadsBack

/-- A value that is told by its form and is not null is not written as null. -/
theorem Value.toJson_ne_null {v : Value} (h : v.ReadsBack) (hnull : v.isNull = false) :
    v.toJson ≠ .null := by
  intro hjson
  rw [Value.ReadsBack, hjson] at h
  rw [← v.isNull_untimed, ← h] at hnull
  cases hnull

/-- A value that is read is told by its JSON form. -/
theorem Value.readsBack_ofJson {j : Json} (hrange : j.isInRange = true) : (ofJson j).ReadsBack :=
  ofJson_toJson (isCanonical_ofJson j) (isFinite_ofJson hrange)

/-- Only null is read as null. -/
theorem Value.isNull_ofJson {j : Json} (hreadable : j.isReadable = true) (hne : j ≠ .null) :
    (ofJson j).isNull = false := by
  cases j with
  | null => exact absurd rfl hne
  | unreadable => cases hreadable
  | num n =>
    cases n with
    | int i =>
      simp only [ofJson, ofNumber]
      split <;> rfl
    | float x => rfl
  | _ => rfl

/-- A list of values is read back item by item. -/
theorem Value.listOf?_toJsonItems {items : List Value} (h : ∀ v ∈ items, v.ReadsBack) :
    Json.listOf? (fun j => some (Value.ofJson j)) (.arr (toJsonItems items)) =
      some (untimedItems items) := by
  rw [Json.listOf?]
  induction items with
  | nil => rfl
  | cons item items ih =>
    rw [List.forall_mem_cons] at h
    rw [toJsonItems, List.mapM_cons, ih h.2, h.1]
    rfl

namespace OperatorSet

/-- The names of the operators that a set has are among all names, each once. -/
theorem sublist_names (set : OperatorSet) :
    ∃ entries, set.toJson = .obj entries ∧ (entries.map (·.1)).Sublist names := by
  have hfield (name : String) (operand : Option Json) :
      ((operand.toList.map fun j => (name, j)).map (·.1)).Sublist [name] := by
    cases operand with
    | none => exact List.nil_sublist _
    | some j => exact List.Sublist.refl _
  refine ⟨_, rfl, ?_⟩
  simp only [List.map_append]
  exact ((((((((hfield "eq" _).append (hfield "ne" _)).append (hfield "gt" _)).append
    (hfield "gte" _)).append (hfield "lt" _)).append (hfield "lte" _)).append
      (hfield "in" _)).append (hfield "nin" _)).append (hfield "like" _) |>.append
        (hfield "exists" _)

/-- All entries of the JSON form of a set count. -/
theorem strictSlots?_toJson (set : OperatorSet) :
    ∃ entries, set.toJson = .obj entries ∧ Json.strictSlots? names set.toJson = some entries := by
  obtain ⟨entries, hentries, hnames⟩ := set.sublist_names
  have hknown : ∀ entry ∈ entries, names.contains entry.1 = true := fun entry hentry =>
    List.contains_iff_mem.2 (hnames.subset (List.mem_map_of_mem hentry))
  have hnodup : Json.noRepeats entries = true :=
    decide_eq_true (hnames.nodup (by decide : names.Nodup))
  refine ⟨entries, hentries, ?_⟩
  rw [hentries, Json.strictSlots?, if_pos (List.all_eq_true.2 hknown), Json.slots?,
    List.filter_eq_self.2 hknown, if_pos hnodup]

/-- What stands under the names of operators in the JSON form of a set. -/
theorem find?_toJson (set : OperatorSet) {entries : List (String × Json)}
    (h : set.toJson = .obj entries) :
    Json.find? "eq" entries = set.eq.map Value.toJson ∧
      Json.find? "ne" entries = set.ne.map Value.toJson ∧
      Json.find? "gt" entries = set.gt.map Value.toJson ∧
      Json.find? "gte" entries = set.ge.map Value.toJson ∧
      Json.find? "lt" entries = set.lt.map Value.toJson ∧
      Json.find? "lte" entries = set.le.map Value.toJson ∧
      Json.find? "in" entries = set.oneOf.map (fun items => .arr (Value.toJsonItems items)) ∧
      Json.find? "nin" entries = set.noneOf.map (fun items => .arr (Value.toJsonItems items)) ∧
      Json.find? "like" entries = set.like.map .str ∧
      Json.find? "exists" entries = set.isPresent.map .bool := by
  rw [toJson, Json.obj.injEq] at h
  subst h
  simp only [Json.find?_append, Json.find?_toList]
  simp

/-- A set of operators is read back from its JSON form. -/
theorem ofJson?_toJson {set : OperatorSet} (h : set.OperandsReadBack) :
    ofJson? set.toJson = some set.untimed := by
  obtain ⟨entries, hentries, hslots⟩ := set.strictSlots?_toJson
  -- the ten operators are read by four readers: one value, a list, a pattern and a truth value
  have hsingle {name : String} {operand : Option Value}
      (hmem : operand ∈ [set.eq, set.ne, set.gt, set.ge, set.lt, set.le])
      (hfind : Json.find? name entries = operand.map Value.toJson) :
      Json.optional? entries name (fun j => some (Value.ofJson j)) =
        some (operand.map Value.untimed) := by
    refine Json.optional?_of_find? hfind fun v hv => ?_
    obtain ⟨hread, hnull⟩ := h.single operand hmem v hv
    exact ⟨Value.toJson_ne_null hread hnull, congrArg some hread⟩
  have hlisted {name : String} {operand : Option (List Value)}
      (hmem : operand ∈ [set.oneOf, set.noneOf])
      (hfind : Json.find? name entries =
        operand.map fun items => .arr (Value.toJsonItems items)) :
      Json.optional? entries name (Json.listOf? fun j => some (Value.ofJson j)) =
        some (operand.map Value.untimedItems) := by
    refine Json.optional?_of_find? hfind fun items hitems => ⟨by simp, ?_⟩
    exact Value.listOf?_toJsonItems (h.listed operand hmem items hitems)
  have hlike (hfind : Json.find? "like" entries = set.like.map .str) :
      Json.optional? entries "like" Json.str? = some (set.like.map id) :=
    Json.optional?_of_find? hfind fun pattern _ => ⟨by simp, rfl⟩
  have hpresent (hfind : Json.find? "exists" entries = set.isPresent.map .bool) :
      Json.optional? entries "exists" Json.bool? = some (set.isPresent.map id) :=
    Json.optional?_of_find? hfind fun present _ => ⟨by simp, rfl⟩
  rw [Option.map_id] at hlike hpresent
  obtain ⟨heq, hne, hgt, hge, hlt, hle, hin, hnin, hpattern, hexists⟩ := set.find?_toJson hentries
  exact ofJson?_eq_some_iff.2 ⟨entries, hslots, hsingle (by simp) heq, hsingle (by simp) hne,
    hsingle (by simp) hgt, hsingle (by simp) hge, hsingle (by simp) hlt, hsingle (by simp) hle,
    hlisted (by simp) hin, hlisted (by simp) hnin, hlike hpattern, hpresent hexists⟩

/-- The operands of a set that is read are told by their JSON forms. -/
theorem operandsReadBack_of_ofJson? {j : Json} {set : OperatorSet} (hreadable : j.isReadable = true)
    (hrange : j.isInRange = true) (h : ofJson? j = some set) : set.OperandsReadBack := by
  obtain ⟨slots, hslots, hset⟩ := ofJson?_eq_some_iff.1 h
  have hpart {name : String} {part : Json} (hfind : Json.find? name slots = some part) :
      part ∈ j.parts := Json.mem_parts_of_find? (Json.slots?_of_strictSlots? hslots) hfind
  -- what an operand is read from is not null, since null would mean that there is none
  have hsingle {name : String} {operand : Option Value}
      (hoperand : Json.optional? slots name (fun j => some (Value.ofJson j)) = some operand) :
      ∀ v ∈ operand, v.ReadsBack ∧ v.isNull = false := by
    intro v hv
    obtain rfl := Option.mem_def.1 hv
    obtain ⟨part, hfind, hne, rfl⟩ := Json.exists_of_single hoperand
    exact ⟨Value.readsBack_ofJson (Json.isInRange_of_mem_parts hrange (hpart hfind)),
      Value.isNull_ofJson (Json.isReadable_of_mem_parts hreadable (hpart hfind)) hne⟩
  have hlisted {name : String} {operand : Option (List Value)}
      (hoperand : Json.optional? slots name (Json.listOf? fun j => some (Value.ofJson j)) =
        some operand) :
      ∀ items ∈ operand, ∀ v ∈ items, v.ReadsBack := by
    intro items hitems
    obtain rfl := Option.mem_def.1 hitems
    obtain ⟨parts, hfind, rfl⟩ := Json.exists_of_listed hoperand
    rw [List.forall_mem_map]
    exact fun item hitem => Value.readsBack_ofJson
      (Json.isInRange_of_mem_parts (Json.isInRange_of_mem_parts hrange (hpart hfind)) hitem)
  -- the six single operands and the two lists, one by one
  constructor
  · simp only [List.forall_mem_cons, List.not_mem_nil, false_imp_iff, implies_true, and_true]
    exact ⟨hsingle hset.eq, hsingle hset.ne, hsingle hset.gt, hsingle hset.ge, hsingle hset.lt,
      hsingle hset.le⟩
  · simp only [List.forall_mem_cons, List.not_mem_nil, false_imp_iff, implies_true, and_true]
    exact ⟨hlisted hset.oneOf, hlisted hset.noneOf⟩

end OperatorSet

/-! ## Conditions -/

namespace Condition

/-- Whether a condition is a bare value that has the form of a set of operators. -/
def isDisguised : Condition → Bool
  | operators _ => false
  | equals value => (OperatorSet.ofJson? value.toJson).isSome

/-- The operands of a condition are told by their JSON forms. -/
def OperandsReadBack : Condition → Prop
  | operators set => set.OperandsReadBack
  | equals value => value.ReadsBack

/-- A condition whose operands are told by their JSON forms is told by its own, unless it is
disguised. -/
theorem readsBack {condition : Condition} (h : condition.OperandsReadBack)
    (hdisguised : condition.isDisguised = false) : condition.ReadsBack := by
  rw [ReadsBack, ofJson?, if_pos (Json.isReadable_of_isValue condition.isValue_toJson)]
  -- a bare value is first tried as a set of operators, which fails unless it is disguised
  cases condition with
  | operators set =>
    rw [toJson, OperatorSet.ofJson?_toJson h]
    rfl
  | equals value =>
    rw [isDisguised, Option.isSome_eq_false_iff, Option.isNone_iff_eq_none] at hdisguised
    rw [toJson, hdisguised]
    exact congrArg (fun v => some (equals v)) h

/-- The operands of a condition that is read are told by their forms. -/
theorem operandsReadBack_of_ofJson? {j : Json} {condition : Condition}
    (hrange : j.isInRange = true) (h : ofJson? j = some condition) :
    condition.OperandsReadBack := by
  unfold ofJson? at h
  split at h
  next hreadable =>
    split at h
    next set hset =>
      obtain rfl := Option.some.inj h
      exact OperatorSet.operandsReadBack_of_ofJson? hreadable hrange hset
    next =>
      obtain rfl := Option.some.inj h
      exact Value.readsBack_ofJson hrange
  next => cases h

/-- A condition that is read is told by its JSON form, unless it is disguised. -/
theorem readsBack_of_ofJson? {j : Json} {condition : Condition} (hrange : j.isInRange = true)
    (h : ofJson? j = some condition) (hdisguised : condition.isDisguised = false) :
    condition.ReadsBack :=
  readsBack (operandsReadBack_of_ofJson? hrange h) hdisguised

end Condition

/-- Each of the conditions is read from a part. -/
theorem Conditions.exists_part_of_mem {j : Json} {conditions : Conditions}
    (h : Conditions.ofJson? j = some conditions) {entry : String × Condition}
    (hentry : entry ∈ conditions) : ∃ part ∈ j.parts, Condition.ofJson? part = some entry.2 := by
  cases j with
  | obj entries =>
    rw [ofJson?] at h
    obtain ⟨read, hread, h⟩ := Option.bind_eq_some_iff.1 h
    obtain rfl := Option.some.inj h
    obtain ⟨written, hwritten, hcondition⟩ :=
      exists_mem_of_mapM_eq_some hread (Keyed.mem_ofList hentry)
    obtain ⟨condition, hread, rfl⟩ := Option.map_eq_some_iff.1 hcondition
    exact ⟨written.2, List.mem_map_of_mem hwritten, hread⟩
  | _ => cases h

/-- Conditions that are read are told by their forms, save those that are disguised. -/
theorem Conditions.readBack_of_ofJson? {j : Json} {conditions : Conditions}
    (hrange : j.isInRange = true) (h : Conditions.ofJson? j = some conditions)
    (hdisguised : ∀ entry ∈ conditions, entry.2.isDisguised = false) :
    Conditions.ReadBack conditions := by
  intro entry hentry
  obtain ⟨part, hpart, hread⟩ := exists_part_of_mem h hentry
  exact Condition.readsBack_of_ofJson? (Json.isInRange_of_mem_parts hrange hpart) hread
    (hdisguised entry hentry)

/-- The conditions of an aggregate that is read are told by their JSON forms. -/
theorem AggregationSpec.readBack_of_ofJson? {j : Json} {spec : AggregationSpec}
    (hrange : j.isInRange = true) (h : ofJson? j = some spec) :
    ∀ conditions ∈ spec.conditions,
      (∀ entry ∈ conditions, entry.2.isDisguised = false) → Conditions.ReadBack conditions := by
  intro own hown hdisguised
  simp only [ofJson?, Option.bind_eq_bind, Option.bind_eq_some_iff] at h
  obtain ⟨fields, hfields, operation, -, field, -, label, -, read, hconditions, hspec⟩ := h
  obtain rfl := Option.some.inj hspec
  obtain rfl := Option.mem_def.1 hown
  obtain ⟨part, hpart, -, hread⟩ := Json.exists_of_optional? hconditions
  have hpart' := Json.isInRange_of_mem_parts hrange (Json.mem_parts_of_find? hfields hpart)
  exact Conditions.readBack_of_ofJson? hpart' hread hdisguised

/-! ## Descriptors -/

namespace Descriptor

/-- The conditions of a descriptor, those of its aggregates included. -/
def allConditions (d : Descriptor) : List Condition :=
  d.conditions.map (·.2) ++
    d.aggregations.flatMap fun spec => (spec.conditions.getD []).map (·.2)

/-- So are those of a descriptor and of its aggregates. -/
theorem readsBack_of_ofJson? {j : Json} {d : Descriptor} (hrange : j.isInRange = true)
    (h : ofJson? j = some d)
    (hdisguised : ∀ condition ∈ d.allConditions, condition.isDisguised = false) :
    d.ReadsBack := by
  simp only [ofJson?, Option.bind_eq_bind, Option.bind_eq_some_iff] at h
  obtain ⟨slots, hslots, conditions, hconditions, joins, -, aggregations, haggregations, groupBy, -,
    sort, -, select, -, pagination, -, search, -, relations, -, hd⟩ := h
  obtain rfl := Option.some.inj hd
  -- each field of the descriptor is read from a part, which is in range as the whole is
  have hslot {name : String} {part : Json} (hfind : Json.find? name slots = some part) :
      part.isInRange = true :=
    Json.isInRange_of_mem_parts hrange (Json.mem_parts_of_find? hslots hfind)
  simp only [allConditions, List.mem_append, List.mem_map, List.mem_flatMap] at hdisguised
  constructor
  · rcases Json.eq_or_exists_of_orElse? hconditions with rfl | ⟨part, hfind, hread⟩
    · exact fun entry hentry => absurd hentry List.not_mem_nil
    · exact Conditions.readBack_of_ofJson? (hslot hfind) hread
        fun entry hentry => hdisguised _ (.inl ⟨entry, hentry, rfl⟩)
  · rcases Json.eq_or_exists_of_orElse? haggregations with rfl | ⟨part, hfind, hlist⟩
    · exact fun spec hspec => absurd hspec List.not_mem_nil
    · intro spec hspec own hown
      cases part with
      | arr items =>
        rw [Json.listOf?] at hlist
        obtain ⟨item, hitem, hread⟩ := exists_mem_of_mapM_eq_some hlist hspec
        have hitem' := Json.isInRange_of_mem_parts (hslot hfind) hitem
        refine AggregationSpec.readBack_of_ofJson? hitem' hread own hown fun entry hentry => ?_
        refine hdisguised _ (.inr ⟨spec, hspec, entry, ?_, rfl⟩)
        rw [Option.mem_def.1 hown]
        exact hentry
      | _ => cases hlist

/-- A text is parsed as a descriptor that can be read from it and is valid. -/
theorem parse_eq_ok_iff {text : String} {d : Descriptor} :
    parse text = .ok d ↔ read? text = some d ∧ d.validate = .ok () := by
  unfold parse
  constructor
  · intro h
    split at h
    next read hread =>
      -- what is read is returned only when it is valid
      cases hvalid : read.validate with
      | error e =>
        rw [hvalid] at h
        cases h
      | ok _ =>
        rw [hvalid] at h
        obtain rfl := Except.ok.inj h
        exact ⟨hread, hvalid⟩
    next => cases h
  · rintro ⟨hread, hvalid⟩
    simp only [hread, hvalid]
    rfl

/-- The conditions of a descriptor that is read are told by their JSON forms, save those that are
disguised. -/
theorem readsBack_of_parse {text : String} {d : Descriptor} (h : parse text = .ok d)
    (hdisguised : ∀ condition ∈ d.allConditions, condition.isDisguised = false) :
    d.ReadsBack := by
  obtain ⟨j, hj, hd⟩ := Option.bind_eq_some_iff.1 (parse_eq_ok_iff.1 h).1
  exact readsBack_of_ofJson? (Json.isInRange_of_outline? hj) hd hdisguised

end Descriptor

end DualQuery
