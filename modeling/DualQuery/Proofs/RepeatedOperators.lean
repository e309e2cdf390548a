import DualQuery.Proofs.ReadConditions

/-!
# Repeated operators

Reading a value and writing it again keeps the kind of every part, and where no name is repeated it
keeps what stands under each name. Whether a set of operators can be read hangs on just this. A bare
value that is read has the form of a set of operators, therefore, only if the name of an operator is
repeated in the text: the set is then refused, and the value keeps the last of the repeated fields.

## Key results

- `OperatorSet.isSome_ofJson?_iff`: when a set of operators can be read
- `Condition.exists_repeated_of_isDisguised`: where disguised conditions come from
-/

namespace DualQuery

namespace Json

/-! ## Reading and writing again -/

/-- What is written for the value that is read. -/
def rewritten (j : Json) : Json := (Value.ofJson j).toJson

/-- A readable value whose numbers are in range keeps its kind when it is read and written again. -/
theorem kind_rewritten {j : Json} (hreadable : j.isReadable = true) (hrange : j.isInRange = true) :
    j.rewritten.kind = j.kind := by
  cases j with
  | unreadable => cases hreadable
  | num n =>
    -- an infinite double is the only number that would be written as null
    have hfinite := Value.isFinite_ofNumber hrange
    have hnumber : (Value.ofNumber n).toJson.kind = 6 := by
      cases n with
      | float x =>
        rw [Value.ofNumber, Value.isFinite] at hfinite
        rw [Value.ofNumber, Value.toJson, if_pos hfinite]
        rfl
      | int i =>
        rw [Value.ofNumber] at hfinite ⊢
        split
        · rfl
        next hfits =>
          rw [if_neg hfits, Value.isFinite] at hfinite
          rw [Value.toJson, if_pos hfinite]
          rfl
    exact hnumber
  | bool b => cases b <;> rfl
  | _ => rfl

/-- Looking up a name after a change of every part is the change of what is looked up. -/
theorem find?_map (key : String) (entries : List (String × Json)) (f : Json → Json) :
    find? key (entries.map fun entry => (entry.1, f entry.2)) = (find? key entries).map f := by
  induction entries with
  | nil => rfl
  | cons entry entries ih =>
    rw [List.map_cons, find?, find?]
    split
    · rfl
    · exact ih

/-- Under each name of a written record stands the written field. -/
theorem find?_toJsonEntries (key : String) (fields : Keyed Value) :
    find? key (Value.toJsonEntries fields) = (Keyed.get? fields key).map Value.toJson := by
  induction fields with
  | nil => rfl
  | cons field fields ih =>
    rw [Value.toJsonEntries, find?, Keyed.get?]
    split
    · rfl
    · exact ih

/-- Under each name of a record that is read stands the value read from the first entry of that
name. -/
theorem get?_ofJsonEntries (entries : List (String × Json)) (key : String) :
    Keyed.get? (Value.ofJsonEntries entries) key = (find? key entries).map Value.ofJson := by
  induction entries with
  | nil => rfl
  | cons entry entries ih =>
    rw [Value.ofJsonEntries, find?, Keyed.get?]
    split
    · rfl
    · exact ih

/-- An array is written again item by item. -/
theorem rewritten_arr (items : List Json) :
    (Json.arr items).rewritten = .arr (items.map rewritten) := by
  have hitems : Value.toJsonItems (Value.ofJsonItems items) = items.map rewritten := by
    induction items with
    | nil => rfl
    | cons item items ih =>
      rw [Value.ofJsonItems, Value.toJsonItems, ih, List.map_cons]
      rfl
  rw [rewritten, Value.ofJson, Value.toJson, hitems]

/-- Where no name is repeated, an object that is written again has under each name what stood
there. -/
theorem exists_rewritten_obj {entries : List (String × Json)} (h : noRepeats entries = true) :
    ∃ fields, (Json.obj entries).rewritten = .obj fields ∧
      ∀ key, find? key fields = (find? key entries).map rewritten := by
  refine ⟨_, rfl, fun key => ?_⟩
  have hnames : (Value.ofJsonEntries entries).map (·.1) = entries.map (·.1) := by
    clear h
    induction entries with
    | nil => rfl
    | cons entry entries ih => rw [Value.ofJsonEntries, List.map_cons, ih, List.map_cons]
  -- without repeated names the inserted fields are found where a search through the list finds them
  have hnodup : ((Value.ofJsonEntries entries).map (·.1)).Nodup := by
    rw [hnames]
    exact of_decide_eq_true h
  rw [find?_toJsonEntries, Keyed.ofList, Keyed.get?_foldl_insert_of_nodup hnodup,
    get?_ofJsonEntries, Keyed.get?, Option.or_none, Option.map_map]
  rfl

/-- Something stands under the name of every entry. -/
theorem exists_find?_of_mem {entries : List (String × Json)} {entry : String × Json}
    (h : entry ∈ entries) : ∃ part, find? entry.1 entries = some part := by
  induction entries with
  | nil => cases h
  | cons first entries ih =>
    rw [find?]
    split
    next => exact ⟨first.2, rfl⟩
    next hne =>
      rcases List.mem_cons.1 h with rfl | h
      · exact absurd rfl hne
      · exact ih h

/-! ## Fields that can be read -/

/-- Among readable values only null has the kind of null. -/
theorem kind_eq_zero_iff {j : Json} (h : j.isReadable = true) : j.kind = 0 ↔ j = .null := by
  cases j with
  | unreadable => cases h
  | bool b => cases b <;> simp [kind]
  | _ => simp [kind]

/-- A field can be read where its value is null or fits the reader. -/
theorem isSome_optional?_iff {α : Type} {slots : Slots} {name : String} {read : Json → Option α}
    {Fit : Json → Prop} (hreadable : ∀ part ∈ find? name slots, part.isReadable = true)
    (hread : ∀ part, (read part).isSome = true ↔ Fit part) :
    (optional? slots name read).isSome = true ↔
      ∀ part ∈ find? name slots, part.kind = 0 ∨ Fit part := by
  unfold optional?
  split
  next h => simp [h]
  next h => simp [h, kind]
  next part hnull h =>
    have hkind : part.kind ≠ 0 := fun hkind =>
      hnull ((kind_eq_zero_iff (hreadable part h)).1 hkind)
    simp [h, hread, hkind]

/-- A list of values can be read from an array and from nothing else. -/
theorem isSome_listOf?_iff (part : Json) :
    (listOf? (fun j => some (Value.ofJson j)) part).isSome = true ↔ part.kind = 4 := by
  cases part with
  | arr items =>
    rw [listOf?_ofJson]
    exact iff_of_true rfl rfl
  | bool b => cases b <;> simp [listOf?, kind]
  | _ => simp [listOf?, kind]

/-- A text can be read from a string and from nothing else. -/
theorem isSome_str?_iff (part : Json) : part.str?.isSome = true ↔ part.kind = 3 := by
  cases part with
  | bool b => cases b <;> simp [str?, kind]
  | _ => simp [str?, kind]

/-- A truth value can be read from one of the two truth values and from nothing else. -/
theorem isSome_bool?_iff (part : Json) :
    part.bool?.isSome = true ↔ part.kind = 1 ∨ part.kind = 2 := by
  cases part with
  | bool b => cases b <;> simp [bool?, kind]
  | _ => simp [bool?, kind]

end Json

namespace OperatorSet

open Json

/-- What stands under each name can be read as the operand of an operator. -/
structure Fits (slots : Slots) : Prop where
  oneOf : ∀ part ∈ find? "in" slots, part.kind = 0 ∨ part.kind = 4
  noneOf : ∀ part ∈ find? "nin" slots, part.kind = 0 ∨ part.kind = 4
  like : ∀ part ∈ find? "like" slots, part.kind = 0 ∨ part.kind = 3
  isPresent : ∀ part ∈ find? "exists" slots, part.kind = 0 ∨ part.kind = 1 ∨ part.kind = 2

/-- A set of operators can be read where there are no other names, none is repeated and what stands
under each is of its kind. -/
theorem isSome_ofJson?_iff {j : Json} (h : j.isReadable = true) :
    (ofJson? j).isSome = true ↔ ∃ slots, strictSlots? names j = some slots ∧ Fits slots := by
  have hreadable {slots : Slots} (hslots : strictSlots? names j = some slots) (name : String) :
      ∀ part ∈ find? name slots, part.isReadable = true := fun part hpart =>
    isReadable_of_mem_parts h (mem_parts_of_find? (slots?_of_strictSlots? hslots) hpart)
  have hsingle (slots : Slots) (name : String) :
      (optional? slots name fun j => some (Value.ofJson j)).isSome = true := by
    unfold optional?
    split <;> rfl
  have hlisted {slots : Slots} (hslots : strictSlots? names j = some slots) (name : String) :
      (optional? slots name (listOf? fun j => some (Value.ofJson j))).isSome = true ↔
        ∀ part ∈ find? name slots, part.kind = 0 ∨ part.kind = 4 :=
    isSome_optional?_iff (hreadable hslots name) isSome_listOf?_iff
  have hlike {slots : Slots} (hslots : strictSlots? names j = some slots) :
      (optional? slots "like" str?).isSome = true ↔
        ∀ part ∈ find? "like" slots, part.kind = 0 ∨ part.kind = 3 :=
    isSome_optional?_iff (hreadable hslots "like") isSome_str?_iff
  have hpresent {slots : Slots} (hslots : strictSlots? names j = some slots) :
      (optional? slots "exists" bool?).isSome = true ↔
        ∀ part ∈ find? "exists" slots, part.kind = 0 ∨ part.kind = 1 ∨ part.kind = 2 :=
    isSome_optional?_iff (hreadable hslots "exists") isSome_bool?_iff
  -- ten operands are read one after the other: four of them restrict what may stand there, the
  -- other six take any value
  constructor
  · intro hsome
    obtain ⟨set, hset⟩ := Option.isSome_iff_exists.1 hsome
    obtain ⟨slots, hslots, hset⟩ := ofJson?_eq_some_iff.1 hset
    exact ⟨slots, hslots,
      (hlisted hslots "in").1 (Option.isSome_of_eq_some hset.oneOf),
      (hlisted hslots "nin").1 (Option.isSome_of_eq_some hset.noneOf),
      (hlike hslots).1 (Option.isSome_of_eq_some hset.like),
      (hpresent hslots).1 (Option.isSome_of_eq_some hset.isPresent)⟩
  · rintro ⟨slots, hslots, hfits⟩
    obtain ⟨eq, heq⟩ := Option.isSome_iff_exists.1 (hsingle slots "eq")
    obtain ⟨ne, hne⟩ := Option.isSome_iff_exists.1 (hsingle slots "ne")
    obtain ⟨gt, hgt⟩ := Option.isSome_iff_exists.1 (hsingle slots "gt")
    obtain ⟨ge, hge⟩ := Option.isSome_iff_exists.1 (hsingle slots "gte")
    obtain ⟨lt, hlt⟩ := Option.isSome_iff_exists.1 (hsingle slots "lt")
    obtain ⟨le, hle⟩ := Option.isSome_iff_exists.1 (hsingle slots "lte")
    obtain ⟨oneOf, hin⟩ := Option.isSome_iff_exists.1 ((hlisted hslots "in").2 hfits.oneOf)
    obtain ⟨noneOf, hnin⟩ := Option.isSome_iff_exists.1 ((hlisted hslots "nin").2 hfits.noneOf)
    obtain ⟨like, hpattern⟩ := Option.isSome_iff_exists.1 ((hlike hslots).2 hfits.like)
    obtain ⟨isPresent, hexists⟩ := Option.isSome_iff_exists.1 ((hpresent hslots).2 hfits.isPresent)
    have hset : ofJson? j =
        some ⟨eq, ne, gt, ge, lt, le, oneOf, noneOf, like, isPresent⟩ :=
      ofJson?_eq_some_iff.2
        ⟨slots, hslots, heq, hne, hgt, hge, hlt, hle, hin, hnin, hpattern, hexists⟩
    exact Option.isSome_of_eq_some hset

/-- Fields under the same names, with values of the same kinds, fit alike. -/
theorem Fits.congr {slots slots' : Slots} (hfits : Fits slots')
    (h : ∀ name, (find? name slots').map kind = (find? name slots).map kind) : Fits slots := by
  -- what fits is said by kinds, which are the same under each name
  have hpart {name : String} (fit : Nat → Prop)
      (hfit : ∀ part ∈ find? name slots', fit part.kind) :
      ∀ part ∈ find? name slots, fit part.kind := by
    intro part hpart
    have hkind := h name
    rw [Option.mem_def.1 hpart, Option.map_some] at hkind
    obtain ⟨part', hpart', hkind⟩ := Option.map_eq_some_iff.1 hkind
    rw [← hkind]
    exact hfit part' hpart'
  exact ⟨hpart (fun kind => kind = 0 ∨ kind = 4) hfits.oneOf,
    hpart (fun kind => kind = 0 ∨ kind = 4) hfits.noneOf,
    hpart (fun kind => kind = 0 ∨ kind = 3) hfits.like,
    hpart (fun kind => kind = 0 ∨ kind = 1 ∨ kind = 2) hfits.isPresent⟩

/-- The names of operators in an object, where none is repeated, are those of the object that is
written again. -/
theorem strictSlots?_of_rewritten_obj {entries : List (String × Json)} {slots' : Slots}
    (hentries : noRepeats entries = true)
    (h : strictSlots? names (Json.obj entries).rewritten = some slots') :
    strictSlots? names (.obj entries) = some entries ∧
      ∀ name, find? name slots' = (find? name entries).map rewritten := by
  obtain ⟨fields, hfields, hfind⟩ := exists_rewritten_obj hentries
  rw [hfields] at h
  have hall : ∀ field ∈ fields, names.contains field.1 = true := by
    rw [strictSlots?] at h
    split at h
    next hall => exact List.all_eq_true.1 hall
    next => cases h
  have hslots' : slots' = fields := by
    rw [strictSlots?, if_pos (List.all_eq_true.2 hall), slots?, List.filter_eq_self.2 hall] at h
    split at h
    · exact (Option.some.inj h).symm
    · cases h
  -- a name that is not that of an operator would have been written again
  have hknown : ∀ entry ∈ entries, names.contains entry.1 = true := by
    intro entry hentry
    obtain ⟨part, hpart⟩ := exists_find?_of_mem hentry
    have hwritten : find? entry.1 fields = some part.rewritten := by
      rw [hfind, hpart, Option.map_some]
    exact hall (entry.1, part.rewritten) (mem_of_find?_eq_some hwritten)
  refine ⟨?_, fun name => hslots' ▸ hfind name⟩
  rw [strictSlots?, if_pos (List.all_eq_true.2 hknown), slots?, List.filter_eq_self.2 hknown,
    if_pos hentries]

/-- A number has no operators: it is written again as a number, or as null. -/
theorem strictSlots?_rewritten_num (n : Number) :
    strictSlots? names (Json.num n).rewritten = none := by
  cases n with
  | int i =>
    simp only [rewritten, Value.ofJson, Value.ofNumber]
    split
    · rfl
    · rw [Value.toJson]
      split <;> rfl
  | float x =>
    simp only [rewritten, Value.ofJson, Value.ofNumber, Value.toJson]
    split <;> rfl

/-- The fields of what is written again have the names and kinds of the fields that were read, where
no name is repeated. -/
theorem exists_slots_of_rewritten {j : Json}
    (hrepeats : ∀ entries, j = .obj entries → noRepeats entries = true) {slots' : Slots}
    (h : strictSlots? names j.rewritten = some slots') :
    ∃ slots, strictSlots? names j = some slots ∧
      ∀ name, find? name slots' = (find? name slots).map rewritten := by
  -- by the form of the slots: an array by its places, an object by its names
  cases j with
  | arr items =>
    rw [rewritten_arr] at h
    simp only [strictSlots?, slots?, List.length_map] at h ⊢
    split at h
    next hlength =>
      obtain rfl := Option.some.inj h
      refine ⟨names.zip items, if_pos hlength, fun name => ?_⟩
      rw [List.zip_map_right]
      exact find?_map name (names.zip items) rewritten
    next => cases h
  | obj entries => exact ⟨entries, strictSlots?_of_rewritten_obj (hrepeats entries rfl) h⟩
  | num n =>
    rw [strictSlots?_rewritten_num] at h
    cases h
  | _ => cases h

end OperatorSet

/-- A bare value that is read has the form of a set of operators only if a name is repeated. -/
theorem Condition.exists_repeated_of_isDisguised {j : Json} {condition : Condition}
    (hrange : j.isInRange = true) (h : Condition.ofJson? j = some condition)
    (hdisguised : condition.isDisguised = true) :
    ∃ entries, j = .obj entries ∧ Json.noRepeats entries = false := by
  by_contra hcontra
  have hrepeats : ∀ entries, j = .obj entries → Json.noRepeats entries = true := by
    intro entries hj
    cases hnames : Json.noRepeats entries with
    | true => rfl
    | false => exact absurd ⟨entries, hj, hnames⟩ hcontra
  rw [Condition.ofJson?] at h
  split at h
  next hreadable =>
    split at h
    next set hset =>
      obtain rfl := Option.some.inj h
      cases hdisguised
    next hset =>
      obtain rfl := Option.some.inj h
      -- the value that is written again could be read as a set, so the value itself could be
      have hreadable' : j.rewritten.isReadable = true :=
        Json.isReadable_of_isValue (Value.ofJson j).isValue_toJson
      obtain ⟨slots', hslots', hfits⟩ := (OperatorSet.isSome_ofJson?_iff hreadable').1 hdisguised
      obtain ⟨slots, hslots, hfind⟩ := OperatorSet.exists_slots_of_rewritten hrepeats hslots'
      have hkind (name : String) :
          (Json.find? name slots').map Json.kind = (Json.find? name slots).map Json.kind := by
        rw [hfind, Option.map_map]
        refine Option.map_congr fun part hpart => ?_
        have hmem := Json.mem_parts_of_find? (Json.slots?_of_strictSlots? hslots) hpart
        exact Json.kind_rewritten (Json.isReadable_of_mem_parts hreadable hmem)
          (Json.isInRange_of_mem_parts hrange hmem)
      have hsome := (OperatorSet.isSome_ofJson?_iff hreadable).2 ⟨slots, hslots, hfits.congr hkind⟩
      rw [hset] at hsome
      cases hsome
  next => cases h

end DualQuery
