import DualQuery.Document.Writer
import DualQuery.Proofs.DistinctEntries
import DualQuery.Proofs.RecordPath
import Mathlib.Data.List.Nodup

/-!
# Written groups

A group by several fields is written as two stages. The first one groups by an object that refers to
the fields under keys of its own, and the second one reads these keys back. `Document.KeepsKey` says
that nothing of the key is lost on the way.

A key is its field with each dot replaced. Fields that differ in nothing but a dot share a key, so
the object refers to the last of them only, and all of them are read back from there. Nothing is
lost exactly if no two fields share a key.

## Key results

- `Document.KeepsKey`: what the two stages are to do
- `Document.length_idEntries`, `Document.keepsKey_of_nodup`: the entries of the key
- `Document.keepsKey_iff`: when the two stages do it
- `Document.Pipeline.toJson_keeps_group_key_iff`: groups in pipelines
-/

namespace DualQuery

/-- Keys that are made of the items of a list are found if no two of them are the same. -/
theorem Keyed.get?_map_of_nodup {α β : Type} {items : List β} {key : β → String}
    (h : (items.map key).Nodup) (value : β → α) {item : β} (hitem : item ∈ items) :
    Keyed.get? (items.map fun item => (key item, value item)) (key item) = some (value item) := by
  -- the key in front is another one, unless the item is in front itself
  induction items with
  | nil => cases hitem
  | cons first items ih =>
    rw [List.map_cons, List.nodup_cons] at h
    rw [List.map_cons, Keyed.get?]
    rcases List.mem_cons.1 hitem with rfl | hitem
    · rw [if_pos rfl]
    · have hne : key first ≠ key item := fun heq => h.1 (heq ▸ List.mem_map_of_mem hitem)
      rw [if_neg hne, ih h.2 hitem]

namespace Document

/-! ## References -/

/-- The path that is referred to. -/
def refPath? : Json → Option String
  | .str text =>
    match text.toList with
    | '$' :: path => some (String.ofList path)
    | _ => none
  | _ => none

/-- A reference to a path refers to the path. -/
@[simp] theorem refPath?_pathRef (path : String) : refPath? (pathRef path) = some path := by
  simp [refPath?, pathRef]

/-- What an object of references makes of a row. -/
def idOf (id : List (String × Json)) (row : Record) : Record :=
  id.filterMap fun entry => (refPath? entry.2).map fun path => (entry.1, Record.valueAt row path)

/-- What the two stages of a group by several fields are to do, given the object to group by and the
entries that lift its parts. -/
structure KeepsKey (fields : List String) (id lift : List (String × Json)) : Prop where
  length_eq : id.length = fields.length
  /-- Each field has a key of its own, under which it is referred to and from which it is lifted. -/
  entry : ∀ field ∈ fields, ∃ key, Text.isDotted key = false ∧
    Json.find? key id = some (pathRef field) ∧
    Json.find? field lift = some (pathRef ("_id." ++ key))
  /-- Rows are grouped together if they agree on all fields, and only then. -/
  agree (a b : Record) : (Value.object (idOf id a) == Value.object (idOf id b)) = true ↔
    ∀ field ∈ fields, (Record.valueAt a field == Record.valueAt b field) = true
  /-- What is lifted is the value that the rows have. -/
  lifted (row : Record) : ∀ field ∈ fields, ∃ path,
    (Json.find? field lift).bind refPath? = some path ∧
    Record.valueAt [("_id", .object (idOf id row))] path = Record.valueAt row field

/-! ## The keys of the fields -/

variable {fields : List String}

/-- The key of a field has no dots, so it is read back from below `_id` in one step. -/
theorem isDotted_idKey (field : String) : Text.isDotted (idKey field) = false := by
  -- each dot is replaced, and nothing is replaced by a dot
  have hfree : ∀ c : Char, (if c = '.' then '_' else c) ≠ '.' := fun c => by split <;> simp_all
  simp [Text.isDotted, idKey, hfree]

/-- The entries of the object to group by. -/
def idEntries (fields : List String) : List (String × Json) :=
  Json.distinctEntries (fields.map fun field => (idKey field, pathRef field))

/-- There are as many entries as there are different keys. -/
theorem length_idEntries (fields : List String) :
    (idEntries fields).length = (fields.map idKey).eraseDups.length := by
  rw [← List.length_map (f := Prod.fst), idEntries, Json.map_fst_distinctEntries, List.map_map]
  rfl

/-- Where no two fields share a key, each has an entry, in their order. -/
theorem idEntries_of_nodup (h : (fields.map idKey).Nodup) :
    idEntries fields = fields.map fun field => (idKey field, pathRef field) := by
  refine Json.distinctEntries_of_nodup ?_
  rw [List.map_map]
  exact h

/-- Then the object that a row is grouped by holds the values of all fields. -/
theorem idOf_idEntries (h : (fields.map idKey).Nodup) (row : Record) :
    idOf (idEntries fields) row =
      fields.map fun field => (idKey field, Record.valueAt row field) := by
  rw [idEntries_of_nodup h, idOf, List.filterMap_map, ← List.filterMap_eq_map]
  simp

/-- Objects with the same keys are equal if their values are. -/
theorem equalFields_map_iff (key : String → String) (a b : String → Value) :
    Value.equalFields (fields.map fun field => (key field, a field))
        (fields.map fun field => (key field, b field)) = true ↔
      ∀ field ∈ fields, (a field == b field) = true := by
  -- the keys stand in the same order on both sides, so only the values can differ
  induction fields with
  | nil => simp [Value.equalFields]
  | cons field fields ih =>
    rw [List.map_cons, List.map_cons, Value.equalFields, Bool.and_eq_true, Bool.and_eq_true, ih,
      List.forall_mem_cons]
    simp [BEq.beq]

/-! ## The two stages -/

variable {accumulators : List Accumulator}

/-- The entries of the second stage. -/
def liftedEntries (fields : List String) (accumulators : List Accumulator) :
    List (String × Json) :=
  Json.distinctEntries (("_id", .ofNat 0) :: (GroupKey.composite fields).liftEntries ++
    accumulators.map fun a => (a.output, .ofNat 1))

/-- A reference below `_id` is written in one piece. -/
theorem pathRef_id (key : String) : pathRef ("_id." ++ key) = .str ("$_id." ++ key) := by
  rw [pathRef, ← String.append_assoc]
  rfl

/-- A field is lifted from its key. -/
theorem find?_liftedEntries (hnodup : fields.Nodup)
    (houtputs : ∀ a ∈ accumulators, a.output ∉ fields) {field : String} (hfield : field ∈ fields) :
    Json.find? field (liftedEntries fields accumulators) =
      some (pathRef ("_id." ++ idKey field)) := by
  obtain ⟨front, back, rfl⟩ := List.append_of_mem hfield
  have hback : field ∉ back := (List.nodup_cons.1 (List.nodup_append.1 hnodup).2.1).1
  -- neither the later fields nor the aggregates have the name of the field
  have hlast : ∀ entry ∈ (GroupKey.composite back).liftEntries ++
      accumulators.map fun a => (a.output, Json.ofNat 1), entry.1 ≠ field := by
    intro entry hentry heq
    rcases List.mem_append.1 hentry with hentry | hentry
    · obtain ⟨other, hother, rfl⟩ := List.mem_map.1 hentry
      exact hback (heq ▸ hother)
    · obtain ⟨a, ha, rfl⟩ := List.mem_map.1 hentry
      exact houtputs a ha (heq ▸ hfield)
  -- of the entries with one name the last one counts
  have hfind : Json.find? field (Json.distinctEntries
      ((("_id", .ofNat 0) :: (GroupKey.composite front).liftEntries) ++
        (field, .str ("$_id." ++ idKey field)) :: ((GroupKey.composite back).liftEntries ++
          accumulators.map fun a => (a.output, .ofNat 1)))) =
      some (.str ("$_id." ++ idKey field)) :=
    Json.find?_distinctEntries_of_last hlast
  rw [pathRef_id, ← hfind]
  simp [liftedEntries, GroupKey.liftEntries]

/-- What stands under a key of `_id`. -/
theorem valueAt_id (fields : Record) {key : String} (hdot : Text.isDotted key = false) :
    Record.valueAt [("_id", .object fields)] ("_id." ++ key) =
      (Keyed.get? fields key).getD .null := by
  -- the path has two segments, as there is no dot in the key
  have hfree : '.' ∉ key.toList := by simpa [Text.isDotted] using hdot
  have hcut : Text.cut '.' (Text.paste '.' ["_id".toList, key.toList]) =
      ["_id".toList, key.toList] := Text.cut_paste '.' (by simp) (by simp [hfree])
  have hsegments : Text.segments ("_id." ++ key) = ["_id", key] := by
    simpa [Text.segments, Text.paste] using congrArg (List.map String.ofList) hcut
  rw [Record.valueAt, Record.getPath?, hsegments]
  rfl

/-- Where no two fields share a key, nothing of the key is lost. -/
theorem keepsKey_of_nodup (hnodup : fields.Nodup)
    (houtputs : ∀ a ∈ accumulators, a.output ∉ fields) (hkeys : (fields.map idKey).Nodup) :
    KeepsKey fields (idEntries fields) (liftedEntries fields accumulators) where
  length_eq := by rw [idEntries_of_nodup hkeys, List.length_map]
  entry := fun field hfield => by
    refine ⟨idKey field, isDotted_idKey field, ?_, find?_liftedEntries hnodup houtputs hfield⟩
    rw [idEntries_of_nodup hkeys, Json.find?_eq_get?, Keyed.get?_map_of_nodup hkeys _ hfield]
  agree := fun a b => by
    -- both objects hold the values of all fields under the same keys
    rw [idOf_idEntries hkeys, idOf_idEntries hkeys, ← equalFields_map_iff idKey]
    rfl
  lifted := fun row field hfield => by
    refine ⟨"_id." ++ idKey field, ?_, ?_⟩
    · rw [find?_liftedEntries hnodup houtputs hfield, Option.bind_some, refPath?_pathRef]
    · rw [valueAt_id _ (isDotted_idKey field), idOf_idEntries hkeys,
        Keyed.get?_map_of_nodup hkeys _ hfield, Option.getD_some]

/-- Where two fields share a key, there are too few entries. -/
theorem keepsKey_iff (hnodup : fields.Nodup)
    (houtputs : ∀ a ∈ accumulators, a.output ∉ fields) :
    KeepsKey fields (idEntries fields) (liftedEntries fields accumulators) ↔
      (fields.map idKey).Nodup := by
  refine ⟨fun h => ?_, keepsKey_of_nodup hnodup houtputs⟩
  -- as many entries as fields means that no key is dropped as a repetition
  rw [← List.length_eraseDups_eq_iff, ← length_idEntries, h.length_eq, List.length_map]

/-- The object to group by is not replaced by an aggregate. -/
theorem find?_id (houtputs : ∀ a ∈ accumulators, a.output ≠ "_id") (id : Json) :
    Json.find? "_id" (Json.distinctEntries
      (("_id", id) :: accumulators.map fun a => (a.output, a.toJson))) = some id := by
  rw [← List.nil_append (("_id", id) :: _)]
  -- the object is the last entry with its name
  refine Json.find?_distinctEntries_of_last fun entry hentry => ?_
  obtain ⟨a, ha, rfl⟩ := List.mem_map.1 hentry
  exact houtputs a ha

/-! ## Groups in pipelines -/

/-- A group by different fields is written as two stages between those of the rest, and they keep
its key exactly if no two fields become the same by the replacement of dots. -/
theorem Pipeline.toJson_keeps_group_key_iff (pipeline : Pipeline) {front back : List Stage}
    (hstages : pipeline.stages = front ++ .group (.composite fields) accumulators :: back)
    (hnodup : fields.Nodup)
    (houtputs : ∀ a ∈ accumulators, a.output ∉ fields ∧ a.output ≠ "_id") :
    ∃ group lift id : List (String × Json),
      pipeline.toJson = .arr (Stage.toJsonOfAll front ++
        entry "$group" (.obj group) :: entry "$project" (.obj lift) ::
          Stage.toJsonOfAll back) ∧
      Json.find? "_id" group = some (.obj id) ∧
      (KeepsKey fields id lift ↔ (fields.map idKey).Nodup) := by
  refine ⟨_, liftedEntries fields accumulators, idEntries fields, ?_,
    find?_id (fun a ha => (houtputs a ha).2) _,
    keepsKey_iff hnodup fun a ha => (houtputs a ha).1⟩
  -- the stages in front of the group and behind it are written on their own
  rw [Pipeline.toJson, hstages, Stage.toJsonOfAll_append, Stage.toJsonOfAll, Stage.toJson,
    groupJson]
  rfl

/-- A dot in one of the fields does no harm as long as no other field has an underscore in its
place. -/
theorem Pipeline.toJson_keeps_group_key_iff_places :
    let places : Pipeline := { stages := [.filter (.field "open" .eq (.bool true)),
      .group (.composite ["city", "address.zip"]) [⟨"n", .count, none, none⟩]] }
    ∃ group lift id : List (String × Json),
      places.toJson = .arr [entry "$match" (entry "open" (.bool true)),
        entry "$group" (.obj group), entry "$project" (.obj lift)] ∧
      Json.find? "_id" group = some (.obj id) ∧ KeepsKey ["city", "address.zip"] id lift := by
  intro places
  have hstages : places.stages = [.filter (.field "open" .eq (.bool true))] ++
      .group (.composite ["city", "address.zip"]) [⟨"n", .count, none, none⟩] :: [] := rfl
  obtain ⟨group, lift, id, hjson, hid, hkeeps⟩ :=
    Pipeline.toJson_keeps_group_key_iff places hstages (by decide) (by simp)
  exact ⟨group, lift, id, hjson, hid, hkeeps.2 (by decide)⟩

/-- Two fields that share a key are both read back from the second one. -/
theorem Pipeline.toJson_merges_group_fields :
    ({ stages := [.group (.composite ["a.b", "a_b"]) []] } : Pipeline).toJson =
      .arr [entry "$group" (entry "_id" (entry "a_b" (.str "$a_b"))),
        entry "$project" (.obj [("_id", .ofNat 0), ("a.b", .str "$_id.a_b"),
          ("a_b", .str "$_id.a_b")])] := by
  rfl

end Document

end DualQuery
