import DualQuery.Proofs.KeyedOrder
import DualQuery.Store.Basic

/-!
# Canonical records

Objects and records are lists of fields in increasing order of keys, each key once, at every depth.
`Value.isCanonical` decides whether a value is of this form. Values read from JSON are, and tables
keep the form when canonical records are added to them.

## Key results

- `Value.isCanonical_ofJson`: whatever is read from JSON is canonical
- `Record.isCanonical_insert`, `Record.isCanonical_erase`: single fields
- `Store.isCanonical_insertBatch`: tables
-/

namespace DualQuery

namespace Value

mutual
/-- Whether the fields of every object in a value are in increasing order of keys. -/
def isCanonical : Value → Bool
  | array items => areCanonicalItems items
  | object fields => decide (Keyed.Sorted fields) && areCanonicalFields fields
  | _ => true

/-- Whether all items of a list are canonical. -/
def areCanonicalItems : List Value → Bool
  | [] => true
  | item :: items => isCanonical item && areCanonicalItems items

/-- Whether all values of a list of fields are canonical. -/
def areCanonicalFields : List (String × Value) → Bool
  | [] => true
  | (_, value) :: fields => isCanonical value && areCanonicalFields fields
end

/-- All items are canonical if each of them is. -/
theorem areCanonicalItems_iff {items : List Value} :
    areCanonicalItems items ↔ ∀ item ∈ items, item.isCanonical := by
  induction items with
  | nil => simp [areCanonicalItems]
  | cons item items ih => simp [areCanonicalItems, ih]

/-- All fields are canonical if the value of each of them is. -/
theorem areCanonicalFields_iff {fields : List (String × Value)} :
    areCanonicalFields fields ↔ ∀ field ∈ fields, field.2.isCanonical := by
  induction fields with
  | nil => simp [areCanonicalFields]
  | cons field fields ih => simp [areCanonicalFields, ih]

/-- An array is canonical if its items are. -/
@[simp] theorem isCanonical_array {items : List Value} :
    (array items).isCanonical ↔ ∀ item ∈ items, item.isCanonical := by
  rw [isCanonical, areCanonicalItems_iff]

/-- An object is canonical if its fields are in order and their values are canonical. -/
@[simp] theorem isCanonical_object {fields : List (String × Value)} :
    (object fields).isCanonical ↔
      Keyed.Sorted fields ∧ ∀ field ∈ fields, field.2.isCanonical := by
  rw [isCanonical, Bool.and_eq_true, decide_eq_true_iff, areCanonicalFields_iff]

end Value

namespace Record

/-- Whether a record and every object in it are in increasing order of keys. -/
def isCanonical (record : Record) : Bool := (Value.object record).isCanonical

/-- A record is canonical as the object that it is. -/
theorem isCanonical_iff {record : Record} :
    record.isCanonical ↔ Keyed.Sorted record ∧ ∀ field ∈ record, field.2.isCanonical :=
  Value.isCanonical_object

/-- The fields of a canonical record are in order. -/
theorem sorted_of_isCanonical {record : Record} (h : record.isCanonical) : Keyed.Sorted record :=
  (isCanonical_iff.1 h).1

/-- The empty record is canonical. -/
@[simp] theorem isCanonical_nil : isCanonical [] := isCanonical_iff.2 (by simp)

/-- A field of a canonical record has a canonical value. -/
theorem isCanonical_get? {record : Record} (h : record.isCanonical) {key : String} {value : Value}
    (hget : Keyed.get? record key = some value) : value.isCanonical :=
  (isCanonical_iff.1 h).2 _ (Keyed.mem_of_get?_eq_some hget)

/-- Writing a canonical value keeps a record canonical. -/
theorem isCanonical_insert {record : Record} (h : record.isCanonical) (key : String)
    {value : Value} (hvalue : value.isCanonical) : isCanonical (Keyed.insert record key value) := by
  obtain ⟨hsorted, hfields⟩ := isCanonical_iff.1 h
  refine isCanonical_iff.2 ⟨hsorted.insert key value, fun field hfield => ?_⟩
  -- a field is the one that was written or was there before
  rcases Keyed.mem_insert hfield with rfl | hfield
  · exact hvalue
  · exact hfields field hfield

/-- Removing a field keeps a record canonical. -/
theorem isCanonical_erase {record : Record} (h : record.isCanonical) (key : String) :
    isCanonical (Keyed.erase record key) := by
  obtain ⟨hsorted, hfields⟩ := isCanonical_iff.1 h
  exact isCanonical_iff.2
    ⟨hsorted.erase key, fun field hfield => hfields field (List.mem_filter.1 hfield).1⟩

/-- The fields of a canonical value make a canonical record. -/
theorem isCanonical_fieldsOf {value : Option Value} (h : ∀ v, value = some v → v.isCanonical) :
    (fieldsOf value).isCanonical := by
  unfold fieldsOf
  split
  · exact h _ rfl
  · exact isCanonical_nil

/-- Writing canonical values one by one keeps a record canonical. -/
theorem isCanonical_foldl_insert (fields : List (String × Value))
    (h : ∀ field ∈ fields, field.2.isCanonical) {record : Record} (hrecord : record.isCanonical) :
    isCanonical
      (fields.foldl (fun record field => Keyed.insert record field.1 field.2) record) := by
  induction fields generalizing record with
  | nil => exact hrecord
  | cons field fields ih =>
    rw [List.forall_mem_cons] at h
    exact ih h.2 (isCanonical_insert hrecord field.1 h.1)

end Record

namespace Value

mutual
/-- Whatever is read from JSON is canonical. -/
theorem isCanonical_ofJson : (json : Json) → (ofJson json).isCanonical
  | .null | .unreadable | .bool _ | .str _ => rfl
  | .num n => by
    cases n with
    | int i => simp only [ofJson, ofNumber]; split <;> rfl
    | float x => rfl
  | .arr items => by
    simpa only [ofJson, isCanonical_array] using isCanonical_ofJsonItems items
  | .obj entries =>
    Record.isCanonical_foldl_insert _ (isCanonical_ofJsonEntries entries) Record.isCanonical_nil

/-- So are the items of an array. -/
theorem isCanonical_ofJsonItems : (items : List Json) →
    ∀ value ∈ ofJsonItems items, value.isCanonical
  | [] => by simp [ofJsonItems]
  | item :: items => by
    simp only [ofJsonItems, List.forall_mem_cons]
    exact ⟨isCanonical_ofJson item, isCanonical_ofJsonItems items⟩

/-- And the values of entries. -/
theorem isCanonical_ofJsonEntries : (entries : List (String × Json)) →
    ∀ field ∈ ofJsonEntries entries, field.2.isCanonical
  | [] => by simp [ofJsonEntries]
  | (_, json) :: entries => by
    simp only [ofJsonEntries, List.forall_mem_cons]
    exact ⟨isCanonical_ofJson json, isCanonical_ofJsonEntries entries⟩
end

end Value

namespace Store

/-- Whether all records of all tables are canonical. -/
def isCanonical (store : Store) : Bool :=
  store.tables.all fun table => table.2.all Record.isCanonical

/-- A store is canonical if every record of every table is. -/
theorem isCanonical_iff {store : Store} :
    store.isCanonical ↔ ∀ table ∈ store.tables, ∀ record ∈ table.2, record.isCanonical := by
  simp [isCanonical]

/-- The rows of a table of a canonical store are canonical. -/
theorem isCanonical_scan {store : Store} (h : store.isCanonical) {name : String}
    {rows : List Record} (hscan : store.scan name = .ok rows) :
    ∀ row ∈ rows, row.isCanonical := by
  unfold scan at hscan
  split at hscan
  next found hget =>
    cases hscan
    exact isCanonical_iff.1 h _ (Keyed.mem_of_get?_eq_some hget)
  next => cases hscan

/-- Adding canonical records keeps the tables canonical. -/
theorem isCanonical_insertBatch {store : Store} (h : store.isCanonical) (name : String)
    {records : List Record} (hrecords : ∀ record ∈ records, record.isCanonical) :
    (store.insertBatch name records).isCanonical := by
  refine isCanonical_iff.2 fun table htable record hrecord => ?_
  -- a row of the written table was there before or is one of the records; the other tables are as
  -- they were
  rcases Keyed.mem_insert htable with rfl | htable
  · rcases List.mem_append.1 hrecord with hrecord | hrecord
    · cases hget : Keyed.get? store.tables name with
      | none => simp [hget] at hrecord
      | some rows =>
        rw [hget] at hrecord
        exact isCanonical_iff.1 h _ (Keyed.mem_of_get?_eq_some hget) record hrecord
    · exact hrecords record hrecord
  · exact isCanonical_iff.1 h table htable record hrecord

end Store

end DualQuery
