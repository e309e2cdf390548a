import DualQuery.Schema.Resolution
import DualQuery.Store.Basic
import DualQuery.Value.Index

/-!
# Loading relations

`populate` follows chains of relations from the records of a result and puts the records they refer
to in place of their keys. A chain that leads nowhere in the schema is reported once; the rest goes
on.
-/

namespace DualQuery

/-- Records after loading, with the relations that failed. -/
structure Populated where
  records : List Record
  errors : List RelationError := []
  deriving Repr, Inhabited

namespace Populate

/-- The primary key of an entity. -/
def primaryKey (store : Store) (entity : String) : String :=
  match Keyed.get? store.registry entity with
  | some schema => schema.primaryKey
  | none => "id"

/-- The declared fields of an entity. -/
def fieldsOf (store : Store) (entity : String) : List FieldDef :=
  match Keyed.get? store.registry entity with
  | some schema => schema.fields
  | none => []

variable [Hashing]

/-- Add a record by its primary key, if it has one. -/
def addTarget (key : String) (index : Indexed Value Record) (row : Record) :
    Indexed Value Record :=
  match Keyed.get? row key with
  | some id => Indexed.alter row (fun _ => row) id index
  | none => index

/-- The records of an entity by primary key; of records with equal keys the last one. -/
def targets (store : Store) (entity : String) : Indexed Value Record :=
  let rows := (Keyed.get? store.tables entity).getD []
  rows.foldl (addTarget (primaryKey store entity)) []

/-- The record of an entity with a given primary key. -/
def target? (store : Store) (entity : String) (id : Value) : Option Record :=
  Indexed.find? (targets store entity) id

/-- Apply a step to every item and keep the first failure. -/
def mapFailing {α β : Type} (step : α → β × Option String) (items : List α) :
    List β × Option String :=
  let results := items.map step
  (results.map (·.1), results.findSome? (·.2))

/-- The record that stands for a value: the value itself, or what it is the key of. -/
def loaded? (store : Store) (target : String) : Value → Option Record
  | .object record => some record
  | id => target? store target id

/-- Apply a step to the record that stands for a value, if there is one. -/
def load (store : Store) (target : String) (step : Record → Record × Option String)
    (item : Value) : Option Record × Option String :=
  match loaded? store target item with
  | some record =>
    let (record, failure) := step record
    (some record, failure)
  | none => (none, none)

/-- Apply a step to an embedded record; anything else stays. -/
def enter (step : Record → Record × Option String) : Value → Value × Option String
  | .object record =>
    let (record, failure) := step record
    (.object record, failure)
  | item => (item, none)

/-- Follow a relation from a record with the given fields. Behind it the rest of the chain, if there
is one, goes on with the fields and the name of what it came to. The result is the record with what
was loaded, and why the chain failed, if it did. -/
def followRelation (store : Store) (name : String)
    (rest? : Option (List FieldDef → String → Record → Record × Option String))
    (fields : List FieldDef) (owner : String) (record : Record) : Record × Option String :=
  -- the rest of the chain, on a record of another entity
  let descend (target : String) : Record → Record × Option String :=
    match rest? with
    | none => fun loaded => (loaded, none)
    | some rest => rest (fieldsOf store target) target
  match fieldKind? name fields with
  | none => (record, some ("Unknown relation '" ++ name ++ "' on '" ++ owner ++ "'"))
  | some (.scalar _) =>
    (record, some ("Field '" ++ name ++ "' on '" ++ owner ++ "' is not a relation"))
  | some (.reference target) =>
    match Keyed.get? record name with
    | none => (record, none)
    | some item =>
      match load store target (descend target) item with
      | (some loaded, failure) => (Keyed.insert record name (.object loaded), failure)
      | (none, failure) => (record, failure)
  | some (.referenceArray target) =>
    match Keyed.get? record name with
    | some (.array items) =>
      let (loaded, failure) := mapFailing (load store target (descend target)) items
      let objects := (loaded.filterMap id).map Value.object
      (Keyed.insert record name (.array objects), failure)
    | _ => (record, none)
  | some (.embedded inner) =>
    match rest? with
    -- what is embedded needs no loading, so a chain that ends here is done
    | none => (record, none)
    | some rest =>
      let step := rest inner (owner ++ "." ++ name)
      match Keyed.get? record name with
      | some (.object embedded) =>
        let (item, failure) := enter step (.object embedded)
        (Keyed.insert record name item, failure)
      | some (.array items) =>
        let (items, failure) := mapFailing (enter step) items
        (Keyed.insert record name (.array items), failure)
      | _ => (record, none)

/-- Follow a chain from a record with the given fields. -/
def follow (store : Store) :
    Chain → List FieldDef → String → Record → Record × Option String
  | .last name => followRelation store name none
  | .step name next => followRelation store name (some (follow store next))

/-- Follow one more chain from the records of an entity that were loaded so far. -/
def addChain (store : Store) (entity : String) (result : Populated) (chain : Chain) : Populated :=
  let (records, failure) :=
    mapFailing (follow store chain (fieldsOf store entity) entity) result.records
  let errors := failure.toList.map fun error => ⟨chain.dotted, error, .warning⟩
  ⟨records, result.errors ++ errors⟩

end Populate

/-- Load the relations of chains into records of an entity, chain by chain. -/
def populate [Hashing] (store : Store) (entity : String) (records : List Record)
    (chains : List Chain) : Populated :=
  chains.foldl (Populate.addChain store entity) ⟨records, []⟩

end DualQuery
