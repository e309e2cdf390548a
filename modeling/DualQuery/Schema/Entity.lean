import DualQuery.Keyed
import DualQuery.Value.Basic

/-!
# Entity schemas

An entity declares its fields. A field is a relation when it refers to another entity, holds a list
of such references or embeds fields of its own. `Registry.describe` looks a schema up and refuses
one with a nameless field.
-/

namespace DualQuery

/-- What a field holds. -/
inductive FieldKind where
  | scalar (dataType : DataType)
  /-- The primary key of a record of the target entity. -/
  | reference (target : String)
  /-- A list of primary keys of records of the target entity. -/
  | referenceArray (target : String)
  /-- Fields stored in place. -/
  | embedded (fields : List (String × FieldKind))
  deriving Repr, Inhabited

/-- A field and what it holds. -/
abbrev FieldDef := String × FieldKind

/-- How a relation refers to what it relates. -/
inductive RelationKind where
  | reference
  | referenceArray
  | embedded
  deriving DecidableEq, Repr, Inhabited

/-- The name of a kind of relation. -/
def RelationKind.name : RelationKind → String
  | reference => "reference"
  | referenceArray => "reference_array"
  | embedded => "embedded"

namespace FieldKind

/-- The kind of relation that a field is, if it is one. -/
def relationKind? : FieldKind → Option RelationKind
  | scalar _ => none
  | reference _ => some .reference
  | referenceArray _ => some .referenceArray
  | embedded _ => some .embedded

/-- The entity that a field refers to. -/
def target? : FieldKind → Option String
  | reference target | referenceArray target => some target
  | scalar _ | embedded _ => none

end FieldKind

/-- The schema of an entity. -/
structure EntitySchema where
  name : String
  primaryKey : String := "id"
  fields : List FieldDef := []
  deriving Repr, Inhabited

/-- What the first field of a name holds. -/
def fieldKind? (name : String) : List FieldDef → Option FieldKind
  | [] => none
  | field :: fields => if field.1 = name then some field.2 else fieldKind? name fields

namespace EntitySchema

/-- What a field holds. -/
def field? (schema : EntitySchema) (name : String) : Option FieldKind :=
  fieldKind? name schema.fields

end EntitySchema

/-- Why an entity has no usable schema. -/
inductive SchemaError where
  | unknownEntity (entity : String)
  | namelessField (entity : String)
  deriving DecidableEq, Repr

/-- The wording of an error. -/
def SchemaError.message : SchemaError → String
  | unknownEntity entity => "Entity '" ++ entity ++ "' has no declared schema"
  | namelessField entity => "Schema for '" ++ entity ++ "' is malformed: field with empty name"

/-- Schemas by entity. -/
abbrev Registry := Keyed EntitySchema

namespace Registry

/-- Add a schema, in place of an earlier one of the same entity. -/
def register (registry : Registry) (schema : EntitySchema) : Registry :=
  Keyed.insert registry schema.name schema

/-- The schema of an entity. -/
def describe (registry : Registry) (entity : String) : Except SchemaError EntitySchema :=
  match Keyed.get? registry entity with
  | none => .error (.unknownEntity entity)
  | some schema =>
    if schema.fields.any fun field => field.1 == "" then .error (.namelessField entity)
    else .ok schema

end Registry

end DualQuery
