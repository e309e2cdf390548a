import DualQuery.Schema.Entity
import DualQuery.Text.Path

/-!
# Relation catalogs

A catalog knows the relations of each entity: their names, what they refer to, and a tree of the
paths that lead through embedded fields. An entity is looked at once; what was found then is kept,
also when nothing was found. Reserved names and names that start with an underscore are never
relations.
-/

namespace DualQuery

/-- A tree of segments; each way down from the root is a known path. -/
inductive PathTree where
  | node (children : List (String × PathTree))
  deriving Repr, Inhabited

namespace PathTree

/-- The tree without paths. -/
def empty : PathTree := node []

/-- The children of the root, by segment. -/
def children : PathTree → Keyed PathTree
  | node children => children

/-- Whether a path of one segment is known. -/
def containsRoot (tree : PathTree) (segment : String) : Bool :=
  Keyed.contains tree.children segment

/-- Change the tree under a segment, starting from the empty one where there is none. -/
def graft (tree : PathTree) (segment : String) (change : PathTree → PathTree) : PathTree :=
  node (Keyed.insert tree.children segment
    (change ((Keyed.get? tree.children segment).getD empty)))

/-- How many of the segments the tree knows, from the first on. -/
def knownDepth (tree : PathTree) : List String → Nat
  | [] => 0
  | segment :: segments =>
    match Keyed.get? tree.children segment with
    | some child => knownDepth child segments + 1
    | none => 0

end PathTree

/-- Whether a field is kept out of the catalog by its name. -/
def isReserved (reserved : List String) (name : String) : Bool :=
  name.toList.head? == some '_' || reserved.contains name

mutual
/-- Add the relations among fields to a tree. -/
def PathTree.addFields (reserved : List String) :
    List (String × FieldKind) → PathTree → PathTree
  | [], tree => tree
  | (name, kind) :: fields, tree =>
    PathTree.addFields reserved fields <|
      if isReserved reserved name || kind.relationKind?.isNone then tree
      else tree.graft name (PathTree.addKind reserved kind)

/-- Add what lies below a field to the tree at the field. -/
def PathTree.addKind (reserved : List String) : FieldKind → PathTree → PathTree
  | .embedded fields, tree => PathTree.addFields reserved fields tree
  | .scalar _, tree => tree
  | .reference _, tree => tree
  | .referenceArray _, tree => tree
end

/-- A relation of an entity. -/
structure RelationInfo where
  kind : RelationKind
  /-- The entity referred to; none for embedded fields. -/
  target : Option String
  deriving DecidableEq, Repr, Inhabited

/-- What is known of an entity. -/
structure CatalogEntry where
  entity : String
  primaryKey : String := "id"
  relations : Keyed RelationInfo := []
  tree : PathTree := .empty
  deriving Repr, Inhabited

namespace CatalogEntry

/-- The relations among fields, by name. -/
def relationsOf (reserved : List String) (fields : List FieldDef) : Keyed RelationInfo :=
  Keyed.ofList <| fields.filterMap fun (name, kind) =>
    if isReserved reserved name then none
    else kind.relationKind?.map fun relation => (name, ⟨relation, kind.target?⟩)

/-- What a schema tells. -/
def ofSchema (reserved : List String) (schema : EntitySchema) : CatalogEntry :=
  ⟨schema.name, schema.primaryKey, relationsOf reserved schema.fields,
    PathTree.addFields reserved schema.fields .empty⟩

/-- What is found of an entity; nothing but its name where it has no usable schema. -/
def discover (registry : Registry) (reserved : List String) (entity : String) : CatalogEntry :=
  match registry.describe entity with
  | .ok schema => ofSchema reserved schema
  | .error _ => { entity := entity }

end CatalogEntry

/-- Schemas with what has been found of the entities so far. -/
structure Catalog where
  registry : Registry := []
  reserved : List String := ["__v", "_id"]
  entries : Keyed CatalogEntry := []
  deriving Repr, Inhabited

namespace Catalog

/-- Keep more names out of the catalog. -/
def reserving (catalog : Catalog) (names : List String) : Catalog :=
  { catalog with reserved := catalog.reserved ++ names }

/-- Add a schema. What was found before stays. -/
def register (catalog : Catalog) (schema : EntitySchema) : Catalog :=
  { catalog with registry := catalog.registry.register schema }

/-- What is known of an entity. -/
def entry (catalog : Catalog) (entity : String) : CatalogEntry :=
  (Keyed.get? catalog.entries entity).getD
    (.discover catalog.registry catalog.reserved entity)

/-- Keep what is known of an entity. -/
def visit (catalog : Catalog) (entity : String) : Catalog :=
  { catalog with entries := Keyed.insert catalog.entries entity (catalog.entry entity) }

/-- Whether a segment is a relation of an entity. -/
def isValidRoot (catalog : Catalog) (entity root : String) : Bool :=
  (catalog.entry entity).tree.containsRoot root

/-- Whether a path starts with a relation of an entity. -/
def isValidPath (catalog : Catalog) (entity path : String) : Bool :=
  let root := Text.root path
  root != "" && catalog.isValidRoot entity root

/-- For each path whether it starts with a relation of an entity. -/
def validateBatch (catalog : Catalog) (entity : String) (paths : List String) : List Bool :=
  let entry := catalog.entry entity
  paths.map fun path => entry.tree.containsRoot (Text.root path)

/-- How many segments of a path are known relations, from the first on. -/
def knownDepth (catalog : Catalog) (entity path : String) : Nat :=
  (catalog.entry entity).tree.knownDepth (Text.segments path)

/-- A relation of an entity. -/
def relation? (catalog : Catalog) (entity root : String) : Option RelationInfo :=
  Keyed.get? (catalog.entry entity).relations root

end Catalog

end DualQuery
