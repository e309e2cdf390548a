import DualQuery.Json.Basic
import DualQuery.Schema.Catalog
import DualQuery.Text.Blank

/-!
# Relation paths

A requested path becomes a chain of relations to follow. `resolveRelations` sorts the paths of a
request into those that start with a relation of the entity and those that fail, each path once.
-/

namespace DualQuery

/-- A chain of relations. -/
inductive Chain where
  | last (relation : String)
  | step (relation : String) (next : Chain)
  deriving DecidableEq, Repr, Inhabited

namespace Chain

/-- The first relation of a chain. -/
def head : Chain → String
  | last relation => relation
  | step relation _ => relation

/-- The relations of a chain. -/
def toList : Chain → List String
  | last relation => [relation]
  | step relation next => relation :: next.toList

/-- The number of relations. -/
def depth : Chain → Nat
  | last _ => 1
  | step _ next => 1 + next.depth

/-- The dotted path of a chain. -/
def dotted : Chain → String
  | last relation => relation
  | step relation next => relation ++ "." ++ next.dotted

/-- The JSON form of a chain. -/
def toJson : Chain → Json
  | last relation => .obj [("path", .str relation)]
  | step relation next => .obj [("path", .str relation), ("then", next.toJson)]

/-- The chain of a list of relations. -/
def ofList? : List String → Option Chain
  | [] => none
  | [relation] => some (last relation)
  | relation :: rest => (ofList? rest).map (step relation)

/-- The chain of a dotted path; a path with a blank segment has none. -/
def ofPath? (path : String) : Option Chain :=
  let segments := Text.segments path
  if segments.any Text.allBlank then none else ofList? segments

end Chain

/-- How serious an error is. -/
inductive Severity where
  | warning
  | error
  deriving DecidableEq, Repr, Inhabited

/-- The name of a severity. -/
def Severity.name : Severity → String
  | warning => "warning"
  | error => "error"

/-- A requested relation that could not be loaded. -/
structure RelationError where
  relation : String
  error : String
  severity : Severity := .warning
  deriving DecidableEq, Repr, Inhabited

/-- The outcome for a list of requested paths. -/
structure Resolution where
  /-- A chain for each valid path. -/
  populate : List Chain := []
  valid : List String := []
  failed : List RelationError := []
  deriving Repr, Inhabited

namespace Resolution

/-- Whether there is nothing to load and nothing failed. -/
def isEmpty (r : Resolution) : Bool := r.populate.isEmpty && r.failed.isEmpty

/-- Add the outcome for one trimmed path. -/
def add (entity : String) (tree : PathTree) (r : Resolution) (path : String) : Resolution :=
  match Chain.ofPath? path with
  | none =>
    { r with failed := r.failed ++ [⟨path, "Relation path has an empty segment", .warning⟩] }
  | some chain =>
    if tree.containsRoot chain.head then
      { r with valid := r.valid ++ [path], populate := r.populate ++ [chain] }
    else
      let error := "Unknown relation '" ++ chain.head ++ "' on '" ++ entity ++ "'"
      { r with failed := r.failed ++ [⟨path, error, .warning⟩] }

end Resolution

/-- Sort requested paths into valid and failed ones. Paths are trimmed and repeated ones dropped. -/
def resolveRelations (catalog : Catalog) (entity : String) (paths : List String) : Resolution :=
  ((paths.map Text.trim).eraseDups).foldl (Resolution.add entity (catalog.entry entity).tree) {}

end DualQuery
