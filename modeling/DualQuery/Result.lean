import DualQuery.Query.Descriptor
import DualQuery.Schema.Resolution
import DualQuery.Strategy
import DualQuery.Value.Json

/-!
# Results

A `ResultPage` is a page of items with its place in the whole result. Without pagination the whole
result is one page.
-/

namespace DualQuery

/-- What is told about an execution beside its items. -/
structure Metadata where
  searchAlgorithms : List String := []
  relationsLoaded : List String := []
  relationErrors : List RelationError := []
  rowsReturned : Nat := 0
  relationsRequested : Bool := false
  strategy : Option Strategy := none
  estimatedRows : Option Nat := none
  suggestions : List String := []
  cacheHit : Bool := false
  deriving DecidableEq, Repr, Inhabited

/-- A page of items. -/
structure ResultPage where
  items : List Record
  total : Nat
  page : Nat
  limit : Nat
  totalPages : Nat
  hasNext : Bool
  hasPrevious : Bool
  metadata : Metadata
  deriving Repr, Inhabited

/-- The part of a page's size that does not hang on its items. -/
def ResultPage.overhead : Nat := 208

namespace ResultPage

/-- The page that holds the given items of a result. -/
def make (items : List Record) (total : Nat) (pagination : Option Pagination)
    (metadata : Metadata) : ResultPage :=
  let metadata := { metadata with rowsReturned := items.length }
  match pagination with
  | some p =>
    ⟨items, total, p.page, p.limit, p.totalPages total, p.hasNext total, p.hasPrevious, metadata⟩
  | none => ⟨items, total, 1, items.length, if 0 < total then 1 else 0, false, false, metadata⟩

/-- Rough size in bytes. -/
def approxSize (page : ResultPage) : Nat := Record.approxSize page.items + overhead

end ResultPage

/-- All items of a result. -/
structure ResultList where
  items : List Record
  metadata : Metadata
  deriving Repr, Inhabited

/-- The first item of a result, if there is one. -/
structure ResultItem where
  item : Option Record
  metadata : Metadata
  deriving Repr, Inhabited

/-! ## JSON -/

/-- The JSON form of a failed relation. -/
def RelationError.toJson (e : RelationError) : Json :=
  .obj [("relation", .str e.relation), ("error", .str e.error), ("severity", .str e.severity.name)]

/-- The JSON form of metadata; what is absent is left out. -/
def Metadata.toJson (m : Metadata) : Json :=
  .obj <|
    [("searchAlgorithmsUsed", Json.ofStrings m.searchAlgorithms),
      ("relationsLoaded", .ofStrings m.relationsLoaded),
      ("relationErrors", .arr (m.relationErrors.map RelationError.toJson)),
      ("rowsReturned", .ofNat m.rowsReturned),
      ("relationsRequested", .bool m.relationsRequested)] ++
    (m.strategy.toList.map fun s => ("strategy", Json.str s.name)) ++
    (m.estimatedRows.toList.map fun n => ("estimatedRows", Json.ofNat n)) ++
    (if m.suggestions.isEmpty then [] else [("suggestions", Json.ofStrings m.suggestions)]) ++
    [("cacheHit", .bool m.cacheHit)]

/-- The JSON form of items. -/
def itemsToJson (items : List Record) : Json := .arr (items.map Record.toJson)

/-- The JSON form of a page. -/
def ResultPage.toJson (p : ResultPage) : Json :=
  .obj [("items", itemsToJson p.items), ("total", .ofNat p.total), ("page", .ofNat p.page),
    ("limit", .ofNat p.limit), ("totalPages", .ofNat p.totalPages), ("hasNext", .bool p.hasNext),
    ("hasPrev", .bool p.hasPrevious), ("metadata", p.metadata.toJson)]

/-- The JSON form of a list of items. -/
def ResultList.toJson (r : ResultList) : Json :=
  .obj [("items", itemsToJson r.items), ("metadata", r.metadata.toJson)]

/-- The JSON form of a single item. -/
def ResultItem.toJson (r : ResultItem) : Json :=
  .obj [("data", Json.ofOption Record.toJson r.item), ("metadata", r.metadata.toJson)]

end DualQuery
