import DualQuery.Json.Basic
import DualQuery.Query.Descriptor

/-!
# Descriptions of compiled queries

What can be read back from the text of a compiled query: the fields it filters by, its joins and its
order.
-/

namespace DualQuery

/-- A join of a compiled query. -/
structure JoinDescription where
  source : String
  label : String
  localField : String
  foreignField : String
  deriving DecidableEq, Repr, Inhabited

/-- The fields that a compiled query filters, joins and sorts by. -/
structure Description where
  /-- Each field once, in the order of first use. -/
  filterFields : List String := []
  joins : List JoinDescription := []
  sort : List SortField := []
  deriving DecidableEq, Repr, Inhabited

/-- The JSON form of a description. -/
def Description.toJson (d : Description) : Json :=
  .obj [("filterFields", .ofStrings d.filterFields),
    ("joins", .arr (d.joins.map fun join =>
      .ofStrings [join.source, join.label, join.localField, join.foreignField])),
    ("sort", .arr (d.sort.map fun sort =>
      .ofStrings [sort.field, if sort.direction.isDescending then "DESC" else "ASC"]))]

/-- Why a text cannot be described. -/
inductive DescribeError where
  /-- The text cannot be read. -/
  | unreadable
  | unsupported (what : String)
  | malformed (why : String)
  deriving DecidableEq, Repr

/-- The wording of an error. -/
def DescribeError.message : DescribeError → String
  | unreadable => "Unreadable query"
  | unsupported what => "Unsupported plan element: " ++ what
  | malformed why => "Malformed plan: " ++ why

end DualQuery
