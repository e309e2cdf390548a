import DualQuery.Query.Condition
import DualQuery.Query.Search
import DualQuery.Record

/-!
# Query descriptors

A `Descriptor` says what a caller wants from an entity: which records, joined with what, grouped and
aggregated how, in which order, which part of the result. It is plain data; both compilers read the
same descriptor. The functions named after its parts build one up step by step.
-/

namespace DualQuery

/-- Which unmatched records a join keeps. -/
inductive JoinType where
  | left
  | inner
  | right
  | full
  deriving DecidableEq, Repr

instance : Inhabited JoinType := ⟨.left⟩

/-- The keywords of a join in SQL. -/
def JoinType.keyword : JoinType → String
  | left => "LEFT JOIN"
  | inner => "INNER JOIN"
  | right => "RIGHT JOIN"
  | full => "FULL JOIN"

/-- Whether left rows without a match stay. -/
def JoinType.keepsLeft : JoinType → Bool
  | left | full => true
  | inner | right => false

/-- Whether joined records without a match stay. -/
def JoinType.keepsRight : JoinType → Bool
  | right | full => true
  | left | inner => false

/-- A join with another entity. -/
structure JoinSpec where
  source : String := ""
  localField : String := ""
  foreignField : String := ""
  /-- The field under which the joined record appears; by default the source. -/
  label : Option String := none
  joinType : JoinType := .left
  deriving DecidableEq, Repr, Inhabited

namespace JoinSpec

/-- The field under which the joined record appears. -/
def aliasName (join : JoinSpec) : String := join.label.getD join.source

/-- Why a join cannot be compiled, if it cannot. -/
def defect? (join : JoinSpec) : Option String :=
  if Text.allBlank join.source then some "join is missing its source"
  else if Text.allBlank join.localField then some "join is missing its local field"
  else if Text.allBlank join.foreignField then some "join is missing its foreign field"
  else none

/-- The joins of a query over an entity that are carried out, given the aliases already taken: the
complete ones whose alias is free. -/
def carriedOut (entity : String) : List String → List JoinSpec → List JoinSpec
  | _, [] => []
  | taken, join :: rest =>
    if join.defect?.isSome || join.aliasName == entity || taken.contains join.aliasName then
      carriedOut entity taken rest
    else join :: carriedOut entity (taken ++ [join.aliasName]) rest

end JoinSpec

/-- An aggregate function. -/
inductive AggregateOp where
  | count
  | sum
  | avg
  | min
  | max
  | concat
  deriving DecidableEq, Repr, Inhabited

/-- The name of an aggregate function. -/
def AggregateOp.name : AggregateOp → String
  | count => "count"
  | sum => "sum"
  | avg => "avg"
  | min => "min"
  | max => "max"
  | concat => "concat"

/-- An aggregate to compute over each group. -/
structure AggregationSpec where
  operation : AggregateOp
  /-- The field to aggregate; none, an empty text and `*` all mean every row. -/
  field : Option String := none
  label : Option String := none
  /-- Only rows that meet these conditions are aggregated. -/
  conditions : Option Conditions := none
  deriving Repr, Inhabited

namespace AggregationSpec

/-- The field to aggregate, none meaning every row. -/
def column? (spec : AggregationSpec) : Option String :=
  spec.field.filter fun field => field ≠ "*" && field ≠ ""

/-- The name of the result. -/
def outputName (spec : AggregationSpec) : String :=
  spec.label.getD (spec.operation.name ++ "_" ++ spec.column?.getD "all")

/-- Whether the aggregate can be computed: all but the count need a field. -/
def isComputable (spec : AggregationSpec) : Bool :=
  spec.column?.isSome || spec.operation == .count

/-- The filters on the rows that are aggregated. -/
def filters (spec : AggregationSpec) : List Filter :=
  match spec.conditions with
  | some conditions => Conditions.filters conditions
  | none => []

end AggregationSpec

/-- The direction of a sort. -/
inductive SortDirection where
  | ascending
  | descending
  deriving DecidableEq, Repr

instance : Inhabited SortDirection := ⟨.descending⟩

namespace SortDirection

/-- Whether larger values come first. -/
def isDescending : SortDirection → Bool
  | ascending => false
  | descending => true

/-- The number by which document stores know a direction. -/
def number : SortDirection → Int
  | ascending => 1
  | descending => -1

end SortDirection

/-- A field to sort by. -/
structure SortField where
  field : String
  direction : SortDirection
  deriving DecidableEq, Repr, Inhabited

/-- The key by which records are sorted. -/
def SortField.key (sort : SortField) : Record.SortKey :=
  ⟨sort.field, sort.direction.isDescending⟩

/-- Fields to sort by, the earlier ones first to tell records apart; no field twice. -/
abbrev SortSpec := List SortField

/-- Add a field to sort by. A field that is there already keeps its place and takes the new
direction. -/
def SortSpec.push : SortSpec → String → SortDirection → SortSpec
  | [], field, direction => [⟨field, direction⟩]
  | sort :: rest, field, direction =>
    if sort.field = field then ⟨field, direction⟩ :: rest
    else sort :: SortSpec.push rest field direction

/-- The largest number of pages, rows and the like. -/
def maxCount : Nat := 0xFFFFFFFFFFFFFFFF

/-- The part of a result to return. -/
structure Pagination where
  /-- Pages count from one. -/
  page : Nat
  /-- Rows per page. -/
  limit : Nat
  deriving DecidableEq, Repr, Inhabited

namespace Pagination

/-- The number of rows before the page, as far as counts reach. -/
def skip (p : Pagination) : Nat := min ((p.page - 1) * p.limit) maxCount

/-- The number of pages of a total. -/
def totalPages (p : Pagination) (total : Nat) : Nat :=
  if p.limit = 0 then 0 else (total + p.limit - 1) / p.limit

/-- Whether rows come after the page. -/
def hasNext (p : Pagination) (total : Nat) : Bool :=
  decide (min (p.page * p.limit) maxCount < total)

/-- Whether a page comes before this one. -/
def hasPrevious (p : Pagination) : Bool := decide (1 < p.page)

end Pagination

/-- A query. -/
structure Descriptor where
  conditions : Conditions := []
  joins : List JoinSpec := []
  aggregations : List AggregationSpec := []
  groupBy : List String := []
  sort : SortSpec := []
  select : List String := []
  pagination : Option Pagination := none
  search : Option SearchSpec := none
  /-- Paths of relations to load into the returned items. -/
  relations : List String := []
  deriving Repr, Inhabited

/-- Why a descriptor is refused. -/
inductive DescriptorError where
  | invalidPage (page : Nat)
  | invalidLimit (limit : Nat)
  | invalidSearchField
  /-- The text is no JSON, or its JSON has not the shape of a descriptor. -/
  | malformed
  deriving DecidableEq, Repr

/-- The wording of an error. -/
def DescriptorError.message : DescriptorError → String
  | invalidPage page => "Page must be a positive integer, got " ++ toString page
  | invalidLimit limit => "Limit must be a positive integer, got " ++ toString limit
  | invalidSearchField => "Search fields must not be blank"
  | malformed => "Invalid descriptor JSON"

namespace Descriptor

/-- Whether rows are grouped. -/
def hasGrouping (d : Descriptor) : Bool := !d.aggregations.isEmpty || !d.groupBy.isEmpty

/-- The joins that are carried out on an entity. -/
def joinsOn (d : Descriptor) (entity : String) : List JoinSpec :=
  JoinSpec.carriedOut entity [] d.joins

/-- Refuse a page or limit of zero and blank search fields. -/
def validate (d : Descriptor) : Except DescriptorError Unit :=
  match d.pagination with
  | some ⟨0, _⟩ => .error (.invalidPage 0)
  | some ⟨_, 0⟩ => .error (.invalidLimit 0)
  | _ =>
    match d.search with
    | some search =>
      if search.fields.any Text.allBlank then .error .invalidSearchField else .ok ()
    | none => .ok ()

/-! ## Building -/

/-- Set the condition on a field. -/
def constrain (d : Descriptor) (field : String) (condition : Condition) : Descriptor :=
  { d with conditions := Keyed.insert d.conditions field condition }

/-- Add a join. -/
def join (d : Descriptor) (join : JoinSpec) : Descriptor := { d with joins := d.joins ++ [join] }

/-- Add an aggregate. -/
def aggregate (d : Descriptor) (spec : AggregationSpec) : Descriptor :=
  { d with aggregations := d.aggregations ++ [spec] }

/-- Add a field to group by. -/
def group (d : Descriptor) (field : String) : Descriptor :=
  { d with groupBy := d.groupBy ++ [field] }

/-- Add a field to sort by. -/
def orderBy (d : Descriptor) (field : String) (direction : SortDirection) : Descriptor :=
  { d with sort := SortSpec.push d.sort field direction }

/-- Add fields to return. -/
def selecting (d : Descriptor) (fields : List String) : Descriptor :=
  { d with select := d.select ++ fields }

/-- Set the page to return. -/
def paginate (d : Descriptor) (page limit : Nat) : Descriptor :=
  { d with pagination := some ⟨page, limit⟩ }

/-- Set what to search for. -/
def searching (d : Descriptor) (term : String) (fields : List String) : Descriptor :=
  { d with search := some ⟨term, fields⟩ }

/-- Add relations to load. -/
def populating (d : Descriptor) (paths : List String) : Descriptor :=
  { d with relations := d.relations ++ paths }

end Descriptor

/-- Set a condition that rows must meet to be aggregated. -/
def AggregationSpec.constrain (spec : AggregationSpec) (field : String) (condition : Condition) :
    AggregationSpec :=
  { spec with conditions := some (Keyed.insert (spec.conditions.getD []) field condition) }

end DualQuery
