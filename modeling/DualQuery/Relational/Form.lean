import DualQuery.Query.Reader
import DualQuery.Query.Writer
import DualQuery.Relational.Plan

/-!
# JSON forms of relational clauses

Each clause, predicate and item is an object with one entry, whose name says what it is. `ofForm?`
reads what `toForm` writes.
-/

namespace DualQuery.Relational

/-- An object with one entry. -/
def tagged (tag : String) (body : Json) : Json := .obj [(tag, body)]

/-! ## Writing -/

/-- The JSON form of a column. -/
def Column.toForm (column : Column) : Json :=
  .obj [("qualifier", Json.ofOption .str column.qualifier), ("name", .str column.name)]

mutual
/-- The JSON form of a predicate. -/
def Predicate.toForm : Predicate → Json
  | .compare column op param => tagged "Compare" <| .obj
    [("column", column.toForm), ("op", .str op.name), ("param", .ofNat param)]
  | .inList column params negated => tagged "InList" <| .obj
    [("column", column.toForm), ("params", .arr (params.map .ofNat)), ("negated", .bool negated)]
  | .like column param ignoreCase => tagged "Like" <| .obj
    [("column", column.toForm), ("param", .ofNat param), ("case_insensitive", .bool ignoreCase)]
  | .isNull column negated => tagged "IsNull" <| .obj
    [("column", column.toForm), ("negated", .bool negated)]
  | .any predicates => tagged "Any" (.arr (Predicate.toForms predicates))
  | .all predicates => tagged "All" (.arr (Predicate.toForms predicates))

/-- The JSON forms of several predicates. -/
def Predicate.toForms : List Predicate → List Json
  | [] => []
  | predicate :: rest => predicate.toForm :: Predicate.toForms rest
end

/-- The JSON form of an item of the result. -/
def Projection.toForm : Projection → Json
  | .column c label => tagged "Column" <| .obj
    [("column", c.toForm), ("alias", Json.ofOption .str label)]
  | .allColumns qualifier => tagged "AllColumns" <| .obj [("qualifier", .str qualifier)]
  | .aggregate op c label filter => tagged "Aggregate" <| .obj
    [("op", op.toJson), ("column", Json.ofOption Column.toForm c), ("alias", .str label),
      ("filter", Json.ofOption Predicate.toForm filter)]
  | .countAll label => tagged "CountAll" <| .obj [("alias", .str label)]

/-- The JSON form of a join. -/
def JoinClause.toForm (join : JoinClause) : Json :=
  .obj [("join_type", join.joinType.toJson), ("source", .str join.source),
    ("alias", .str join.label), ("left", join.left.toForm), ("right", join.right.toForm)]

/-- The JSON form of a column to sort by. -/
def OrderItem.toForm (item : OrderItem) : Json :=
  .obj [("column", item.column.toForm), ("descending", .bool item.descending)]

/-- The JSON form of a clause. -/
def Clause.toForm : Clause → Json
  | .select items => tagged "Select" (.arr (items.map Projection.toForm))
  | .table name => tagged "From" (.obj [("table", .str name)])
  | .join j => tagged "Join" j.toForm
  | .filter predicate => tagged "Where" predicate.toForm
  | .alsoFilter predicate => tagged "AndWhere" predicate.toForm
  | .groupBy columns => tagged "GroupBy" (.arr (columns.map Column.toForm))
  | .orderBy items => tagged "OrderBy" (.arr (items.map OrderItem.toForm))
  | .skip n => tagged "Skip" (.ofNat n)
  | .take n => tagged "Take" (.ofNat n)

/-! ## Reading -/

/-- Read a column. -/
def Column.ofForm? (j : Json) : Option Column := do
  let slots ← Json.slots? ["qualifier", "name"] j
  return ⟨← Json.optional? slots "qualifier" Json.str?,
    ← Json.default? slots "name" "" Json.str?⟩

/-- Read an operator. -/
def operatorOfForm? (j : Json) : Option Operator := j.variant?.bind Operator.ofName?

mutual
/-- Read a predicate. -/
def Predicate.ofForm? : Json → Option Predicate
  | .obj [("Compare", body)] => do
    let slots ← Json.slots? ["column", "op", "param"] body
    return .compare (← Json.required? slots "column" Column.ofForm?)
      (← Json.required? slots "op" operatorOfForm?) (← Json.default? slots "param" 0 Json.nat?)
  | .obj [("InList", body)] => do
    let slots ← Json.slots? ["column", "params", "negated"] body
    return .inList (← Json.required? slots "column" Column.ofForm?)
      (← Json.default? slots "params" [] (Json.listOf? Json.nat?))
      (← Json.default? slots "negated" false Json.bool?)
  | .obj [("Like", body)] => do
    let slots ← Json.slots? ["column", "param", "case_insensitive"] body
    return .like (← Json.required? slots "column" Column.ofForm?)
      (← Json.default? slots "param" 0 Json.nat?)
      (← Json.default? slots "case_insensitive" false Json.bool?)
  | .obj [("IsNull", body)] => do
    let slots ← Json.slots? ["column", "negated"] body
    return .isNull (← Json.required? slots "column" Column.ofForm?)
      (← Json.default? slots "negated" false Json.bool?)
  | .obj [("Any", .arr items)] => (Predicate.ofForms? items).map .any
  | .obj [("All", .arr items)] => (Predicate.ofForms? items).map .all
  | _ => none

/-- Read several predicates. -/
def Predicate.ofForms? : List Json → Option (List Predicate)
  | [] => some []
  | item :: rest => do
    let predicate ← Predicate.ofForm? item
    return predicate :: (← Predicate.ofForms? rest)
end

/-- Read an item of the result. -/
def Projection.ofForm? : Json → Option Projection
  | .obj [("Column", body)] => do
    let slots ← Json.slots? ["column", "alias"] body
    return .column (← Json.required? slots "column" Column.ofForm?)
      (← Json.optional? slots "alias" Json.str?)
  | .obj [("AllColumns", body)] => do
    let slots ← Json.slots? ["qualifier"] body
    return .allColumns (← Json.default? slots "qualifier" "" Json.str?)
  | .obj [("Aggregate", body)] => do
    let slots ← Json.slots? ["op", "column", "alias", "filter"] body
    return .aggregate (← Json.required? slots "op" AggregateOp.ofJson?)
      (← Json.optional? slots "column" Column.ofForm?) (← Json.default? slots "alias" "" Json.str?)
      (← Json.optional? slots "filter" Predicate.ofForm?)
  | .obj [("CountAll", body)] => do
    let slots ← Json.slots? ["alias"] body
    return .countAll (← Json.default? slots "alias" "" Json.str?)
  | _ => none

/-- Read a join. -/
def JoinClause.ofForm? (j : Json) : Option JoinClause := do
  let slots ← Json.slots? ["join_type", "source", "alias", "left", "right"] j
  return {
    joinType := ← Json.required? slots "join_type" JoinType.ofJson?
    source := ← Json.default? slots "source" "" Json.str?
    label := ← Json.default? slots "alias" "" Json.str?
    left := ← Json.required? slots "left" Column.ofForm?
    right := ← Json.required? slots "right" Column.ofForm? }

/-- Read a column to sort by. -/
def OrderItem.ofForm? (j : Json) : Option OrderItem := do
  let slots ← Json.slots? ["column", "descending"] j
  return ⟨← Json.required? slots "column" Column.ofForm?,
    ← Json.default? slots "descending" false Json.bool?⟩

/-- Read a clause. -/
def Clause.ofForm? : Json → Option Clause
  | .obj [("Select", items)] => (Json.listOf? Projection.ofForm? items).map .select
  | .obj [("From", body)] => do
    let slots ← Json.slots? ["table"] body
    return .table (← Json.default? slots "table" "" Json.str?)
  | .obj [("Join", body)] => (JoinClause.ofForm? body).map .join
  | .obj [("Where", body)] => (Predicate.ofForm? body).map .filter
  | .obj [("AndWhere", body)] => (Predicate.ofForm? body).map .alsoFilter
  | .obj [("GroupBy", columns)] => (Json.listOf? Column.ofForm? columns).map .groupBy
  | .obj [("OrderBy", items)] => (Json.listOf? OrderItem.ofForm? items).map .orderBy
  | .obj [("Skip", n)] => n.nat?.map .skip
  | .obj [("Take", n)] => n.nat?.map .take
  | _ => none

end DualQuery.Relational
