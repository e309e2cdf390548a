import DualQuery.Record.Groups
import DualQuery.Relational.Plan
import DualQuery.Store.Basic

/-!
# Evaluating relational plans

`Plan.rows` and `Plan.total` answer a plan from the tables of a store. A row of a join holds the
joined record as an object under the alias of the join. Joins come first, then the filters, then
groups, order and page.
-/

namespace DualQuery.Relational

/-- The path of a column in a row of a plan over an entity. -/
def Column.path (entity : String) (column : Column) : String :=
  match column.qualifier with
  | some qualifier => if qualifier = entity then column.name else qualifier ++ "." ++ column.name
  | none => column.name

/-- The value of a column in a row. -/
def Column.value (entity : String) (column : Column) (row : Record) : Value :=
  Record.valueAt row (column.path entity)

/-! ## Predicates -/

mutual
/-- Whether a predicate holds, given the parameters and the values of columns. -/
def Predicate.holds (params : List Value) (value : Column → Value) : Predicate → Bool
  | .compare column op param => op.holds (value column) (params[param]?.getD .null)
  | .inList column positions negated =>
    let found := positions.any fun param => params[param]?.getD .null == value column
    if (value column).isNull then positions.isEmpty && negated else found != negated
  | .like column param ignoreCase =>
    match params[param]?.getD .null with
    | .string pattern => (value column).matchesLike pattern ignoreCase
    | _ => false
  | .isNull column negated => (value column).isNull != negated
  | .any predicates => predicates.isEmpty || Predicate.anyHolds params value predicates
  | .all predicates => Predicate.allHold params value predicates

/-- Whether one of several predicates holds. -/
def Predicate.anyHolds (params : List Value) (value : Column → Value) : List Predicate → Bool
  | [] => false
  | predicate :: rest => predicate.holds params value || Predicate.anyHolds params value rest

/-- Whether all of several predicates hold. -/
def Predicate.allHold (params : List Value) (value : Column → Value) : List Predicate → Bool
  | [] => true
  | predicate :: rest => predicate.holds params value && Predicate.allHold params value rest
end

/-! ## Joins -/

variable [Hashing]

/-- The rows of a join of rows with the records of a source. -/
def JoinClause.rows (join : JoinClause) (entity : String) (rows source : List Record) :
    List Record :=
  let index := Record.indexBy join.right.name source
  let hitsOf (row : Record) : List (Nat × Record) := Record.hits index (join.left.value entity row)
  let matched := rows.flatMap fun row =>
    match hitsOf row with
    | [] => if join.joinType.keepsLeft then [Keyed.erase row join.label] else []
    | found => found.map fun (_, record) => Keyed.insert row join.label (.object record)
  let taken := rows.flatMap fun row => (hitsOf row).map (·.1)
  let unmatched := if join.joinType.keepsRight then
    (source.zipIdx.filter fun (_, position) => !taken.contains position).map fun (record, _) =>
      [(join.label, Value.object record)] else []
  matched ++ unmatched

/-- Join rows with one source after the other. -/
def joinAll (store : Store) (entity : String) (rows : List Record) :
    List JoinClause → Except StoreError (List Record)
  | [] => .ok rows
  | join :: rest => do
    let source ← store.scan join.source
    joinAll store entity (join.rows entity rows source) rest

/-- The joined rows that meet the filters of a plan. -/
def Plan.filteredRows (plan : Plan) (store : Store) : Except StoreError (List Record) := do
  let rows ← joinAll store plan.entity (← store.scan plan.entity) plan.joins
  return rows.filter fun row =>
    plan.predicates.all fun predicate =>
      predicate.holds plan.params fun column => column.value plan.entity row

/-! ## Groups -/

/-- The groups of a plan. -/
def Plan.groups (plan : Plan) (rows : List Record) : Record.Groups :=
  Record.groups (plan.groupColumns.map fun column row => column.value plan.entity row) rows

/-- Put an item of the result into the record of a group. -/
def Plan.projectGroup (plan : Plan) (members : List Record) (out : Record) : Projection → Record
  | .column column label =>
    let value := match members with
      | first :: _ => column.value plan.entity first
      | [] => .null
    Record.setPath out (label.getD column.name) value
  | .aggregate op column label filter =>
    let value := column.map fun column row => column.value plan.entity row
    let condition := filter.map fun predicate row =>
      predicate.holds plan.params fun column => column.value plan.entity row
    Record.setPath out label (op.over value condition members)
  | .countAll label => Record.setPath out label (.int (Int64.ofNat members.length))
  | .allColumns _ => out

/-- One record for each group. -/
def Plan.groupedRows (plan : Plan) (rows : List Record) : List Record :=
  (plan.groups rows).map fun (_, members) =>
    plan.projection.foldl (plan.projectGroup members) []

/-! ## Results -/

/-- Put an item of the result into the record of a row. -/
def Plan.projectRow (plan : Plan) (row : Record) (out : Record) : Projection → Record
  | .allColumns qualifier =>
    if qualifier = plan.entity then
      (row.filter fun (field, _) => !(plan.joins.map (·.label)).contains field).foldl
        (fun out (field, value) => Keyed.insert out field value) out
    else
      match Keyed.get? row qualifier with
      | some joined => Keyed.insert out qualifier joined
      | none => out
  | .column column label =>
    match Record.getPath? row (column.path plan.entity) with
    | some value => Record.setPath out (label.getD column.name) value
    | none => out
  | .countAll label => Record.setPath out label (.int 1)
  | .aggregate _ _ _ _ => out

/-- The keys by which a plan sorts. -/
def Plan.sortKeys (plan : Plan) : List Record.SortKey :=
  plan.order.map fun item => ⟨item.column.path plan.entity, item.descending⟩

/-- The page of a plan. -/
def Plan.page (plan : Plan) (rows : List Record) : List Record :=
  let rest := rows.drop (plan.skip?.getD 0)
  match plan.take? with
  | some count => rest.take count
  | none => rest

/-- The rows of a plan. -/
def Plan.rows (plan : Plan) (store : Store) : Except StoreError (List Record) := do
  let rows ← plan.filteredRows store
  if plan.isGrouped then
    return plan.page (Record.sort plan.sortKeys (plan.groupedRows rows))
  else
    return (plan.page (Record.sort plan.sortKeys rows)).map fun row =>
      plan.projection.foldl (plan.projectRow row) []

/-- The total of a plan: the number of rows, or of groups, before the page is taken. -/
def Plan.total (plan : Plan) (store : Store) : Except StoreError Nat := do
  let rows ← plan.filteredRows store
  return if plan.isGrouped then (plan.groups rows).length else rows.length

end DualQuery.Relational
