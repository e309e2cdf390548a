import DualQuery.Query.Descriptor
import DualQuery.Query.Operator
import DualQuery.Schema.Resolution

/-!
# Relational plans

A plan is a list of clauses over one entity. No literal value stands in a clause: a predicate names
its operands by their positions in the parameters of the plan.
-/

namespace DualQuery.Relational

/-- A column, qualified by a table or by the alias of a join. -/
structure Column where
  qualifier : Option String
  name : String
  deriving DecidableEq, Repr, Inhabited

namespace Column

/-- A column of a table or join. -/
def qualified (qualifier name : String) : Column := ⟨some qualifier, name⟩

/-- A column of the result. -/
def bare (name : String) : Column := ⟨none, name⟩

end Column

/-- A condition on a row. -/
inductive Predicate where
  /-- The column compares to a parameter. -/
  | compare (column : Column) (op : Operator) (param : Nat)
  /-- The column is among some parameters, or among none of them. -/
  | inList (column : Column) (params : List Nat) (negated : Bool)
  /-- The column matches a parameter, a LIKE pattern. -/
  | like (column : Column) (param : Nat) (ignoreCase : Bool)
  | isNull (column : Column) (negated : Bool)
  /-- One of the predicates holds, or there are none. -/
  | any (predicates : List Predicate)
  /-- All predicates hold. -/
  | all (predicates : List Predicate)
  deriving Repr, Inhabited

mutual
/-- The columns of a predicate in order of appearance. -/
def Predicate.columns : Predicate → List Column
  | .compare column _ _ | .inList column _ _ | .like column _ _ | .isNull column _ => [column]
  | .any predicates | .all predicates => Predicate.columnsOfAll predicates

/-- The columns of several predicates. -/
def Predicate.columnsOfAll : List Predicate → List Column
  | [] => []
  | predicate :: rest => predicate.columns ++ Predicate.columnsOfAll rest
end

/-- An item of the result. -/
inductive Projection where
  | column (column : Column) (label : Option String)
  /-- Every column of a table or join. -/
  | allColumns (qualifier : String)
  /-- An aggregate over the rows of a group that meet a predicate. -/
  | aggregate (op : AggregateOp) (column : Option Column) (label : String)
      (filter : Option Predicate)
  /-- The number of rows. -/
  | countAll (label : String)
  deriving Repr, Inhabited

/-- A join: each row goes with the records of the source in which `right` equals its `left`. -/
structure JoinClause where
  joinType : JoinType
  source : String
  label : String
  left : Column
  right : Column
  deriving DecidableEq, Repr, Inhabited

/-- A column to sort by. -/
structure OrderItem where
  column : Column
  descending : Bool
  deriving DecidableEq, Repr, Inhabited

/-- A clause of a plan. -/
inductive Clause where
  | select (items : List Projection)
  | table (name : String)
  | join (join : JoinClause)
  /-- The first predicate on rows. -/
  | filter (predicate : Predicate)
  /-- A further predicate on rows. -/
  | alsoFilter (predicate : Predicate)
  | groupBy (columns : List Column)
  | orderBy (items : List OrderItem)
  | skip (count : Nat)
  | take (count : Nat)
  deriving Repr, Inhabited

/-- What a plan is for. -/
inductive PlanKind where
  | data
  | count
  deriving DecidableEq, Repr, Inhabited

/-- Clauses with their parameters. -/
structure Plan where
  kind : PlanKind
  entity : String
  clauses : List Clause
  params : List Value := []
  /-- Relations to load into the rows of the result. -/
  populate : List Chain := []
  deriving Repr, Inhabited

namespace Plan

/-- The items of the result. -/
def projection (plan : Plan) : List Projection :=
  (plan.clauses.findSome? fun clause =>
    match clause with
    | .select items => some items
    | _ => none).getD []

/-- The joins in order. -/
def joins (plan : Plan) : List JoinClause :=
  plan.clauses.filterMap fun clause =>
    match clause with
    | .join join => some join
    | _ => none

/-- The predicates on rows in order. -/
def predicates (plan : Plan) : List Predicate :=
  plan.clauses.filterMap fun clause =>
    match clause with
    | .filter predicate | .alsoFilter predicate => some predicate
    | _ => none

/-- The columns to group by. -/
def groupColumns (plan : Plan) : List Column :=
  (plan.clauses.findSome? fun clause =>
    match clause with
    | .groupBy columns => some columns
    | _ => none).getD []

/-- Whether rows are grouped, be it into one group of all rows. -/
def isGrouped (plan : Plan) : Bool :=
  plan.clauses.any fun clause =>
    match clause with
    | .groupBy _ => true
    | _ => false

/-- The columns to sort by. -/
def order (plan : Plan) : List OrderItem :=
  (plan.clauses.findSome? fun clause =>
    match clause with
    | .orderBy items => some items
    | _ => none).getD []

/-- The number of rows to leave out. -/
def skip? (plan : Plan) : Option Nat :=
  plan.clauses.findSome? fun clause =>
    match clause with
    | .skip count => some count
    | _ => none

/-- The most rows to return. -/
def take? (plan : Plan) : Option Nat :=
  plan.clauses.findSome? fun clause =>
    match clause with
    | .take count => some count
    | _ => none

/-- A parameter; one that is not there is null. -/
def param (plan : Plan) (index : Nat) : Value := plan.params[index]?.getD .null

end Plan

end DualQuery.Relational
