import DualQuery.Aggregate
import DualQuery.Relational.Plan
import DualQuery.Sql.Identifier

/-!
# SQL texts of plans

`Plan.sql` writes a plan as a SELECT statement. Every name is quoted and every operand is a
placeholder, `$1` for the first parameter, so nothing a caller sends can end up outside quotes.
-/

namespace DualQuery.Relational

/-- The placeholder of a parameter. -/
def placeholder (param : Nat) : String := "$" ++ toString (param + 1)

/-- A column with its qualifier. -/
def Column.sql (column : Column) : String :=
  match column.qualifier with
  | some qualifier => Sql.identifier qualifier ++ "." ++ Sql.identifier column.name
  | none => Sql.identifier column.name

/-- Texts joined by a connective. No text at all is always true, and one text needs no
parentheses. -/
def connect (connective : String) : List String → String
  | [] => "1 = 1"
  | [text] => text
  | texts => "(" ++ connective.intercalate texts ++ ")"

mutual
/-- A predicate in SQL. -/
def Predicate.sql : Predicate → String
  | .compare column op param => column.sql ++ " " ++ op.sql ++ " " ++ placeholder param
  | .inList _ [] negated => if negated then "1 = 1" else "1 = 0"
  | .inList column params negated =>
    column.sql ++ (if negated then " NOT IN (" else " IN (") ++
      ", ".intercalate (params.map placeholder) ++ ")"
  | .like column param ignoreCase =>
    column.sql ++ (if ignoreCase then " ILIKE " else " LIKE ") ++ placeholder param
  | .isNull column negated => column.sql ++ (if negated then " IS NOT NULL" else " IS NULL")
  | .any predicates => connect " OR " (Predicate.sqlOfAll predicates)
  | .all predicates => connect " AND " (Predicate.sqlOfAll predicates)

/-- Several predicates in SQL. -/
def Predicate.sqlOfAll : List Predicate → List String
  | [] => []
  | predicate :: rest => predicate.sql :: Predicate.sqlOfAll rest
end

/-- A value that is there only where a predicate holds. -/
def onlyWhere (filter : Option Predicate) (text : String) : String :=
  match filter with
  | some predicate => "CASE WHEN " ++ predicate.sql ++ " THEN " ++ text ++ " END"
  | none => text

/-- The call of an aggregate function. -/
def aggregateSql (op : AggregateOp) (column : Option Column) (filter : Option Predicate) : String :=
  let operand := (column.map Column.sql).getD "NULL"
  match op with
  | .count =>
    match filter, column with
    | some _, _ => "COUNT(" ++ onlyWhere filter "1" ++ ")"
    | none, some column => "COUNT(" ++ column.sql ++ ")"
    | none, none => "COUNT(*)"
  | .concat =>
    "STRING_AGG(" ++ onlyWhere filter ("CAST(" ++ operand ++ " AS TEXT)") ++ ", '" ++
      concatSeparator ++ "')"
  | .sum => "SUM(" ++ onlyWhere filter operand ++ ")"
  | .avg => "AVG(" ++ onlyWhere filter operand ++ ")"
  | .min => "MIN(" ++ onlyWhere filter operand ++ ")"
  | .max => "MAX(" ++ onlyWhere filter operand ++ ")"

/-- An item of the result in SQL. -/
def Projection.sql : Projection → String
  | .column c (some label) => c.sql ++ " AS " ++ Sql.identifier label
  | .column c none => c.sql
  | .allColumns qualifier => Sql.identifier qualifier ++ ".*"
  | .aggregate op c label filter => aggregateSql op c filter ++ " AS " ++ Sql.identifier label
  | .countAll label => "COUNT(*) AS " ++ Sql.identifier label

/-- A join in SQL. -/
def JoinClause.sql (join : JoinClause) : String :=
  " " ++ join.joinType.keyword ++ " " ++ Sql.identifier join.source ++ " AS " ++
    Sql.identifier join.label ++ " ON " ++ join.left.sql ++ " = " ++ join.right.sql

/-- A clause that filters rows in SQL; nothing for another clause. -/
def Clause.filterSql : Clause → String
  | filter predicate => " WHERE " ++ predicate.sql
  | alsoFilter predicate => " AND " ++ predicate.sql
  | _ => ""

/-- A column to sort by in SQL. -/
def OrderItem.sql (item : OrderItem) : String :=
  item.column.sql ++ (if item.descending then " DESC" else " ASC")

/-- A clause with a list, left out where the list is empty. -/
def listClause (keywords : String) : List String → String
  | [] => ""
  | items => keywords ++ ", ".intercalate items

/-- Everything from the table to the groups. -/
def Plan.bodySql (plan : Plan) : String :=
  "FROM " ++ Sql.identifier plan.entity ++ String.join (plan.joins.map JoinClause.sql) ++
    String.join (plan.clauses.map Clause.filterSql) ++
    listClause " GROUP BY " (plan.groupColumns.map Column.sql)

/-- A plan as a SELECT statement. The count of a grouped plan is the number of its groups. -/
def Plan.sql (plan : Plan) : String :=
  if plan.kind = .count ∧ plan.isGrouped then
    "SELECT COUNT(*) AS \"total\" FROM (SELECT COUNT(*) AS \"rows\" " ++ plan.bodySql ++
      ") AS \"grouped\""
  else
    let items := match plan.projection with
      | [] => Sql.identifier plan.entity ++ ".*"
      | items => ", ".intercalate (items.map Projection.sql)
    "SELECT " ++ items ++ " " ++ plan.bodySql ++
      listClause " ORDER BY " (plan.order.map OrderItem.sql) ++
      (match plan.take? with | some count => " LIMIT " ++ toString count | none => "") ++
      (match plan.skip? with | some count => " OFFSET " ++ toString count | none => "")

end DualQuery.Relational
