import DualQuery.Description
import DualQuery.Relational.Text
import DualQuery.Sql.Statement

/-!
# Describing SQL

`describeSql` reads a SELECT statement back. The qualifier of the table is dropped from its columns,
and a query over a query is described by the inner one, which is how the counts of grouped plans are
written.
-/

namespace DualQuery

namespace Sql

/-- The characters of a quoted name with quotes doubled; a pair of quotes counts as doubled already,
and quotes behind a backslash as escaped. -/
def requote (quote previous : Char) : List Char → List Char
  | [] => []
  | c :: cs =>
    if c ≠ quote then c :: requote quote c cs
    else if previous = '\\' then c :: requote quote previous cs
    else
      match cs with
      | d :: rest =>
        c :: c :: if d = quote then requote quote c rest else requote quote c (d :: rest)
      | [] => [c, c]

/-- A name as it stands in SQL. -/
def Ident.text (ident : Ident) : List Char :=
  match ident.quote with
  | some quote => quote :: requote quote ' ' ident.value.toList ++ [quote]
  | none => ident.value.toList

/-- A dotted name as it stands in SQL, less the quotes around it. -/
def ObjectName.source (name : ObjectName) : String :=
  let text := (['.'] : List Char).intercalate (name.map Ident.text)
  String.ofList (((text.dropWhile (· == '"')).reverse.dropWhile (· == '"')).reverse)

/-- The field that an expression is, less the name of the table. -/
def Expr.field? (table : String) : Expr → Option String
  | .column (first :: second :: rest) =>
    if first = table then some (Text.dotted (second :: rest))
    else some (Text.dotted (first :: second :: rest))
  | .column parts => some (Text.dotted parts)
  | .nested inner => inner.field? table
  | _ => none

/-- The fields that a condition compares, in order of appearance. -/
def Expr.conditionFields (table : String) : Expr → List String
  | .connective left right => left.conditionFields table ++ right.conditionFields table
  | .nested inner => inner.conditionFields table
  | .equality left _ | .operation left _ | .test left => (left.field? table).toList
  | _ => []

/-- Describe a join. -/
def Join.describe (table : String) (join : Join) : Except DescribeError JoinDescription :=
  match join.table with
  | none => .error (.unsupported "joined table expression")
  | some (name, label) =>
    let source := ObjectName.source name
    let label := label.getD source
    if !join.isPlain then .error (.unsupported "join operator")
    else
      match join.condition with
      | some (.equality left right) =>
        match left.field? table, right.field? label with
        | none, _ => .error (.malformed "join local side is not a column")
        | _, none => .error (.malformed "join foreign side is not a column")
        | some localField, some foreignField => .ok ⟨source, label, localField, foreignField⟩
      | _ => .error (.malformed ("join on '" ++ label ++ "' lacks an equality"))

/-- Describe a query. -/
def Query.describe : Query → Except DescribeError Description
  | .ofTable name joins condition order => do
    let table := ".".intercalate (name.map (·.value))
    let joins ← joins.mapM (Join.describe table)
    return {
      filterFields := ((condition.map (Expr.conditionFields table)).getD []).eraseDups
      joins := joins
      sort := order.filterMap fun item =>
        (item.expr.field? table).map fun field =>
          ⟨field, if item.descending then .descending else .ascending⟩ }
  | .ofQuery inner => inner.describe
  | .ofOther => .error (.unsupported "table expression")
  | .ofNothing => .error (.malformed "missing FROM")
  | .notSelect => .error (.unsupported "only SELECT is described")

end Sql

/-- Describe a SELECT statement. -/
def describeSql (text : String) : Except DescribeError Description :=
  match Sql.statements? text with
  | none => .error .unreadable
  | some [] => .error (.malformed "empty statement")
  | some [.query query] => query.describe
  | some _ => .error (.unsupported "expected a single SELECT")

/-- Describe a plan by its text. -/
def Relational.Plan.describe (plan : Relational.Plan) : Except DescribeError Description :=
  describeSql plan.sql

end DualQuery
