import DualQuery.Proofs.QuotedWords
import DualQuery.Relational.Compile
import DualQuery.Relational.Text

/-!
# Names in SQL texts

A column is written with its qualifier and its name in quotes and a point between them. Quotes and
points in these do not end them, so the text of a column, followed by anything that starts with
neither a quote nor a point, determines the column and what follows it. A point has to be ruled out
as well: a bare column in front of a point and a quoted name is the text of a qualified one.

In the text of a plan every name stands in quotes and in front of something that is no quote. So the
quoted words of the text are the names of the plan, each whole and all in order of appearance,
whatever characters they hold.

## Key results

- `Column.sql_append_inj`: a column is told apart from what follows it
- `Predicate.quotes_sql`, `Plan.quotes_bodySql`: the names in the parts of a text
- `Plan.quotedWords?_sql`: the quoted words of a text are the names of its plan
- `names_stay_quoted`: both for all columns and all plans
-/

namespace DualQuery.Relational

open Sql

/-! ## Columns -/

/-- Whether a text behind a column starts with neither a quote nor a point. -/
def endsColumn (text : String) : Bool := text.toList.head?.all fun c => c != '"' && c != '.'

/-- What ends a column starts with neither of the two characters that could go on with it. -/
theorem head?_of_endsColumn {text : String} (h : endsColumn text = true) :
    text.toList.head? ≠ some '"' ∧ text.toList.head? ≠ some '.' := by
  constructor <;>
  · intro hhead
    rw [endsColumn, hhead] at h
    cases h

/-- The characters of a bare column and what follows it. -/
theorem toList_sql_bare (name text : String) :
    ((Column.bare name).sql ++ text).toList = (identifier name).toList ++ text.toList :=
  String.toList_append

/-- The characters of a qualified column and what follows it. -/
theorem toList_sql_qualified (qualifier name text : String) :
    ((Column.qualified qualifier name).sql ++ text).toList =
      (identifier qualifier).toList ++ '.' :: ((identifier name).toList ++ text.toList) := by
  simp [Column.sql, Column.qualified]

/-- A point stands behind the first identifier of a qualified column only. -/
theorem sql_qualified_ne_bare (qualifier name name' text : String) {text' : String}
    (h' : endsColumn text' = true) :
    (Column.qualified qualifier name).sql ++ text ≠ (Column.bare name').sql ++ text' := by
  intro h
  obtain ⟨hquote, hpoint⟩ := head?_of_endsColumn h'
  have hchars := congrArg String.toList h
  rw [toList_sql_qualified, toList_sql_bare] at hchars
  obtain ⟨-, hrest⟩ := identifier_append_inj (by simp) hquote hchars
  rw [← hrest] at hpoint
  exact hpoint rfl

/-- A bare column is told apart from what follows it. -/
theorem sql_bare_append_inj {name name' s s' : String} (hs : endsColumn s = true)
    (hs' : endsColumn s' = true) (h : (Column.bare name).sql ++ s = (Column.bare name').sql ++ s') :
    name = name' ∧ s = s' := by
  have hchars := congrArg String.toList h
  rw [toList_sql_bare, toList_sql_bare] at hchars
  obtain ⟨hname, hrest⟩ :=
    identifier_append_inj (head?_of_endsColumn hs).1 (head?_of_endsColumn hs').1 hchars
  exact ⟨hname, String.toList_inj.mp hrest⟩

/-- A qualified column is told apart from what follows it. -/
theorem sql_qualified_append_inj {qualifier qualifier' name name' s s' : String}
    (hs : endsColumn s = true) (hs' : endsColumn s' = true)
    (h : (Column.qualified qualifier name).sql ++ s =
      (Column.qualified qualifier' name').sql ++ s') :
    qualifier = qualifier' ∧ name = name' ∧ s = s' := by
  have hchars := congrArg String.toList h
  rw [toList_sql_qualified, toList_sql_qualified] at hchars
  -- behind the qualifier stands a point
  obtain ⟨hqualifier, htail⟩ := identifier_append_inj (by simp) (by simp) hchars
  obtain ⟨hname, hrest⟩ := identifier_append_inj (head?_of_endsColumn hs).1
    (head?_of_endsColumn hs').1 (List.cons.inj htail).2
  exact ⟨hqualifier, hname, String.toList_inj.mp hrest⟩

/-- A column is told apart from what follows it. -/
theorem Column.sql_append_inj {c c' : Column} {s s' : String} (hs : endsColumn s = true)
    (hs' : endsColumn s' = true) (h : c.sql ++ s = c'.sql ++ s') : c = c' ∧ s = s' := by
  obtain ⟨qualifier | qualifier, name⟩ := c <;> obtain ⟨qualifier' | qualifier', name'⟩ := c'
  case none.none =>
    obtain ⟨rfl, hrest⟩ := sql_bare_append_inj hs hs' h
    exact ⟨rfl, hrest⟩
  case none.some => exact absurd h.symm (sql_qualified_ne_bare qualifier' name' name s' hs)
  case some.none => exact absurd h (sql_qualified_ne_bare qualifier name name' s hs')
  case some.some =>
    obtain ⟨rfl, rfl, hrest⟩ := sql_qualified_append_inj hs hs' h
    exact ⟨rfl, hrest⟩

example : (Column.qualified "a" "b").sql = "\"a\".\"b\"" ∧
    (Column.bare "a\".\"b").sql = "\"a\"\".\"\"b\"" := by decide

/-! ## Names -/

/-- The names that a column is written with. -/
def Column.names (column : Column) : List String := column.qualifier.toList ++ [column.name]

mutual
/-- The names in a predicate in order of appearance. A column that is asked for in an empty list is
not written. -/
def Predicate.names : Predicate → List String
  | .inList _ [] _ => []
  | .compare column _ _ | .inList column _ _ | .like column _ _ | .isNull column _ => column.names
  | .any predicates | .all predicates => (Predicate.namesOfAll predicates).flatten

/-- The names in each of several predicates. -/
def Predicate.namesOfAll : List Predicate → List (List String)
  | [] => []
  | predicate :: rest => predicate.names :: Predicate.namesOfAll rest
end

/-- The names in the call of an aggregate function. A count of rows that meet a predicate names no
column. -/
def aggregateNames (op : AggregateOp) (column : Option Column) (filter : Option Predicate) :
    List String :=
  match op, filter with
  | .count, some predicate => predicate.names
  | _, filter => filter.toList.flatMap Predicate.names ++ column.toList.flatMap Column.names

/-- The names in an item of the result. -/
def Projection.names : Projection → List String
  | .column c label => c.names ++ label.toList
  | .allColumns qualifier => [qualifier]
  | .aggregate op c label filter => aggregateNames op c filter ++ [label]
  | .countAll label => [label]

/-- The names in a join. -/
def JoinClause.names (join : JoinClause) : List String :=
  [join.source, join.label] ++ join.left.names ++ join.right.names

/-- The names in a clause that filters rows. -/
def Clause.filterNames : Clause → List String
  | filter predicate | alsoFilter predicate => predicate.names
  | _ => []

/-- The names from the table to the groups. -/
def Plan.bodyNames (plan : Plan) : List String :=
  [plan.entity] ++ plan.joins.flatMap JoinClause.names ++
    plan.clauses.flatMap Clause.filterNames ++ plan.groupColumns.flatMap Column.names

/-- The names in the items of the result, all columns by default. -/
def Plan.itemNames (plan : Plan) : List String :=
  match plan.projection with
  | [] => [plan.entity]
  | items => items.flatMap Projection.names

/-- The names in the text of a plan in order of appearance. The count of a grouped plan brings three
names of its own. -/
def Plan.names (plan : Plan) : List String :=
  if plan.kind = .count ∧ plan.isGrouped then ["total", "rows"] ++ plan.bodyNames ++ ["grouped"]
  else plan.itemNames ++ plan.bodyNames ++ plan.order.flatMap fun item => item.column.names

/-! ## Predicates -/

/-- The quoted words of a column are its qualifier and its name. -/
theorem Column.quotes_sql (column : Column) : Quotes column.sql column.names := by
  obtain ⟨qualifier | qualifier, name⟩ := column
  · exact quotes_identifier name
  · have hname : (identifier name).toList.head? = some '"' := by simp [toList_identifier]
    exact (quotes_identifier name).qualify qualifier hname rfl

/-- A placeholder has no quoted words. -/
theorem quotes_placeholder (param : Nat) : Quotes (placeholder param) [] :=
  quotes_dollar (param + 1)

/-- An operator between blanks separates what stands on its sides. -/
theorem separates_operator (op : Operator) : Separates (" " ++ op.sql ++ " ") := by
  cases op
  case oneOf | noneOf | like | isNull | isNotNull => exact separates_of_isSeparator rfl
  all_goals exact separates_comparison (by decide)

/-- What is written for no predicates, and for a list of no operands. -/
theorem quotes_equation (m n : Nat) : Quotes (toString m ++ " = " ++ toString n) [] :=
  (quotes_toString m).separate (separates_operator .eq) (quotes_toString n)

/-- What holds of each item holds of the lists of their texts and names. -/
theorem forall₂_map_map {α : Type} {R : String → List String → Prop} {items : List α}
    {text : α → String} {names : α → List String} (h : ∀ item ∈ items, R (text item) (names item)) :
    List.Forall₂ R (items.map text) (items.map names) :=
  List.forall₂_map_left_iff.2 (List.forall₂_map_right_iff.2 (List.forall₂_same.2 h))

/-- A list of placeholders has no quoted words. -/
theorem quotes_placeholders (params : List Nat) :
    Quotes (", ".intercalate (params.map placeholder)) [] := by
  have hall := quotes_intercalate separates_comma
    (forall₂_map_map fun param (_ : param ∈ params) => quotes_placeholder param)
  rwa [List.map_const', List.flatten_replicate_nil] at hall

/-- One text stands for itself, several stand in parentheses. -/
theorem quotes_connect {connective : String} (hsep : Separates connective) {texts : List String}
    {names : List (List String)} (h : List.Forall₂ Quotes texts names) :
    Quotes (connect connective texts) names.flatten := by
  cases h with
  | nil => exact quotes_equation 1 1
  | cons hhead htail =>
    cases htail with
    | nil =>
      rw [List.flatten_cons, List.flatten_nil, List.append_nil]
      exact hhead
    | cons hsecond hrest =>
      have hall := quotes_intercalate hsep (.cons hhead (.cons hsecond hrest))
      exact ((leads_of_keywords rfl rfl).quotes hall).close (continues_of_keywords rfl rfl)

mutual
/-- The quoted words of a predicate are its names. -/
theorem Predicate.quotes_sql : (predicate : Predicate) → Quotes predicate.sql predicate.names
  | .compare column op param => by
    have h := column.quotes_sql.separate (separates_operator op) (quotes_placeholder param)
    rw [List.append_nil, ← String.append_assoc, ← String.append_assoc] at h
    exact h
  | .inList column [] negated => by
    -- the column is not written
    cases negated
    · exact quotes_equation 1 0
    · exact quotes_equation 1 1
  | .inList column (param :: params) negated => by
    have hin : Separates (if negated then " NOT IN (" else " IN (") := by
      cases negated <;> exact separates_of_isSeparator rfl
    have hclose : Continues ")" [] := continues_of_keywords rfl rfl
    have h := (column.quotes_sql.separate hin (quotes_placeholders (param :: params))).close hclose
    rw [List.append_nil] at h
    exact h
  | .like column param ignoreCase => by
    have hlike : Separates (if ignoreCase then " ILIKE " else " LIKE ") := by
      cases ignoreCase <;> exact separates_of_isSeparator rfl
    have h := column.quotes_sql.separate hlike (quotes_placeholder param)
    rw [List.append_nil] at h
    exact h
  | .isNull column negated => by
    have hnull : Continues (if negated then " IS NOT NULL" else " IS NULL") [] := by
      cases negated <;> exact continues_of_keywords rfl rfl
    exact column.quotes_sql.close hnull
  | .any predicates =>
    quotes_connect (separates_of_isSeparator rfl) (Predicate.quotes_sqlOfAll predicates)
  | .all predicates =>
    quotes_connect (separates_of_isSeparator rfl) (Predicate.quotes_sqlOfAll predicates)

/-- The quoted words of several predicates are their names. -/
theorem Predicate.quotes_sqlOfAll : (predicates : List Predicate) →
    List.Forall₂ Quotes (Predicate.sqlOfAll predicates) (Predicate.namesOfAll predicates)
  | [] => .nil
  | predicate :: rest => .cons predicate.quotes_sql (Predicate.quotes_sqlOfAll rest)
end

/-! ## Items of the result -/

/-- An operand that counts where a predicate holds has the names of the predicate in front of its
own. -/
theorem quotes_onlyWhere (filter : Option Predicate) {text : String} {names : List String}
    (h : Quotes text names) :
    Quotes (onlyWhere filter text) (filter.toList.flatMap Predicate.names ++ names) := by
  cases filter with
  | none => exact h
  | some predicate =>
    have hwhen : Quotes ("CASE WHEN " ++ predicate.sql) predicate.names :=
      (leads_of_keywords rfl rfl).quotes predicate.quotes_sql
    have hthen : Separates " THEN " := separates_of_isSeparator rfl
    have hend : Continues " END" [] := continues_of_keywords rfl rfl
    rw [Option.toList_some, List.flatMap_singleton]
    exact (hwhen.separate hthen h).close hend

/-- The call of a function. -/
theorem quotes_call {opening operand : String} (hopening : isKeywords opening.toList = true)
    (hlast : opening.toList.getLast?.any marks.contains = true) {names : List String}
    (h : Quotes operand names) : Quotes (opening ++ operand ++ ")") names :=
  ((leads_of_keywords hopening hlast).quotes h).close (continues_of_keywords rfl rfl)

/-- The separator of a concatenation is a literal without quotes. -/
theorem continues_separator : Continues (", '" ++ concatSeparator ++ "')") [] where
  startsApart := rfl
  quotes := by
    refine quotes_of_eq fun rest _ => ?_
    have htext : (", '" ++ concatSeparator ++ "')").toList ++ rest =
        ',' :: ' ' :: '\'' :: (concatSeparator.toList ++ '\'' :: ')' :: rest) := rfl
    rw [htext, quotedWords?_mark (by decide), quotedWords?_mark (by decide),
      quotedWords?_literal (by decide) (by simp), quotedWords?_mark (by decide)]

/-- The quoted words of an aggregate are those of its condition and its column. -/
theorem quotes_aggregateSql (op : AggregateOp) (column : Option Column)
    (filter : Option Predicate) :
    Quotes (aggregateSql op column filter) (aggregateNames op column filter) := by
  have hoperand : Quotes ((column.map Column.sql).getD "NULL")
      (column.toList.flatMap Column.names) := by
    cases column with
    | none => exact quotes_of_keywords rfl
    | some column =>
      rw [Option.toList_some, List.flatMap_singleton]
      exact column.quotes_sql
  -- counts and concatenations are written in their own ways, the other functions are called alike
  cases op with
  | count =>
    cases filter with
    | some predicate =>
      -- rows are counted as ones
      have hrows := quotes_onlyWhere (some predicate) (quotes_toString 1)
      rw [Option.toList_some, List.flatMap_singleton, List.append_nil] at hrows
      exact quotes_call rfl rfl hrows
    | none =>
      cases column with
      | some column => exact quotes_call rfl rfl hoperand
      | none => exact quotes_of_keywords rfl
  | concat =>
    have hopening : Leads "STRING_AGG(" := leads_of_keywords rfl rfl
    have hcast : Leads "CAST(" := leads_of_keywords rfl rfl
    have htext : Continues " AS TEXT)" [] := continues_of_keywords rfl rfl
    have hvalue := quotes_onlyWhere filter ((hcast.quotes hoperand).close htext)
    have h := (hopening.quotes hvalue).close continues_separator
    -- the closing text is written in three pieces
    rw [← String.append_assoc, ← String.append_assoc] at h
    exact h
  | sum | avg | min | max => exact quotes_call rfl rfl (quotes_onlyWhere filter hoperand)

/-- All columns of a table. -/
theorem quotes_allColumns (qualifier : String) :
    Quotes (identifier qualifier ++ ".*") [qualifier] := by
  have hstar : Quotes "*" [] := quotes_of_keywords rfl
  have h := hstar.qualify qualifier (c := '*') rfl rfl
  rw [String.append_assoc] at h
  exact h

/-- The quoted words of an item of the result are its names. -/
theorem Projection.quotes_sql (item : Projection) : Quotes item.sql item.names := by
  have has : Separates " AS " := separates_of_isSeparator rfl
  cases item with
  | column column label =>
    cases label with
    | none =>
      rw [Projection.names, Option.toList_none, List.append_nil]
      exact column.quotes_sql
    | some label => exact column.quotes_sql.separate has (quotes_identifier label)
  | allColumns qualifier => exact quotes_allColumns qualifier
  | aggregate op column label filter =>
    exact (quotes_aggregateSql op column filter).separate has (quotes_identifier label)
  | countAll label =>
    exact (leads_of_keywords rfl rfl).quotes (a := "COUNT(*) AS ") (quotes_identifier label)

/-! ## Clauses -/

/-- A join goes on from a text with its own names. -/
theorem JoinClause.continues_sql (join : JoinClause) : Continues join.sql join.names := by
  have has : Separates " AS " := separates_of_isSeparator rfl
  have hon : Separates " ON " := separates_of_isSeparator rfl
  -- the pieces of the clause are added one by one, each with the names it brings
  have hkeyword : Continues (" " ++ join.joinType.keyword) [] :=
    separates_blank.continues (quotes_of_keywords (by cases join.joinType <;> rfl))
  have hsource := hkeyword.separate separates_blank (quotes_identifier join.source)
  have hlabel := hsource.separate has (quotes_identifier join.label)
  have hleft := hlabel.separate hon join.left.quotes_sql
  exact hleft.separate (separates_operator .eq) join.right.quotes_sql

/-- So does a clause that filters rows. -/
theorem Clause.continues_filterSql (clause : Clause) :
    Continues clause.filterSql clause.filterNames := by
  cases clause with
  | filter predicate => exact (separates_of_isSeparator rfl).continues predicate.quotes_sql
  | alsoFilter predicate => exact (separates_of_isSeparator rfl).continues predicate.quotes_sql
  | _ => exact .empty

/-- The quoted words of an item of the order are those of its column. -/
theorem OrderItem.quotes_sql (item : OrderItem) : Quotes item.sql item.column.names := by
  have hdirection : Continues (if item.descending then " DESC" else " ASC") [] := by
    cases item.descending <;> exact continues_of_keywords rfl rfl
  exact item.column.quotes_sql.close hdirection

/-- A clause that lists items goes on with the names of all of them, and is left out where there are
none. -/
theorem continues_listClause {α : Type} {keywords : String} (hkeywords : Separates keywords)
    {items : List α} {text : α → String} {names : α → List String}
    (h : ∀ item ∈ items, Quotes (text item) (names item)) :
    Continues (listClause keywords (items.map text)) (items.flatMap names) := by
  cases items with
  | nil => exact .empty
  | cons item items =>
    exact hkeywords.continues (quotes_intercalate separates_comma (forall₂_map_map h))

/-- Texts one behind the other go on with the names of all of them. -/
theorem continues_join_map {α : Type} (items : List α) {text : α → String}
    {names : α → List String} (h : ∀ item, Continues (text item) (names item)) :
    Continues (String.join (items.map text)) (items.flatMap names) :=
  .join (forall₂_map_map fun item _ => h item)

/-! ## Plans -/

/-- From the table to the groups the quoted words are the names. -/
theorem Plan.quotes_bodySql (plan : Plan) : Quotes plan.bodySql plan.bodyNames := by
  have htable : Quotes ("FROM " ++ identifier plan.entity) [plan.entity] :=
    (leads_of_keywords rfl rfl).quotes (quotes_identifier plan.entity)
  have hjoins := htable.append (continues_join_map plan.joins JoinClause.continues_sql)
  have hfilters := hjoins.append (continues_join_map plan.clauses Clause.continues_filterSql)
  exact hfilters.append (continues_listClause (separates_of_isSeparator rfl)
    fun column _ => column.quotes_sql)

/-- The items of the result are written with their names. -/
theorem Plan.quotes_items (plan : Plan) :
    Quotes (match plan.projection with
      | [] => identifier plan.entity ++ ".*"
      | items => ", ".intercalate (items.map Projection.sql)) plan.itemNames := by
  unfold Plan.itemNames
  split
  next => exact quotes_allColumns plan.entity
  next =>
    exact quotes_intercalate separates_comma
      (forall₂_map_map fun item _ => Projection.quotes_sql item)

/-- The groups of a plan are counted around its body. -/
theorem Plan.quotes_groupCount (plan : Plan) :
    Quotes ("SELECT COUNT(*) AS \"total\" FROM (SELECT COUNT(*) AS \"rows\" " ++ plan.bodySql ++
      ") AS \"grouped\"") (["total", "rows"] ++ plan.bodyNames ++ ["grouped"]) := by
  have hfrom : Separates " FROM (SELECT COUNT(*) AS " := separates_of_isSeparator rfl
  have htotal : Quotes ("SELECT COUNT(*) AS " ++ identifier "total") ["total"] :=
    (leads_of_keywords rfl rfl).quotes (quotes_identifier "total")
  have hrows := htotal.separate hfrom (quotes_identifier "rows")
  have hbody := hrows.separate separates_blank plan.quotes_bodySql
  have hgrouped : Continues (") AS " ++ identifier "grouped") ["grouped"] :=
    (separates_of_isSeparator rfl).continues (quotes_identifier "grouped")
  have hopening : "SELECT COUNT(*) AS " ++ identifier "total" ++ " FROM (SELECT COUNT(*) AS " ++
      identifier "rows" ++ " " =
        "SELECT COUNT(*) AS \"total\" FROM (SELECT COUNT(*) AS \"rows\" " := by decide
  have hclosing : ") AS " ++ identifier "grouped" = ") AS \"grouped\"" := by decide
  -- the three names are plain, so they are written as they stand
  rw [hopening] at hbody
  rw [hclosing] at hgrouped
  exact hbody.append hgrouped

/-- A number behind a keyword has no quoted words. -/
theorem continues_count {keyword : String} (hkeyword : Separates keyword) (count : Option Nat) :
    Continues (match count with | some count => keyword ++ toString count | none => "") [] := by
  cases count with
  | none => exact .empty
  | some count => exact hkeyword.continues (quotes_toString count)

/-- The text of a plan has its names as quoted words. -/
theorem Plan.quotes_sql (plan : Plan) : Quotes plan.sql plan.names := by
  unfold Plan.sql Plan.names
  split
  next => exact plan.quotes_groupCount
  next =>
    -- the text is built from left to right: items, body, order, and the two numbers of a page
    have horderBy : Separates " ORDER BY " := separates_of_isSeparator rfl
    have hlimit : Separates " LIMIT " := separates_of_isSeparator rfl
    have hoffset : Separates " OFFSET " := separates_of_isSeparator rfl
    have hselect := (leads_of_keywords rfl rfl).quotes (a := "SELECT ") plan.quotes_items
    have hbody := hselect.separate separates_blank plan.quotes_bodySql
    have horder := hbody.append
      (continues_listClause horderBy fun item (_ : item ∈ plan.order) => item.quotes_sql)
    have htake := horder.close (continues_count hlimit plan.take?)
    exact htake.close (continues_count hoffset plan.skip?)

/-- The quoted words of a text are the names of its plan. -/
theorem Plan.quotedWords?_sql (plan : Plan) : quotedWords? plan.sql.toList = some plan.names := by
  have h := plan.quotes_sql [] rfl
  rw [List.append_nil, quotedWords?_nil, Option.map_some, List.append_nil] at h
  exact h

/-- A column, in front of anything that starts with neither a quote nor a point, is told apart from
what follows it, and in the text of a plan every name is one word in quotes: the quoted words of the
text are the names of the plan in order of appearance. -/
theorem names_stay_quoted :
    (∀ (c c' : Column) (s s' : String), endsColumn s = true → endsColumn s' = true →
      c.sql ++ s = c'.sql ++ s' → c = c' ∧ s = s') ∧
    ∀ plan : Plan, quotedWords? plan.sql.toList = some plan.names :=
  ⟨fun _ _ _ _ hs hs' h => Column.sql_append_inj hs hs' h, Plan.quotedWords?_sql⟩

/-- The users of a team, where the names hold quotes, points and whole pieces of SQL. -/
def hostileQuery : Descriptor where
  conditions := [("na\"me", .equals (.string "ann"))]
  joins := [{ source := "te\"\"ams", localField := "team", foreignField := "id\" OR 1 = 1 --",
              label := some "t\"" }]
  sort := [⟨"t\".ra\".\"nk", .descending⟩]
  select := ["x\" FROM \"users"]

/-- Names that hold quotes, points and SQL: the column is determined, and the quoted words are the
names as they were given. -/
theorem names_stay_quoted_hostile :
    endsColumn " DESC" = true ∧
      (columnOf "users" ["t\""] "t\".ra\".\"nk").sql ++ " DESC" =
        (Column.qualified "t\"" "ra\".\"nk").sql ++ " DESC" ∧
      columnOf "users" ["t\""] "t\".ra\".\"nk" = Column.qualified "t\"" "ra\".\"nk" ∧
      quotedWords? (hostileQuery.relationalPlans { entity := "users" }).data.sql.toList =
        some ["users", "x\" FROM \"users", "x\" FROM \"users", "users", "te\"\"ams", "t\"", "users",
          "team", "t\"", "id\" OR 1 = 1 --", "users", "na\"me", "t\"", "ra\".\"nk"] := by
  obtain ⟨hcolumns, hplans⟩ := names_stay_quoted
  have hends : endsColumn " DESC" = true := by decide
  have htexts : (columnOf "users" ["t\""] "t\".ra\".\"nk").sql ++ " DESC" =
      (Column.qualified "t\"" "ra\".\"nk").sql ++ " DESC" := by decide
  refine ⟨hends, htexts, (hcolumns _ _ _ _ hends hends htexts).1, ?_⟩
  rw [hplans]
  decide +kernel

end DualQuery.Relational
