import DualQuery.Sql.Projection

/-!
# Reading the sources of rows

Tables, queries and functions that a statement takes its rows from, with the joins behind them.
-/

namespace DualQuery.Sql.Reader

/-- What a source holds. -/
inductive Content where
  | table (name : ObjectName)
  | query (query : Query)
  /-- Tables joined in parentheses. -/
  | joined
  /-- The rows of a function or a rearranged table. -/
  | other

/-- What rows are taken from, with its alias. -/
structure Source where
  content : Content
  label : Option String

/-- The table that a source is, with its alias. -/
def Source.table? : Source → Option (ObjectName × Option String)
  | ⟨.table name, label⟩ => some (name, label)
  | _ => none

/-! ## Joins -/

/-- The keywords of a join other than a cross join: whether it is a plain one. There is no result
where no such join comes first. -/
def joinKeywords? : Reader (Option Bool) := do
  match keyword? (← peek?) with
  | some "JOIN" | some "INNER" =>
    discard (takeKeyword "INNER")
    expectKeyword "JOIN"
    return some true
  | some "LEFT" | some "RIGHT" =>
    discard take
    match ← takeOneOf ["OUTER", "SEMI", "ANTI", "JOIN"] with
    | some "JOIN" => return some true
    | some "OUTER" => expectKeyword "JOIN"; return some true
    | some _ => expectKeyword "JOIN"; return some false
    | none => failure
  | some "FULL" =>
    discard take
    discard (takeKeyword "OUTER")
    expectKeyword "JOIN"
    return some true
  | _ => return none

namespace Level

variable (level : Level)

/-- The condition of a join: an expression, or none where there is no ON. -/
def joinCondition (isNatural : Bool) : Reader (Option Expr) := do
  if isNatural then return none
  else if ← takeKeyword "ON" then return some (← level.anyExpr)
  else
    behindKeyword "USING" identList
    return none

/-- A join, if one comes first, given a reader of its table. -/
def join? (source : Reader Source) : Reader (Option Join) := do
  if ← takeKeyword "CROSS" then
    expectOneOf ["JOIN", "APPLY"]
    return some ⟨(← source).table?, false, none⟩
  else if ← takeKeyword "OUTER" then
    expectKeyword "APPLY"
    return some ⟨(← source).table?, false, none⟩
  else
    let isNatural ← takeKeyword "NATURAL"
    match ← joinKeywords? with
    | some isPlain =>
      let table := (← source).table?
      return some ⟨table, isPlain, ← level.joinCondition isNatural⟩
    | none => if isNatural then failure else return none

/-- A source followed by joins. -/
def joinedTo (source : Reader Source) : Reader (Source × List Join) := do
  let first ← source
  let joins ← repeatStep (fun (joins : List Join) => do
    match ← level.join? source with
    | some join => return some (joins ++ [join])
    | none => return none) []
  return (first, joins)

/-! ## Sources -/

/-- How a source is rearranged, if it is. -/
def rearranged (source : Source) : Reader Source :=
  repeatStep (fun _ => do
    match ← takeOneOf ["PIVOT", "UNPIVOT"] with
    | some "PIVOT" =>
      parenthesized do
        match ← take with
        | .word _ _ => level.call
        | _ => failure
        expectKeyword "FOR"
        discard objectName
        expectKeyword "IN"
        discard (parenthesized (commaList value))
      return some ⟨.other, ← tableAlias?⟩
    | some _ =>
      parenthesized do
        discard ident
        expectKeyword "FOR"
        discard ident
        expectKeyword "IN"
        identList
      return some ⟨.other, ← tableAlias?⟩
    | none => return none) source

/-- A query as a source behind its opening parenthesis. -/
def derivedTable : Reader Source := do
  let query ← level.query
  expectSymbol ")"
  return ⟨.query query, ← tableAlias?⟩

/-- The rows of a query or a function, which may refer to the sources before it. -/
def lateral : Reader Source := do
  if ← takeSymbol "(" then level.derivedTable
  else
    discard objectName
    expectSymbol "("
    level.arguments
    return ⟨.other, ← tableAlias?⟩

/-- The items of arrays as rows, possibly numbered. -/
def unnested : Reader Source := do
  parenthesized level.exprs
  let label ← tableAlias?
  behindKeyword "WITH" do
    if ← takeKeyword "OFFSET" then discard (optionalAlias notColumnAlias)
  return ⟨.other, label⟩

/-- A table with what may follow its name, or the rows of a function. -/
def namedTable : Reader Source := do
  let name ← objectName
  behindKeyword "PARTITION" identList
  if ← takeSymbol "(" then level.arguments
  let label ← tableAlias?
  if keyword? (← peek?) == some "WITH" && ((← get).drop 1).head? == some (.symbol "(") then
    discard take
    parenthesized level.exprs
  level.rearranged ⟨.table name, label⟩

/-- A source with its joins behind an opening parenthesis, given a reader of sources. A single
source has one alias at most, in the parentheses or behind them. -/
def joinedTable (source : Reader Source) : Reader Source := do
  let (inner, joins) ← level.joinedTo source
  expectSymbol ")"
  let outer ← tableAlias?
  match joins, inner.content, inner.label, outer with
  | _ :: _, _, _, _ | [], .joined, _, _ => return ⟨.joined, outer⟩
  | [], _, some _, some _ => failure
  | [], content, label, outer => return ⟨content, label <|> outer⟩

/-- A source. Parentheses around sources nest at most a number of times. -/
def sourceWithin : Nat → Reader Source
  | 0 => failure
  | nesting + 1 => do
    if ← takeKeyword "LATERAL" then level.lateral
    else if ← takeKeyword "TABLE" then
      discard (parenthesized level.anyExpr)
      return ⟨.other, ← tableAlias?⟩
    else if ← takeKeyword "UNNEST" then level.unnested
    else if ← takeSymbol "(" then
      let derived ← (some <$> level.derivedTable) <|> pure none
      match derived with
      | some source => level.rearranged source
      | none => level.joinedTable (sourceWithin nesting)
    else level.namedTable

/-- A source. Every pair of parentheses around it takes a token, so their number is bounded. -/
def source : Reader Source := do level.sourceWithin ((← get).length + 1)

/-- A source with its joins. -/
def joinedTables : Reader (Source × List Join) := level.joinedTo level.source

/-- Sources with their joins, separated by commas. -/
def sources : Reader (List (Source × List Join)) := commaList level.joinedTables

end Level

end DualQuery.Sql.Reader
