import DualQuery.Sql.Change

/-!
# Reading queries

A query is read clause by clause; of most clauses nothing is kept. What `Level.select` builds still
lacks the order of the rows, which stands behind the parts that set operators join.
-/

namespace DualQuery.Sql.Reader.Level

variable (level : Level)

/-! ## Clauses of a part -/

/-- How many rows are shown, behind TOP. -/
def top : Reader Unit := do
  if ← comesSymbol "(" then discard (parenthesized level.anyExpr) else numberValue
  discard (takeKeyword "PERCENT")
  discard (takeKeywords ["WITH", "TIES"])

/-- The table that the rows of a query are written to, behind INTO. -/
def destination : Reader Unit := do
  discard (takeOneOf ["TEMP", "TEMPORARY"])
  discard (takeKeyword "UNLOGGED")
  discard (takeKeyword "TABLE")
  discard objectName

/-- Expressions in parentheses, possibly none. -/
def tuple : Reader Unit := do
  expectSymbol "("
  if !(← takeSymbol ")") then
    level.exprs
    expectSymbol ")"

/-- An item of GROUP BY. -/
def groupItem : Reader Unit := do
  if ← takeKeywords ["GROUPING", "SETS"] then discard (parenthesized (commaList level.tuple))
  else if (← takeOneOf ["CUBE", "ROLLUP"]).isSome then
    discard <| parenthesized <| commaList do
      if ← comesSymbol "(" then level.tuple else discard level.anyExpr
  else discard level.anyExpr

/-- The views behind the sources. -/
def lateralViews : Reader Unit :=
  repeatStep (fun _ => do
    if ← takeKeywords ["LATERAL", "VIEW"] then
      discard (takeKeyword "OUTER")
      discard level.anyExpr
      discard objectName
      discard (commaList (optionalAlias ["WHERE", "GROUP", "CLUSTER", "HAVING", "LATERAL"]))
      return some ()
    else return none) ()

/-- The clauses behind the condition of a query. -/
def groupClauses : Reader Unit := do
  if ← takeKeywords ["GROUP", "BY"] then
    if !(← takeKeyword "ALL") then discard (commaList level.groupItem)
  if ← takeKeywords ["CLUSTER", "BY"] then level.exprs
  if ← takeKeywords ["DISTRIBUTE", "BY"] then level.exprs
  if ← takeKeywords ["SORT", "BY"] then level.exprs
  behindKeyword "HAVING" (discard level.anyExpr)
  behindKeyword "WINDOW" <| discard <| commaList do
    discard ident
    expectKeyword "AS"
    expectSymbol "("
    level.windowBody
  behindKeyword "QUALIFY" (discard level.anyExpr)

/-! ## Parts -/

/-- A query of one source behind SELECT, without its order. -/
def select : Reader (List SortItem → Query) := do
  level.quantifier
  behindKeyword "TOP" level.top
  level.selectItems
  behindKeyword "INTO" destination
  let sources ← if ← takeKeyword "FROM" then level.sources else pure []
  level.lateralViews
  let condition ← if ← takeKeyword "WHERE" then some <$> level.anyExpr else pure none
  level.groupClauses
  return match sources with
    | (⟨.table name, _⟩, joins) :: _ => fun order => .ofTable name joins condition order
    | (⟨.query inner, _⟩, _) :: _ => fun _ => .ofQuery inner
    | (_, _) :: _ => fun _ => .ofOther
    | [] => fun _ => .ofNothing

/-- A table behind its keyword as a part of a query: a word, or two words and a dot. Behind a single
word two more tokens are passed over. -/
def wholeTable : Reader Unit := do
  match ← get with
  | .word _ _ :: .symbol "." :: .word _ _ :: rest => set rest
  | _ :: .symbol "." :: _ => failure
  | .word _ _ :: rest => set (rest.drop 2)
  | _ => failure

/-- A part of a query between set operators. -/
def queryPart : Reader (List SortItem → Query) := do
  if ← takeKeyword "SELECT" then level.select
  else
    if ← takeSymbol "(" then
      discard level.query
      expectSymbol ")"
    else if ← takeKeyword "VALUES" then level.rows
    else
      expectKeyword "TABLE"
      wholeTable
    return fun _ => .notSelect

/-- A set operator with what it does to equal rows, if one comes first. -/
def takeSetOperator : Reader Bool := do
  match ← takeOneOf ["UNION", "EXCEPT", "INTERSECT"] with
  | some "UNION" =>
    if ← takeKeyword "DISTINCT" then discard (takeKeywords ["BY", "NAME"])
    else
      discard (takeKeyword "ALL")
      discard (takeKeywords ["BY", "NAME"])
    return true
  | some _ =>
    discard (takeOneOf ["ALL", "DISTINCT"])
    return true
  | none => return false

/-! ## Clauses of a query -/

/-- A limit, given whether there is one already. The result says whether there is one then. -/
def nextLimit (isLimited : Bool) : Reader Bool := do
  if isLimited then return true
  else if ← takeKeyword "LIMIT" then level.limit
  else return false

/-- An offset, given whether there is one already, and whether there is a limit. The result says
whether there is one then. -/
def nextOffset (isSkipping isLimited : Bool) : Reader Bool := do
  if isSkipping then return true
  else if ← takeKeyword "OFFSET" then
    discard level.anyExpr
    discard (takeOneOf ["ROW", "ROWS"])
    return true
  else if !isLimited then return false
  else if ← takeSymbol "," then
    discard level.anyExpr
    return true
  else return false

/-- The limit and the offset of a query in any order, each at most once. Behind a limit, a comma
stands for OFFSET. -/
def limits : Reader Unit := do
  let isLimited ← level.nextLimit false
  let isSkipping ← level.nextOffset false isLimited
  let isLimited ← level.nextLimit isLimited
  discard (level.nextOffset isSkipping isLimited)

/-- The number of rows that are fetched, behind FETCH. -/
def fetched : Reader Unit := do
  expectOneOf ["FIRST", "NEXT"]
  if (← takeOneOf ["ROW", "ROWS"]).isNone then
    discard value
    discard (takeKeyword "PERCENT")
    expectOneOf ["ROW", "ROWS"]
  if !(← takeKeyword "ONLY") then expectKeywords ["WITH", "TIES"]

/-- A text in parentheses, if there is one. -/
def optionalText : Reader Unit := optionalParentheses (discard literalText)

/-- Options behind commas, each of which may be missing. -/
def formOptions (option : Reader Unit) : Reader Unit :=
  repeatStep (fun _ => do
    if ← takeSymbol "," then
      option
      return some ()
    else return none) ()

/-- The name of the root of a document, behind its keyword. -/
def root : Reader Unit := parenthesized (discard literalText)

/-- The form of the document that the result makes, behind FOR, if there is one. -/
def documentForm : Reader Bool := do
  match ← takeOneOf ["XML", "JSON", "BROWSE"] with
  | some "XML" =>
    match ← takeOneOf ["RAW", "AUTO", "EXPLICIT", "PATH"] with
    | some "RAW" | some "PATH" => optionalText
    | some _ => pure ()
    | none => failure
    formOptions do
      match ← takeOneOf ["ELEMENTS", "BINARY", "ROOT", "TYPE"] with
      | some "BINARY" => expectKeyword "BASE64"
      | some "ROOT" => root
      | _ => return
    return true
  | some "JSON" =>
    expectOneOf ["AUTO", "PATH"]
    formOptions do
      match ← takeOneOf ["ROOT", "INCLUDE_NULL_VALUES", "WITHOUT_ARRAY_WRAPPER"] with
      | some "ROOT" => root
      | _ => return
    return true
  | some _ => return true
  | none => return false

/-- The locks that a query takes and the form of its result. -/
def forClauses : Reader Unit :=
  repeatStep (fun _ => do
    if !(← takeKeyword "FOR") then return none
    else if ← documentForm then return none
    else
      expectOneOf ["UPDATE", "SHARE"]
      behindKeyword "OF" (discard objectName)
      if !(← takeKeyword "NOWAIT") then discard (takeKeywords ["SKIP", "LOCKED"])
      return some ()) ()

/-! ## Queries -/

/-- The named queries in front of a query. -/
def commonTables : Reader Unit :=
  behindKeyword "WITH" do
    discard (takeKeyword "RECURSIVE")
    discard (commaList do
      discard ident
      optionalIdentList
      expectKeyword "AS"
      discard (parenthesized level.query)
      behindKeyword "FROM" (discard ident))

/-- A query, or a change of rows in its place. -/
def queryBody : Reader Query := do
  level.commonTables
  if ← takeKeyword "INSERT" then
    level.insertion
    return .notSelect
  else if ← takeKeyword "UPDATE" then
    level.update
    return .notSelect
  else
    let first ← level.queryPart
    let build ← repeatStep (fun (_ : List SortItem → Query) => do
      if ← takeSetOperator then
        discard level.queryPart
        -- what a set operator combines is no plain SELECT
        return some (fun _ => .notSelect)
      else return none) first
    let order ← level.orderBy
    level.limits
    behindKeyword "BY" level.exprs
    behindKeyword "FETCH" fetched
    forClauses
    return build order

end DualQuery.Sql.Reader.Level
