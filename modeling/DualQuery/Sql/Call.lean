import DualQuery.Sql.DataType

/-!
# Reading calls

The calls of functions with their windows, and the forms that some functions have of their own, such
as `CAST (a AS INT)`.
-/

namespace DualQuery.Sql.Reader.Level

variable (level : Level)

/-- Expressions separated by commas. -/
def exprs : Reader Unit := discard (commaList level.anyExpr)

/-! ## Order -/

/-- An item of ORDER BY. -/
def sortItem : Reader SortItem := do
  let expr ← level.anyExpr
  let descending := (← takeOneOf ["ASC", "DESC"]) == some "DESC"
  if !(← takeKeywords ["NULLS", "FIRST"]) then discard (takeKeywords ["NULLS", "LAST"])
  return ⟨expr, descending⟩

/-- The items behind ORDER BY, if it comes first. -/
def orderBy : Reader (List SortItem) := do
  if ← takeKeywords ["ORDER", "BY"] then commaList level.sortItem else return []

/-- What follows LIMIT: a number of rows, or ALL for no limit. The result says whether there is a
limit. -/
def limit : Reader Bool := do
  if ← takeKeyword "ALL" then return false
  else
    discard level.anyExpr
    return true

/-! ## Arguments -/

/-- What follows a dotted name up to a star, if names and dots lead to one. -/
def starBehind : List Token → Reader Bool
  | .symbol "*" :: rest => do set rest; return true
  | .word _ _ :: .symbol "." :: rest | .literal _ :: .symbol "." :: rest => starBehind rest
  | .word _ _ :: _ | .literal _ :: _ => return false
  | _ => failure

/-- Whether a star comes first, alone or behind a dotted name. It is taken then. -/
def takeStar : Reader Bool := do
  match ← get with
  | .symbol "*" :: rest => set rest; return true
  | .word _ _ :: .symbol "." :: rest | .literal _ :: .symbol "." :: rest => starBehind rest
  | _ => return false

/-- An argument of a function, possibly with its name. -/
def argument : Reader Unit := do
  if ((← get).drop 1).head? == some (.symbol "=>") then
    discard ident
    expectSymbol "=>"
  if !(← takeStar) then discard level.anyExpr

/-- The arguments of a function behind the opening parenthesis, and how they are sorted. -/
def sortedArguments : Reader Unit := do
  if !(← takeSymbol ")") then
    discard (commaList level.argument)
    discard level.orderBy
    expectSymbol ")"

/-- The arguments of a function behind the opening parenthesis. -/
def arguments : Reader Unit := do
  if !(← takeSymbol ")") then
    discard (commaList level.argument)
    expectSymbol ")"

/-- Whether rows or arguments are kept apart; ALL and DISTINCT exclude each other. -/
def quantifier : Reader Unit := do
  let all ← takeKeyword "ALL"
  if ← takeKeyword "DISTINCT" then
    if all then failure
    behindKeyword "ON" do
      expectSymbol "("
      if !(← comesSymbol ")") then level.exprs
      expectSymbol ")"

/-! ## Windows -/

/-- The qualifier of an interval and how precise it is. -/
def intervalQualifier : Reader Unit := do
  match ← takeOneOf intervalFields with
  | some "SECOND" => optionalScale
  | _ =>
    optionalPrecision
    behindKeyword "TO" do
      match ← takeOneOf timeFields with
      | some "SECOND" => optionalPrecision
      | some _ => return
      | none => failure

/-- An interval behind its keyword. -/
def interval : Reader Unit := do
  discard level.span
  intervalQualifier

/-- A bound of the frame of a window. -/
def frameBound : Reader Unit := do
  if !(← takeKeywords ["CURRENT", "ROW"]) then
    if !(← takeKeyword "UNBOUNDED") then
      match ← peek? with
      | some (.literal _) => level.interval
      | _ => discard level.anyExpr
    expectOneOf ["PRECEDING", "FOLLOWING"]

/-- A window behind its opening parenthesis. -/
def windowBody : Reader Unit := do
  if ← takeKeywords ["PARTITION", "BY"] then level.exprs
  discard level.orderBy
  if !(← takeSymbol ")") then
    expectOneOf ["ROWS", "RANGE", "GROUPS"]
    if ← takeKeyword "BETWEEN" then
      level.frameBound
      expectKeyword "AND"
    level.frameBound
    expectSymbol ")"

/-- What follows the name of a function. -/
def call : Reader Unit := do
  expectSymbol "("
  level.quantifier
  level.sortedArguments
  if (← takeOneOf ["RESPECT", "IGNORE"]).isSome then expectKeyword "NULLS"
  behindKeyword "OVER" do
    if ← takeSymbol "(" then level.windowBody else discard ident

/-! ## Functions with a form of their own -/

/-- A case expression behind its first keyword. -/
def caseBody : Reader Unit := do
  if !(← takeKeyword "WHEN") then
    discard level.anyExpr
    expectKeyword "WHEN"
  repeatStep (fun _ => do
    discard level.anyExpr
    expectKeyword "THEN"
    discard level.anyExpr
    if ← takeKeyword "WHEN" then return some () else return none) ()
  behindKeyword "ELSE" (discard level.anyExpr)
  expectKeyword "END"

/-- A conversion to a type, between parentheses. -/
def castBody : Reader Unit := do
  discard level.anyExpr
  expectKeyword "AS"
  dataType
  behindKeyword "FORMAT" do
    discard value
    if ← takeKeywords ["AT", "TIME", "ZONE"] then discard value

/-- A conversion to a type or to a character set, between parentheses. -/
def convertBody : Reader Unit := do
  discard level.anyExpr
  if ← takeKeyword "USING" then discard objectName
  else
    expectSymbol ","
    dataType
    if ← takeKeywords ["CHARACTER", "SET"] then discard objectName

/-- What is done with a list of values that grows too long. -/
def overflow : Reader Unit := do
  if !(← takeKeyword "ERROR") then
    expectKeyword "TRUNCATE"
    match ← peek? with
    | some (.literal _) | some (.escaped _) | some (.special 'n') | some (.special 'x') =>
      discard level.anyExpr
    | _ => pure ()
    expectOneOf ["WITH", "WITHOUT"]
    expectKeyword "COUNT"

/-- The values of a list in one text. -/
def listBody : Reader Unit := do
  level.quantifier
  discard level.anyExpr
  if ← takeSymbol "," then discard level.anyExpr
  if ← takeKeywords ["ON", "OVERFLOW"] then level.overflow

/-- The values of a list in an array, between parentheses. -/
def arrayBody : Reader Unit := do
  discard (takeKeyword "DISTINCT")
  discard level.anyExpr
  discard level.orderBy
  behindKeyword "LIMIT" (discard level.limit)

/-- A full-text search. -/
def matchBody : Reader Unit := do
  identList
  expectKeyword "AGAINST"
  parenthesized do
    discard value
    if ← takeKeywords ["IN", "NATURAL", "LANGUAGE", "MODE"] then
      discard (takeKeywords ["WITH", "QUERY", "EXPANSION"])
    else if !(← takeKeywords ["IN", "BOOLEAN", "MODE"]) then
      discard (takeKeywords ["WITH", "QUERY", "EXPANSION"])

/-- A value made of fields, whose types may stand in angle brackets; fields have names only where no
types are given. -/
def structBody : Reader Unit := do
  let isTyped ← takeSymbol "<"
  if isTyped then fieldTypes
  discard <| parenthesized <| commaList do
    discard level.anyExpr
    behindKeyword "AS" do
      if isTyped then failure
      discard ident

/-- Take a comma or a keyword if it comes first. -/
def takeSeparator (keyword : String) : Reader Bool := do
  if ← takeSymbol "," then return true else takeKeyword keyword

/-- The arguments of a function with a form of its own; there is no result for any other name. -/
def specialForm? : String → Option (Reader Unit)
  | "CASE" => some level.caseBody
  | "EXISTS" => some (discard (parenthesized level.query))
  | "CAST" | "TRY_CAST" | "SAFE_CAST" => some (parenthesized level.castBody)
  | "CONVERT" => some (parenthesized level.convertBody)
  | "EXTRACT" => some <| parenthesized do
      expectOneOf timeFields
      expectKeyword "FROM"
      discard level.anyExpr
  | "CEIL" | "FLOOR" => some <| parenthesized do
      discard level.anyExpr
      behindKeyword "TO" (expectOneOf timeFields)
  | "SUBSTRING" => some <| parenthesized do
      discard level.anyExpr
      if ← takeSeparator "FROM" then discard level.anyExpr
      if ← takeSeparator "FOR" then discard level.anyExpr
  | "OVERLAY" => some <| parenthesized do
      discard level.anyExpr
      expectKeyword "PLACING"
      discard level.anyExpr
      expectKeyword "FROM"
      discard level.anyExpr
      behindKeyword "FOR" (discard level.anyExpr)
  | "TRIM" => some <| parenthesized do
      discard (takeOneOf ["BOTH", "LEADING", "TRAILING"])
      discard level.anyExpr
      if ← takeKeyword "FROM" then discard level.anyExpr
      else if ← takeSymbol "," then level.exprs
  | "LISTAGG" => some do
      parenthesized level.listBody
      if ← takeKeywords ["WITHIN", "GROUP"] then
        parenthesized do
          expectKeywords ["ORDER", "BY"]
          discard (commaList level.sortItem)
  | "ARRAY_AGG" => some (parenthesized level.arrayBody)
  | "MATCH" => some matchBody
  | "STRUCT" => some level.structBody
  | _ => none

end DualQuery.Sql.Reader.Level
