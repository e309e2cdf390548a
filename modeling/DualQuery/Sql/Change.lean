import DualQuery.Sql.Source

/-!
# Reading changes of rows

Statements that insert, update, delete, merge or copy rows.
-/

namespace DualQuery.Sql.Reader

/-- The formats of stored files. -/
def fileFormats : List String :=
  ["AVRO", "JSONFILE", "ORC", "PARQUET", "RCFILE", "SEQUENCEFILE", "TEXTFILE"]

/-- The target of an assignment: all that stands in front of an equals sign and a keyword. -/
def target : Reader Unit :=
  modify (·.dropWhile fun token =>
    match token with
    | .word text quote => isName text quote
    | token => token != .symbol "=")

namespace Level

variable (level : Level)

/-! ## Parts of changes -/

/-- Assignments separated by commas. -/
def assignments : Reader Unit :=
  discard (commaList do
    target
    expectSymbol "="
    level.anyExpr)

/-- The condition on the rows that are changed. -/
def condition : Reader Unit := behindKeyword "WHERE" (discard level.anyExpr)

/-- What is given back of the rows that are changed. -/
def returned : Reader Unit := behindKeyword "RETURNING" level.selectItems

/-- Rows separated by commas. -/
def rows : Reader Unit :=
  discard (commaList do
    discard (takeKeyword "ROW")
    parenthesized level.exprs)

/-- Expressions in parentheses that name a partition. -/
def partition : Reader Unit := parenthesized level.exprs

/-! ## Statements -/

/-- What an insertion does where a row is there already. -/
def onConflict : Reader Unit :=
  behindKeyword "ON" do
    if ← takeKeyword "CONFLICT" then
      if ← takeKeywords ["ON", "CONSTRAINT"] then discard objectName else optionalIdentList
      expectKeyword "DO"
      if !(← takeKeyword "NOTHING") then
        expectKeywords ["UPDATE", "SET"]
        level.assignments
        level.condition
    else
      expectKeywords ["DUPLICATE", "KEY", "UPDATE"]
      level.assignments

/-- An insertion behind its keyword. -/
def insertion : Reader Unit := do
  discard (takeKeyword "IGNORE")
  discard (takeOneOf ["INTO", "OVERWRITE"])
  discard (takeKeyword "LOCAL")
  if ← takeKeyword "DIRECTORY" then
    discard literalText
    if ← takeKeywords ["STORED", "AS"] then expectOneOf fileFormats
    discard level.query
  else
    discard (takeKeyword "TABLE")
    discard objectName
    if !(← takeKeywords ["DEFAULT", "VALUES"]) then
      optionalIdentList
      behindKeyword "PARTITION" level.partition
      discard level.query
    level.onConflict
    level.returned

/-- An update behind its keyword. -/
def update : Reader Unit := do
  discard level.joinedTables
  expectKeyword "SET"
  level.assignments
  behindKeyword "FROM" (discard level.joinedTables)
  level.condition
  level.returned

/-- A deletion behind its keyword. -/
def deletion : Reader Unit := do
  if !(← takeKeyword "FROM") then
    objectNames
    expectKeyword "FROM"
  discard level.sources
  behindKeyword "USING" (discard level.sources)
  level.condition
  level.returned
  discard level.orderBy
  behindKeyword "LIMIT" (discard level.limit)

/-- A case of a merge, if one comes first. -/
def mergeCase : Reader (Option Unit) := do
  match ← peek? with
  | none | some (.symbol ";") => return none
  | _ =>
    expectKeyword "WHEN"
    let isNew ← takeKeyword "NOT"
    expectKeyword "MATCHED"
    behindKeyword "AND" (discard level.anyExpr)
    expectKeyword "THEN"
    if isNew then
      expectKeyword "INSERT"
      optionalIdentList
      expectKeyword "VALUES"
      level.rows
    else if !(← takeKeyword "DELETE") then
      expectKeywords ["UPDATE", "SET"]
      level.assignments
    return some ()

/-- A merge behind its keyword, which goes on to the end of the statement. -/
def merge : Reader Unit := do
  discard (takeKeyword "INTO")
  discard level.source
  expectKeyword "USING"
  discard level.source
  expectKeyword "ON"
  discard level.anyExpr
  repeatStep (fun _ => level.mergeCase) ()

end Level

/-! ## Copies -/

/-- An option of a copy in parentheses. -/
def copyOption : Reader Unit := do
  match ← takeOneOf ["FORMAT", "FREEZE", "DELIMITER", "NULL", "HEADER", "QUOTE", "ESCAPE",
    "FORCE_QUOTE", "FORCE_NOT_NULL", "FORCE_NULL", "ENCODING"] with
  | some "FORMAT" => discard ident
  | some "FREEZE" | some "HEADER" => discard (takeOneOf ["TRUE", "FALSE"])
  | some "DELIMITER" | some "QUOTE" | some "ESCAPE" => literalChar
  | some "NULL" | some "ENCODING" => discard literalText
  | some _ => identList
  | none => failure

/-- An option of how values are separated, outside of parentheses. -/
def separatorOption : Reader Unit := do
  match ← takeOneOf ["HEADER", "QUOTE", "ESCAPE", "FORCE"] with
  | some "HEADER" => return
  | some "FORCE" =>
    if !(← takeKeywords ["NOT", "NULL"]) then expectKeyword "QUOTE"
    discard (commaList ident)
  | some _ =>
    discard (takeKeyword "AS")
    literalChar
  | none => failure

/-- An option of a copy outside of parentheses. -/
def bareCopyOption : Reader Unit := do
  match ← takeOneOf ["BINARY", "DELIMITER", "NULL", "CSV"] with
  | some "BINARY" => return
  | some "DELIMITER" =>
    discard (takeKeyword "AS")
    literalChar
  | some "NULL" =>
    discard (takeKeyword "AS")
    discard literalText
  | some _ => repeatAny separatorOption
  | none => failure

/-- What follows rows that stand in the text itself, which end with a backslash and a point. -/
def afterRows : List Token → List Token
  | [] => []
  | .symbol "\\" :: .symbol "." :: rest => rest
  | .symbol "\\" :: _ :: rest => afterRows rest
  | _ :: rest => afterRows rest

/-- A copy of rows into or out of a table behind its keyword. -/
def Level.copy (level : Level) : Reader Unit := do
  if ← takeSymbol "(" then
    discard level.query
    expectSymbol ")"
    expectKeyword "TO"
  else
    discard objectName
    optionalIdentList
    expectOneOf ["FROM", "TO"]
  let medium ← takeOneOf ["STDIN", "STDOUT", "PROGRAM"]
  if medium.isNone || medium == some "PROGRAM" then discard literalText
  discard (takeKeyword "WITH")
  if ← comesSymbol "(" then discard (parenthesized (commaList copyOption))
  repeatAny bareCopyOption
  if medium == some "STDIN" then
    expectSymbol ";"
    modify afterRows

end DualQuery.Sql.Reader
