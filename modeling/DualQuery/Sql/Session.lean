import DualQuery.Sql.Change

/-!
# Reading statements about sessions

Statements about settings, transactions, cursors, prepared statements, privileges and the upkeep of
tables.
-/

namespace DualQuery.Sql.Reader

/-! ## Transactions -/

/-- The modes of a transaction. Commas between them may be left out, but behind a comma there is
another mode. -/
def transactionModes : Reader Unit :=
  discard <| repeatStep (fun isOpen => do
    if ← takeKeywords ["ISOLATION", "LEVEL"] then
      if ← takeOneRow [["READ", "UNCOMMITTED"], ["READ", "COMMITTED"], ["REPEATABLE", "READ"],
          ["SERIALIZABLE"]] then return some (← takeSymbol ",")
      else failure
    else if ← takeOneRow [["READ", "ONLY"], ["READ", "WRITE"]] then
      return some (← takeSymbol ",")
    else if isOpen then failure
    else return none) false

/-- How a transaction starts, behind BEGIN. -/
def transactionStart : Reader Unit := do
  discard (takeOneOf ["TRANSACTION", "WORK"])
  transactionModes

/-- How a transaction ends, and whether another one follows. -/
def transactionEnd : Reader Unit := do
  discard (takeOneOf ["TRANSACTION", "WORK"])
  behindKeyword "AND" do
    discard (takeKeyword "NO")
    expectKeyword "CHAIN"

/-- How a transaction is taken back, all of it or up to a savepoint. -/
def rollback : Reader Unit := do
  transactionEnd
  behindKeyword "TO" do
    discard (takeKeyword "SAVEPOINT")
    discard ident

/-! ## Cursors -/

/-- The declaration of a cursor behind its keyword. -/
def Level.declaration (level : Level) : Reader Unit := do
  discard ident
  discard (takeKeyword "BINARY")
  discard (takeOneOf ["INSENSITIVE", "ASENSITIVE"])
  discard (takeOneRow [["SCROLL"], ["NO", "SCROLL"]])
  expectKeyword "CURSOR"
  if (← takeOneOf ["WITH", "WITHOUT"]).isSome then expectKeyword "HOLD"
  expectKeyword "FOR"
  discard level.query

/-- Which rows of a cursor are fetched. -/
def direction : Reader Unit := do
  match ← takeOneOf ["NEXT", "PRIOR", "FIRST", "LAST", "ABSOLUTE", "RELATIVE", "FORWARD",
    "BACKWARD", "ALL"] with
  | some "ABSOLUTE" | some "RELATIVE" | none => numberValue
  | some "FORWARD" | some "BACKWARD" => if !(← takeKeyword "ALL") then numberValue
  | some _ => return

/-- The fetching of rows behind its keyword. -/
def fetching : Reader Unit := do
  direction
  expectOneOf ["FROM", "IN"]
  discard ident
  behindKeyword "INTO" (discard objectName)

/-! ## Privileges -/

/-- A privilege, for some kinds on single columns. -/
def privilege : Reader Unit := do
  match ← takeOneOf ["CONNECT", "CREATE", "DELETE", "EXECUTE", "INSERT", "REFERENCES", "SELECT",
    "TEMPORARY", "TRIGGER", "TRUNCATE", "UPDATE", "USAGE"] with
  | some "INSERT" | some "REFERENCES" | some "SELECT" | some "UPDATE" => optionalIdentList
  | some _ => return
  | none => failure

/-- Privileges and what they are on. -/
def privileges : Reader Unit := do
  if ← takeKeyword "ALL" then discard (takeKeyword "PRIVILEGES")
  else discard (commaList privilege)
  expectKeyword "ON"
  if !(← takeOneRow [["ALL", "TABLES", "IN", "SCHEMA"], ["ALL", "SEQUENCES", "IN", "SCHEMA"]]) then
    discard (takeOneOf ["SEQUENCE", "SCHEMA", "TABLE"])
  objectNames

/-- Who has granted privileges, if this is said. -/
def grantor : Reader Unit := do
  if ← takeKeywords ["GRANTED", "BY"] then discard ident

/-- The granting of privileges behind its keyword. -/
def grant : Reader Unit := do
  privileges
  expectKeyword "TO"
  discard (commaList ident)
  discard (takeKeywords ["WITH", "GRANT", "OPTION"])
  grantor

/-- The revoking of privileges behind its keyword. -/
def revocation : Reader Unit := do
  privileges
  expectKeyword "FROM"
  discard (commaList ident)
  grantor
  discard (takeOneOf ["CASCADE", "RESTRICT"])

/-! ## The upkeep of tables -/

/-- The repair of the partitions of a table behind its keyword. -/
def repair : Reader Unit := do
  discard (takeKeyword "REPAIR")
  expectKeyword "TABLE"
  discard objectName
  discard (takeOneRow
    [["ADD", "PARTITIONS"], ["DROP", "PARTITIONS"], ["SYNC", "PARTITIONS"], ["PARTITIONS"]])

/-- The removal of a table from the cache behind its keyword; nothing follows it. -/
def uncaching : Reader Unit := do
  expectKeyword "TABLE"
  ifExists
  discard objectName
  if (← peek?).isSome then failure

/-- A literal, a text in double quotes, a number or a placeholder. -/
def pragmaValue : Reader Unit := do
  match ← value with
  | .text | .number | .placeholder => return
  | .other => failure

/-- A pragma behind its keyword. -/
def pragma : Reader Unit := do
  discard objectName
  if ← comesSymbol "(" then parenthesized pragmaValue
  else if ← takeSymbol "=" then pragmaValue

namespace Level

variable (level : Level)

/-- The analysis of a table behind its keyword. -/
def analysis : Reader Unit := do
  expectKeyword "TABLE"
  discard objectName
  repeatStep (fun _ => do
    match ← takeOneOf ["PARTITION", "FOR", "CACHE", "NOSCAN", "COMPUTE"] with
    | some "PARTITION" => level.partition; return some ()
    | some "FOR" =>
      expectKeyword "COLUMNS"
      optionally (discard (commaList ident))
      return some ()
    | some "CACHE" => expectKeyword "METADATA"; return some ()
    | some "COMPUTE" => expectKeyword "STATISTICS"; return some ()
    | some _ => return some ()
    | none => return none) ()

/-- The storing of a table in the cache behind its keyword. -/
def caching : Reader Unit := do
  if !(← takeKeyword "TABLE") then
    discard objectName
    expectKeyword "TABLE"
  discard objectName
  options "OPTIONS"
  if (← peek?).isSome then
    if ← comesSymbol "(" then failure
    discard (takeKeyword "AS")
    discard level.query

/-! ## Settings -/

/-- The name of a setting; empty where it is quoted or dotted. -/
def settingName : Reader String := do
  if ← takeKeywords ["TIME", "ZONE"] then return "TIMEZONE"
  else match ← objectName with
    | [⟨text, none⟩] => return text
    | _ => return ""

/-- A setting with its value. A transaction is set only where nothing stands in front of it. -/
def setting (isModified : Bool) : Reader Unit := do
  let name ← settingName
  let capitals := String.ofList (name.toList.map Char.toUpper)
  if capitals == "NAMES" then
    if !(← takeKeyword "DEFAULT") then
      discard literalText
      behindKeyword "COLLATE" (discard literalText)
  else if ← takeSymbol "=" then level.exprs
  else if ← takeKeyword "TO" then level.exprs
  else if capitals == "TIMEZONE" then discard level.anyExpr
  else if name == "CHARACTERISTICS" then
    expectKeywords ["AS", "TRANSACTION"]
    transactionModes
  else if name == "TRANSACTION" && !isModified then
    if ← takeKeyword "SNAPSHOT" then discard value else transactionModes
  else failure

/-- The change of a setting behind its keyword. -/
def settings : Reader Unit := do
  match ← takeOneOf ["SESSION", "LOCAL", "HIVEVAR"] with
  | some "HIVEVAR" =>
    expectSymbol ":"
    level.setting true
  | modifier =>
    if ← takeKeyword "ROLE" then
      discard ident
    else level.setting modifier.isSome

/-- Which of the things that are shown are meant. -/
def filter : Reader Unit := do
  match ← takeOneOf ["LIKE", "ILIKE", "WHERE"] with
  | some "WHERE" => discard level.anyExpr
  | some _ => discard literalText
  | none => return

/-- What is shown, behind its keyword. A setting is shown by any tokens without an equals sign. -/
def showing : Reader Unit := do
  let isExtended ← takeKeyword "EXTENDED"
  let isFull ← takeKeyword "FULL"
  discard (takeKeyword "SESSION")
  discard (takeKeyword "GLOBAL")
  match ← takeOneOf ["COLUMNS", "FIELDS", "TABLES", "FUNCTIONS"] with
  | some "FUNCTIONS" => level.filter
  | some "TABLES" =>
    if (← takeOneOf ["FROM", "IN"]).isSome then discard ident
    level.filter
  | some _ =>
    expectOneOf ["FROM", "IN"]
    discard objectName
    if (← takeOneOf ["FROM", "IN"]).isSome then discard ident
    level.filter
  | none =>
    if isExtended || isFull then failure
    match ← takeOneOf ["CREATE", "COLLATION", "VARIABLES"] with
    | some "CREATE" =>
      expectOneOf ["TABLE", "TRIGGER", "FUNCTION", "PROCEDURE", "EVENT", "VIEW"]
      discard objectName
    | some _ => level.filter
    | none => modify (·.dropWhile (· != .symbol "="))

/-! ## Prepared statements -/

/-- The preparation of a statement behind its keyword. -/
def preparation : Reader Unit := do
  discard ident
  if ← comesSymbol "(" then discard (parenthesized (commaList dataType))
  expectKeyword "AS"
  discard level.statement

/-- The execution of a prepared statement behind its keyword. -/
def execution : Reader Unit := do
  discard ident
  if ← comesSymbol "(" then parenthesized level.exprs

end Level

end DualQuery.Sql.Reader
