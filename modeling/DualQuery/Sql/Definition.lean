import DualQuery.Sql.Change
import DualQuery.Sql.Column

/-!
# Reading definitions

Statements that create, alter or drop tables, views, indexes and other objects.
-/

namespace DualQuery.Sql.Reader

/-! ## Parts of definitions -/

/-- A table that another one is like. Where it is no name, one token of it is passed over. -/
def modelTable : List Token → List Token
  | .word _ _ :: .symbol "." :: rest | .literal _ :: .symbol "." :: rest => modelTable rest
  | _ :: rest => rest
  | [] => []

/-- A word behind an equals sign. -/
def equalsWord : Reader Unit := do
  expectSymbol "="
  match ← take with
  | .word _ _ => return
  | _ => failure

/-- What happens to a temporary table at the end of a transaction. -/
def onCommit : Reader Unit :=
  discard (takeOneRow
    [["ON", "COMMIT", "DELETE", "ROWS"], ["ON", "COMMIT", "PRESERVE", "ROWS"],
     ["ON", "COMMIT", "DROP"]])

namespace Level

variable (level : Level)

/-- By which columns a table is partitioned, and how its rows are stored. -/
def storage : Reader Unit := do
  if ← takeKeywords ["PARTITIONED", "BY"] then
    discard (parenthesized (commaList level.columnDefinition))
  repeatStep (fun _ => do
    match ← takeOneOf ["ROW", "STORED", "LOCATION"] with
    | some "ROW" =>
      expectKeyword "FORMAT"
      if ← takeKeyword "SERDE" then discard literalText else discard (takeKeyword "DELIMITED")
      return some ()
    | some "STORED" =>
      expectKeyword "AS"
      if ← takeKeyword "INPUTFORMAT" then
        discard level.anyExpr
        expectKeyword "OUTPUTFORMAT"
        discard level.anyExpr
      else expectOneOf fileFormats
      return some ()
    | some _ => discard literalText; return some ()
    | none => return none) ()

/-! ## Tables and views -/

/-- The definition of a table behind its keyword. -/
def createTable : Reader Unit := do
  ifNotExists
  discard objectName
  if ← takeKeywords ["ON", "CLUSTER"] then discard ident
  if (← takeOneOf ["LIKE", "ILIKE"]).isSome then modify modelTable
  behindKeyword "CLONE" (modify modelTable)
  level.tableItems
  discard (takeKeywords ["WITHOUT", "ROWID"])
  level.storage
  options "WITH"
  options "TBLPROPERTIES"
  behindKeyword "ENGINE" equalsWord
  behindKeyword "COMMENT" do
    discard (takeSymbol "=")
    comment
  if ← takeKeywords ["ORDER", "BY"] then
    if ← takeSymbol "(" then
      if !(← comesSymbol ")") then discard (commaList ident)
      expectSymbol ")"
    else discard ident
  behindKeyword "AS" (discard level.query)
  if ← takeKeywords ["DEFAULT", "CHARSET"] then equalsWord
  behindKeyword "COLLATE" equalsWord
  onCommit
  discard (takeKeyword "STRICT")

/-- The definition of a table whose rows are stored elsewhere, behind its first keyword. -/
def createExternalTable : Reader Unit := do
  expectKeyword "TABLE"
  ifNotExists
  discard objectName
  level.tableItems
  level.storage
  options "TBLPROPERTIES"

/-- The definition of a virtual table behind its first keyword. -/
def createVirtualTable : Reader Unit := do
  expectKeyword "TABLE"
  ifNotExists
  discard objectName
  expectKeyword "USING"
  discard ident
  optionalIdentList

/-- The definition of a view behind its keyword. -/
def createView : Reader Unit := do
  ifNotExists
  discard objectName
  optionalIdentList
  options "WITH"
  if ← takeKeyword "CLUSTER" then
    expectKeyword "BY"
    optionalIdentList
  expectKeyword "AS"
  discard level.query
  discard (takeKeywords ["WITH", "NO", "SCHEMA", "BINDING"])

/-- The definition of an index behind its keyword. -/
def createIndex : Reader Unit := do
  discard (takeKeyword "CONCURRENTLY")
  let isNamed ← takeKeywords ["IF", "NOT", "EXISTS"]
  let isUnnamed ← if isNamed then pure false else takeKeyword "ON"
  if !isUnnamed then
    discard objectName
    expectKeyword "ON"
  discard objectName
  behindKeyword "USING" (discard ident)
  discard (parenthesized (commaList level.sortItem))
  behindKeyword "INCLUDE" identList
  behindKeyword "NULLS" do
    discard (takeKeyword "NOT")
    expectKeyword "DISTINCT"
  level.condition

/-! ## Other objects -/

/-- The definition of a macro behind its keyword. -/
def createMacro : Reader Unit := do
  discard objectName
  expectSymbol "("
  if !(← comesSymbol ")") then
    discard (commaList do
      discard ident
      if ← takeSymbol ":=" then discard level.anyExpr
      else if ← takeSymbol "=>" then discard level.anyExpr)
  expectSymbol ")"
  expectKeyword "AS"
  if ← takeKeyword "TABLE" then discard level.query else discard level.anyExpr

/-- The definition of a schema behind its keyword. -/
def createSchema : Reader Unit := do
  ifNotExists
  if ← takeKeyword "AUTHORIZATION" then discard ident
  else
    discard objectName
    behindKeyword "AUTHORIZATION" (discard ident)

/-- The definition of a database behind its keyword. -/
def createDatabase : Reader Unit := do
  ifNotExists
  discard objectName
  repeatStep (fun _ => do
    if (← takeOneOf ["LOCATION", "MANAGEDLOCATION"]).isSome then
      discard literalText
      return some ()
    else return none) ()

/-- The definition of a sequence behind its keyword. -/
def createSequence : Reader Unit := do
  ifNotExists
  discard objectName
  behindKeyword "AS" dataType
  sequenceOptions
  if ← takeKeywords ["OWNED", "BY"] then discard objectName

/-- The definition of a procedure behind its keyword. -/
def createProcedure : Reader Unit := do
  discard objectName
  optionalItems do
    match ← peek? with
    | some (.word _ _) =>
      discard ident
      dataType
    | _ => return
  expectKeywords ["AS", "BEGIN"]
  discard level.statements
  expectKeyword "END"

/-- The definition of an object that cannot be replaced, by its keyword. -/
def createNew : String → Reader Unit
  | "INDEX" => level.createIndex
  | "UNIQUE" => do
    expectKeyword "INDEX"
    level.createIndex
  | "VIRTUAL" => createVirtualTable
  | "SCHEMA" => createSchema
  | "DATABASE" => createDatabase
  | "ROLE" => do
    ifNotExists
    objectNames
    discard (takeKeyword "WITH")
  | "SEQUENCE" => createSequence
  | "TYPE" => do
    discard objectName
    expectKeyword "AS"
    optionalItems field
  | "PROCEDURE" => level.createProcedure
  | _ => failure

/-! ## Statements -/

/-- A statement that creates something, behind its keyword. -/
def creation : Reader Unit := do
  let replaces ← takeKeywords ["OR", "REPLACE"]
  discard (takeKeywords ["OR", "ALTER"])
  discard (takeKeyword "LOCAL")
  discard (takeKeyword "GLOBAL")
  discard (takeKeyword "TRANSIENT")
  discard (takeOneOf ["TEMP", "TEMPORARY"])
  match keyword? (some (← take)) with
  | some "TABLE" => level.createTable
  | some "VIEW" => level.createView
  | some "MATERIALIZED" => expectKeyword "VIEW"; level.createView
  | some "EXTERNAL" => level.createExternalTable
  | some "MACRO" => level.createMacro
  | some keyword => if replaces then failure else level.createNew keyword
  | none => failure

/-- What is changed about a column, behind its name. -/
def columnChange : Reader Unit := do
  if ← takeKeywords ["SET", "DEFAULT"] then discard level.anyExpr
  else if ← takeKeywords ["SET", "DATA", "TYPE"] then dataType
  else
    let isChange ← takeOneRow [["SET", "NOT", "NULL"], ["DROP", "NOT", "NULL"], ["DROP", "DEFAULT"]]
    if !isChange then failure

/-- What is added to a table. -/
def addition : Reader Unit := do
  if !(← level.tableConstraint) then
    ifNotExists
    if ← takeKeyword "PARTITION" then
      level.partition
      repeatStep (fun _ => do
        if ← takeKeyword "PARTITION" then
          level.partition
          return some ()
        else return none) ()
    else
      discard (takeKeyword "COLUMN")
      ifNotExists
      level.columnDefinition

/-- What is dropped from a table. -/
def removal : Reader Unit := do
  if ← takeOneRow [["IF", "EXISTS", "PARTITION"], ["PARTITION"]] then level.partition
  else if !(← takeKeywords ["PRIMARY", "KEY"]) then
    discard (takeOneOf ["CONSTRAINT", "COLUMN"])
    ifExists
    discard ident
    discard (takeKeyword "CASCADE")

/-- What is changed about a table. -/
def tableChange : Reader Unit := do
  match ← takeOneOf ["ADD", "RENAME", "DROP", "PARTITION", "CHANGE", "ALTER", "SWAP"] with
  | some "ADD" => level.addition
  | some "RENAME" =>
    if ← takeKeyword "TO" then discard objectName
    else
      discard (takeKeyword "COLUMN")
      discard ident
      expectKeyword "TO"
      discard ident
  | some "DROP" => level.removal
  | some "PARTITION" =>
    level.partition
    expectKeywords ["RENAME", "TO", "PARTITION"]
    level.partition
  | some "CHANGE" =>
    discard (takeKeyword "COLUMN")
    discard ident
    discard ident
    dataType
    repeatStep (fun _ => do
      if ← level.columnOption then return some () else return none) ()
  | some "ALTER" =>
    discard (takeKeyword "COLUMN")
    discard ident
    level.columnChange
  | some _ =>
    expectKeyword "WITH"
    discard objectName
  | none => failure

/-- A statement that alters something, behind its keyword. -/
def alteration : Reader Unit := do
  match ← takeOneOf ["VIEW", "TABLE", "INDEX"] with
  | some "VIEW" =>
    discard objectName
    optionalIdentList
    options "WITH"
    expectKeyword "AS"
    discard level.query
  | some "TABLE" =>
    ifExists
    discard (takeKeyword "ONLY")
    discard objectName
    discard (commaList level.tableChange)
  | some _ =>
    discard objectName
    expectKeywords ["RENAME", "TO"]
    discard objectName
  | none => failure

/-- A function by its name and the types of its arguments. -/
def functionName : Reader Unit := do
  discard objectName
  if ← takeSymbol "(" then
    if !(← takeSymbol ")") then
      discard (commaList do
        discard (takeOneOf ["IN", "OUT", "INOUT"])
        if !(← anyType) then dataType
        if ← takeKeyword "DEFAULT" then discard level.anyExpr
        else if ← takeSymbol "=" then discard level.anyExpr)
      expectSymbol ")"

/-- A statement that drops something, behind its keyword. -/
def dropping : Reader Unit := do
  discard (takeKeyword "TEMPORARY")
  match ← takeOneOf
    ["TABLE", "VIEW", "INDEX", "ROLE", "SCHEMA", "SEQUENCE", "STAGE", "FUNCTION"] with
  | some "FUNCTION" =>
    ifExists
    discard (commaList level.functionName)
    discard (takeOneOf ["CASCADE", "RESTRICT"])
  | some "ROLE" =>
    ifExists
    objectNames
  | some _ =>
    ifExists
    objectNames
    discard (takeOneOf ["CASCADE", "RESTRICT"])
    discard (takeKeyword "PURGE")
  | none => failure

end Level

end DualQuery.Sql.Reader
