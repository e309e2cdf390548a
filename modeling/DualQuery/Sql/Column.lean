import DualQuery.Sql.Source

/-!
# Reading definitions of columns

What a table is made of: its columns with what each is held to, the constraints on all of them, and
how its rows are numbered.
-/

namespace DualQuery.Sql.Reader

/-- A comment in single quotes. -/
def comment : Reader Unit := do
  match ← take with
  | .literal _ => return
  | _ => failure

/-! ## Numbering -/

/-- A bound of a sequence, or that it has none. -/
def sequenceBound (keyword : String) : Reader Unit := do
  if ← takeKeyword keyword then numberValue else discard (takeKeywords ["NO", keyword])

/-- How a sequence counts. -/
def sequenceOptions : Reader Unit := do
  behindKeyword "INCREMENT" do
    discard (takeKeyword "BY")
    numberValue
  sequenceBound "MINVALUE"
  sequenceBound "MAXVALUE"
  behindKeyword "START" do
    discard (takeKeyword "WITH")
    numberValue
  behindKeyword "CACHE" numberValue
  discard (takeOneRow [["NO", "CYCLE"], ["CYCLE"]])

/-! ## References -/

/-- What happens to a row when the row it refers to is deleted or updated, if this is said. -/
def referentialAction (event : String) : Reader Bool := do
  if ← takeKeywords ["ON", event] then
    let isAction ← takeOneRow
      [["RESTRICT"], ["CASCADE"], ["SET", "NULL"], ["NO", "ACTION"], ["SET", "DEFAULT"]]
    if isAction then return true else failure
  else return false

/-- What happens to a row with the row it refers to; of each event at most one action is said. -/
def referentialActions : Reader Unit := do
  if ← referentialAction "DELETE" then discard (referentialAction "UPDATE")
  else if ← referentialAction "UPDATE" then discard (referentialAction "DELETE")

/-! ## Constraints on tables -/

/-- How an index is stored. -/
def indexKind : Reader Unit := behindKeyword "USING" (expectOneOf ["BTREE", "HASH"])

/-- Whether a word is a constraint on a table by its start. -/
def constraintKeywords : List String :=
  ["PRIMARY", "UNIQUE", "FOREIGN", "CHECK", "INDEX", "KEY", "FULLTEXT", "SPATIAL"]

namespace Level

variable (level : Level)

/-- A constraint on a table, if one comes first. -/
def tableConstraint : Reader Bool := do
  let isLabelled ← takeKeyword "CONSTRAINT"
  if isLabelled then discard ident
  match ← takeOneOf constraintKeywords with
  | some "PRIMARY" | some "UNIQUE" =>
    discard (takeKeyword "KEY")
    optionally (discard ident)
    identList
    return true
  | some "FOREIGN" =>
    expectKeyword "KEY"
    identList
    expectKeyword "REFERENCES"
    discard objectName
    identList
    referentialActions
    return true
  | some "CHECK" =>
    discard (parenthesized level.anyExpr)
    return true
  | some "INDEX" | some "KEY" =>
    if keyword? (← peek?) != some "USING" then optionally (discard ident)
    indexKind
    identList
    return true
  | some _ =>
    -- a full-text or spatial index takes no label
    if isLabelled then failure
    discard (takeOneOf ["KEY", "INDEX"])
    optionally (discard ident)
    identList
    return true
  | none => if isLabelled then failure else return false

/-! ## Columns -/

/-- How a column is generated, behind its keyword. The result says whether this is complete. -/
def generated : Reader Bool := do
  if ← takeOneRow [["ALWAYS", "AS", "IDENTITY"], ["BY", "DEFAULT", "AS", "IDENTITY"]] then
    optionalParentheses sequenceOptions
    return true
  else if ← takeKeywords ["ALWAYS", "AS"] then
    if ← comesSymbol "(" then
      discard (parenthesized level.anyExpr)
      discard (takeOneOf ["STORED", "VIRTUAL"])
      return true
    else return false
  else return false

/-- What a column is held to, if anything comes first. -/
def columnOption : Reader Bool := do
  if ← takeKeywords ["CHARACTER", "SET"] then
    discard objectName
    return true
  else if ← takeOneRow [["NOT", "NULL"], ["NULL"], ["PRIMARY", "KEY"], ["UNIQUE"],
      ["AUTO_INCREMENT"], ["AUTOINCREMENT"]] then return true
  else if ← takeKeywords ["ON", "UPDATE"] then
    discard level.anyExpr
    return true
  else match ← takeOneOf ["COMMENT", "DEFAULT", "REFERENCES", "CHECK", "GENERATED"] with
    | some "COMMENT" => comment; return true
    | some "DEFAULT" => discard level.anyExpr; return true
    | some "REFERENCES" =>
      discard objectName
      optionalIdentList
      referentialActions
      return true
    | some "CHECK" => discard (parenthesized level.anyExpr); return true
    | some _ => level.generated
    | none => return false

/-- All that a column is held to. -/
def columnOptions : Reader Unit :=
  repeatStep (fun _ => do
    if ← takeKeyword "CONSTRAINT" then
      discard ident
      if ← level.columnOption then return some () else failure
    else if ← level.columnOption then return some ()
    else return none) ()

/-- A name with its type and its collation. -/
def field : Reader Unit := do
  discard ident
  dataType
  behindKeyword "COLLATE" (discard objectName)

/-- The definition of a column. -/
def columnDefinition : Reader Unit := do
  field
  level.columnOptions

/-- A column of a table, or a constraint on it. -/
def tableItem : Reader Unit := do
  if !(← level.tableConstraint) then
    match ← peek? with
    | some (.word _ _) => level.columnDefinition
    | _ => failure

/-- The columns of a table and the constraints on it, if they are there. -/
def tableItems : Reader Unit := optionalItems level.tableItem

end Level

end DualQuery.Sql.Reader
