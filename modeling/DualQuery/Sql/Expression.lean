import DualQuery.Sql.Call

/-!
# Reading SQL expressions

Operators bind by rank: the higher one takes its operands first, and those of one rank group to the
left.
-/

namespace DualQuery.Sql.Reader.Level

variable (level : Level)

/-! ## Operands -/

/-- An expression that starts with a name: a column, the call of a function, or a literal behind the
name of its character set, which starts with an underscore. -/
def named (first : String) : Reader Expr := do
  let parts ← repeatStep (fun (parts : List String) => do
    if ← takeSymbol "." then return some (parts ++ [(← ident).value]) else return none) [first]
  match ← peek? with
  | some (.symbol "(") => level.call; return .other
  | some (.literal _) | some (.special 'x') =>
    if parts.length = 1 && first.startsWith "_" then
      discard take
      return .other
    else return .column parts
  | _ => return .column parts

/-- Whether a query comes first. -/
def startsQuery : Reader Bool := do
  match keyword? (← peek?) with
  | some "SELECT" | some "WITH" => return true
  | _ => return false

/-- What stands between parentheses: a query, an expression or a tuple. A field of it may be asked
for behind a dot. -/
def inParentheses : Reader Expr := do
  let inner ←
    if ← startsQuery then
      discard level.query
      pure Expr.other
    else
      match ← commaList level.anyExpr with
      | [expr] => pure (Expr.nested expr)
      | _ => pure Expr.other
  expectSymbol ")"
  if ← takeSymbol "." then
    match ← take with
    | .word _ _ => return .other
    | _ => failure
  else return inner

/-- The items of an array behind its opening bracket. -/
def arrayItems : Reader Unit := do
  if !(← takeSymbol "]") then
    level.exprs
    expectSymbol "]"

/-- Keywords that are values by themselves. -/
def valueKeywords : List String :=
  ["TRUE", "FALSE", "NULL", "CURRENT_CATALOG", "CURRENT_USER", "SESSION_USER", "USER"]

/-- Keywords for the present time. -/
def timeKeywords : List String :=
  ["CURRENT_TIMESTAMP", "CURRENT_TIME", "CURRENT_DATE", "LOCALTIME", "LOCALTIMESTAMP"]

/-- An expression that starts with an unquoted word. -/
def keyworded (text : String) : Reader Expr := do
  let keyword := inCapitals text
  let opens ← comesSymbol "("
  let opensList ← comesSymbol "["
  if valueKeywords.contains keyword then return .other
  else if timeKeywords.contains keyword then
    if ← takeSymbol "(" then level.sortedArguments
    return .other
  else if keyword == "NOT" then
    if ← takeKeyword "EXISTS" then discard (parenthesized level.query)
    else discard (level.expr 15)
    return .other
  else if keyword == "ARRAY" && opensList then
    discard take
    level.arrayItems
    return .other
  else if keyword == "ARRAY" && opens then
    discard (parenthesized level.query)
    return .other
  else if keyword == "POSITION" && opens then
    parenthesized do
      discard (level.expr 20)
      expectKeyword "IN"
      discard level.anyExpr
    return .other
  else match level.specialForm? keyword with
    | some form => form; return .other
    | none => level.named text

/-- What operators stand between, less what may follow it. -/
def plainOperand : Reader Expr := do
  match ← peek? with
  | some (.symbol ":") | some (.symbol "@") => discard value; return .other
  | _ =>
    match ← take with
    | .word text none => level.keyworded text
    | .word text (some _) => level.named text
    | .literal _ | .escaped _ | .special _ | .number _ _ | .placeholder => return .other
    | .symbol "(" => level.inParentheses
    | .symbol "+" | .symbol "-" => discard (level.expr 40); return .other
    | .symbol "[" => level.arrayItems; return .other
    | _ => failure

/-- What operators stand between: a literal behind its type, an interval, or any other operand with
its collation. -/
def operand : Reader Expr := do
  (do typedLiteral; return .other) <|> (do
    if ← takeKeyword "INTERVAL" then
      level.interval
      return .other
    let expr ← level.plainOperand
    if ← takeKeyword "COLLATE" then
      discard objectName
      return .other
    else return expr)

/-! ## Operators -/

/-- Operators that compare. -/
def comparisons : List String := ["=", "==", "<", ">", "<=", ">=", "<>", "!="]

/-- Operators that reach into a document. They take all that follows as their right operand. -/
def accessors : List String := ["->", "->>", "#>", "#>>", "@>", "<@", "#-", "@?", "@@"]

/-- The rank of a symbol between two operands. -/
def symbolRank (text : String) : Nat :=
  if (comparisons ++ ["<=>", "~", "~*", "!~", "!~*"]).contains text then 20
  else if text == "|" then 21
  else if ["^", "#", "<<", ">>"].contains text then 22
  else if text == "&" then 23
  else if ["+", "-"].contains text then 30
  else if ["*", "/", "%", "||", "//"].contains text then 40
  else if ["::", ":", "!", "[", "&&"].contains text || accessors.contains text then 50
  else 0

/-- The rank of a keyword between two operands. -/
def keywordRank : String → Nat
  | "OR" => 5
  | "AND" => 10
  | "IS" => 17
  | "LIKE" | "ILIKE" | "SIMILAR" | "RLIKE" | "REGEXP" => 19
  | "IN" | "BETWEEN" | "OPERATOR" => 20
  | "XOR" => 24
  | "DIV" => 40
  | _ => 0

/-- Keywords that check an expression, possibly behind NOT. -/
def checks : List String := ["IN", "BETWEEN", "LIKE", "ILIKE", "SIMILAR", "RLIKE", "REGEXP"]

/-- The rank of what comes first; zero where that is no operator. -/
def nextRank : Reader Nat := do
  match ← get with
  | .symbol text :: _ => return symbolRank text
  | first :: rest =>
    match keyword? (some first) with
    | some "NOT" =>
      match keyword? rest.head? with
      | some second => return if checks.contains second then keywordRank second else 0
      | none => return 0
    | some "AT" =>
      let zone := (rest.take 2).map fun token => keyword? (some token)
      return if zone == [some "TIME", some "ZONE"] then 20 else 0
    | some keyword => return keywordRank keyword
    | none => return 0
  | [] => return 0

/-- The rank of what comes first, where AND, OR and XOR are no operators. -/
def nextSpanRank : Reader Nat := do
  match keyword? (← peek?) with
  | some "AND" | some "OR" | some "XOR" => return 0
  | _ => nextRank

/-- What stands behind an operator of a rank: an operand, or with ANY or ALL a set of them. Only
comparisons take a set. -/
def rightOperand (rank : Nat) (compares : Bool) (build : Expr → Expr) : Reader Expr := do
  match ← takeOneOf ["ANY", "ALL"] with
  | some _ =>
    if compares then
      discard (parenthesized (level.expr rank))
      return .other
    else failure
  | none => return build (← level.expr rank)

/-- A check by IS behind that keyword. -/
def isCheck (left : Expr) : Reader Expr := do
  discard (takeKeyword "NOT")
  if ← takeKeyword "NULL" then return .test left
  else match ← takeOneOf ["TRUE", "FALSE", "UNKNOWN"] with
    | some _ => return .other
    | none =>
      expectKeywords ["DISTINCT", "FROM"]
      discard level.anyExpr
      return .other

/-- A pattern with its escape character. -/
def pattern : Reader Unit := do
  discard (level.expr 19)
  behindKeyword "ESCAPE" literalChar

/-- The set behind IN. -/
def membership (left : Expr) : Reader Expr := do
  if ← takeKeyword "UNNEST" then
    discard (parenthesized level.anyExpr)
    return .other
  else parenthesized do
    if ← startsQuery then
      discard level.query
      return .other
    else
      level.exprs
      return .test left

/-- A range, a membership or a match of an expression. -/
def check (left : Expr) : Reader Expr := do
  discard (takeKeyword "NOT")
  match ← takeOneOf checks with
  | some "IN" => level.membership left
  | some "BETWEEN" =>
    discard (level.expr 20)
    expectKeyword "AND"
    discard (level.expr 20)
    return .other
  | some "LIKE" | some "ILIKE" => level.pattern; return .test left
  | some "SIMILAR" => expectKeyword "TO"; level.pattern; return .other
  | some first =>
    if first == "REGEXP" then discard (takeKeyword "RLIKE")
    discard (level.expr 19)
    return .other
  | none => failure

/-- Combine an expression with an operator that is a symbol of a rank. -/
def combineSymbol (rank : Nat) (text : String) (left : Expr) : Reader Expr := do
  if text == "::" then
    dataType
    return .other
  else if text == "!" then return .other
  else if text == "#" then failure
  else if text == ":" then
    discard value
    return .other
  else if text == "[" then
    discard level.anyExpr
    expectSymbol "]"
    return .other
  else if text == "=" || text == "==" then level.rightOperand rank true (.equality left)
  else if accessors.contains text then
    discard level.anyExpr
    return .other
  else level.rightOperand rank (comparisons.contains text) (.operation left)

/-- An operator that is named by its schema and its own symbol. -/
def qualifiedOperator : Reader Unit :=
  parenthesized do
    discard take
    repeatStep (fun _ => do
      if ← takeSymbol "." then
        discard take
        return some ()
      else return none) ()

/-- Combine an expression with an operator that is a keyword of a rank. -/
def combineKeyword (rank : Nat) (keyword : String) (left : Expr) : Reader Expr := do
  match keyword with
  | "AND" | "OR" => discard take; level.rightOperand rank false (.connective left)
  | "XOR" => discard take; level.rightOperand rank false (.operation left)
  | "OPERATOR" =>
    discard take
    qualifiedOperator
    level.rightOperand rank false (.operation left)
  | "IS" => discard take; level.isCheck left
  | "AT" =>
    expectKeywords ["AT", "TIME", "ZONE"]
    match ← take with
    | .literal _ => return .other
    | _ => failure
  | "DIV" => failure
  | _ => level.check left

/-- Combine an expression with the operator that comes first, of a given rank. -/
def combine (rank : Nat) (left : Expr) : Reader Expr := do
  match ← peek? with
  | some (.symbol text) => discard take; level.combineSymbol rank text left
  | first =>
    match keyword? first with
    | some keyword => level.combineKeyword rank keyword left
    | none => failure

/-- Operands and operators, as long as the next operator binds closer than a rank. -/
def operators (next : Reader Nat) (rank : Nat) : Reader Expr := do
  let first ← level.operand
  repeatStep (fun left => do
    let found ← next
    if found ≤ rank then return none else return some (← level.combine found left)) first

/-- An expression of operators that bind closer than a rank. -/
def exprAbove (rank : Nat) : Reader Expr := level.operators nextRank rank

/-- An expression without AND, OR and XOR outside of parentheses. -/
def spanBody : Reader Expr := level.operators nextSpanRank 0

end DualQuery.Sql.Reader.Level
