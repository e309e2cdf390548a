import DualQuery.Sql.Reader

/-!
# SQL types

The types that stand in casts, in definitions of columns and in front of literals, and the fields
of dates and times. A type in angle brackets may be closed by a double bracket, whose second half
then closes the type around it.
-/

namespace DualQuery.Sql.Reader

/-! ## Dates and times -/

/-- The units of intervals. -/
def intervalFields : List String :=
  ["YEAR", "MONTH", "WEEK", "DAY", "HOUR", "MINUTE", "SECOND", "CENTURY", "DECADE", "DOW", "DOY",
   "EPOCH", "ISODOW", "ISOYEAR", "JULIAN", "MICROSECOND", "MICROSECONDS", "MILLENIUM",
   "MILLENNIUM", "MILLISECOND", "MILLISECONDS", "NANOSECOND", "NANOSECONDS", "QUARTER", "TIMEZONE",
   "TIMEZONE_HOUR", "TIMEZONE_MINUTE"]

/-- The fields of dates and times. -/
def timeFields : List String :=
  intervalFields ++ ["DAYOFWEEK", "DAYOFYEAR", "DATE", "DATETIME", "ISOWEEK", "TIME"]

/-! ## Sizes -/

/-- A size in parentheses, if there is one. -/
def optionalPrecision : Reader Unit := optionalParentheses wholeNumber

/-- A size and a number of places in parentheses, if they are there. -/
def optionalScale : Reader Unit :=
  optionalParentheses do
    wholeNumber
    if ← takeSymbol "," then wholeNumber

/-- The length of a text in parentheses, if there is one. -/
def optionalLength : Reader Unit :=
  optionalParentheses do
    if !(← takeKeyword "MAX") then
      wholeNumber
      discard (takeOneOf ["CHARACTERS", "OCTETS"])

/-- Literals in parentheses. -/
def literals : Reader Unit :=
  discard <| parenthesized <| commaList do
    match ← take with
    | .literal _ => return
    | _ => failure

/-- What a type of an unknown name has in parentheses: words, numbers, literals and commas. -/
def modifiers : Reader Unit :=
  optionalParentheses <| repeatStep (fun _ => do
    match ← peek? with
    | some (.word _ _) | some (.number _ _) | some (.literal _) | some (.symbol ",") =>
      discard take
      return some ()
    | _ => return none) ()

/-- How a type of times treats time zones. -/
def timeZone : Reader Unit := do
  if (← takeOneOf ["WITH", "WITHOUT"]).isSome then expectKeywords ["TIME", "ZONE"]

/-! ## Types -/

/-- Types that are one word. -/
def bareTypes : List String :=
  ["BOOLEAN", "BOOL", "REAL", "FLOAT4", "FLOAT8", "FLOAT64", "INT64", "UUID", "DATE", "INTERVAL",
   "JSON", "REGCLASS", "TEXT", "BYTEA"]

/-- Types with a size. -/
def sizedTypes : List String :=
  ["FLOAT", "NVARCHAR", "CLOB", "BINARY", "VARBINARY", "BLOB", "BYTES", "DATETIME", "TIMESTAMPTZ",
   "TIMETZ", "STRING"]

/-- Types of whole numbers, which may be unsigned. -/
def integerTypes : List String :=
  ["TINYINT", "INT2", "SMALLINT", "MEDIUMINT", "INT", "INT4", "INT8", "INTEGER", "BIGINT"]

/-- Types of decimal numbers, with a size and a number of places. -/
def decimalTypes : List String := ["NUMERIC", "DECIMAL", "DEC", "BIGNUMERIC", "BIGDECIMAL"]

/-- Close an angle bracket, given whether a double bracket has closed it already. The result says
whether another one is closed too. -/
def closeAngle (isClosed : Bool) : Reader Bool := do
  if isClosed then return false
  else if ← takeSymbol ">" then return false
  else if ← takeSymbol ">>" then return true
  else failure

/-- What follows the name of a type that is a keyword, given a reader of the types inside it. There
is no result for any other name; the result says whether a double bracket is left half open. -/
def typeBody? (inner : Reader Bool) (keyword : String) : Option (Reader Bool) :=
  let closed (body : Reader Unit) : Option (Reader Bool) := some do body; return false
  if bareTypes.contains keyword then closed (return)
  else if sizedTypes.contains keyword then closed optionalPrecision
  else if integerTypes.contains keyword then
    closed do
      optionalPrecision
      discard (takeKeyword "UNSIGNED")
  else if decimalTypes.contains keyword then closed optionalScale
  else match keyword with
    | "DOUBLE" => closed (discard (takeKeyword "PRECISION"))
    | "VARCHAR" => closed optionalLength
    | "CHARACTER" | "CHAR" => closed do
        if ← takeKeyword "VARYING" then optionalLength
        else if ← takeKeywords ["LARGE", "OBJECT"] then optionalPrecision
        else optionalLength
    | "TIMESTAMP" | "TIME" => closed do
        optionalPrecision
        timeZone
    | "ENUM" | "SET" => closed literals
    | "ARRAY" => some do
        expectSymbol "<"
        closeAngle (← inner)
    | _ => none

/-- A type: whether it is one of those that a literal may follow, and whether a double bracket is
left half open. Types in angle brackets nest at most a number of times. -/
def openType : Nat → Reader (Bool × Bool)
  | 0 => failure
  | nesting + 1 => do
    let inner : Reader Bool := do return (← openType nesting).2
    let known := match keyword? (← peek?) with
      | some keyword => typeBody? inner keyword
      | none => none
    let result ← match known with
      | some body =>
        discard take
        pure (true, ← body)
      | none =>
        match ← peek? with
        | some (.word _ _) =>
          discard objectName
          modifiers
          pure (false, false)
        | _ => failure
    repeatStep (fun (result : Bool × Bool) => do
      if ← takeSymbol "[" then
        expectSymbol "]"
        return some (true, result.2)
      else return none) result

/-- The fields of a structure behind an opening angle bracket. Each has a type, with a name before
it unless a keyword stands there. -/
def fieldTypes : Reader Unit := do
  let field : Reader Bool := do
    match ← peek? with
    | some (.word text _) => if !isKeyword text then discard ident
    | _ => discard ident
    return (← openType ((← get).length + 1)).2
  let isClosed ← repeatStep (fun isClosed => do
    if ← takeSymbol "," then
      if isClosed then failure
      return some (← field)
    else return none) (← field)
  if ← closeAngle isClosed then failure

/-- A type, and whether a literal may follow it. -/
def anyType : Reader Bool := do
  let (isKnown, isOpen) ← openType ((← get).length + 1)
  if isOpen then failure
  return isKnown

/-- A type. -/
def dataType : Reader Unit := discard anyType

/-- A literal behind its type, which is one of the known ones and no plain interval. -/
def typedLiteral : Reader Unit := do
  match ← get with
  | first :: second :: _ =>
    if keyword? (some first) == some "INTERVAL" && second != .symbol "[" then failure
  | _ => failure
  if ← anyType then discard literalText else failure

end DualQuery.Sql.Reader
