import DualQuery.Sql.Expression

/-!
# Reading the columns of a result

The columns that a query, or a statement that gives rows back, has for its result, and the names
that columns and tables get by it.
-/

namespace DualQuery.Sql.Reader

/-- An alias, if there is one. Without AS it is none of the reserved keywords. -/
def optionalAlias (reserved : List String) : Reader (Option Ident) := do
  if ← takeKeyword "AS" then return some (← ident)
  else match ← peek? with
    | some (.word text none) =>
      if reserved.contains (inCapitals text) then return none else return some (← ident)
    | some (.word _ (some _)) | some (.literal _) => return some (← ident)
    | _ => return none

/-- The alias of a table with the names of its columns, if there is one. -/
def tableAlias? : Reader (Option String) := do
  match ← optionalAlias notTableAlias with
  | some label =>
    optionalIdentList
    return some label.value
  | none => return none

namespace Level

variable (level : Level)

/-- The columns that a star leaves out, renames or replaces. -/
def starOptions : Reader Unit := do
  let names : Reader Unit := do
    if ← comesSymbol "(" then identList else discard ident
  let renamed : Reader Unit := do
    discard ident
    expectKeyword "AS"
    discard ident
  behindKeyword "EXCLUDE" names
  behindKeyword "EXCEPT" names
  behindKeyword "RENAME" do
    if ← comesSymbol "(" then discard (parenthesized (commaList renamed)) else renamed
  behindKeyword "REPLACE" <| discard <| parenthesized <| commaList do
    discard level.anyExpr
    discard (takeKeyword "AS")
    discard ident

/-- A column of the result, or all of them by a star. -/
def selectItem : Reader Unit := do
  if ← takeStar then level.starOptions
  else
    discard level.anyExpr
    discard (optionalAlias notColumnAlias)

/-- Columns of the result, separated by commas. -/
def selectItems : Reader Unit := discard (commaList level.selectItem)

end Level

end DualQuery.Sql.Reader
