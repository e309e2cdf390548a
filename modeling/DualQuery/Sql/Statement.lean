import DualQuery.Sql.Definition
import DualQuery.Sql.Select
import DualQuery.Sql.Session

/-!
# Reading SQL statements

`statements?` reads the statements of a text. Statements, queries and expressions nest, and how deep
they may do so is bounded, see `enter`; the operands of an expression lie on its own level. Of a
statement other than a query nothing is kept.
-/

namespace DualQuery.Sql

namespace Reader

namespace Level

variable (level : Level)

/-- An explanation behind its keyword: of a statement that is no explanation, or of a table. -/
def explanation : Reader Unit := do
  discard (takeKeyword "ANALYZE")
  discard (takeKeyword "VERBOSE")
  behindKeyword "FORMAT" (expectOneOf ["TEXT", "GRAPHVIZ", "JSON"])
  let explained ← (some <$> level.statement) <|> pure none
  match explained with
  | some .explanation => failure
  | some _ => return
  | none => discard objectName

/-- What follows the first keyword of a statement that is neither a query nor an explanation. There
is no result for any other keyword. -/
def statementRest? : String → Option (Reader Unit)
  | "INSERT" => some level.insertion
  | "UPDATE" => some level.update
  | "DELETE" => some level.deletion
  | "MERGE" => some level.merge
  | "COPY" => some level.copy
  | "CREATE" => some level.creation
  | "ALTER" => some level.alteration
  | "DROP" => some level.dropping
  | "SET" => some level.settings
  | "SHOW" => some level.showing
  | "USE" => some (discard ident)
  | "GRANT" => some grant
  | "REVOKE" => some revocation
  | "START" => some do
      expectKeyword "TRANSACTION"
      transactionModes
  | "BEGIN" => some transactionStart
  | "END" | "COMMIT" => some transactionEnd
  | "ROLLBACK" => some rollback
  | "SAVEPOINT" => some (discard ident)
  | "RELEASE" => some do
      discard (takeKeyword "SAVEPOINT")
      discard ident
  | "DECLARE" => some level.declaration
  | "FETCH" => some fetching
  | "CLOSE" => some (discard ident)
  | "PREPARE" => some level.preparation
  | "EXECUTE" => some level.execution
  | "DEALLOCATE" => some do
      discard (takeKeyword "PREPARE")
      discard ident
  | "ANALYZE" => some level.analysis
  | "TRUNCATE" => some do
      discard (takeKeyword "TABLE")
      discard objectName
      behindKeyword "PARTITION" level.partition
  | "MSCK" => some repair
  | "CACHE" => some level.caching
  | "UNCACHE" => some uncaching
  | "DISCARD" => some (expectOneOf ["ALL", "PLANS", "SEQUENCES", "TEMP", "TEMPORARY"])
  | "ATTACH" => some do
      discard (takeKeyword "DATABASE")
      discard level.anyExpr
      expectKeyword "AS"
      discard ident
  | "PRAGMA" => some pragma
  | "KILL" => some do
      discard (takeOneOf ["CONNECTION", "QUERY", "MUTATION"])
      wholeNumber
  | "ASSERT" => some do
      discard level.anyExpr
      behindKeyword "AS" (discard level.anyExpr)
  | _ => none

/-- A statement. -/
def statementBody : Reader Statement := do
  match keyword? (← peek?) with
  | some "SELECT" | some "WITH" | some "VALUES" => return .query (← level.query)
  | some "EXPLAIN" | some "DESCRIBE" =>
    discard take
    level.explanation
    return .explanation
  | some keyword =>
    match level.statementRest? keyword with
    | some rest =>
      discard take
      rest
      return .other
    | none => failure
  | none => if ← comesSymbol "(" then return .query (← level.query) else failure

end Level

/-- The readers of one level, given those of the next one. Operands nest at most a number of
times. -/
def Inner.level (inner : Inner) : Nat → Level
  | 0 => ⟨inner, fun _ => failure, failure⟩
  | nesting + 1 =>
    ⟨inner, fun rank tokens => (inner.level nesting).exprAbove rank tokens,
      fun tokens => (inner.level nesting).spanBody tokens⟩

/-- The readers inside so many open levels, of which there may be so many more. Every operand within
an operand takes a token, so the number of tokens bounds how deep operands nest. -/
def levels : Nat → Nat → Inner
  | 0, _ => ⟨failure, failure, failure⟩
  | more + 1, depth =>
    let onLevel {α : Type} (body : Level → Reader α) : Reader α := do
      enter depth
      body ((levels more (depth + 1)).level ((← get).length + 1))
    ⟨onLevel fun level => level.exprAbove 0, onLevel Level.queryBody, onLevel Level.statementBody⟩

end Reader

/-- The statements of a text; none where the text is no SQL. Every level but that of a query as a
statement takes a token, so their number is bounded. -/
def statements? (text : String) : Option (List Statement) := do
  let tokens ← tokens? text.toList
  let inner := Reader.levels (2 * tokens.length + 2) 0
  let (found, _) := ((inner.statements.run tokens).run.run 0).run
  found.map (·.1)

end DualQuery.Sql
