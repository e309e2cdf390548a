/-!
# SQL queries

The parts of a statement that say which tables it joins, which columns it filters by and how it
sorts. Everything else is read and forgotten.
-/

namespace DualQuery.Sql

/-- A name as it was written, with the quotes around it. -/
structure Ident where
  value : String
  quote : Option Char := none
  deriving DecidableEq, Repr, Inhabited

/-- The name of a table, its parts separated by dots. -/
abbrev ObjectName := List Ident

/-- An expression. -/
inductive Expr where
  | column (parts : List String)
  /-- An expression in parentheses. -/
  | nested (inner : Expr)
  /-- Two conditions joined by AND or OR. -/
  | connective (left right : Expr)
  | equality (left right : Expr)
  /-- Any other operator between two operands. -/
  | operation (left right : Expr)
  /-- A pattern match, membership in a list or a null check of an expression. -/
  | test (subject : Expr)
  /-- Any other expression. -/
  | other
  deriving Repr, Inhabited

/-- A joined table. -/
structure Join where
  /-- The table with its alias; none where something else is joined. -/
  table : Option (ObjectName × Option String)
  /-- Whether the join is an inner, left, right or full one. -/
  isPlain : Bool
  /-- The condition behind ON. -/
  condition : Option Expr
  deriving Repr, Inhabited

/-- An item of ORDER BY; `descending` is set by the keyword only. -/
structure SortItem where
  expr : Expr
  descending : Bool
  deriving Repr, Inhabited

/-- A query, by what it selects from. -/
inductive Query where
  | ofTable (name : ObjectName) (joins : List Join) (condition : Option Expr)
      (order : List SortItem)
  | ofQuery (inner : Query)
  /-- From an expression that is neither a table nor a query. -/
  | ofOther
  /-- Without FROM. -/
  | ofNothing
  /-- No plain SELECT. -/
  | notSelect
  deriving Repr, Inhabited

/-- A statement. -/
inductive Statement where
  | query (query : Query)
  /-- An explanation of another statement or of a table. -/
  | explanation
  | other
  deriving Repr, Inhabited

end DualQuery.Sql
