/-!
# Errors of stores and backends

A store knows two errors. A backend reports what failed, on which entity and of what kind, with at
most 512 bytes of context.
-/

namespace DualQuery

/-- An error of the store. -/
inductive StoreError where
  | tableNotFound (table : String)
  | unknownTransaction (id : Nat)
  deriving DecidableEq, Repr

/-- The wording of an error. -/
def StoreError.message : StoreError → String
  | tableNotFound table => "Table '" ++ table ++ "' not found"
  | unknownTransaction id => "Transaction " ++ toString id ++ " is not open"

/-- The kind of a backend error. -/
inductive BackendErrorKind where
  | connection
  | timeout
  | violation
  | other
  deriving DecidableEq, Repr, Inhabited

namespace BackendErrorKind

/-- The name of a kind. -/
def name : BackendErrorKind → String
  | connection => "connection"
  | timeout => "timeout"
  | violation => "constraint"
  | other => "other"

/-- The kind of a name. -/
def ofName? (name : String) : Option BackendErrorKind :=
  [connection, timeout, violation, other].find? fun kind => kind.name = name

/-- The words for a kind in messages. -/
def words : BackendErrorKind → String
  | connection => "connection error"
  | timeout => "timeout"
  | violation => "constraint violation"
  | other => "backend error"

end BackendErrorKind

/-- A failure of a backend. -/
structure BackendError where
  operation : String
  entity : String
  kind : BackendErrorKind
  message : String
  /-- What was being run. -/
  context : Option String := none
  deriving DecidableEq, Repr, Inhabited

/-- The longest beginning of a text that fits a number of bytes. -/
def takeBytes (limit : Nat) : List Char → List Char
  | [] => []
  | c :: cs => if c.utf8Size ≤ limit then c :: takeBytes (limit - c.utf8Size) cs else []

namespace BackendError

/-- The most bytes of context. -/
def maxContextBytes : Nat := 512

/-- Add context, cut to the most bytes. -/
def withContext (e : BackendError) (context : String) : BackendError :=
  { e with context := some (String.ofList (takeBytes maxContextBytes context.toList)) }

/-- The wording of an error. -/
def display (e : BackendError) : String :=
  e.kind.words ++ " in " ++ e.operation ++ " on '" ++ e.entity ++ "': " ++ e.message

end BackendError

/-- A store error as a backend reports it. -/
def StoreError.toBackend (e : StoreError) (operation entity : String) : BackendError :=
  let kind := match e with
    | tableNotFound _ => BackendErrorKind.other
    | unknownTransaction _ => .violation
  { operation := operation, entity := entity, kind := kind, message := e.message }

end DualQuery
