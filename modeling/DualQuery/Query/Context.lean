import DualQuery.Query.Search
import DualQuery.Query.Condition
import DualQuery.Schema.Resolution

/-!
# Query contexts

What a query needs besides its descriptor: the entity, the conditions the server imposes, how its
fields are searched and which relations to load.
-/

namespace DualQuery

/-- What a query needs besides its descriptor. -/
structure QueryContext where
  entity : String
  primaryKey : String := "id"
  /-- Conditions of the server; the caller cannot change a field they constrain. -/
  serverConditions : Conditions := []
  searchConfig : SearchConfig := []
  populate : List Chain := []
  deriving Repr, Inhabited

end DualQuery
