import DualQuery.Cache.Basic
import DualQuery.Engine.Backend

/-!
# Sessions

What requests work on: the state of a backend, the catalog of relations and the result cache. A
function that finds a page also finds all items or the first one.
-/

namespace DualQuery

/-- The state of a backend with a catalog and a cache. -/
structure Session (σ : Type) where
  backend : σ
  catalog : Catalog
  cache : Cache
  deriving Repr, Inhabited

/-- What a request gives. -/
abbrev Outcome (σ α : Type) := Except ExecuteError α × Session σ

namespace Session

variable {σ : Type}

/-- Find all items by a way to find a page. -/
def findMany (findPage : Request → Session σ → Outcome σ ResultPage) (request : Request)
    (session : Session σ) : Outcome σ ResultList :=
  let (result, session) := findPage request session
  (result.map fun page => ⟨page.items, page.metadata⟩, session)

/-- Find the first item by a way to find a page. -/
def findOne (findPage : Request → Session σ → Outcome σ ResultPage) (request : Request)
    (session : Session σ) : Outcome σ ResultItem :=
  let (result, session) := findPage request.single session
  (result.map fun page => ⟨page.items.head?, page.metadata⟩, session)

/-- A session over an empty store. -/
def ofConfig (config : Config) : Session MemoryBackend where
  backend := {}
  catalog := ({} : Catalog).reserving config.reservedFields
  cache := .ofConfig config

/-- Add a schema and make its table. -/
def define (session : Session MemoryBackend) (schema : EntitySchema) : Session MemoryBackend :=
  { session with
    backend := { session.backend with store := session.backend.store.define schema }
    catalog := session.catalog.register schema }

/-- Change the store. -/
def changeStore (session : Session MemoryBackend) (f : Store → Store) : Session MemoryBackend :=
  { session with backend := { session.backend with store := f session.backend.store } }

end Session

end DualQuery
