import DualQuery.Query.Context
import DualQuery.Query.Descriptor
import DualQuery.Result
import DualQuery.Schema.Catalog
import DualQuery.Store.Error

/-!
# Requests

A request is a descriptor with what the server adds to it. `Request.prepare` validates it and looks
up what the catalog knows, before any backend is asked.
-/

namespace DualQuery

/-- Why a request fails. -/
inductive ExecuteError where
  | descriptor (error : DescriptorError)
  | backend (error : BackendError)
  | timeout (entity : String)
  /-- A backend gave an answer of the wrong shape. -/
  | malformed (why : String)
  deriving DecidableEq, Repr

/-- The wording of an error. -/
def ExecuteError.message : ExecuteError → String
  | descriptor error => "Invalid descriptor: " ++ error.message
  | backend error => error.display
  | timeout entity => "Query on '" ++ entity ++ "' timed out"
  | malformed why => "Malformed backend response: " ++ why

/-- How a request is to be run; times are in milliseconds. -/
structure QueryOptions where
  /-- How long the query may take; by default what the configuration says. -/
  timeout : Option Nat := none
  /-- How long the result is cached; by default what the cache says. -/
  cacheTtl : Option Nat := none
  useCache : Bool := true
  strategy : Option Strategy := none
  memoryCeiling : Option Nat := none
  deriving DecidableEq, Repr, Inhabited

/-- A request. -/
structure Request where
  entity : String
  descriptor : Descriptor
  serverConditions : Conditions := []
  searchConfig : SearchConfig := []
  options : QueryOptions := {}
  deriving Repr, Inhabited

namespace Request

/-- How long the query may take, if there is a limit. -/
def timeout? (request : Request) (config : Config) : Option Nat :=
  request.options.timeout.or config.queryTimeout?

/-- The same request for the first item alone. -/
def single (request : Request) : Request :=
  { request with descriptor := request.descriptor.paginate 1 1 }

end Request

/-- A valid request with what was looked up for it. -/
structure Prepared where
  ctx : QueryContext
  resolution : Resolution
  search : Option SearchPlan
  deriving Repr, Inhabited

/-- Validate a request and look up its entity and relations. -/
def Request.prepare (request : Request) (catalog : Catalog) : Except ExecuteError Prepared :=
  match request.descriptor.validate with
  | .error e => .error (.descriptor e)
  | .ok _ =>
    let resolution := resolveRelations catalog request.entity request.descriptor.relations
    .ok {
      ctx := {
        entity := request.entity
        primaryKey := (catalog.entry request.entity).primaryKey
        serverConditions := request.serverConditions
        searchConfig := request.searchConfig
        populate := resolution.populate }
      resolution := resolution
      search := SearchPlan.of? request.descriptor.search request.searchConfig }

/-- The metadata of a result, given the errors of loading relations. An error that is known already
is not repeated. -/
def Prepared.metadata (prepared : Prepared) (request : Request) (errors : List RelationError) :
    Metadata where
  searchAlgorithms := (prepared.search.map SearchPlan.algorithms).getD []
  relationsLoaded := prepared.resolution.valid
  relationErrors := errors.foldl (fun known error =>
    if known.contains error then known else known ++ [error]) prepared.resolution.failed
  relationsRequested := !request.descriptor.relations.isEmpty

end DualQuery
