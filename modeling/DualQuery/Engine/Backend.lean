import DualQuery.Document.Evaluate
import DualQuery.Document.Writer
import DualQuery.Engine.Run
import DualQuery.Relational.Evaluate
import DualQuery.Relational.Text
import DualQuery.Store.Populate

/-!
# Backends

`DocumentBackend` is what the document executor asks of a backend. `MemoryBackend` answers from a
store, in either language; a fault set for an operation is the answer of its next call.
-/

namespace DualQuery

open Document (Pipeline PipelineOptions)

/-- What the document executor asks of a backend with a state of a given type. -/
structure DocumentBackend (σ : Type) where
  /-- How long a call takes. -/
  latency : σ → Nat
  /-- The documents of a pipeline over a collection. -/
  aggregate : String → Pipeline → PipelineOptions → Call σ (List Record)
  /-- The documents of a pipeline in chunks, each of which may fail when it is taken. -/
  openCursor :
    String → Pipeline → PipelineOptions → Call σ (List (Except ExecuteError (List Record)))
  /-- A number of chunks was taken from a cursor. -/
  takeChunks : Nat → σ → σ
  /-- Load relations into documents of a collection. -/
  populate : String → List Record → List Chain → Call σ Populated

/-- A store with the accounts of its use. -/
structure MemoryBackend where
  store : Store := {}
  /-- The number of pipelines run at once, those for counts included. -/
  aggregateCalls : Nat := 0
  /-- The number of chunks handed out. -/
  chunksServed : Nat := 0
  deriving Repr, Inhabited

namespace Store

/-- Answer a call of an operation on an entity: the fault of the operation if there is one. -/
def answer {α : Type} (operation entity : String)
    (work : Store → Except BackendError α × Store) (store : Store) :
    Except BackendError α × Store :=
  let (fault, store) := store.takeFault operation
  match fault with
  | some fault =>
    (.error
      { operation := operation, entity := entity, kind := fault.kind, message := fault.message },
      store)
  | none => work store

/-- Answer a call that only reads. -/
def read {α : Type} (operation entity : String) (work : Store → Except BackendError α)
    (store : Store) : Except BackendError α × Store :=
  store.answer operation entity fun store => (work store, store)

/-- Answer a call with the text of what was run as context of its failure. -/
def readWith {α : Type} (operation entity context : String) (work : Store → Except StoreError α)
    (store : Store) : Except BackendError α × Store :=
  store.read operation entity fun store =>
    match work store with
    | .ok a => .ok a
    | .error e => .error ((e.toBackend operation entity).withContext context)

end Store

namespace MemoryBackend

/-- A call that is answered by the store. -/
def call {α : Type} (answer : Store → Except BackendError α × Store) : Call MemoryBackend α where
  answer backend :=
    let (result, store) := answer backend.store
    match result with
    | .ok a => (.ok a, { backend with store := store })
    | .error e => (.error (.backend e), { backend with store := store })

variable [Hashing]

/-- The rows of a plan. -/
def fetch (plan : Relational.Plan) : Call MemoryBackend (List Record) :=
  call (Store.readWith "fetch" plan.entity plan.sql plan.rows)

/-- The total of a plan. -/
def count (plan : Relational.Plan) : Call MemoryBackend Nat :=
  call (Store.readWith "count" plan.entity plan.sql plan.total)

/-- Load relations into records of an entity. -/
def load (entity : String) (records : List Record) (chains : List Chain) :
    Call MemoryBackend Populated :=
  call (Store.read "populate" entity fun store =>
    .ok (DualQuery.populate store entity records chains))

/-- The documents of a pipeline over a collection. -/
def aggregate (collection : String) (pipeline : Pipeline) : Call MemoryBackend (List Record) :=
  { call (Store.readWith "aggregate" collection pipeline.toJson.text
      fun store => pipeline.run store collection) with
    start := fun backend => { backend with aggregateCalls := backend.aggregateCalls + 1 } }

/-- The size of chunks where none is asked for. -/
def defaultBatchSize : Nat := 1000

/-- Cut a list into chunks of a size, the last one possibly shorter. A size of zero counts as
one. -/
def chunks {α : Type} (size : Nat) (as : List α) : List (List α) :=
  match as with
  | [] => []
  | a :: as =>
    let size := max 1 size
    (a :: as).take size :: chunks size ((a :: as).drop size)
termination_by as.length
decreasing_by
  simp only [List.length_drop, List.length_cons]
  omega

/-- The documents of a pipeline in chunks. -/
def openCursor (collection : String) (pipeline : Pipeline) (options : PipelineOptions) :
    Call MemoryBackend (List (Except ExecuteError (List Record))) :=
  call (Store.readWith "open_cursor" collection pipeline.toJson.text fun store => do
    let rows ← pipeline.run store collection
    return (chunks (options.batchSize.getD defaultBatchSize) rows).map .ok)

/-- The document backend over a store. -/
def documents : DocumentBackend MemoryBackend where
  latency backend := backend.store.latency
  aggregate collection pipeline _ := aggregate collection pipeline
  openCursor := openCursor
  takeChunks n backend := { backend with chunksServed := backend.chunksServed + n }
  populate := load

end MemoryBackend

end DualQuery
