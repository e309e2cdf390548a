import DualQuery.Engine.Session
import DualQuery.Relational.Compile

/-!
# The relational executor

A descriptor is compiled to two plans. The rows are fetched and counted together; relations are
loaded as soon as the rows are there.
-/

namespace DualQuery.Session

variable [Hashing]

/-- The rows of the data plan with their relations, and the total of the count plan. -/
def runPlans (entity : String) (plans : Relational.Plans) :
    Run MemoryBackend (Populated × Nat) := do
  let ms := (← Run.state).store.latency
  let load (rows : List Record) := MemoryBackend.load entity rows plans.data.populate
  if ms = 0 then
    let rows ← Run.call ms (MemoryBackend.fetch plans.data)
    let populated ← Run.call ms (load rows)
    return (populated, ← Run.call ms (MemoryBackend.count plans.count))
  else
    let (rows, total) ←
      Run.both ms (MemoryBackend.fetch plans.data) (MemoryBackend.count plans.count)
    return (← Run.call ms (load rows), total)

/-- Find a page by relational plans. -/
def findRelational (config : Config) (request : Request) (session : Session MemoryBackend) :
    Outcome MemoryBackend ResultPage :=
  match request.prepare session.catalog with
  | .error e => (.error e, session)
  | .ok prepared =>
    let plans := request.descriptor.relationalPlans prepared.ctx
    let (result, backend) := (runPlans request.entity plans).within request.entity
      (request.timeout? config) session.backend
    let result := result.map fun (populated, total) =>
      ResultPage.make populated.records total request.descriptor.pagination
        (prepared.metadata request populated.errors)
    (result, { session with backend := backend, catalog := session.catalog.visit request.entity })

end DualQuery.Session
