import DualQuery.Config
import DualQuery.Query.Context
import DualQuery.Query.Descriptor

/-!
# Execution strategies

A document query is run in one of four ways, chosen by an estimate of its rows or by the caller.
`StrategyPlan.make` decides everything the executor needs to know before it starts.
-/

namespace DualQuery

/-- How a document query is run, in the order of growing inputs. -/
inductive Strategy where
  /-- In one pipeline. -/
  | memory
  /-- In one pipeline that may use the disk and look records up in parallel. -/
  | hybrid
  /-- Through a cursor. -/
  | streaming
  /-- In one pipeline for each partition. -/
  | distributed
  deriving DecidableEq, Repr, Inhabited

namespace Strategy

/-- The name of a strategy. -/
def name : Strategy → String
  | memory => "MEMORY"
  | hybrid => "HYBRID"
  | streaming => "STREAMING"
  | distributed => "DISTRIBUTED"

/-- All strategies. -/
def all : List Strategy := [memory, hybrid, streaming, distributed]

/-- Read a name, whatever its case and the blanks around it; else the name that is not known. -/
def parse (text : String) : Except String Strategy :=
  let name := String.ofList ((Text.trimChars text.toList).map Char.toUpper)
  match all.find? fun s => s.name = name with
  | some s => .ok s
  | none => .error name

/-- Whether a strategy is for inputs that fit the working memory. -/
def isSmall : Strategy → Bool
  | memory | hybrid => true
  | streaming | distributed => false

end Strategy

/-- The wording for an unknown strategy. -/
def unknownStrategyMessage (name : String) : String := "Unknown strategy '" ++ name ++ "'"

/-- A memory ceiling split in three: half to work in, three tenths for buffers, the rest to
cache. -/
structure MemoryBudget where
  workingBytes : Nat
  bufferBytes : Nat
  cacheBytes : Nat
  deriving DecidableEq, Repr, Inhabited

/-- Split a memory ceiling. -/
def MemoryBudget.split (ceiling : Nat) : MemoryBudget :=
  let working := ceiling / 2
  let buffer := ceiling / 10 * 3 + ceiling % 10 * 3 / 10
  ⟨working, buffer, ceiling - working - buffer⟩

/-- The JSON form of a budget. -/
def MemoryBudget.toJson (budget : MemoryBudget) : Json :=
  .obj [("workingBytes", .ofNat budget.workingBytes), ("bufferBytes", .ofNat budget.bufferBytes),
    ("cacheBytes", .ofNat budget.cacheBytes)]

/-- An estimate of the rows of a query. -/
structure RowEstimate where
  rows : Nat
  /-- Whether the rows could not be counted and the configured estimate stands in. -/
  fallback : Bool
  deriving DecidableEq, Repr, Inhabited

/-- What the executor needs to know to run a document query. -/
structure StrategyPlan where
  strategy : Strategy
  estimate : RowEstimate
  suggestedIndexes : List String
  memoryBudget : MemoryBudget
  parallelism : Nat
  allowDiskUse : Bool
  parallelLookups : Bool
  /-- Rows per chunk when streaming. -/
  chunkSize : Nat
  /-- The field that spreads records over partitions. -/
  partitionKey : Option String
  deriving DecidableEq, Repr, Inhabited

namespace Descriptor

/-- Whether all rows form one group. -/
def isGroupAll (d : Descriptor) : Bool := !d.aggregations.isEmpty && d.groupBy.isEmpty

/-- The joins that can be compiled. -/
def soundJoins (d : Descriptor) : List JoinSpec := d.joins.filter fun join => join.defect?.isNone

/-- The field that spreads records over partitions: the first one to group by, else the primary
key. -/
def partitionKey (ctx : QueryContext) (d : Descriptor) : String := d.groupBy.headD ctx.primaryKey

/-- The names of indexes that the query would profit from: on filtered, joined and grouped
fields. -/
def suggestedIndexes (ctx : QueryContext) (d : Descriptor) : List String :=
  let fields := (mergeConditions ctx.serverConditions d.conditions).map (·.field) ++
    d.soundJoins.map (·.localField) ++ d.groupBy
  let flat (field : String) := String.ofList (field.toList.map fun c => if c = '.' then '_' else c)
  (fields.map fun field => "idx_" ++ ctx.entity ++ "_" ++ flat field).eraseDups

/-- The strategy for a number of rows; the caller's choice goes first. A single group over all rows
is not distributed unless the caller asks for it. -/
def selectStrategy (d : Descriptor) (thresholds : Thresholds) (rows : Nat)
    (choice : Option Strategy) : Strategy :=
  match choice with
  | some strategy => strategy
  | none =>
    if rows < thresholds.memory then .memory
    else if rows < thresholds.hybrid then .hybrid
    else if rows < thresholds.streaming then .streaming
    else if d.isGroupAll then .streaming
    else .distributed

end Descriptor

namespace StrategyPlan

/-- Plan the execution of a document query. A single group over all rows is streamed even where the
caller asks to distribute it. -/
def make [Machine] (config : Config) (ctx : QueryContext) (d : Descriptor) (estimate : RowEstimate)
    (choice : Option Strategy) (memoryCeiling : Nat) : StrategyPlan :=
  let selected := d.selectStrategy config.thresholds estimate.rows choice
  let strategy := if selected = .distributed ∧ d.isGroupAll then .streaming else selected
  let joins := d.soundJoins.length
  -- with a single join there is nothing to look up at once
  let parallelLookups := strategy = .hybrid ∧ 1 < joins
  { strategy := strategy
    estimate := estimate
    suggestedIndexes := d.suggestedIndexes ctx
    memoryBudget := .split memoryCeiling
    parallelism :=
      match strategy with
      | .memory | .streaming => 1
      | .hybrid => if parallelLookups then min joins processorCount else 1
      | .distributed => min (max 1 config.maxPartitions) processorCount
    allowDiskUse := strategy ≠ .memory
    parallelLookups := parallelLookups
    chunkSize := max 1 config.streamChunkSize
    partitionKey := if strategy = .distributed then some (d.partitionKey ctx) else none }

/-- Advice drawn from an execution. -/
def tuningSuggestions (plan : StrategyPlan) (elapsedMs slowMs resultBytes : Nat) : List String :=
  let slow := match plan.suggestedIndexes with
    | index :: _ =>
      if slowMs < elapsedMs then ["execution time high, add an index on " ++ index] else []
    | [] => []
  let large := if plan.memoryBudget.workingBytes < resultBytes ∧ plan.strategy.isSmall
    then ["memory usage high, prefer STREAMING"] else []
  slow ++ large

/-- The JSON form of a plan. -/
def toJson (plan : StrategyPlan) : Json :=
  .obj [("strategy", .str plan.strategy.name), ("estimatedRows", .ofNat plan.estimate.rows),
    ("estimateIsFallback", .bool plan.estimate.fallback),
    ("suggestedIndexes", .ofStrings plan.suggestedIndexes),
    ("memoryBudget", plan.memoryBudget.toJson),
    ("parallelism", .ofNat plan.parallelism), ("allowDiskUse", .bool plan.allowDiskUse),
    ("parallelLookups", .bool plan.parallelLookups), ("chunkSize", .ofNat plan.chunkSize),
    ("partitionKey", Json.ofOption .str plan.partitionKey)]

end StrategyPlan

end DualQuery
