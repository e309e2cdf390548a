import DualQuery.Query.Descriptor
import DualQuery.Query.Operator
import DualQuery.Schema.Resolution

/-!
# Document pipelines

A pipeline is a list of stages; each one takes the documents that the one before it gives.
-/

namespace DualQuery.Document

/-- A condition on a document. -/
inductive Match where
  /-- The value at a path compares to an operand. -/
  | field (path : String) (op : Operator) (operand : Value)
  /-- The value at a path is a string that holds a match of a regular expression. -/
  | regex (path pattern : String) (ignoreCase : Bool)
  | all (conditions : List Match)
  | any (conditions : List Match)
  /-- The value at a path belongs to one of some partitions. -/
  | partition (path : String) (partitions index : Nat)
  deriving Repr, Inhabited

mutual
/-- The paths of a condition in order of appearance. -/
def Match.paths : Match → List String
  | .field path _ _ | .regex path _ _ | .partition path _ _ => [path]
  | .all conditions | .any conditions => Match.pathsOfAll conditions

/-- The paths of several conditions. -/
def Match.pathsOfAll : List Match → List String
  | [] => []
  | condition :: rest => condition.paths ++ Match.pathsOfAll rest
end

/-- What documents are grouped by. -/
inductive GroupKey where
  /-- All documents form one group. -/
  | all
  | single (field : String)
  | composite (fields : List String)
  deriving DecidableEq, Repr, Inhabited

/-- The fields of a key. -/
def GroupKey.fields : GroupKey → List String
  | all => []
  | single field => [field]
  | composite fields => fields

/-- An aggregate over the documents of a group. -/
structure Accumulator where
  output : String
  op : AggregateOp
  /-- The field to aggregate, none meaning every document. -/
  field : Option String
  /-- Only documents that meet the condition are aggregated. -/
  condition : Option Match
  deriving Repr, Inhabited

/-- A stage of a pipeline. -/
inductive Stage where
  | filter (condition : Match)
  /-- Put the documents of a source whose foreign field equals the local one into an array. -/
  | lookup (source localField foreignField label : String)
  /-- One document for each item of an array; `keepsEmpty` keeps documents without items. -/
  | unwind (path : String) (keepsEmpty : Bool)
  /-- One document for each group, with its key and its aggregates. -/
  | group (key : GroupKey) (accumulators : List Accumulator)
  /-- Keep some paths. -/
  | project (fields : List String)
  | sort (fields : List SortField)
  | skip (count : Nat)
  | limit (count : Nat)
  /-- One document with the number of documents; none where there are none. -/
  | count (field : String)
  /-- One document with the results of two lists of stages on the same input. -/
  | facet (data total : List Stage)
  deriving Repr, Inhabited

/-- The name of a stage. -/
def Stage.name : Stage → String
  | filter _ => "$match"
  | lookup _ _ _ _ => "$lookup"
  | unwind _ _ => "$unwind"
  | group _ _ => "$group"
  | project _ => "$project"
  | sort _ => "$sort"
  | skip _ => "$skip"
  | limit _ => "$limit"
  | count _ => "$count"
  | facet _ _ => "$facet"

/-- How a pipeline is to be run. -/
structure PipelineOptions where
  allowDiskUse : Bool := false
  parallelLookups : Bool := false
  /-- The size of the chunks of a cursor; by default everything comes at once. -/
  batchSize : Option Nat := none
  deriving DecidableEq, Repr, Inhabited

/-- Stages, and the relations to load into their output. -/
structure Pipeline where
  stages : List Stage
  populate : List Chain := []
  deriving Repr, Inhabited

namespace Pipeline

/-- The names of the stages. -/
def stageNames (pipeline : Pipeline) : List String := pipeline.stages.map (·.name)

/-- Whether the pipeline gives a page with its total. -/
def isPaginated (pipeline : Pipeline) : Bool :=
  pipeline.stages.any fun stage =>
    match stage with
    | .facet _ _ => true
    | _ => false

/-- The keys of the last sort. -/
def sortKeys (pipeline : Pipeline) : List Record.SortKey :=
  ((pipeline.stages.reverse.findSome? fun stage =>
    match stage with
    | .sort fields => some fields
    | _ => none).getD []).map SortField.key

/-- The number of lookups. -/
def lookupCount (pipeline : Pipeline) : Nat :=
  (pipeline.stages.filter fun stage =>
    match stage with
    | .lookup _ _ _ _ => true
    | _ => false).length

end Pipeline

end DualQuery.Document
