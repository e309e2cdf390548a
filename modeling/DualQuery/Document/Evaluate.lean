import DualQuery.Document.Pipeline
import DualQuery.Partition
import DualQuery.Record.Groups
import DualQuery.Store.Basic

/-!
# Evaluating pipelines

`Pipeline.run` answers a pipeline from the tables of a store. It fails only where a table is
missing.
-/

namespace DualQuery.Document

mutual
/-- Whether a document meets a condition. -/
def Match.holds (row : Record) : Match → Bool
  | .field path op operand => op.holds (Record.valueAt row path) operand
  | .regex path pattern ignoreCase => (Record.valueAt row path).matchesRegex pattern ignoreCase
  | .all conditions => Match.allHold row conditions
  | .any conditions => Match.anyHolds row conditions
  | .partition path partitions index => (Record.valueAt row path).partition partitions == index

/-- Whether a document meets all of several conditions. -/
def Match.allHold (row : Record) : List Match → Bool
  | [] => true
  | condition :: rest => condition.holds row && Match.allHold row rest

/-- Whether a document meets one of several conditions. -/
def Match.anyHolds (row : Record) : List Match → Bool
  | [] => false
  | condition :: rest => condition.holds row || Match.anyHolds row rest
end

variable [Hashing]

/-- Put the matching records of a source into each document. -/
def lookupRows (localField foreignField label : String) (source rows : List Record) : List Record :=
  let index := Record.indexBy foreignField source
  rows.map fun row =>
    let found := Record.hits index (Record.valueAt row localField)
    Record.setPath row label (.array (found.map fun (_, record) => .object record))

/-- The documents for the items at a path of a document. What is no array stays as it is. -/
def unwindRow (path : String) (keepsEmpty : Bool) (row : Record) : List Record :=
  let emptied := if keepsEmpty then [Keyed.erase row path] else []
  match Record.getPath? row path with
  | none | some .null | some (.array []) => emptied
  | some (.array items) => items.map (Record.setPath row path)
  | some _ => [row]

/-- The document of a group. -/
def groupRow (fields : List String) (accumulators : List Accumulator) (values : List Value)
    (members : List Record) : Record :=
  let key := (fields.zip values).foldl (fun out (field, value) => Record.setPath out field value) []
  accumulators.foldl (fun out a =>
    let value := a.op.over (a.field.map fun field row => Record.valueAt row field)
      (a.condition.map fun condition row => condition.holds row) members
    Record.setPath out a.output value) key

/-- The groups of documents. -/
def GroupKey.groups (key : GroupKey) (rows : List Record) : Record.Groups :=
  Record.groups (key.fields.map fun field row => Record.valueAt row field) rows

/-- One document for each group. -/
def groupRows (key : GroupKey) (accumulators : List Accumulator) (rows : List Record) :
    List Record :=
  (key.groups rows).map fun (values, members) => groupRow key.fields accumulators values members

/-- The paths of a document that are kept. -/
def projectRow (fields : List String) (row : Record) : Record :=
  fields.foldl (fun out field =>
    match Record.getPath? row field with
    | some value => Record.setPath out field value
    | none => out) []

/-- The document that counts documents. -/
def countRow (field : String) (rows : List Record) : List Record :=
  if rows.isEmpty then [] else [[(field, .int (Int64.ofNat rows.length))]]

mutual
/-- The documents that a stage makes of others. -/
def Stage.run (store : Store) (rows : List Record) : Stage → Except StoreError (List Record)
  | .filter condition => .ok (rows.filter fun row => condition.holds row)
  | .lookup source localField foreignField label => do
    return lookupRows localField foreignField label (← store.scan source) rows
  | .unwind path keepsEmpty => .ok (rows.flatMap (unwindRow path keepsEmpty))
  | .group key accumulators => .ok (groupRows key accumulators rows)
  | .project fields => .ok (rows.map (projectRow fields))
  | .sort fields => .ok (Record.sort (fields.map SortField.key) rows)
  | .skip n => .ok (rows.drop n)
  | .limit n => .ok (rows.take n)
  | .count field => .ok (countRow field rows)
  | .facet data total => do
    let page ← Stage.runAll store rows data
    let counts ← Stage.runAll store rows total
    return [[("data", .array (page.map .object)), ("total", .array (counts.map .object))]]

/-- The documents that stages make of others. -/
def Stage.runAll (store : Store) (rows : List Record) :
    List Stage → Except StoreError (List Record)
  | [] => .ok rows
  | stage :: rest => do
    let rows ← stage.run store rows
    Stage.runAll store rows rest
end

/-- The documents of a pipeline over a collection. -/
def Pipeline.run (pipeline : Pipeline) (store : Store) (collection : String) :
    Except StoreError (List Record) := do
  Stage.runAll store (← store.scan collection) pipeline.stages

end DualQuery.Document
