import DualQuery.Json.Reader
import DualQuery.Json.Slots
import DualQuery.Partition
import DualQuery.Text.Blank
import DualQuery.Text.Numeral
import DualQuery.Text.Path

/-!
# Configuration

The settings of the engine, read from a JSON text or from variables of the environment. What is not
set keeps its default; in the environment, neither does a setting that cannot be read count.
-/

namespace DualQuery

/-- The numbers of rows at which the next execution strategy takes over. -/
structure Thresholds where
  memory : Nat := 1000
  hybrid : Nat := 100000
  streaming : Nat := 1000000
  deriving DecidableEq, Repr, Inhabited

/-- The settings of the engine. -/
structure Config where
  /-- How long results are cached by default. -/
  cacheTtlSecs : Nat := 300
  cacheMaxEntries : Nat := 1000
  cacheMaxBytes : Nat := 64 * 1024 * 1024
  /-- How long counting rows for an estimate may take. -/
  estimateTimeoutMs : Nat := 500
  /-- The estimate where rows cannot be counted. -/
  fallbackEstimate : Nat := 50000
  /-- Rows per chunk when streaming. -/
  streamChunkSize : Nat := 1000
  /-- Queries that take longer get an index suggested. -/
  slowQueryMs : Nat := 1000
  memoryCeilingBytes : Nat := 512 * 1024 * 1024
  /-- The partitions of a distributed query; by default there is one for each processor. -/
  maxPartitions : Nat := by exact processorCount
  /-- How long a query may take by default; zero for as long as it likes. -/
  queryTimeoutMs : Nat := 30000
  thresholds : Thresholds := {}
  /-- Field names that are never relations. -/
  reservedFields : List String := ["__v", "_id"]
  deriving DecidableEq, Repr

instance [Machine] : Inhabited Config := ⟨{}⟩

/-- Why a configuration is refused. -/
inductive ConfigError where
  /-- The file cannot be read. -/
  | unreadable
  /-- The text is no JSON, or its JSON has not the shape of a configuration. -/
  | malformed
  | thresholds (memory hybrid streaming : Nat)
  deriving DecidableEq, Repr

/-- The wording of an error. -/
def ConfigError.message : ConfigError → String
  | unreadable => "Failed to read config file"
  | malformed => "Invalid config file"
  | thresholds memory hybrid streaming =>
    "Invalid thresholds: expected memory < hybrid < streaming, got " ++ toString memory ++ " / " ++
      toString hybrid ++ " / " ++ toString streaming

/-- Read thresholds; all three must be given. -/
def Thresholds.ofJson? (j : Json) : Option Thresholds := do
  let slots ← Json.slots? ["memory", "hybrid", "streaming"] j
  return {
    memory := ← Json.required? slots "memory" Json.nat?
    hybrid := ← Json.required? slots "hybrid" Json.nat?
    streaming := ← Json.required? slots "streaming" Json.nat? }

namespace Config

variable [Machine]

/-- The names of the settings in JSON, in their order of declaration. -/
def names : List String :=
  ["cache_ttl_secs", "cache_max_entries", "cache_max_bytes", "estimate_timeout_ms",
    "fallback_estimate", "stream_chunk_size", "slow_query_ms", "memory_ceiling_bytes",
    "max_partitions", "query_timeout_ms", "thresholds", "reserved_fields"]

/-- Read a configuration. -/
def ofJson? (j : Json) : Option Config := do
  let slots ← Json.slots? names j
  let base : Config := {}
  return {
    cacheTtlSecs := ← Json.orElse? slots "cache_ttl_secs" base.cacheTtlSecs Json.nat?
    cacheMaxEntries := ← Json.orElse? slots "cache_max_entries" base.cacheMaxEntries Json.nat?
    cacheMaxBytes := ← Json.orElse? slots "cache_max_bytes" base.cacheMaxBytes Json.nat?
    estimateTimeoutMs :=
      ← Json.orElse? slots "estimate_timeout_ms" base.estimateTimeoutMs Json.nat?
    fallbackEstimate := ← Json.orElse? slots "fallback_estimate" base.fallbackEstimate Json.nat?
    streamChunkSize := ← Json.orElse? slots "stream_chunk_size" base.streamChunkSize Json.nat?
    slowQueryMs := ← Json.orElse? slots "slow_query_ms" base.slowQueryMs Json.nat?
    memoryCeilingBytes :=
      ← Json.orElse? slots "memory_ceiling_bytes" base.memoryCeilingBytes Json.nat?
    maxPartitions := ← Json.orElse? slots "max_partitions" base.maxPartitions Json.nat?
    queryTimeoutMs := ← Json.orElse? slots "query_timeout_ms" base.queryTimeoutMs Json.nat?
    thresholds := ← Json.orElse? slots "thresholds" base.thresholds Thresholds.ofJson?
    reservedFields := ← Json.orElse? slots "reserved_fields" base.reservedFields Json.strings? }

/-- The JSON form of a configuration. -/
def toJson (c : Config) : Json :=
  .obj [("cache_ttl_secs", .ofNat c.cacheTtlSecs), ("cache_max_entries", .ofNat c.cacheMaxEntries),
    ("cache_max_bytes", .ofNat c.cacheMaxBytes),
    ("estimate_timeout_ms", .ofNat c.estimateTimeoutMs),
    ("fallback_estimate", .ofNat c.fallbackEstimate),
    ("stream_chunk_size", .ofNat c.streamChunkSize), ("slow_query_ms", .ofNat c.slowQueryMs),
    ("memory_ceiling_bytes", .ofNat c.memoryCeilingBytes),
    ("max_partitions", .ofNat c.maxPartitions), ("query_timeout_ms", .ofNat c.queryTimeoutMs),
    ("thresholds", .obj [("memory", .ofNat c.thresholds.memory),
      ("hybrid", .ofNat c.thresholds.hybrid), ("streaming", .ofNat c.thresholds.streaming)]),
    ("reserved_fields", .ofStrings c.reservedFields)]

/-- Refuse thresholds that do not increase strictly. -/
def validate (c : Config) : Except ConfigError Unit :=
  let t := c.thresholds
  if t.memory < t.hybrid ∧ t.hybrid < t.streaming then .ok ()
  else .error (.thresholds t.memory t.hybrid t.streaming)

/-- Read the text of a configuration and validate it. -/
def parse (text : String) : Except ConfigError Config := do
  match (Json.outline? text).bind ofJson? with
  | some c =>
    c.validate
    return c
  | none => .error .malformed

/-- The names of the variables that an environment may set. -/
def settingNames : List String :=
  ["CACHE_TTL_SECS", "CACHE_MAX_ENTRIES", "CACHE_MAX_MB", "ESTIMATE_TIMEOUT_MS",
    "FALLBACK_ESTIMATE", "STREAM_CHUNK_SIZE", "SLOW_QUERY_MS", "MEMORY_CEILING_MB",
    "MAX_PARTITIONS", "QUERY_TIMEOUT_MS", "RESERVED_FIELDS"]

/-- The configuration of an environment, given as the text of each variable. -/
def ofEnvironment (lookup : String → Option String) : Config :=
  let base : Config := {}
  let number (name : String) : Option Nat :=
    (lookup name).bind fun text => Text.word? (Text.trim text)
  -- the product is taken in 64 bits
  let megabytes (name : String) : Option Nat :=
    (number name).map fun n => n * (1024 * 1024) % 0x10000000000000000
  -- a zero counts as a variable that is not set
  let positive (name : String) : Option Nat := (number name).filter fun n => 0 < n
  { cacheTtlSecs := (number "CACHE_TTL_SECS").getD base.cacheTtlSecs
    cacheMaxEntries := (number "CACHE_MAX_ENTRIES").getD base.cacheMaxEntries
    cacheMaxBytes := (megabytes "CACHE_MAX_MB").getD base.cacheMaxBytes
    estimateTimeoutMs := (number "ESTIMATE_TIMEOUT_MS").getD base.estimateTimeoutMs
    fallbackEstimate := (number "FALLBACK_ESTIMATE").getD base.fallbackEstimate
    streamChunkSize := (positive "STREAM_CHUNK_SIZE").getD base.streamChunkSize
    slowQueryMs := (number "SLOW_QUERY_MS").getD base.slowQueryMs
    memoryCeilingBytes := (megabytes "MEMORY_CEILING_MB").getD base.memoryCeilingBytes
    maxPartitions := (positive "MAX_PARTITIONS").getD base.maxPartitions
    queryTimeoutMs := (number "QUERY_TIMEOUT_MS").getD base.queryTimeoutMs
    reservedFields :=
      match lookup "RESERVED_FIELDS" with
      | some text =>
        ((Text.cut ',' text.toList).map fun part => String.ofList (Text.trimChars part)).filter
          (· ≠ "")
      | none => base.reservedFields }

/-- How long a query may take, if there is a limit. -/
def queryTimeout? (c : Config) : Option Nat :=
  if 0 < c.queryTimeoutMs then some c.queryTimeoutMs else none

end Config

end DualQuery
