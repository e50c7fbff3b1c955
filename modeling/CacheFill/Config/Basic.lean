import CacheFill.LoadType
import CacheFill.Retry.Policy
import CacheFill.Table

/-!
The settings of the service, their defaults, and which settings are accepted.
-/

set_option autoImplicit false

namespace CacheFill

/-- Settings for one load type; what is absent comes from the general settings. -/
structure RetryOverride where
  maxAttempts : Option UInt32
  backoffBase : Option Duration
  backoffMax : Option Duration
  deriving DecidableEq, Repr, Inhabited

structure Config where
  /-- Executions allowed before a task fails. -/
  maxAttempts : UInt32
  /-- The delay before the first retry. -/
  backoffBase : Duration
  backoffMax : Duration
  backoffJitter : Binary64
  /-- The time between two sweeps for due retries. -/
  sweepInterval : Duration
  /-- How many due tasks one sweep takes up. -/
  sweepBatchSize : Nat
  /-- Partitions per topic; each has a consumer of its own. -/
  partitionCount : UInt32
  /-- A name in front of all topic names. -/
  topicNamespace : String
  enableWorkers : Bool
  enableNotifications : Bool
  enableRetrySweeper : Bool
  retryOverrides : Table LoadType RetryOverride

inductive ConfigError where
  | maxAttempts
  | partitionCount
  | sweepInterval
  | sweepBatchSize
  | backoffOrder
  | backoffLimit
  | overrideAttempts (type : LoadType)
  | overrideBackoff (type : LoadType)
  deriving DecidableEq

namespace Config

/-- The longest accepted retry delay: 30 days. -/
def backoffLimit : Duration := .ofSeconds (30 * 24 * 60 * 60)

def standard : Config :=
  { maxAttempts := 5
    backoffBase := .ofSeconds 1
    backoffMax := .ofSeconds 300
    backoffJitter := .zero
    sweepInterval := .ofMillis 30000
    sweepBatchSize := 100
    partitionCount := 4
    topicNamespace := ""
    enableWorkers := true
    enableNotifications := true
    enableRetrySweeper := true
    retryOverrides := .empty }

instance : Inhabited Config := ⟨standard⟩

end Config

def ConfigError.message (error : ConfigError) : String :=
  let limit := toString Config.backoffLimit.seconds ++ "s"
  match error with
  | .maxAttempts => "max_attempts must be at least 1"
  | .partitionCount => "partition_count must be at least 1"
  | .sweepInterval => "sweep_interval must be positive"
  | .sweepBatchSize => "sweep_batch_size must be at least 1"
  | .backoffOrder => "backoff_base must not exceed backoff_max"
  | .backoffLimit => "backoff_max must not exceed " ++ limit
  | .overrideAttempts type =>
      "retry override for " ++ type.name ++ ": max_attempts must be at least 1"
  | .overrideBackoff type =>
      "retry override for " ++ type.name ++ ": backoff must not exceed " ++ limit

namespace RetryOverride

/-- The first fault of the settings for one load type. -/
def fault? (type : LoadType) (override : RetryOverride) : Option ConfigError :=
  if override.maxAttempts = some 0 then some (.overrideAttempts type)
  else if (override.backoffBase.toList ++ override.backoffMax.toList).any
      fun delay => Config.backoffLimit < delay then
    some (.overrideBackoff type)
  else none

end RetryOverride

namespace Config

/-- Accepts settings or names their first fault. -/
def validate (config : Config) : Except ConfigError Unit :=
  if config.maxAttempts = 0 then .error .maxAttempts
  else if config.partitionCount = 0 then .error .partitionCount
  else if config.sweepInterval.isZero then .error .sweepInterval
  else if config.sweepBatchSize = 0 then .error .sweepBatchSize
  else if config.backoffMax < config.backoffBase then .error .backoffOrder
  else if backoffLimit < config.backoffMax then .error .backoffLimit
  else
    match config.retryOverrides.entries.findSome? fun (type, override) =>
        override.fault? type with
    | some fault => .error fault
    | none => .ok ()

end Config

end CacheFill
