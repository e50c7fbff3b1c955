import CacheFill.Config.Basic

/-!
The JSON forms of retry policies and of the service's settings. Missing settings take their
defaults.
-/

set_option autoImplicit false

namespace CacheFill

namespace Backoff

def toJson (backoff : Backoff) : Json := .string backoff.name

def ofJson? (value : Json) : Option Backoff :=
  (value.word? false).bind fun word => all.find? fun backoff => backoff.name = word

end Backoff

namespace RetryPolicy

def ofJson? (value : Json) : Option RetryPolicy := do
  let fields ← value.fields? ["max_attempts", "base_delay", "max_delay", "strategy", "jitter"]
  return { maxAttempts := ← fields.required Json.uint32? "max_attempts"
           baseDelay := ← fields.required Duration.ofJson? "base_delay"
           maxDelay := ← fields.required Duration.ofJson? "max_delay"
           backoff := ← fields.required Backoff.ofJson? "strategy"
           jitter := ← fields.required Json.double? "jitter" }

/-- The members of the JSON form; the jitter is written as the caller says. -/
def members (policy : RetryPolicy) (jitter : Binary64 → Json) : List (String × Json) :=
  [("max_attempts", .nat policy.maxAttempts.toNat), ("base_delay", policy.baseDelay.toJson),
    ("max_delay", policy.maxDelay.toJson), ("strategy", policy.backoff.toJson),
    ("jitter", jitter policy.jitter)]

end RetryPolicy

namespace RetryOverride

def toJson (override : RetryOverride) : Json :=
  .object [("max_attempts", (override.maxAttempts.map fun n => .nat n.toNat).getD .null),
    ("backoff_base", (override.backoffBase.map Duration.toJson).getD .null),
    ("backoff_max", (override.backoffMax.map Duration.toJson).getD .null)]

def ofJson? (value : Json) : Option RetryOverride := do
  let fields ← value.fields? ["max_attempts", "backoff_base", "backoff_max"]
  return { maxAttempts := ← fields.optional Json.uint32? "max_attempts"
           backoffBase := ← fields.optional Duration.ofJson? "backoff_base"
           backoffMax := ← fields.optional Duration.ofJson? "backoff_max" }

/-- The settings of single load types: an object from load types to settings. -/
def tableOfJson? : Json → Option (Table LoadType RetryOverride)
  | .object members =>
      (members.mapM fun (name, value) => do
        return (← LoadType.ofJson? (.string name), ← ofJson? value)).map Table.ofList
  | _ => none

end RetryOverride

namespace Config

def fieldNames : List String :=
  ["max_attempts", "backoff_base", "backoff_max", "backoff_jitter", "sweep_interval",
    "sweep_batch_size", "partition_count", "topic_prefix", "enable_workers",
    "enable_notifications", "enable_retry_sweeper", "retry_overrides"]

def ofJson? (value : Json) : Option Config := do
  let fields ← value.leadingFields? fieldNames
  let d := standard
  return { maxAttempts := ← fields.default Json.uint32? "max_attempts" d.maxAttempts
           backoffBase := ← fields.default Duration.ofJson? "backoff_base" d.backoffBase
           backoffMax := ← fields.default Duration.ofJson? "backoff_max" d.backoffMax
           backoffJitter := ← fields.default Json.double? "backoff_jitter" d.backoffJitter
           sweepInterval := ← fields.default Duration.ofJson? "sweep_interval" d.sweepInterval
           sweepBatchSize :=
             ← fields.default Json.natural? "sweep_batch_size" d.sweepBatchSize
           partitionCount := ← fields.default Json.uint32? "partition_count" d.partitionCount
           topicNamespace := ← fields.default Json.string? "topic_prefix" d.topicNamespace
           enableWorkers := ← fields.default Json.bool? "enable_workers" d.enableWorkers
           enableNotifications :=
             ← fields.default Json.bool? "enable_notifications" d.enableNotifications
           enableRetrySweeper :=
             ← fields.default Json.bool? "enable_retry_sweeper" d.enableRetrySweeper
           retryOverrides :=
             ← fields.default RetryOverride.tableOfJson? "retry_overrides" d.retryOverrides }

/-- The members of the JSON form; the jitter is written as the caller says. -/
def members (config : Config) (jitter : Binary64 → Json) : List (String × Json) :=
  [("max_attempts", .nat config.maxAttempts.toNat), ("backoff_base", config.backoffBase.toJson),
    ("backoff_max", config.backoffMax.toJson), ("backoff_jitter", jitter config.backoffJitter),
    ("sweep_interval", config.sweepInterval.toJson),
    ("sweep_batch_size", .nat config.sweepBatchSize),
    ("partition_count", .nat config.partitionCount.toNat),
    ("topic_prefix", .string config.topicNamespace), ("enable_workers", .bool config.enableWorkers),
    ("enable_notifications", .bool config.enableNotifications),
    ("enable_retry_sweeper", .bool config.enableRetrySweeper),
    ("retry_overrides", .object (config.retryOverrides.entries.map fun (type, override) =>
      (type.name, override.toJson)))]

end Config

end CacheFill
