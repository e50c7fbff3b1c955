import CacheFill.Binary64.Decimal
import CacheFill.Config.Basic
import CacheFill.Log
import CacheFill.Text.Blank

/-!
Settings from environment variables. A variable that is missing or unreadable leaves its setting at
the default; an unreadable one is logged.
-/

set_option autoImplicit false

namespace CacheFill.Environment

/-- The values of the variables. -/
abbrev Variables := String → Option String

/-- A setting together with what reading it logged. -/
structure Reading (α : Type) where
  value : α
  log : List Log.Line

/-- Reads a variable without the blanks around its value. -/
def setting {α : Type} (lookup : Variables) (name : String) (read : List Char → Option α)
    (default : α) (shown : String) : Reading α :=
  match lookup name with
  | none => ⟨default, []⟩
  | some raw =>
      match read (Text.trim raw.toList) with
      | some value => ⟨value, []⟩
      | none =>
          ⟨default, [Log.warn "invalid value; using default"
            [("variable", .text name), ("value", .text raw), ("default", .text shown)]]⟩

def number32 (lookup : Variables) (name : String) (default : UInt32) : Reading UInt32 :=
  setting lookup name (fun text => (Digits.below? UInt32.size text).map UInt32.ofNat) default
    (toString default.toNat)

def number (lookup : Variables) (name : String) (default : Nat) : Reading Nat :=
  setting lookup name (Digits.below? UInt64.size) default (toString default)

def millis (lookup : Variables) (name : String) (default : Duration) : Reading Duration :=
  let reading := number lookup name default.millis
  ⟨.ofMillis reading.value, reading.log⟩

def flagOf? (word : String) : Option Bool :=
  if word = "1" ∨ word = "true" ∨ word = "TRUE" ∨ word = "yes" then some true
  else if word = "0" ∨ word = "false" ∨ word = "FALSE" ∨ word = "no" then some false
  else none

def flag (lookup : Variables) (name : String) (default : Bool) : Reading Bool :=
  match lookup name with
  | none => ⟨default, []⟩
  | some raw =>
      let word := String.ofList (Text.trim raw.toList)
      match flagOf? word with
      | some value => ⟨value, []⟩
      | none =>
          ⟨default, [Log.warn "invalid flag; using default"
            [("variable", .text name), ("value", .text word), ("default", .flag default)]]⟩

end CacheFill.Environment

namespace CacheFill.Config

/-- The settings that the variables give. The topic namespace is taken as it is, blanks included;
settings for single load types cannot be given. -/
def ofEnvironment (lookup : Environment.Variables) : Environment.Reading Config :=
  let d := standard
  let maxAttempts := Environment.number32 lookup "LOADER_MAX_ATTEMPTS" d.maxAttempts
  let backoffBase := Environment.millis lookup "LOADER_BACKOFF_BASE_MS" d.backoffBase
  let backoffMax := Environment.millis lookup "LOADER_BACKOFF_MAX_MS" d.backoffMax
  let jitter := Environment.setting lookup "LOADER_BACKOFF_JITTER" Binary64.parse?
    d.backoffJitter "0.0"
  let sweepInterval := Environment.millis lookup "LOADER_SWEEP_INTERVAL_MS" d.sweepInterval
  let batchSize := Environment.number lookup "LOADER_SWEEP_BATCH_SIZE" d.sweepBatchSize
  let partitions := Environment.number32 lookup "LOADER_PARTITION_COUNT" d.partitionCount
  let workers := Environment.flag lookup "LOADER_ENABLE_WORKERS" d.enableWorkers
  let notifications := Environment.flag lookup "LOADER_ENABLE_NOTIFICATIONS"
    d.enableNotifications
  let sweeper := Environment.flag lookup "LOADER_ENABLE_RETRY" d.enableRetrySweeper
  { value :=
      { maxAttempts := maxAttempts.value
        backoffBase := backoffBase.value
        backoffMax := backoffMax.value
        backoffJitter := jitter.value
        sweepInterval := sweepInterval.value
        sweepBatchSize := batchSize.value
        partitionCount := partitions.value
        topicNamespace := (lookup "LOADER_TOPIC_PREFIX").getD d.topicNamespace
        enableWorkers := workers.value
        enableNotifications := notifications.value
        enableRetrySweeper := sweeper.value
        retryOverrides := d.retryOverrides }
    log := maxAttempts.log ++ backoffBase.log ++ backoffMax.log ++ jitter.log ++
      sweepInterval.log ++ batchSize.log ++ partitions.log ++ workers.log ++ notifications.log ++
      sweeper.log }

end CacheFill.Config
