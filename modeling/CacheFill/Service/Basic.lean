import CacheFill.Bus.Topics
import CacheFill.Retry.Policies
import CacheFill.Service.Program

/-!
A service: the settings that all its operations go by, and the two operations that put messages on
the buses.
-/

set_option autoImplicit false

namespace CacheFill

structure Service where
  topics : Topics
  policies : RetryPolicies
  /-- The registered loaders; one per load type. -/
  loaders : Table LoadType LoaderKind
  /-- How many due tasks one sweep takes up. -/
  batchSize : Nat

namespace Service

open Program

instance : Inhabited Service := ⟨⟨.plain, default, .empty, Config.standard.sweepBatchSize⟩⟩

/-- Publishes a dispatch to the topic of its load type. -/
def dispatch (service : Service) (message : Dispatch) : Program Unit := do
  let topic := service.topics.dispatch message.type
  match ← (publish topic message).attempt with
  | .ok () => return ()
  | .error failure =>
      let reason := match failure with
        | .publish reason => reason
        | other => other.message
      log (Log.error "failed to publish dispatch message"
        [("topic", .text topic), ("task_id", .text message.task.render),
          ("attempt", .number message.attempt.toNat), ("error", .text reason)])
      .fail failure

/-- Publishes a notification to the topic of its load type. -/
def notify (service : Service) (notification : Notification) : Program Unit :=
  announce (service.topics.notifications notification.type) notification

/-- Creates a task and dispatches its first attempt. -/
def schedule (service : Service) (type : LoadType) (key : String) (task : TaskId) :
    Program Unit := do
  let now ← readClock
  let _ ← insertTask
    { task, type, key, status := .initial now, version := 0, resume := none }
  service.dispatch ⟨type, key, task, 0⟩

/-- The current status of a task. -/
def status (task : TaskId) : Program (Option Status) := do
  return (← readTask task).map (·.status)

end Service

end CacheFill
