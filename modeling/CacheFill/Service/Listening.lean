import CacheFill.Log
import CacheFill.Message

/-!
Listeners of notifications. A group listens to one load type; each notification goes to all its
listeners, whatever the others make of it.
-/

set_option autoImplicit false

namespace CacheFill

/-- What a listener makes of a notification: nothing, or the text of an error. -/
abbrev Listener := Notification → Option String

structure ListenerGroup where
  name : String
  type : LoadType
  listeners : List Listener

/-- A notification that a listener of a group was told; listeners count from 0. -/
structure Heard where
  group : String
  listener : Nat
  notification : Notification
  deriving DecidableEq

namespace ListenerGroup

/-- The log line about a listener that fails. -/
def failureLine (group : ListenerGroup) (notification : Notification) (error : String) :
    Log.Line :=
  Log.warn "load notification listener failed"
    [("group", .text group.name), ("task_id", .text notification.task.render),
      ("error", .text error)]

/-- Tells a notification to all listeners of a group: what they heard, and what is logged. -/
def deliver (group : ListenerGroup) (notification : Notification) : List Heard × List Log.Line :=
  (group.listeners.zipIdx.map fun (_, number) => ⟨group.name, number, notification⟩,
    Log.info "received load notification"
        [("group", .text group.name), ("load_type", .text notification.type.name),
          ("key", .text notification.key), ("task_id", .text notification.task.render)] ::
      group.listeners.filterMap fun listener =>
        (listener notification).map (group.failureLine notification))

end ListenerGroup

end CacheFill
