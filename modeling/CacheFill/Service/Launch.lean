import CacheFill.Service.Basic
import CacheFill.Service.Listening
import CacheFill.Service.Backend
import CacheFill.Text.Quoted
import CacheFill.Worker.Consumer
import CacheFill.Worker.Periodic

/-!
Launching the workers of a service: consumers of dispatches for each load type and partition, the
sweeper, and consumers of notifications for each group of listeners and partition. A bus may refuse
a subscription, which ends the launch; the workers launched by then are asked to stop, except those
of the load type or group that was refused: nobody knows of them.
-/

set_option autoImplicit false

namespace CacheFill

inductive Duty where
  | execute (type : LoadType) (partition : UInt32)
  | sweep
  | listen (group : ListenerGroup) (partition : UInt32)

namespace Duty

/-- The name of the worker, which is also the name of its thread. -/
def name : Duty → String
  | .execute type partition => "load-worker-" ++ type.name ++ "-" ++ toString partition.toNat
  | .sweep => "retry-sweeper"
  | .listen group partition => group.name ++ "-" ++ toString partition.toNat

end Duty

structure Worker where
  duty : Duty
  /-- The subscription that it consumes; a sweeper has none. -/
  subscription : Option Nat
  stopRequested : Bool

def Worker.requestStop (worker : Worker) : Worker := { worker with stopRequested := true }

/-- Why a bus refuses a group the subscription to a partition of a topic, if it does. It may refuse
one call and accept the next: the number of workers launched before tells the calls apart. -/
abbrev Refusal := (launched : Nat) → (topic group : String) → (partition : UInt32) → Option String

/-- The bus that refuses nothing. -/
def Refusal.none : Refusal := fun _ _ _ _ => Option.none

/-- A part of a service that is launched as a whole. -/
inductive Component where
  | execution (type : LoadType)
  | sweeping
  | listening (group : ListenerGroup)

/-- The group of all consumers of dispatches. -/
def executionGroup : String := "load-workers"

namespace Component

/-- The components that the settings enable, in the order of their launch. -/
def enabled (config : Config) (types : List LoadType) (groups : List ListenerGroup) :
    List Component :=
  (if config.enableWorkers then types.map execution else []) ++
    (if config.enableRetrySweeper then [sweeping] else []) ++
    (if config.enableNotifications then groups.map listening else [])

end Component

/-- A launch that is going on. -/
structure Launch where
  dispatches : Bus Dispatch
  notifications : Bus Notification
  /-- The workers of the components that were launched. -/
  held : List Worker
  /-- The workers of the component that was refused a subscription. -/
  abandoned : List Worker
  failure : Option Failure

namespace Launch

/-- Subscribes to some partitions of a topic, with one consumer for each, up to the first refusal:
the consumers, the failure, and the bus. -/
def subscribe {M : Type} (topic group : String) (refusal : Refusal) (duty : UInt32 → Duty)
    (launched : Nat) : List UInt32 → Bus M → List Worker × Option Failure × Bus M
  | [], bus => ([], none, bus)
  | partition :: rest, bus =>
      match refusal launched topic group partition with
      | some reason => ([], some (.publish reason), bus)
      | none =>
          match bus.subscribe topic group partition with
          | .error error => ([], some (.publish error.message), bus)
          | .ok (number, bus) =>
              let (workers, failure, bus) :=
                subscribe topic group refusal duty (launched + 1) rest bus
              (⟨duty partition, some number, false⟩ :: workers, failure, bus)

/-- Takes over the workers of a component, or leaves them if one of them is missing. -/
def take (launch : Launch) (workers : List Worker) (failure : Option Failure) : Launch :=
  match failure with
  | none => { launch with held := launch.held ++ workers }
  | some failure => { launch with abandoned := workers, failure := some failure }

variable (topics : Topics) (onDispatches onNotifications : Refusal)

/-- Launches a component unless the launch has failed. -/
def add (launch : Launch) (component : Component) : Launch :=
  if launch.failure.isSome then launch
  else
    match component with
    | .execution type =>
        let (workers, failure, dispatches) := subscribe (topics.dispatch type) executionGroup
          onDispatches (.execute type) launch.held.length launch.dispatches.partitionNumbers
          launch.dispatches
        { launch with dispatches }.take workers failure
    | .sweeping => launch.take [⟨.sweep, none, false⟩] none
    | .listening group =>
        let (workers, failure, notifications) := subscribe (topics.notifications group.type)
          group.name onNotifications (.listen group) launch.held.length
          launch.notifications.partitionNumbers launch.notifications
        { launch with notifications }.take workers failure

/-- Asks the workers that are known to stop if the launch has failed. -/
def finish (launch : Launch) : Launch :=
  if launch.failure.isSome then { launch with held := launch.held.map Worker.requestStop }
  else launch

/-- Launches components one after the other. -/
def run (components : List Component) (dispatches : Bus Dispatch)
    (notifications : Bus Notification) : Launch :=
  (components.foldl (add topics onDispatches onNotifications)
    ⟨dispatches, notifications, [], [], none⟩).finish

/-- All workers that were launched. -/
def workers (launch : Launch) : List Worker := launch.held ++ launch.abandoned

end Launch

namespace Config

/-- The service with these settings. -/
def service (config : Config) (loaders : Table LoadType LoaderKind) : Service :=
  ⟨⟨config.topicNamespace⟩, config.retryPolicies, loaders, config.sweepBatchSize⟩

/-- The line that a worker logs when it starts. -/
def startLine (config : Config) (worker : Worker) : Log.Line :=
  match worker.duty with
  | .sweep => Periodic.startLine worker.duty.name config.sweepInterval
  | _ => Consumer.startLine worker.duty.name

/-- The line that a worker logs when it ends. -/
def stopLine (worker : Worker) : Log.Line :=
  match worker.duty with
  | .sweep => Periodic.stopLine worker.duty.name
  | _ => Consumer.stopLine worker.duty.name

/-- A list of load types as text. -/
def listText (types : List LoadType) : String :=
  "[" ++ ", ".intercalate (types.map fun type => Text.quote type.name) ++ "]"

/-- Launches the workers of the service with these settings: the launch, and the backend then. No
worker is launched with settings that are not accepted. A launch that fails waits for the workers
that were asked to stop. -/
def launch (config : Config) (types : List LoadType) (groups : List ListenerGroup)
    (onDispatches onNotifications : Refusal) (backend : Backend) :
    Except Failure Launch × Backend :=
  match config.validate with
  | .error error => (.error (.config error), backend)
  | .ok () =>
      let launch := Launch.run ⟨config.topicNamespace⟩ onDispatches onNotifications
        (Component.enabled config types groups) backend.dispatches backend.notifications
      let started := launch.workers.map fun worker =>
        (⟨worker.duty.name, config.startLine worker⟩ : LogEntry)
      let stopped := (launch.workers.filter Worker.stopRequested).map fun worker =>
        (⟨worker.duty.name, stopLine worker⟩ : LogEntry)
      let backend := { backend with
        dispatches := launch.dispatches
        notifications := launch.notifications
        log := backend.log ++ started }
      match launch.failure with
      | some _ => (.ok launch, { backend with log := backend.log ++ stopped })
      | none =>
          (.ok launch, backend.addLine
            (Log.info "loader runtime started"
              [("workers", .number launch.held.length), ("load_types", .text (listText types)),
                ("listener_groups", .number groups.length)]))

end Config

end CacheFill
