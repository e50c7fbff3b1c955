import CacheFill.Rehearsal.Stage
import CacheFill.Service.Launch

/-!
A rehearsal: the service on a stage together with the subscriptions of its workers and listeners.
Messages move only when told to, one after the other.
-/

set_option autoImplicit false

namespace CacheFill

structure Rehearsal where
  stage : Stage
  /-- The subscriptions of the workers to dispatches. -/
  workers : List Nat
  /-- The subscriptions of an observer to notifications. -/
  observers : List Nat
  /-- The groups of listeners with their subscriptions. -/
  groups : List (ListenerGroup × List Nat)
  /-- Dispatches waiting to be handled. -/
  queue : List Dispatch
  /-- Dispatches that were taken from the queue and handled. -/
  history : List Dispatch

/-- A dispatch that was handled, what that came to, and the calls of loaders on the way. -/
structure Handled where
  message : Dispatch
  outcome : Except Failure Outcome
  calls : List LoadCall

namespace Bus

variable {M : Type}

/-- Subscribes a group to all partitions of a topic; gives the numbers of the subscriptions. -/
def subscribeAll (bus : Bus M) (topic group : String) : List Nat × Bus M :=
  bus.partitionNumbers.foldl
    (fun (numbers, bus) partition =>
      match bus.subscribe topic group partition with
      | .ok (number, bus) => (numbers ++ [number], bus)
      | .error _ => (numbers, bus))
    ([], bus)

/-- Takes everything that waits for some subscriptions, one after the other. -/
def drainAll (bus : Bus M) (subscriptions : List Nat) : List M × Bus M :=
  subscriptions.foldl
    (fun (messages, bus) subscription =>
      let (more, bus) := bus.drain subscription
      (messages ++ more, bus))
    ([], bus)

end Bus

namespace Rehearsal

/-- The group that the observer subscribes in. -/
def observerGroup : String := "probe"

def withBackend (rehearsal : Rehearsal) (backend : Backend) : Rehearsal :=
  { rehearsal with stage := { rehearsal.stage with backend } }

def backend (rehearsal : Rehearsal) : Backend := rehearsal.stage.backend

/-- Subscribes the workers and the observer to the topics of a load type. -/
def subscribeType (rehearsal : Rehearsal) (type : LoadType) : Rehearsal :=
  let topics := rehearsal.stage.service.topics
  let backend := rehearsal.backend
  let (workers, dispatches) := backend.dispatches.subscribeAll (topics.dispatch type) executionGroup
  let (observers, notifications) :=
    backend.notifications.subscribeAll (topics.notifications type) observerGroup
  { rehearsal.withBackend { backend with dispatches, notifications } with
    workers := rehearsal.workers ++ workers
    observers := rehearsal.observers ++ observers }

/-- Subscribes a group of listeners to the notifications of its load type. -/
def subscribeGroup (rehearsal : Rehearsal) (group : ListenerGroup) : Rehearsal :=
  let topic := rehearsal.stage.service.topics.notifications group.type
  let (numbers, notifications) :=
    rehearsal.backend.notifications.subscribeAll topic group.name
  { rehearsal.withBackend { rehearsal.backend with notifications } with
    groups := rehearsal.groups ++ [(group, numbers)] }

/-- A rehearsal on a stage: workers and observer for some load types, then groups of listeners. -/
def create (stage : Stage) (types : List LoadType) (groups : List ListenerGroup) : Rehearsal :=
  groups.foldl subscribeGroup
    (types.foldl subscribeType
      { stage, workers := [], observers := [], groups := [], queue := [], history := [] })

/-- Runs a program on the stage. -/
def run {α : Type} (rehearsal : Rehearsal) (program : Program α) : Except Failure α × Rehearsal :=
  let (result, stage) := rehearsal.stage.run program
  (result, { rehearsal with stage })

/-- Moves everything delivered to the workers to the end of the queue. -/
def collect (rehearsal : Rehearsal) : Rehearsal :=
  let (messages, dispatches) := rehearsal.backend.dispatches.drainAll rehearsal.workers
  { rehearsal.withBackend { rehearsal.backend with dispatches } with
    queue := rehearsal.queue ++ messages }

def discard (rehearsal : Rehearsal) : List Dispatch × Rehearsal :=
  let rehearsal := rehearsal.collect
  (rehearsal.queue, { rehearsal with queue := [] })

/-- Handles one dispatch. -/
def handle (rehearsal : Rehearsal) (message : Dispatch) : Handled × Rehearsal :=
  let (_, stage) := rehearsal.stage.takeCalls
  let (outcome, stage) := stage.run (stage.service.handle message)
  let (calls, stage) := stage.takeCalls
  (⟨message, outcome, calls⟩, { rehearsal with stage })

def handleAll : List Dispatch → Rehearsal → List Handled × Rehearsal
  | [], rehearsal => ([], rehearsal)
  | message :: rest, rehearsal =>
      let (handled, rehearsal) := rehearsal.handle message
      let (more, rehearsal) := handleAll rest rehearsal
      (handled :: more, rehearsal)

/-- Handles the first dispatches of the queue, all of them if no limit is given; the queue may be
turned around before. -/
def pump (rehearsal : Rehearsal) (limit : Option Nat) (backwards : Bool) :
    List Handled × Rehearsal :=
  let rehearsal := rehearsal.collect
  let queue := if backwards then rehearsal.queue.reverse else rehearsal.queue
  let count := limit.getD queue.length
  let taken := queue.take count
  handleAll taken { rehearsal with
    queue := queue.drop count
    history := rehearsal.history ++ taken }

/-- The notifications that the observer got since it last looked. -/
def observe (rehearsal : Rehearsal) : List Notification × Rehearsal :=
  let (seen, notifications) := rehearsal.backend.notifications.drainAll rehearsal.observers
  (seen, rehearsal.withBackend { rehearsal.backend with notifications })

/-- Tells a group of listeners everything that waits for it. -/
def deliverTo (backend : Backend) (group : ListenerGroup) (subscriptions : List Nat) :
    List Heard × Backend :=
  let (waiting, notifications) := backend.notifications.drainAll subscriptions
  waiting.foldl
    (fun (heard, backend) notification =>
      let (more, lines) := group.deliver notification
      (heard ++ more, backend.addLines lines))
    ([], { backend with notifications })

/-- Tells all groups of listeners, one after the other, everything that waits for them. -/
def deliver (rehearsal : Rehearsal) : List Heard × Rehearsal :=
  let (heard, backend) := rehearsal.groups.foldl
    (fun (heard, backend) (group, subscriptions) =>
      let (more, backend) := deliverTo backend group subscriptions
      (heard ++ more, backend))
    ([], rehearsal.backend)
  (heard, rehearsal.withBackend backend)

end Rehearsal

end CacheFill
