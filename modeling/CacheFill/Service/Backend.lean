import CacheFill.Bus.Memory
import CacheFill.Service.Run
import CacheFill.Time.Clock
import CacheFill.Worker.RunGuard

/-!
The backend of the service: the state that operations share, and what each access does to it.
-/

set_option autoImplicit false

namespace CacheFill

/-- A line of the log with the name of the thread that wrote it. -/
structure LogEntry where
  thread : String
  line : Log.Line
  deriving DecidableEq, Repr, Inhabited

structure Backend where
  now : Instant
  tasks : TaskStore
  values : ValueStore
  pointers : TaskIndex
  dispatches : Bus Dispatch
  notifications : Bus Notification
  /-- How many task identifiers were minted. -/
  minted : Nat
  /-- What makes the minted identifiers unlike those of other backends. -/
  seed : Nat
  /-- Lets one sweep in at a time. -/
  sweepGuard : RunGuard
  /-- The thread that operations run on. -/
  thread : String
  log : List LogEntry

namespace Backend

/-- The thread that operations run on unless a worker runs them. -/
def mainThread : String := "main"

/-- The backend before the first operation: nothing is stored and nothing published. -/
def start (now : Instant) (partitionCount : UInt32) (seed : Nat) : Backend :=
  { now
    tasks := .empty
    values := .empty
    pointers := .empty
    dispatches := .create partitionCount Bus.defaultRetention
    notifications := .create partitionCount Bus.defaultRetention
    minted := 0
    seed
    sweepGuard := .idle
    thread := mainThread
    log := [] }

instance : Inhabited Backend := ⟨start Instant.epoch 1 0⟩

def addLine (backend : Backend) (line : Log.Line) : Backend :=
  { backend with log := backend.log ++ [⟨backend.thread, line⟩] }

def addLines (backend : Backend) (lines : List Log.Line) : Backend := lines.foldl addLine backend

/-- Keeps a new content of the task store together with what its change gives. -/
def withTasks {α : Type} (backend : Backend) :
    Except StoreError (α × TaskStore) → Except StoreError α × Backend
  | .ok (value, tasks) => (.ok value, { backend with tasks })
  | .error error => (.error error, backend)

/-- What an access gives back and leaves behind. Stores, buses and clock never fail by themselves;
`load` says how a called loader answers. -/
def perform (load : LoadCall → LoaderAnswer) : Performer Backend
  | .readClock, backend => (backend.now, backend)
  | .insertTask record, backend => backend.withTasks (backend.tasks.insert record)
  | .readTask task, backend => (.ok (backend.tasks.get? task), backend)
  | .dueTasks now limit, backend => (.ok (backend.tasks.due now limit), backend)
  | .updateTask task expected status resume, backend =>
      backend.withTasks (backend.tasks.update task expected status resume)
  | .readValue slot, backend => (.ok (backend.values.get? slot), backend)
  | .saveValue slot value, backend =>
      let (stored, values) := backend.values.save slot value
      (.ok stored, { backend with values })
  | .removeValue slot, backend =>
      (.ok (), { backend with values := backend.values.remove slot })
  | .readPointer slot, backend => (.ok (backend.pointers.get? slot), backend)
  | .putPointer slot task, backend =>
      (.ok (), { backend with pointers := backend.pointers.put slot task })
  | .removePointer slot, backend =>
      (.ok (), { backend with pointers := backend.pointers.remove slot })
  | .publish topic message, backend =>
      (.ok (), { backend with
        dispatches := backend.dispatches.publish topic message.key message })
  | .announce topic notification, backend =>
      (.ok (), { backend with
        notifications := backend.notifications.publish topic notification.key notification })
  | .callLoader call, backend => (load call, backend)
  | .mint, backend =>
      (TaskId.minted backend.seed (backend.minted + 1),
        { backend with minted := backend.minted + 1 })
  | .log line, backend => ((), backend.addLine line)
  | .enterSweep, backend =>
      let (entered, sweepGuard) := backend.sweepGuard.enter
      (entered, { backend with sweepGuard })
  | .leaveSweep, backend => ((), { backend with sweepGuard := backend.sweepGuard.leave })

end Backend

end CacheFill
