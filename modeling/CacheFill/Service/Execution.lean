import CacheFill.Service.View
import CacheFill.Time.Text

/-!
Handling a dispatch: the task is executed if it still waits for exactly this attempt, and the result
is written if nothing else has changed the task meanwhile. A finished task is announced, and
announced again when the dispatch that finished it comes again.
-/

set_option autoImplicit false

namespace CacheFill

inductive SkipReason where
  | unknownTask
  | alreadyTerminal
  | staleAttempt
  | conflict
  deriving DecidableEq, Repr

/-- What handling a dispatch came to. -/
inductive Outcome where
  | loaded
  | retryScheduled (attempt : UInt32) (retryAt : Instant)
  | failed (attempt : UInt32) (kind : ErrorClass)
  | skipped (reason : SkipReason)
  deriving DecidableEq, Repr

/-- What a dispatch means for a task in some status. -/
inductive Admission where
  | execute (attempt : UInt32)
  /-- The task is finished, `here` if by the execution this dispatch asked for. -/
  | finished (here : Bool)
  | stale
  deriving DecidableEq, Repr

/-- A scheduled task is executed for a dispatch with its own attempt number; executions count
from 1. -/
def Status.admission (status : Status) (dispatched : UInt32) : Admission :=
  match status with
  | .scheduled current => if current.attempt = dispatched then .execute (max current.attempt 1)
      else .stale
  | .waiting _ => .stale
  | .failed current => .finished (current.attempt = max dispatched 1)
  | .loaded current => .finished (current.attempt = max dispatched 1)

/-- The fields that name a task in a log line. -/
def taskFields (type : LoadType) (key : String) (task : TaskId) : List (String × Log.Value) :=
  [("load_type", .text type.name), ("key", .text key), ("task_id", .text task.render)]

def Record.notification (record : Record) : Notification :=
  ⟨record.type, record.key, record.task, record.status⟩

namespace Service

open Program

/-- Announces the status of a record. -/
def announceRecord (service : Service) (record : Record) : Program Unit := do
  match ← (service.notify record.notification).attempt with
  | .ok () => return ()
  | .error failure =>
      log (Log.error "failed to publish load notification"
        [("task_id", .text record.task.render), ("error", .text failure.message)])
      .fail failure

/-- The text of a panic in a loader. -/
def panicMessage (payload : Option String) : String :=
  "loader panicked: " ++ payload.getD "unknown panic payload"

/-- Stores the value that a caching loader gave; failing to is a transient error of the loader. -/
def saveLoaded (call : LoadCall) (data : Json) : Program (Except LoaderError Unit) := do
  match ← ((View.json call.type).save call.key data).attempt with
  | .ok () => return .ok ()
  | .error failure => return .error (.transient ("saving loaded value: " ++ failure.message) none)

/-- Executes a task with the loader of its type. -/
def runLoader (service : Service) (call : LoadCall) : Program (Except LoaderError Unit) := do
  match service.loaders.get? call.type with
  | none => return .error (.permanent (Failure.unknownLoadType call.type).message)
  | some kind =>
      match ← callLoader call with
      | .finished => return .ok ()
      | .value data =>
          match kind with
          | .storing => return .ok ()
          | .caching => saveLoaded call data
      | .failed error => return .error error
      | .panicked payload => return .error (.transient (panicMessage payload) none)

/-- The status after a failed execution, with what is logged about it. A retry too late for the
calendar is given up. -/
def failureStatus (service : Service) (type : LoadType) (attempt : UInt32) (error : LoaderError)
    (now : Instant) : Status × List Log.Line :=
  match (service.policies.get type).decide attempt error.kind with
  | .retryAfter delay =>
      match now.add? delay with
      | some retryAt => (.waiting ⟨attempt, retryAt, ⟨error.kind, error.message⟩⟩, [])
      | none =>
          (.failed ⟨attempt, ⟨.retriesExhausted, error.message⟩, now⟩,
            [Log.warn "retry delay out of range; failing task"
              [("load_type", .text type.name), ("attempt", .number attempt.toNat),
                ("delay_ms", .number (delay.millis % UInt64.size))]])
  | .giveUp kind => (.failed ⟨attempt, ⟨kind, error.message⟩, now⟩, [])

def logAll : List Log.Line → Program Unit
  | [] => .done ()
  | line :: rest => do
      log line
      logAll rest

/-- The status and resume state after an execution. An error that leaves no resume state keeps the
one there was. -/
def result (service : Service) (record : Record) (attempt : UInt32)
    (ended : Except LoaderError Unit) (now : Instant) :
    (Status × List Log.Line) × Option Json :=
  match ended with
  | .ok () => ((.loaded ⟨now, attempt⟩, []), none)
  | .error error =>
      (service.failureStatus record.type attempt error now, error.resume?.or record.resume)

/-- What a written status comes to, with the log line that reports it. -/
def report (record : Record) (attempt : UInt32) : Outcome × List Log.Line :=
  let fields := taskFields record.type record.key record.task ++
    [("attempt", .number attempt.toNat)]
  match record.status with
  | .loaded _ => (.loaded, [Log.info "load finished" fields])
  | .waiting status =>
      (.retryScheduled attempt status.retryAt,
        [Log.info "load failed; retry scheduled"
          (fields ++ [("retry_at", .text status.retryAt.display),
            ("error", .text status.lastError.message)])])
  | .failed status =>
      (.failed attempt status.lastError.kind,
        [Log.warn "load failed"
          (fields ++ [("class", .text status.lastError.kind.name),
            ("error", .text status.lastError.message)])])
  | .scheduled _ => (.skipped .staleAttempt, [])

/-- Goes on after the result of an execution was written, or was not. -/
def afterWrite (service : Service) (record : Record) (attempt : UInt32) :
    Except Failure Record → Program Outcome
  | .ok updated => do
      let (outcome, lines) := report updated attempt
      logAll lines
      if updated.status.isTerminal then service.announceRecord updated
      return outcome
  | .error (.store (.conflict _ _ actual)) => do
      log (Log.info "task changed while loading; dropping result"
        [("task_id", .text record.task.render), ("expected", .number record.version.toNat),
          ("actual", .number actual.toNat)])
      return .skipped .conflict
  | .error failure => .fail failure

/-- Executes the task of a record and writes the result. -/
def execute (service : Service) (record : Record) (attempt : UInt32) : Program Outcome := do
  let ended ← service.runLoader ⟨record.task, record.type, record.key, attempt, record.resume⟩
  let now ← readClock
  let ((next, lines), resume) := service.result record attempt ended now
  logAll lines
  match record.status.checkTransition next with
  | .error error => .fail (.transition error)
  | .ok () =>
      let written ← (updateTask record.task (.exact record.version) next resume).attempt
      service.afterWrite record attempt written

/-- Handles one dispatch. -/
def handle (service : Service) (message : Dispatch) : Program Outcome := do
  match ← readTask message.task with
  | none =>
      log (Log.warn "dispatch for unknown task; dropping"
        (taskFields message.type message.key message.task))
      return .skipped .unknownTask
  | some record =>
      match record.status.admission message.attempt with
      | .execute attempt => service.execute record attempt
      | .finished here =>
          if here then service.announceRecord record
          return .skipped .alreadyTerminal
      | .stale => return .skipped .staleAttempt

end Service

end CacheFill
