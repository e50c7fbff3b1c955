import CacheFill.Service.Execution

/-!
Sweeping: tasks whose retry time has come are scheduled and dispatched again, or fail if they have
used up their attempts. One sweep runs at a time.
-/

set_option autoImplicit false

namespace CacheFill

/-- What became of a task in a sweep. -/
inductive Swept where
  | redispatched
  | failed
  deriving DecidableEq, Repr

structure SweepReport where
  scanned : Nat
  redispatched : Nat
  failed : Nat
  /-- Tasks that something else changed first. -/
  skipped : Nat
  errors : Nat
  deriving DecidableEq, Repr

namespace SweepReport

def ofScanned (scanned : Nat) : SweepReport := ⟨scanned, 0, 0, 0, 0⟩

/-- Counts what became of one task. -/
def count (report : SweepReport) : Except Failure Swept → SweepReport
  | .ok .redispatched => { report with redispatched := report.redispatched + 1 }
  | .ok .failed => { report with failed := report.failed + 1 }
  | .error failure =>
      if failure.isConflict then { report with skipped := report.skipped + 1 }
      else { report with errors := report.errors + 1 }

end SweepReport

namespace Service

open Program

/-- Fails a task that has used up its attempts. It is announced first, so that it stays due if that
fails. -/
def giveUp (service : Service) (record : Record) (waiting : Waiting) (now : Instant) :
    Program Swept := do
  let next : Status :=
    .failed ⟨waiting.attempt, ⟨.retriesExhausted, waiting.lastError.message⟩, now⟩
  match record.status.checkTransition next with
  | .error error => .fail (.transition error)
  | .ok () =>
      service.notify ⟨record.type, record.key, record.task, next⟩
      let _ ← updateTask record.task (.exact record.version) next record.resume
      return .failed

/-- Schedules the next attempt of a task and dispatches it. -/
def retry (service : Service) (record : Record) (waiting : Waiting) (now : Instant) :
    Program Swept := do
  -- The policy allows more attempts, so there is a number for the next one.
  let attempt := waiting.attempt + 1
  let next : Status := .scheduled ⟨now, attempt⟩
  match record.status.checkTransition next with
  | .error error => .fail (.transition error)
  | .ok () =>
      let _ ← updateTask record.task (.exact record.version) next record.resume
      service.dispatch ⟨record.type, record.key, record.task, attempt⟩
      return .redispatched

def sweepRecord (service : Service) (record : Record) : Program Swept := do
  match record.status with
  | .waiting waiting =>
      let now ← readClock
      if (service.policies.get record.type).maxAttempts ≤ waiting.attempt then
        service.giveUp record waiting now
      else service.retry record waiting now
  | status => .fail (.transition (.notWaiting status.state))

/-- Sweeps records one after the other; a failing one does not stop the others. -/
def sweepRecords (service : Service) (report : SweepReport) : List Record → Program SweepReport
  | [] => .done report
  | record :: rest => do
      let swept ← (service.sweepRecord record).attempt
      match swept with
      | .error failure =>
          if !failure.isConflict then
            log (Log.error "failed to schedule retry"
              [("task_id", .text record.task.render), ("error", .text failure.message)])
      | .ok _ => pure ()
      service.sweepRecords (report.count swept) rest

/-- Sweeps a batch of the tasks that are due now. -/
def sweep (service : Service) : Program SweepReport := do
  let now ← readClock
  let due ← dueTasks now service.batchSize
  let report := SweepReport.ofScanned due.length
  if due.isEmpty then return report
  log (Log.info "scheduling tasks to retry" [("count", .number due.length)])
  let report ← service.sweepRecords report due
  log (Log.info "finished scheduling tasks to retry"
    [("redispatched", .number report.redispatched), ("failed", .number report.failed),
      ("skipped", .number report.skipped), ("errors", .number report.errors)])
  return report

/-- Sweeps unless another sweep is running; none in that case. -/
def sweepOnce (service : Service) : Program (Option SweepReport) := do
  if ← enterSweep then
    let swept ← service.sweep.attempt
    leaveSweep
    match swept with
    | .ok report => return some report
    | .error failure => .fail failure
  else return none

end Service

end CacheFill
