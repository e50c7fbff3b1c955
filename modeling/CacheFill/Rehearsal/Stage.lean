import CacheFill.Rehearsal.Port
import CacheFill.Rehearsal.Script
import CacheFill.Service.Sweep
import CacheFill.Service.Backend

/-!
A stage: a backend with scripted loaders and planned outages. An access first passes its port, then
whatever is planned to happen just before it, and then reaches the backend.
-/

set_option autoImplicit false

namespace CacheFill

structure Stage where
  backend : Backend
  service : Service
  scripts : Table LoadType Script
  /-- The calls of loaders that were not yet looked at. -/
  calls : List LoadCall
  /-- How many more uses of a port fail. -/
  outages : Table Port Nat
  /-- How many more updates of a task come too late, because its record is written just before. -/
  races : Nat
  /-- How many more listings of due tasks start a sweep of their own. -/
  nestings : Nat
  /-- What the sweeps started by listings came to; none where another sweep was running. -/
  nested : List (Option SweepReport)
  /-- The state that the next listing of due tasks looks for instead. -/
  listed : Option TaskState

namespace Stage

/-- How many more uses of a port fail. -/
def outage (stage : Stage) (port : Port) : Nat := (stage.outages.get? port).getD 0

def setOutage (stage : Stage) (port : Port) (count : Nat) : Stage :=
  { stage with outages := stage.outages.insert port count }

/-- Writes the record of a task as it is. -/
def touch (backend : Backend) (task : TaskId) : Backend :=
  match backend.tasks.get? task with
  | none => backend
  | some record =>
      (backend.withTasks (backend.tasks.update task .any record.status record.resume)).2

/-- The performer of a backend in which no loader is called. -/
def unloaded : Performer Backend := Backend.perform fun _ => .finished

/-- Lets the backend answer. -/
def direct (access : Access) (stage : Stage) : access.Answer × Stage :=
  let (answer, backend) := unloaded access stage.backend
  (answer, { stage with backend })

/-- Sweeps from within a listing of due tasks, if that is planned. -/
def nest (stage : Stage) : Stage :=
  match stage.nestings with
  | 0 => stage
  | rest + 1 =>
      let (swept, backend) := stage.service.sweepOnce.run unloaded stage.backend
      { stage with backend, nestings := rest, nested := stage.nested ++ [swept.toOption.join] }

/-- Writes the record of a task before its update, if that is planned. -/
def race (stage : Stage) (task : TaskId) : Stage :=
  match stage.races with
  | 0 => stage
  | rest + 1 => { stage with backend := touch stage.backend task, races := rest }

/-- Answers an access that has passed its port. -/
def answer (load : LoadCall → Stage → LoaderAnswer × Stage) : Performer Stage
  | .callLoader call, stage => load call stage
  | .updateTask task expected status resume, stage =>
      direct (.updateTask task expected status resume) (stage.race task)
  | .dueTasks now limit, stage =>
      let stage := stage.nest
      match stage.listed with
      | some state =>
          (.ok (stage.backend.tasks.inState state limit), { stage with listed := none })
      | none => direct (.dueTasks now limit) stage
  | access, stage => direct access stage

/-- Answers an access; a port that is out answers in place of the backend. -/
def performWith (load : LoadCall → Stage → LoaderAnswer × Stage) : Performer Stage :=
  fun access stage =>
    match access.port? with
    | some (port, out) =>
        match stage.outage port with
        | 0 => answer load access stage
        | rest + 1 => (out, stage.setOutage port rest)
    | none => answer load access stage

/-- Runs a program in which no loader is called. -/
def runUnloaded {α : Type} (stage : Stage) (program : Program α) : Except Failure α × Stage :=
  program.run (performWith fun _ stage => (.finished, stage)) stage

/-- Does what a scripted loader does before it answers; what fails is passed over. -/
def prepare (call : LoadCall) (stage : Stage) : Preparation → Stage
  | .advanceClock duration =>
      { stage with backend := { stage.backend with
        now := Clock.advance stage.backend.now duration } }
  | .setClock instant => { stage with backend := { stage.backend with now := instant } }
  | .save data => (stage.runUnloaded ((View.json call.type).save call.key data)).2
  | .remove => (stage.runUnloaded ((View.json call.type).remove call.key)).2
  | .touch => { stage with backend := touch stage.backend call.task }
  | .overwrite status =>
      let updated := stage.backend.tasks.update call.task .any status none
      { stage with backend := (stage.backend.withTasks updated).2 }

/-- Ends a call of a loader that stores its values itself: it stores the value that it answers
with. -/
def store (call : LoadCall) (stage : Stage) : LoaderAnswer → LoaderAnswer × Stage
  | .value data =>
      match stage.runUnloaded ((View.json call.type).save call.key data) with
      | (.ok (), stage) => (.finished, stage)
      | (.error failure, stage) => (.failed (.transient failure.message none), stage)
  | ending => (ending, stage)

/-- Calls a scripted loader. A caching loader that finishes without a value gives null. -/
def callScript (call : LoadCall) (stage : Stage) : LoaderAnswer × Stage :=
  match stage.scripts.get? call.type with
  | none => (.finished, stage)
  | some script =>
      let step := script.step call
      let stage := { stage with
        calls := stage.calls ++ [call]
        scripts := stage.scripts.insert call.type { script with calls := script.calls + 1 } }
      let stage := step.preparations.foldl (prepare call) stage
      let ending := step.answer.ending call
      match script.kind, ending with
      | .storing, ending => stage.store call ending
      | .caching, .finished => (.value .null, stage)
      | .caching, ending => (ending, stage)

/-- The performer of a stage. -/
def perform : Performer Stage := performWith callScript

/-- Runs a program on a stage. -/
def run {α : Type} (stage : Stage) (program : Program α) : Except Failure α × Stage :=
  program.run perform stage

/-- Sets up a stage for a service. -/
def create (service : Service) (scripts : Table LoadType Script) (now : Instant)
    (partitionCount : UInt32) (seed : Nat) : Stage :=
  { backend := .start now partitionCount seed
    service := { service with loaders := scripts.mapValues (·.kind) }
    scripts
    calls := []
    outages := .empty
    races := 0
    nestings := 0
    nested := []
    listed := none }

/-- Takes the calls of loaders that were not yet looked at. -/
def takeCalls (stage : Stage) : List LoadCall × Stage := (stage.calls, { stage with calls := [] })

/-- Moves the clock of a stage on. -/
def advance (stage : Stage) (duration : Duration) : Stage :=
  { stage with backend := { stage.backend with now := Clock.advance stage.backend.now duration } }

def setClock (stage : Stage) (instant : Instant) : Stage :=
  { stage with backend := { stage.backend with now := instant } }

/-- Starts a load through a view. The identifier of a load that failed before the key was pointed
to it is minted again. -/
def update {α : Type} (stage : Stage) (view : View α) (key : String) :
    Except Failure TaskId × Stage :=
  match stage.run (view.update stage.service key) with
  | (.ok task, stage) => (.ok task, stage)
  | (.error failure, later) =>
      let task := TaskId.minted later.backend.seed later.backend.minted
      if later.backend.pointers.get? (view.slot key) = some task then (.error failure, later)
      else
        (.error failure, { later with
          backend := { later.backend with minted := stage.backend.minted } })

/-- Sweeps: the report, or none while another sweep runs; and what nested sweeps came to. -/
def sweep (stage : Stage) :
    (Except Failure (Option SweepReport) × List (Option SweepReport)) × Stage :=
  let (swept, stage) := stage.run stage.service.sweepOnce
  ((swept, stage.nested), { stage with nested := [] })

end Stage

end CacheFill
