import CacheFill.Rehearsal.Basic

/-!
A rehearsal of the workers of a service. They take turns, each doing all that waits for it, until
nothing is left to do.
-/

set_option autoImplicit false

namespace CacheFill

structure Background where
  stage : Stage
  workers : List Worker
  /-- What groups of listeners were told. -/
  heard : List (String × Notification)

namespace Background

/-- Executes a dispatch as the consumer of some name does. -/
def execute (name : String) (stage : Stage) (message : Dispatch) : Stage :=
  let handler : Consumer.Handler Stage Dispatch := fun message stage =>
    match stage.run (stage.service.handle message) with
    | (.ok _, stage) => (none, stage)
    | (.error failure, stage) => (some failure.message, stage)
  let (_, progress) := Consumer.handle name handler (fun _ => false) message Consumer.callLimit
    (Consumer.Progress.start stage)
  let stage := progress.state
  { stage with backend := stage.backend.addLines progress.log }

/-- Sweeps if a task is due. -/
def sweep (name : String) (stage : Stage) : Stage :=
  if (stage.backend.tasks.due stage.backend.now 1).isEmpty then stage
  else
    match stage.run stage.service.sweepOnce with
    | (.ok _, stage) => stage
    | (.error failure, stage) =>
        { stage with backend := stage.backend.addLine (Periodic.failureLine name failure.message) }

/-- Lets a worker do what waits for it. -/
def work (background : Background) (worker : Worker) : Background :=
  let stage := background.stage
  let name := worker.duty.name
  match worker.duty, worker.subscription with
  | .execute _ _, some number =>
      let (messages, dispatches) := stage.backend.dispatches.drain number
      { background with
        stage := messages.foldl (execute name)
          { stage with backend := { stage.backend with dispatches } } }
  | .listen group _, some number =>
      let (heard, backend) := Rehearsal.deliverTo stage.backend group [number]
      { background with
        stage := { stage with backend }
        heard := background.heard ++ heard.map fun one => (one.group, one.notification) }
  | .sweep, _ => { background with stage := sweep name stage }
  | _, none => background

/-- Lets a worker do what waits for it, on a thread of its own. -/
def turn (background : Background) (worker : Worker) : Background :=
  let thread := background.stage.backend.thread
  let onThread (thread : String) (background : Background) : Background :=
    { background with
      stage := { background.stage with backend := { background.stage.backend with thread } } }
  onThread thread ((onThread worker.duty.name background).work worker)

/-- Whether something waits for a worker. -/
def isWanted (backend : Backend) (worker : Worker) : Bool :=
  match worker.duty, worker.subscription with
  | .execute _ _, some number => !(backend.dispatches.pending number).isEmpty
  | .listen _ _, some number => !(backend.notifications.pending number).isEmpty
  | .sweep, _ => !(backend.tasks.due backend.now 1).isEmpty
  | _, none => false

/-- Lets the workers take turns for so many rounds, or fewer if nothing is left to do. -/
def settleFor : Nat → Background → Background
  | 0, background => background
  | rounds + 1, background =>
      if background.workers.any (isWanted background.stage.backend) then
        settleFor rounds (background.workers.foldl turn background)
      else background

/-- A number of rounds after which nothing is left to do: every round takes up a message or uses up
an attempt of a task. -/
def rounds (background : Background) : Nat :=
  let backend := background.stage.backend
  let messages := (backend.dispatches.subscriptions.values.flatMap (·.pending)).length +
    (backend.notifications.subscriptions.values.flatMap (·.pending)).length
  let attempts := backend.tasks.records.values.foldl
    (fun count record =>
      count + (background.stage.service.policies.get record.type).maxAttempts.toNat + 2) 0
  2 * (messages + attempts) + 1

def settle (background : Background) : Background :=
  settleFor background.rounds background

/-- The names of the workers in alphabetical order. -/
def names (workers : List Worker) : List String :=
  (workers.map (·.duty.name)).mergeSort fun a b => a ≤ b

/-- A call comes before another one: by load type, key, task and attempt. -/
def callBefore (a b : LoadCall) : Bool :=
  if a.type ≠ b.type then a.type < b.type
  else if a.key ≠ b.key then a.key < b.key
  else if a.task ≠ b.task then a.task ≤ b.task
  else a.attempt ≤ b.attempt

/-- What was told before: by group, key and task. -/
def heardBefore (a b : String × Notification) : Bool :=
  if a.1 ≠ b.1 then a.1 < b.1
  else if a.2.key ≠ b.2.key then a.2.key < b.2.key
  else a.2.task ≤ b.2.task

end Background

end CacheFill
