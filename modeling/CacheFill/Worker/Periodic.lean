import CacheFill.Log
import CacheFill.Time.Duration

/-!
Periodic workers wait for a fixed time, run a task, and wait again. A request to stop ends the wait;
the runs of a worker never overlap.
-/

set_option autoImplicit false

namespace CacheFill.Periodic

/-- A task with a state: the text of its error, or none if it succeeds. -/
abbrev Task (σ : Type) := σ → Option String × σ

variable {σ : Type}

def startLine (name : String) (interval : Duration) : Log.Line :=
  Log.info "periodic worker started"
    [("worker", .text name), ("interval_ms", .number (interval.millis % UInt64.size))]

def stopLine (name : String) : Log.Line :=
  Log.info "periodic worker stopped" [("worker", .text name)]

def failureLine (name error : String) : Log.Line :=
  Log.error "periodic run failed" [("worker", .text name), ("error", .text error)]

/-- Runs the task after each of so many waits: which runs succeeded, and what they logged. -/
def repeatTask (name : String) (task : Task σ) : Nat → σ → List Bool × List Log.Line × σ
  | 0, state => ([], [], state)
  | waits + 1, state =>
      let (error, state) := task state
      let (succeeded, log, state) := repeatTask name task waits state
      (error.isNone :: succeeded, (error.map (failureLine name)).toList ++ log, state)

/-- A whole run of a periodic worker that is asked to stop in the wait after so many runs. -/
def run (name : String) (interval : Duration) (task : Task σ) (runs : Nat) (state : σ) :
    List Bool × List Log.Line × σ :=
  let (succeeded, log, state) := repeatTask name task runs state
  (succeeded, startLine name interval :: log ++ [stopLine name], state)

end CacheFill.Periodic
