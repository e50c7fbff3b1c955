import CacheFill.Time.Instant

/-!
The life of a load task. A task is scheduled; each execution makes it loaded, failed or waiting for
a retry, and a waiting task is scheduled again. Attempt numbers count executions: a new task carries
0, and what execution number n writes carries n.
-/

set_option autoImplicit false

namespace CacheFill

/-- What kind of error ended an execution or a task. -/
inductive ErrorClass where
  | transient
  | permanent
  | retriesExhausted
  deriving DecidableEq, Repr, Inhabited

def ErrorClass.name : ErrorClass → String
  | .transient => "transient"
  | .permanent => "permanent"
  | .retriesExhausted => "retries_exhausted"

def ErrorClass.all : List ErrorClass := [.transient, .permanent, .retriesExhausted]

structure TaskError where
  kind : ErrorClass
  message : String
  deriving DecidableEq, Repr, Inhabited

inductive TaskState where
  | scheduled
  | waitsForRetry
  | failed
  | loaded
  deriving DecidableEq, Repr, Inhabited

namespace TaskState

/-- The word for a state in data. -/
def name : TaskState → String
  | .scheduled => "scheduled"
  | .waitsForRetry => "waits_for_retry"
  | .failed => "failed"
  | .loaded => "loaded"

/-- The word for a state in messages. -/
def title : TaskState → String
  | .scheduled => "Scheduled"
  | .waitsForRetry => "WaitsForRetry"
  | .failed => "Failed"
  | .loaded => "Loaded"

def all : List TaskState := [.scheduled, .waitsForRetry, .failed, .loaded]

end TaskState

structure Scheduled where
  scheduledAt : Instant
  attempt : UInt32
  deriving DecidableEq, Repr, Inhabited

structure Waiting where
  attempt : UInt32
  retryAt : Instant
  lastError : TaskError
  deriving DecidableEq, Repr, Inhabited

structure Failed where
  attempt : UInt32
  lastError : TaskError
  failedAt : Instant
  deriving DecidableEq, Repr, Inhabited

structure Loaded where
  loadedAt : Instant
  attempt : UInt32
  deriving DecidableEq, Repr, Inhabited

inductive Status where
  | scheduled (status : Scheduled)
  | waiting (status : Waiting)
  | failed (status : Failed)
  | loaded (status : Loaded)
  deriving DecidableEq, Repr, Inhabited

/-- A status with executions still to come. -/
inductive Pending where
  | scheduled (status : Scheduled)
  | waiting (status : Waiting)
  deriving DecidableEq, Repr, Inhabited

namespace Pending

def toStatus : Pending → Status
  | .scheduled status => .scheduled status
  | .waiting status => .waiting status

def attempt : Pending → UInt32
  | .scheduled status => status.attempt
  | .waiting status => status.attempt

end Pending

namespace Status

/-- The first status of a task. -/
def initial (now : Instant) : Status := .scheduled ⟨now, 0⟩

def state : Status → TaskState
  | .scheduled _ => .scheduled
  | .waiting _ => .waitsForRetry
  | .failed _ => .failed
  | .loaded _ => .loaded

def attempt : Status → UInt32
  | .scheduled status => status.attempt
  | .waiting status => status.attempt
  | .failed status => status.attempt
  | .loaded status => status.attempt

def isTerminal : Status → Bool
  | .failed _ | .loaded _ => true
  | .scheduled _ | .waiting _ => false

def isPending (status : Status) : Bool := !status.isTerminal

def pending? : Status → Option Pending
  | .scheduled status => some (.scheduled status)
  | .waiting status => some (.waiting status)
  | .failed _ | .loaded _ => none

def failed? : Status → Option Failed
  | .failed status => some status
  | .scheduled _ | .waiting _ | .loaded _ => none

end Status

end CacheFill
