import CacheFill.Json.Basic
import CacheFill.LoadType
import CacheFill.Task.Status
import CacheFill.TaskId

/-!
Loaders: what they are called with, how they answer, and how their errors are classified.
-/

set_option autoImplicit false

namespace CacheFill

/-- Why a loader gave no value. Only a transient error can leave a state to go on from. -/
inductive LoaderError where
  | transient (message : String) (resume : Option Json)
  | permanent (message : String)

namespace LoaderError

/-- A transient error from a chain of causes, the outermost first. -/
def ofChain (causes : List String) : LoaderError := .transient (": ".intercalate causes) none

/-- Leaves a state to go on from; permanent errors leave none. -/
def withResume (error : LoaderError) (state : Json) : LoaderError :=
  match error with
  | .transient message _ => .transient message (some state)
  | .permanent message => .permanent message

def kind : LoaderError → ErrorClass
  | .transient _ _ => .transient
  | .permanent _ => .permanent

def message : LoaderError → String
  | .transient message _ => message
  | .permanent message => message

def resume? : LoaderError → Option Json
  | .transient _ resume => resume
  | .permanent _ => none

def describe (error : LoaderError) : String :=
  error.kind.name ++ " loader error: " ++ error.message

end LoaderError

/-- What a loader is called with. -/
structure LoadCall where
  task : TaskId
  type : LoadType
  key : String
  /-- The number of this execution, from 1. -/
  attempt : UInt32
  /-- What an earlier execution left behind. -/
  resume : Option Json

/-- How a call of a loader ends. A panic carries its text if it has one. -/
inductive LoaderAnswer where
  | finished
  | value (data : Json)
  | failed (error : LoaderError)
  | panicked (payload : Option String)

/-- Whether a loader stores its results itself or leaves that to the service. -/
inductive LoaderKind where
  | storing
  | caching
  deriving DecidableEq, Repr

end CacheFill
