import CacheFill.LoadType
import CacheFill.Task.Status
import CacheFill.TaskId

/-!
What travels over the buses: requests to execute a task, and announcements of finished tasks.
-/

set_option autoImplicit false

namespace CacheFill

/-- A request to execute a task; `attempt` is the attempt number of the status that caused it. -/
structure Dispatch where
  type : LoadType
  key : String
  task : TaskId
  attempt : UInt32
  deriving DecidableEq

/-- The announcement of a finished task with its final status. -/
structure Notification where
  type : LoadType
  key : String
  task : TaskId
  status : Status
  deriving DecidableEq

end CacheFill
