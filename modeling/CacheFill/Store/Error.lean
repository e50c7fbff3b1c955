import CacheFill.Store.Version
import CacheFill.TaskId

/-!
Why a store refuses an access.
-/

set_option autoImplicit false

namespace CacheFill

inductive StoreError where
  | notFound (task : TaskId)
  | alreadyExists (task : TaskId)
  | conflict (task : TaskId) (expected : Expected) (actual : UInt64)
  | unavailable (reason : String)
  deriving DecidableEq, Repr

def StoreError.message : StoreError → String
  | .notFound task => "task not found: " ++ task.render
  | .alreadyExists task => "task already exists: " ++ task.render
  | .conflict task expected actual =>
      "version conflict on task " ++ task.render ++ " (expected: " ++ expected.describe ++
        ", actual: " ++ toString actual.toNat ++ ")"
  | .unavailable reason => "storage error: " ++ reason

end CacheFill
