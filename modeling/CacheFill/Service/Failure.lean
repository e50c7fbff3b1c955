import CacheFill.Config.Basic
import CacheFill.Store.Error
import CacheFill.Task.Transition

/-!
Why an operation of the service fails. Failing loaders do not show up here; they end up in the
status of their task.
-/

set_option autoImplicit false

namespace CacheFill

inductive Failure where
  | store (error : StoreError)
  | transition (error : TransitionError)
  | publish (reason : String)
  | undecodable
  | unknownLoadType (type : LoadType)
  | config (error : ConfigError)
  deriving DecidableEq

namespace Failure

def message : Failure → String
  | .store error => error.message
  | .transition error => error.message
  | .publish reason => "publish failed: " ++ reason
  | .undecodable => "serialization error"
  | .unknownLoadType type => "no loader registered for load type " ++ type.name
  | .config error => "invalid configuration: " ++ error.message

/-- The failure is a version conflict. -/
def isConflict : Failure → Bool
  | .store (.conflict _ _ _) => true
  | _ => false

end Failure

end CacheFill
