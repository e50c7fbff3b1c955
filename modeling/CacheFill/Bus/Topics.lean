import CacheFill.LoadType

/-!
Names of topics. Every load type has one topic for dispatches and one for notifications; a namespace
in front keeps deployments apart.
-/

set_option autoImplicit false

namespace CacheFill

structure Topics where
  space : String
  deriving DecidableEq, Repr

namespace Topics

/-- Topics without a namespace. -/
def plain : Topics := ⟨""⟩

instance : Inhabited Topics := ⟨plain⟩

def name (topics : Topics) (kind : String) (type : LoadType) : String :=
  if topics.space = "" then kind ++ "." ++ type.name
  else topics.space ++ "." ++ kind ++ "." ++ type.name

def dispatch (topics : Topics) (type : LoadType) : String := topics.name "dispatch" type

def notifications (topics : Topics) (type : LoadType) : String := topics.name "notifications" type

end Topics

end CacheFill
