import CacheFill.Service.Program

/-!
Ports: the places at which a rehearsal makes the surroundings of the service fail. Every access to a
store or a bus goes through a port.
-/

set_option autoImplicit false

namespace CacheFill

inductive Port where
  | readTask
  | insertTask
  | updateTask
  | dueTasks
  | readValue
  | saveValue
  | removeValue
  | readPointer
  | putPointer
  | removePointer
  | publish
  | announce
  deriving DecidableEq, Repr

namespace Port

def all : List Port :=
  [.readTask, .insertTask, .updateTask, .dueTasks, .readValue, .saveValue, .removeValue,
    .readPointer, .putPointer, .removePointer, .publish, .announce]

/-- The word for a port. -/
def name : Port → String
  | .readTask => "status_get"
  | .insertTask => "status_insert"
  | .updateTask => "status_cas"
  | .dueTasks => "status_list"
  | .readValue => "cache_get"
  | .saveValue => "cache_save"
  | .removeValue => "cache_remove"
  | .readPointer => "pointer_get"
  | .putPointer => "pointer_put"
  | .removePointer => "pointer_remove"
  | .publish => "dispatch_publish"
  | .announce => "notify_publish"

def ofName? (word : String) : Option Port := all.find? fun port => port.name = word

/-- The error of a store behind a port that is out. -/
def storeError (port : Port) : StoreError := .unavailable (port.name ++ " unavailable")

/-- The reason that a bus gives while it is out. -/
def busReason : String := "broker unavailable"

end Port

/-- The port that an access goes through, and its answer while that port is out. -/
def Access.port? : (access : Access) → Option (Port × access.Answer)
  | .insertTask _ => some (.insertTask, .error Port.insertTask.storeError)
  | .readTask _ => some (.readTask, .error Port.readTask.storeError)
  | .dueTasks _ _ => some (.dueTasks, .error Port.dueTasks.storeError)
  | .updateTask _ _ _ _ => some (.updateTask, .error Port.updateTask.storeError)
  | .readValue _ => some (.readValue, .error Port.readValue.storeError)
  | .saveValue _ _ => some (.saveValue, .error Port.saveValue.storeError)
  | .removeValue _ => some (.removeValue, .error Port.removeValue.storeError)
  | .readPointer _ => some (.readPointer, .error Port.readPointer.storeError)
  | .putPointer _ _ => some (.putPointer, .error Port.putPointer.storeError)
  | .removePointer _ => some (.removePointer, .error Port.removePointer.storeError)
  | .publish _ _ => some (.publish, .error Port.busReason)
  | .announce _ _ => some (.announce, .error Port.busReason)
  | .readClock | .callLoader _ | .mint | .log _ | .enterSweep | .leaveSweep => none

end CacheFill
