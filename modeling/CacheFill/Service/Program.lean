import CacheFill.Loader
import CacheFill.Log
import CacheFill.Message
import CacheFill.Service.Failure
import CacheFill.Store.Tasks
import CacheFill.Store.Values

/-!
Operations of the service as data. A program is a sequence of accesses to what all operations share:
stores, buses, clock and log. Each access is one indivisible step, so the same program can be run
from start to end or interleaved with others.
-/

set_option autoImplicit false

namespace CacheFill

/-- One indivisible step of a program. -/
inductive Access where
  | readClock
  | insertTask (record : Record)
  | readTask (task : TaskId)
  | dueTasks (now : Instant) (limit : Nat)
  | updateTask (task : TaskId) (expected : Expected) (status : Status) (resume : Option Json)
  | readValue (slot : Slot)
  | saveValue (slot : Slot) (value : CachedValue Json)
  | removeValue (slot : Slot)
  | readPointer (slot : Slot)
  | putPointer (slot : Slot) (task : TaskId)
  | removePointer (slot : Slot)
  | publish (topic : String) (message : Dispatch)
  | announce (topic : String) (notification : Notification)
  | callLoader (call : LoadCall)
  | mint
  | log (line : Log.Line)
  /-- Claims the right to sweep; false if it is taken. -/
  | enterSweep
  | leaveSweep

/-- What an access gives back. A bus that fails gives its reason. -/
@[reducible] def Access.Answer : Access → Type
  | .readClock => Instant
  | .insertTask _ => Except StoreError Record
  | .readTask _ => Except StoreError (Option Record)
  | .dueTasks _ _ => Except StoreError (List Record)
  | .updateTask _ _ _ _ => Except StoreError Record
  | .readValue _ => Except StoreError (Option (CachedValue Json))
  | .saveValue _ _ => Except StoreError Bool
  | .removeValue _ => Except StoreError Unit
  | .readPointer _ => Except StoreError (Option TaskId)
  | .putPointer _ _ => Except StoreError Unit
  | .removePointer _ => Except StoreError Unit
  | .publish _ _ => Except String Unit
  | .announce _ _ => Except String Unit
  | .callLoader _ => LoaderAnswer
  | .mint => TaskId
  | .log _ => Unit
  | .enterSweep => Bool
  | .leaveSweep => Unit

/-- A program ends with a value or a failure, or makes an access and goes on with its answer. -/
inductive Program (α : Type) where
  | done (value : α)
  | fail (failure : Failure)
  | perform (access : Access) (next : access.Answer → Program α)

namespace Program

variable {α β : Type}

/-- Goes on with the value of a program; its failure is the failure of the whole. -/
protected def bind : Program α → (α → Program β) → Program β
  | .done value, next => next value
  | .fail failure, _ => .fail failure
  | .perform access rest, next => .perform access fun answer => (rest answer).bind next

instance : Monad Program where
  pure := .done
  bind := Program.bind

/-- Ends with the failure of a program instead of failing. -/
def attempt : Program α → Program (Except Failure α)
  | .done value => .done (.ok value)
  | .fail failure => .done (.error failure)
  | .perform access rest => .perform access fun answer => (rest answer).attempt

@[simp] theorem done_bind (value : α) (next : α → Program β) :
    (Program.done value).bind next = next value := rfl

@[simp] theorem fail_bind (failure : Failure) (next : α → Program β) :
    (Program.fail failure).bind next = .fail failure := rfl

@[simp] theorem perform_bind (access : Access) (rest : access.Answer → Program α)
    (next : α → Program β) :
    (Program.perform access rest).bind next =
      .perform access fun answer => (rest answer).bind next := rfl

/-- The value of a store's answer; its error is a failure. -/
def ofStore : Except StoreError α → Program α
  | .ok value => .done value
  | .error error => .fail (.store error)

/-- The value of a bus's answer; its error is a failure. -/
def ofBus : Except String α → Program α
  | .ok value => .done value
  | .error reason => .fail (.publish reason)

def readClock : Program Instant := .perform .readClock .done

def insertTask (record : Record) : Program Record := .perform (.insertTask record) ofStore

def readTask (task : TaskId) : Program (Option Record) := .perform (.readTask task) ofStore

def dueTasks (now : Instant) (limit : Nat) : Program (List Record) :=
  .perform (.dueTasks now limit) ofStore

def updateTask (task : TaskId) (expected : Expected) (status : Status) (resume : Option Json) :
    Program Record :=
  .perform (.updateTask task expected status resume) ofStore

def readValue (slot : Slot) : Program (Option (CachedValue Json)) :=
  .perform (.readValue slot) ofStore

def saveValue (slot : Slot) (value : CachedValue Json) : Program Bool :=
  .perform (.saveValue slot value) ofStore

def removeValue (slot : Slot) : Program Unit := .perform (.removeValue slot) ofStore

def readPointer (slot : Slot) : Program (Option TaskId) := .perform (.readPointer slot) ofStore

def putPointer (slot : Slot) (task : TaskId) : Program Unit :=
  .perform (.putPointer slot task) ofStore

def removePointer (slot : Slot) : Program Unit := .perform (.removePointer slot) ofStore

def publish (topic : String) (message : Dispatch) : Program Unit :=
  .perform (.publish topic message) ofBus

def announce (topic : String) (notification : Notification) : Program Unit :=
  .perform (.announce topic notification) ofBus

def callLoader (call : LoadCall) : Program LoaderAnswer := .perform (.callLoader call) .done

def mint : Program TaskId := .perform .mint .done

def log (line : Log.Line) : Program Unit := .perform (.log line) .done

def enterSweep : Program Bool := .perform .enterSweep .done

def leaveSweep : Program Unit := .perform .leaveSweep .done

end Program

end CacheFill
