import CacheFill.Service.Basic

/-!
The view that readers and writers of one load type have of the cache.
-/

set_option autoImplicit false

namespace CacheFill

/-- A load type with the JSON form of its values. -/
structure View (α : Type) where
  type : LoadType
  encode : α → Json
  decode : Json → Option α

namespace View

open Program

variable {α : Type}

/-- The view in which every JSON value is a value. -/
def json (type : LoadType) : View Json := ⟨type, id, some⟩

def slot (view : View α) (key : String) : Slot := (view.type, key)

def decodeValue (view : View α) : Option (CachedValue Json) → Program (Option (CachedValue α))
  | none => .done none
  | some value =>
      match view.decode value.data with
      | some data => .done (some ⟨data, value.cachedAt⟩)
      | none => .fail .undecodable

/-- The value of a key together with the status of its latest task. The value is read first. -/
def get (view : View α) (key : String) : Program (CacheEntry α) := do
  let value ← view.decodeValue (← readValue (view.slot key))
  match ← readPointer (view.slot key) with
  | some task => return .compose value (← Service.status task)
  | none => return .compose value none

/-- The value of a key, whatever is known about its tasks. -/
def getAvailable (view : View α) (key : String) : Program (Option α) := do
  return (← view.get key).data?

/-- Stores a value as of now. -/
def save (view : View α) (key : String) (data : α) : Program Unit := do
  let now ← readClock
  let _ ← saveValue (view.slot key) ⟨view.encode data, now⟩

/-- Starts a task to load a key anew; the task becomes the latest of the key before it exists. -/
def update (view : View α) (service : Service) (key : String) : Program TaskId := do
  let task ← mint
  putPointer (view.slot key) task
  service.schedule view.type key task
  log (Log.info "cache update scheduled"
    [("load_type", .text view.type.name), ("key", .text key), ("task_id", .text task.render)])
  return task

/-- Forgets the value and the latest task of a key. -/
def remove (view : View α) (key : String) : Program Unit := do
  removeValue (view.slot key)
  removePointer (view.slot key)

end View

end CacheFill
