import CacheFill.Cache.Entry
import CacheFill.Json.Basic
import CacheFill.LoadType
import CacheFill.Table
import CacheFill.TaskId

/-!
The store of cached values and the index of the latest task of each key. Values are kept by the time
they were cached, not by the order in which they arrive.
-/

set_option autoImplicit false

namespace CacheFill

/-- A key of the cache together with the load type it belongs to. -/
abbrev Slot := LoadType × String

structure ValueStore where
  values : Table Slot (CachedValue Json)

namespace ValueStore

def empty : ValueStore := ⟨.empty⟩

instance : Inhabited ValueStore := ⟨empty⟩

def get? (store : ValueStore) (slot : Slot) : Option (CachedValue Json) := store.values.get? slot

/-- Whether a value gives way to another one: it was not cached later. -/
def yieldsTo (current : Option (CachedValue Json)) (value : CachedValue Json) : Bool :=
  match current with
  | none => true
  | some old => old.cachedAt ≤ value.cachedAt

/-- Stores a value unless a later one is there; says whether it did. -/
def save (store : ValueStore) (slot : Slot) (value : CachedValue Json) : Bool × ValueStore :=
  if yieldsTo (store.get? slot) value then (true, ⟨store.values.insert slot value⟩)
  else (false, store)

def remove (store : ValueStore) (slot : Slot) : ValueStore := ⟨store.values.erase slot⟩

end ValueStore

/-- The latest task of each key. -/
structure TaskIndex where
  tasks : Table Slot TaskId

namespace TaskIndex

def empty : TaskIndex := ⟨.empty⟩

instance : Inhabited TaskIndex := ⟨empty⟩

def get? (index : TaskIndex) (slot : Slot) : Option TaskId := index.tasks.get? slot

def put (index : TaskIndex) (slot : Slot) (task : TaskId) : TaskIndex :=
  ⟨index.tasks.insert slot task⟩

def remove (index : TaskIndex) (slot : Slot) : TaskIndex := ⟨index.tasks.erase slot⟩

end TaskIndex

end CacheFill
