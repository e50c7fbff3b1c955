import CacheFill.Task.Status

/-!
What a reader of the cache sees: the cached value, if there is one, together with the state of the
load task that is to replace it.
-/

set_option autoImplicit false

namespace CacheFill

structure CachedValue (α : Type) where
  data : α
  cachedAt : Instant
  deriving DecidableEq, Repr

/-- The value with its data changed. -/
def CachedValue.map {α β : Type} (change : α → β) (value : CachedValue α) : CachedValue β :=
  ⟨change value.data, value.cachedAt⟩

inductive CacheEntry (α : Type) where
  | loaded (value : CachedValue α)
  | loadedAndUpdateScheduled (value : CachedValue α) (pending : Pending)
  | loadedAndUpdateFailed (value : CachedValue α) (failed : Failed)
  | initialLoadScheduled (pending : Pending)
  | initialFailed (failed : Failed)
  | notAvailable
  deriving DecidableEq, Repr

namespace CacheEntry

/-- Joins a value with the status of the latest task. A failure counts only if it is not older than
the value. -/
def compose {α : Type} : Option (CachedValue α) → Option Status → CacheEntry α
  | some value, some (.scheduled status) => .loadedAndUpdateScheduled value (.scheduled status)
  | some value, some (.waiting status) => .loadedAndUpdateScheduled value (.waiting status)
  | some value, some (.failed status) =>
      if value.cachedAt ≤ status.failedAt then .loadedAndUpdateFailed value status
      else .loaded value
  | some value, some (.loaded _) => .loaded value
  | some value, none => .loaded value
  | none, some (.scheduled status) => .initialLoadScheduled (.scheduled status)
  | none, some (.waiting status) => .initialLoadScheduled (.waiting status)
  | none, some (.failed status) => .initialFailed status
  | none, some (.loaded _) => .notAvailable
  | none, none => .notAvailable

/-- The entry with its data changed. -/
def map {α β : Type} (change : α → β) : CacheEntry α → CacheEntry β
  | .loaded value => .loaded (value.map change)
  | .loadedAndUpdateScheduled value pending => .loadedAndUpdateScheduled (value.map change) pending
  | .loadedAndUpdateFailed value failed => .loadedAndUpdateFailed (value.map change) failed
  | .initialLoadScheduled pending => .initialLoadScheduled pending
  | .initialFailed failed => .initialFailed failed
  | .notAvailable => .notAvailable

def value? {α : Type} : CacheEntry α → Option (CachedValue α)
  | .loaded value => some value
  | .loadedAndUpdateScheduled value _ => some value
  | .loadedAndUpdateFailed value _ => some value
  | .initialLoadScheduled _ | .initialFailed _ | .notAvailable => none

def data? {α : Type} (entry : CacheEntry α) : Option α := entry.value?.map (·.data)

def cachedAt? {α : Type} (entry : CacheEntry α) : Option Instant := entry.value?.map (·.cachedAt)

def failure? {α : Type} : CacheEntry α → Option Failed
  | .loadedAndUpdateFailed _ failed => some failed
  | .initialFailed failed => some failed
  | _ => none

def isAvailable {α : Type} (entry : CacheEntry α) : Bool := entry.value?.isSome

end CacheEntry

end CacheFill
