import CacheFill.Cache.Entry
import CacheFill.Wire.Task

/-!
The JSON forms of cached values and cache entries. An entry says its kind in the field `kind`.
-/

set_option autoImplicit false

namespace CacheFill

namespace CachedValue

def members (value : CachedValue Json) : List (String × Json) :=
  [("cached_at", value.cachedAt.toJson), ("data", value.data)]

def toJson (value : CachedValue Json) : Json :=
  .object [("data", value.data), ("cached_at", value.cachedAt.toJson)]

def ofJson? (value : Json) : Option (CachedValue Json) := do
  let fields ← value.fields? ["data", "cached_at"]
  return { data := ← fields.required Json.any? "data"
           cachedAt := ← fields.required Instant.ofJson? "cached_at" }

end CachedValue

namespace CacheEntry

/-- The word for the kind of an entry. -/
def kind : CacheEntry Json → String
  | .loaded _ => "loaded"
  | .loadedAndUpdateScheduled _ _ => "loaded_and_update_scheduled"
  | .loadedAndUpdateFailed _ _ => "loaded_and_update_failed"
  | .initialLoadScheduled _ => "initial_load_scheduled"
  | .initialFailed _ => "initial_failed"
  | .notAvailable => "not_available"

def members : CacheEntry Json → List (String × Json)
  | .loaded value => value.members
  | .loadedAndUpdateScheduled value pending => value.members ++ [("pending", pending.toJson)]
  | .loadedAndUpdateFailed value failed => value.members ++ [("failed", failed.toJson)]
  | .initialLoadScheduled pending => [("pending", pending.toJson)]
  | .initialFailed failed => [("failed", failed.toJson)]
  | .notAvailable => []

def toJson (entry : CacheEntry Json) : Json :=
  .object (("kind", .string entry.kind) :: entry.members)

def valueOf? (fields : Json.Fields) : Option (CachedValue Json) := do
  return { cachedAt := ← fields.required Instant.ofJson? "cached_at"
           data := ← fields.required Json.any? "data" }

def ofJson? (value : Json) : Option (CacheEntry Json) := do
  let (tag, content) ← value.tagged? "kind"
  match ← tag.string? with
  | "loaded" =>
      let fields ← content.fields? ["cached_at", "data"]
      return .loaded (← valueOf? fields)
  | "loaded_and_update_scheduled" =>
      let fields ← content.fields? ["cached_at", "data", "pending"]
      return .loadedAndUpdateScheduled (← valueOf? fields)
        (← fields.required (Pending.read? true) "pending")
  | "loaded_and_update_failed" =>
      let fields ← content.fields? ["cached_at", "data", "failed"]
      return .loadedAndUpdateFailed (← valueOf? fields) (← fields.required Failed.ofJson? "failed")
  | "initial_load_scheduled" =>
      let fields ← content.fields? ["pending"]
      return .initialLoadScheduled (← fields.required (Pending.read? true) "pending")
  | "initial_failed" =>
      let fields ← content.fields? ["failed"]
      return .initialFailed (← fields.required Failed.ofJson? "failed")
  | "not_available" =>
      match content with
      | .array (_ :: _) => none
      | _ => return .notAvailable
  | _ => none

end CacheEntry

end CacheFill
