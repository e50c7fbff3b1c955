import CacheFill.Task.Status
import CacheFill.Time.Text

/-!
The JSON forms of task statuses and their parts. A status says its state in the field `state`, its
tag. What belongs to a tagged record is read a little more freely than what stands by itself; the
readers that can do both are told by `isPart`.
-/

set_option autoImplicit false

namespace CacheFill

namespace ErrorClass

def toJson (kind : ErrorClass) : Json := .string kind.name

def read? (isPart : Bool) (value : Json) : Option ErrorClass :=
  (value.word? isPart).bind fun word => all.find? fun kind => kind.name = word

def ofJson? (value : Json) : Option ErrorClass := read? false value

end ErrorClass

namespace TaskState

def toJson (state : TaskState) : Json := .string state.name

def ofName? (name : String) : Option TaskState := all.find? fun state => state.name = name

def ofJson? (value : Json) : Option TaskState := (value.word? false).bind ofName?

/-- The state that a tag names. In a part of a tagged record the tag may also be its number. -/
def ofTag? (isPart : Bool) : Json → Option TaskState
  | .string name => ofName? name
  | .number (.integer (.ofNat n)) => if isPart then all[n]? else none
  | _ => none

end TaskState

namespace TaskError

def toJson (error : TaskError) : Json :=
  .object [("class", error.kind.toJson), ("message", .string error.message)]

def read? (isPart : Bool) (value : Json) : Option TaskError := do
  let fields ← value.fields? ["class", "message"]
  return { kind := ← fields.required (ErrorClass.read? isPart) "class"
           message := ← fields.required Json.string? "message" }

def ofJson? (value : Json) : Option TaskError := read? false value

end TaskError

namespace Scheduled

def members (status : Scheduled) : List (String × Json) :=
  [("scheduled_at", status.scheduledAt.toJson), ("attempt", .nat status.attempt.toNat)]

def ofJson? (value : Json) : Option Scheduled := do
  let fields ← value.fields? ["scheduled_at", "attempt"]
  return { scheduledAt := ← fields.required Instant.ofJson? "scheduled_at"
           attempt := ← fields.required Json.uint32? "attempt" }

end Scheduled

namespace Waiting

def members (status : Waiting) : List (String × Json) :=
  [("attempt", .nat status.attempt.toNat), ("retry_at", status.retryAt.toJson),
    ("last_error", status.lastError.toJson)]

def ofJson? (value : Json) : Option Waiting := do
  let fields ← value.fields? ["attempt", "retry_at", "last_error"]
  return { attempt := ← fields.required Json.uint32? "attempt"
           retryAt := ← fields.required Instant.ofJson? "retry_at"
           lastError := ← fields.required (TaskError.read? true) "last_error" }

end Waiting

namespace Failed

def members (status : Failed) : List (String × Json) :=
  [("attempt", .nat status.attempt.toNat), ("last_error", status.lastError.toJson),
    ("failed_at", status.failedAt.toJson)]

def toJson (status : Failed) : Json := .object status.members

def ofJson? (value : Json) : Option Failed := do
  let fields ← value.fields? ["attempt", "last_error", "failed_at"]
  return { attempt := ← fields.required Json.uint32? "attempt"
           lastError := ← fields.required (TaskError.read? true) "last_error"
           failedAt := ← fields.required Instant.ofJson? "failed_at" }

end Failed

namespace Loaded

def members (status : Loaded) : List (String × Json) :=
  [("loaded_at", status.loadedAt.toJson), ("attempt", .nat status.attempt.toNat)]

def ofJson? (value : Json) : Option Loaded := do
  let fields ← value.fields? ["loaded_at", "attempt"]
  return { loadedAt := ← fields.required Instant.ofJson? "loaded_at"
           attempt := ← fields.required Json.uint32? "attempt" }

end Loaded

namespace Status

def members : Status → List (String × Json)
  | .scheduled status => status.members
  | .waiting status => status.members
  | .failed status => status.members
  | .loaded status => status.members

def toJson (status : Status) : Json :=
  .object (("state", status.state.toJson) :: status.members)

def read? (isPart : Bool) (value : Json) : Option Status := do
  let (tag, content) ← value.tagged? "state"
  match ← TaskState.ofTag? isPart tag with
  | .scheduled => (Scheduled.ofJson? content).map .scheduled
  | .waitsForRetry => (Waiting.ofJson? content).map .waiting
  | .failed => (Failed.ofJson? content).map .failed
  | .loaded => (Loaded.ofJson? content).map .loaded

def ofJson? (value : Json) : Option Status := read? false value

end Status

namespace Pending

def toJson (pending : Pending) : Json := pending.toStatus.toJson

def read? (isPart : Bool) (value : Json) : Option Pending :=
  (Status.read? isPart value).bind Status.pending?

def ofJson? (value : Json) : Option Pending := read? false value

end Pending

end CacheFill
