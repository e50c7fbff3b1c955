import CacheFill.Bus.Topics
import CacheFill.Message
import CacheFill.Store.Tasks
import CacheFill.Wire.Task

/-!
The JSON forms of messages, of stored records and of topic names.
-/

set_option autoImplicit false

namespace CacheFill

namespace Dispatch

def toJson (message : Dispatch) : Json :=
  .object [("load_type", message.type.toJson), ("key", .string message.key),
    ("task_id", message.task.toJson), ("attempt", .nat message.attempt.toNat)]

def ofJson? (value : Json) : Option Dispatch := do
  let fields ← value.fields? ["load_type", "key", "task_id", "attempt"]
  return { type := ← fields.required LoadType.ofJson? "load_type"
           key := ← fields.required Json.string? "key"
           task := ← fields.required TaskId.ofJson? "task_id"
           attempt := ← fields.required Json.uint32? "attempt" }

end Dispatch

namespace Notification

def toJson (notification : Notification) : Json :=
  .object [("load_type", notification.type.toJson), ("key", .string notification.key),
    ("task_id", notification.task.toJson), ("status", notification.status.toJson)]

def ofJson? (value : Json) : Option Notification := do
  let fields ← value.fields? ["load_type", "key", "task_id", "status"]
  return { type := ← fields.required LoadType.ofJson? "load_type"
           key := ← fields.required Json.string? "key"
           task := ← fields.required TaskId.ofJson? "task_id"
           status := ← fields.required Status.ofJson? "status" }

end Notification

namespace Record

def toJson (record : Record) : Json :=
  .object [("task_id", record.task.toJson), ("load_type", record.type.toJson),
    ("key", .string record.key), ("status", record.status.toJson),
    ("version", .nat record.version.toNat), ("resume_state", record.resume.getD .null)]

def ofJson? (value : Json) : Option Record := do
  let fields ← value.fields? ["task_id", "load_type", "key", "status", "version", "resume_state"]
  return { task := ← fields.required TaskId.ofJson? "task_id"
           type := ← fields.required LoadType.ofJson? "load_type"
           key := ← fields.required Json.string? "key"
           status := ← fields.required Status.ofJson? "status"
           version := ← fields.required Json.uint64? "version"
           resume := ← fields.optional Json.any? "resume_state" }

end Record

namespace Topics

def toJson (topics : Topics) : Json := .object [("prefix", .string topics.space)]

def ofJson? (value : Json) : Option Topics := do
  let fields ← value.fields? ["prefix"]
  return ⟨← fields.required Json.string? "prefix"⟩

end Topics

end CacheFill
