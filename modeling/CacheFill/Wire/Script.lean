import CacheFill.Rehearsal.Script
import CacheFill.Wire.Task

/-!
Scripts for loaders written in JSON.
-/

set_option autoImplicit false

namespace CacheFill

/-- An object with a single member that says what is to be done. -/
def Preparation.ofJson? : Json → Option Preparation
  | .object [("advance", value)] => (Duration.ofJson? value).map .advanceClock
  | .object [("set", value)] => (Instant.ofJson? value).map .setClock
  | .object [("save", value)] => some (.save value.canonical)
  | .object [("remove", _)] => some .remove
  | .object [("touch", _)] => some .touch
  | .object [("cas", value)] => (Status.ofJson? value).map .overwrite
  | _ => none

/-- The member `do` says how the call ends. A panic whose payload is a number has no text. -/
def ScriptedAnswer.ofJson? (json : Json) : Option ScriptedAnswer := do
  match ← json.get? Json.string? "do" with
  | "ok" => some .finish
  | "save" => some (.give ((json.opaque? "data").getD .null))
  | "echo" => some .echo
  | "transient" =>
      return .failTransient (← json.get? Json.string? "message") (json.opaque? "resume")
  | "permanent" => (json.get? Json.string? "message").map .failPermanent
  | "paged" => (json.get? Json.natural? "pages").map .page
  | "panic" =>
      match json.member? "payload" with
      | some (.string "int") => some (.panic none)
      | _ => return .panic (some (← json.get? Json.string? "message"))
  | _ => none

namespace ScriptStep

def ofJson? (json : Json) : Option ScriptStep := do
  return { preparations := ← (← json.getD? Json.items? "pre" []).mapM Preparation.ofJson?
           answer := ← ScriptedAnswer.ofJson? json }

def listOfJson? (json : Json) : Option (List ScriptStep) := do
  (← json.items?).mapM ofJson?

end ScriptStep

/-- The script of the loader of a load type. -/
def Script.ofJson? (json : Json) : Option (LoadType × Script) := do
  let steps := fun (key, value) => do return (key, ← ScriptStep.listOfJson? value)
  let members ← match json.field? "keys" with
    | none => some []
    | some (.object members) => members.mapM steps
    | some _ => none
  let isTyped ← json.getD? Json.bool? "typed" false
  return (← json.get? LoadType.ofJson? "type",
    { kind := if isTyped then .caching else .storing
      steps := ← json.getD? ScriptStep.listOfJson? "steps" []
      stepsOfKey := .ofList members
      byAttempt := ← json.getD? Json.bool? "by_attempt" false
      calls := 0 })

end CacheFill
