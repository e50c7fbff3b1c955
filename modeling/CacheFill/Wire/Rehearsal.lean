import CacheFill.Rehearsal.Basic
import CacheFill.Wire.Failure
import CacheFill.Wire.Report

/-!
The JSON forms of what happens in a rehearsal.
-/

set_option autoImplicit false

namespace CacheFill

def Handled.toJson (handled : Handled) : Json :=
  let outcome := match handled.outcome with
    | .ok outcome => outcome.toJson
    | .error failure => failure.toJson
  .object [("message", handled.message.toJson), ("outcome", outcome),
    ("calls", .array (handled.calls.map LoadCall.toJson))]

def Heard.toJson (heard : Heard) : Json :=
  let notification := heard.notification
  .object [("group", .string heard.group), ("listener", .nat heard.listener),
    ("type", notification.type.toJson), ("key", .string notification.key),
    ("task", notification.task.toJson), ("state", notification.status.state.toJson),
    ("attempt", .nat notification.status.attempt.toNat)]

/-- The report of a sweep, or a word for one that found another sweep running. -/
def SweepReport.resultToJson : Except Failure (Option SweepReport) → Json
  | .ok (some report) => report.toJson
  | .ok none => .string "busy"
  | .error failure => failure.toJson

/-- A sweep, together with the sweeps that it started while it listed the due tasks. -/
def SweepReport.sweepToJson (swept : Except Failure (Option SweepReport))
    (nested : List (Option SweepReport)) : Json :=
  if nested.isEmpty then resultToJson swept
  else
    .object [("report", resultToJson swept),
      ("nested", .array (nested.map fun one => resultToJson (.ok one)))]

end CacheFill
