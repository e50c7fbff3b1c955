import CacheFill.Log
import CacheFill.Service.Sweep
import CacheFill.Wire.Cache
import CacheFill.Wire.Message

/-!
The JSON forms of what the service reports: outcomes, sweeps, counts, calls of loaders and log
lines.
-/

set_option autoImplicit false

namespace CacheFill

/-- A value that may be missing, so that a missing one differs from null. -/
def Json.option {α : Type} (encode : α → Json) : Option α → Json
  | none => .null
  | some value => .object [("some", encode value)]

/-- A value, or null if it is missing. -/
def Json.nullable {α : Type} (encode : α → Json) (value : Option α) : Json :=
  (value.map encode).getD .null

def SkipReason.name : SkipReason → String
  | .unknownTask => "UnknownTask"
  | .alreadyTerminal => "AlreadyTerminal"
  | .staleAttempt => "StaleAttempt"
  | .conflict => "Conflict"

def Outcome.toJson : Outcome → Json
  | .loaded => .string "loaded"
  | .retryScheduled attempt retryAt =>
      .object [("retry_scheduled",
        .object [("attempt", .nat attempt.toNat), ("retry_at", retryAt.toJson)])]
  | .failed attempt kind =>
      .object [("failed", .object [("attempt", .nat attempt.toNat), ("class", kind.toJson)])]
  | .skipped reason => .object [("skipped", .string reason.name)]

def SweepReport.toJson (report : SweepReport) : Json :=
  .object [("scanned", .nat report.scanned), ("redispatched", .nat report.redispatched),
    ("failed", .nat report.failed), ("skipped", .nat report.skipped),
    ("errors", .nat report.errors)]

def StateCounts.toJson (counts : StateCounts) : Json :=
  .object [("scheduled", .nat counts.scheduled), ("waits_for_retry", .nat counts.waitsForRetry),
    ("failed", .nat counts.failed), ("loaded", .nat counts.loaded)]

def LoadCall.toJson (call : LoadCall) : Json :=
  .object [("task", call.task.toJson), ("type", call.type.toJson), ("key", .string call.key),
    ("attempt", .nat call.attempt.toNat), ("resume", Json.option id call.resume)]

def RetryDecision.toJson : RetryDecision → Json
  | .retryAfter delay => .object [("retry_after", delay.toJson)]
  | .giveUp kind => .object [("give_up", kind.toJson)]

namespace Log

def Value.toJson : Value → Json
  | .text value => .string value
  | .number value => .nat value
  | .flag value => .bool value

/-- A line with its message among its fields. -/
def Line.toJson (line : Line) : Json :=
  .object [("level", .string line.level.name),
    ("fields", .object (("message", .string line.message) ::
      line.fields.map fun (name, value) => (name, value.toJson)))]

end Log

end CacheFill
