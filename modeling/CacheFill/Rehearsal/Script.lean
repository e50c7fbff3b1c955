import CacheFill.Json.Fields
import CacheFill.Loader
import CacheFill.Table
import CacheFill.Time.Duration

/-!
Scripts for loaders. A script says, call by call, what a loader does and how it answers.
-/

set_option autoImplicit false

namespace CacheFill

/-- What a scripted loader does before it answers. -/
inductive Preparation where
  | advanceClock (duration : Duration)
  | setClock (instant : Instant)
  | save (data : Json)
  | remove
  /-- Writes the record of the task anew as it is. -/
  | touch
  /-- Writes another status to the record of the task, without a resume state. -/
  | overwrite (status : Status)

inductive ScriptedAnswer where
  | finish
  | give (data : Json)
  /-- Gives back what the loader was called with. -/
  | echo
  | failTransient (message : String) (resume : Option Json)
  | failPermanent (message : String)
  /-- Loads page after page, one per call; gives the number of pages after the last one. -/
  | page (count : Nat)
  | panic (payload : Option String)

structure ScriptStep where
  preparations : List Preparation
  answer : ScriptedAnswer

structure Script where
  kind : LoaderKind
  steps : List ScriptStep
  /-- Keys with steps of their own. -/
  stepsOfKey : Table String (List ScriptStep)
  /-- The attempt chooses the step; otherwise the number of calls so far does. -/
  byAttempt : Bool
  calls : Nat

namespace Script

/-- The step of a call without anything to do: it succeeds without a value. -/
def idle : ScriptStep := ⟨[], .finish⟩

/-- The step for a call; the last one stands for all that follow. -/
def step (script : Script) (call : LoadCall) : ScriptStep :=
  let steps := (script.stepsOfKey.get? call.key).getD script.steps
  let number := if script.byAttempt then call.attempt.toNat - 1 else script.calls
  (steps[number]?.or steps.getLast?).getD idle

end Script

namespace ScriptedAnswer

/-- The page to load next: the one that the last call left behind, or else the first. -/
def nextPage (call : LoadCall) : Nat :=
  match call.resume with
  | some (.object members) =>
      ((members.lookup "page").bind Json.natural?).getD 0
  | _ => 0

/-- How a call ends that answers as scripted. A call that finishes gives no value. -/
def ending (answer : ScriptedAnswer) (call : LoadCall) : LoaderAnswer :=
  match answer with
  | .finish => .finished
  | .give data => .value data
  | .echo =>
      .value (.object [("attempt", .nat call.attempt.toNat), ("key", .string call.key),
        ("resume", call.resume.getD .null)])
  | .failTransient message resume => .failed (.transient message resume)
  | .failPermanent message => .failed (.permanent message)
  | .page count =>
      let page := nextPage call
      if page < count then
        .failed (.transient ("page " ++ toString page)
          (some (.object [("page", .nat (page + 1))])))
      else .value (.object [("pages", .nat page)])
  | .panic payload => .panicked payload

end ScriptedAnswer

end CacheFill
