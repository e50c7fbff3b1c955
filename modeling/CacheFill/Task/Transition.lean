import CacheFill.Task.Status

/-!
Which status may follow which. Every writer checks its step here before it writes.
-/

set_option autoImplicit false

namespace CacheFill

/-- Why a step of a task does not pass. -/
inductive TransitionError where
  | notAllowed (current next : Status)
  | notWaiting (current : TaskState)
  /-- A fault and not an answer: no number comes after the last attempt, and the sum that looks for
  it is out of range. -/
  | overflow
  deriving DecidableEq, Repr

def Status.describe (status : Status) : String :=
  status.state.title ++ "(attempt " ++ toString status.attempt.toNat ++ ")"

def TransitionError.message : TransitionError → String
  | .notAllowed current next =>
      "invalid transition: " ++ current.describe ++ " -> " ++ next.describe
  | .notWaiting current => "invalid transition: " ++ current.title ++ " is not waiting for retry"
  | .overflow => "attempt to add with overflow"

namespace Status

/-- The number of the attempt after this one, unless it is the last that there is a number for. -/
def nextAttempt? (attempt : UInt32) : Option UInt32 :=
  if attempt.toNat + 1 < UInt32.size then some (attempt + 1) else none

theorem nextAttempt?_eq_some_iff {attempt next : UInt32} :
    nextAttempt? attempt = some next ↔ next.toNat = attempt.toNat + 1 := by
  have below := next.toNat_lt
  unfold nextAttempt?
  split
  next inRange =>
    rw [Option.some.injEq, ← UInt32.toNat_inj, UInt32.toNat_add, UInt32.toNat_one,
      Nat.mod_eq_of_lt inRange, eq_comm]
  next outOfRange =>
    refine iff_of_false (fun found => by cases found) fun same => outOfRange ?_
    rw [← same]
    exact below

/-- A scheduled task gets a result or waits; a waiting one fails, or is scheduled with the next
attempt number; nothing follows a result. There is no answer without a next number to compare
with. -/
def allows? : (current next : Status) → Option Bool
  | .scheduled _, .loaded _ => some true
  | .scheduled _, .waiting _ => some true
  | .scheduled _, .failed _ => some true
  | .waiting previous, .scheduled next => (nextAttempt? previous.attempt).map (next.attempt == ·)
  | .waiting _, .failed _ => some true
  | _, _ => some false

def checkTransition (current next : Status) : Except TransitionError Unit :=
  match current.allows? next with
  | some true => .ok ()
  | some false => .error (.notAllowed current next)
  | none => .error .overflow

end Status

end CacheFill
