/-!
A guard that lets one run in at a time. A run that starts while another one is going on is refused;
a run ends by returning or by a panic.
-/

set_option autoImplicit false

namespace CacheFill

structure RunGuard where
  isRunning : Bool
  deriving DecidableEq, Repr

namespace RunGuard

def idle : RunGuard := ⟨false⟩

instance : Inhabited RunGuard := ⟨idle⟩

/-- Starts a run; says whether it was let in. -/
def enter (guard : RunGuard) : Bool × RunGuard := (!guard.isRunning, ⟨true⟩)

/-- Ends the run. -/
def leave (_ : RunGuard) : RunGuard := idle

/-- What happens at a guard, from inside of a run or from outside of all. -/
inductive Action where
  | look
  | run (inside : List Action)
  | panic (inside : List Action)

inductive Seen where
  | running (isRunning : Bool)
  | ran (inside : List Seen)
  | refused
  | panicked

mutual

def act (guard : RunGuard) : Action → Seen × RunGuard
  | .look => (.running guard.isRunning, guard)
  | .run inside =>
      match guard.enter with
      | (false, guard) => (.refused, guard)
      | (true, guard) =>
          let (seen, guard) := actAll guard inside
          (.ran seen, guard.leave)
  | .panic inside =>
      match guard.enter with
      | (false, guard) => (.refused, guard)
      | (true, guard) => (.panicked, (actAll guard inside).2.leave)

def actAll (guard : RunGuard) : List Action → List Seen × RunGuard
  | [] => ([], guard)
  | action :: rest =>
      let (seen, guard) := act guard action
      let (more, guard) := actAll guard rest
      (seen :: more, guard)

end

end RunGuard

end CacheFill
