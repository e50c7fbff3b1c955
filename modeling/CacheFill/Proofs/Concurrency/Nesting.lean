import CacheFill.Proofs.Concurrency.Loads

/-!
Calls one after the other. While a loader runs it may make calls of its own, and these are over
before it answers; nothing else overlaps. So only the call that was started last is anywhere but at
its loader. Main statement: `Nested.at_loader`.
-/

set_option autoImplicit false

namespace CacheFill

open Script

namespace Call

/-- The loader that the call has called has not answered. -/
def AtLoader (call : Call) : Prop :=
  ∃ (load : LoadCall) (next : LoaderAnswer → Program Reply), call.rest = .perform (.callLoader load) next

instance (call : Call) : Decidable call.AtLoader :=
  match rest : call.rest with
  | .done _ => .isFalse fun ⟨_, _, same⟩ => by rw [rest] at same; cases same
  | .fail _ => .isFalse fun ⟨_, _, same⟩ => by rw [rest] at same; cases same
  | .perform access next =>
      match access with
      | .callLoader load => .isTrue ⟨load, next, rest⟩
      | .readClock | .insertTask _ | .readTask _ | .dueTasks _ _ | .updateTask _ _ _ _ | .readValue _
      | .saveValue _ _ | .removeValue _ | .readPointer _ | .putPointer _ _ | .removePointer _
      | .publish _ _ | .announce _ _ | .mint | .log _ | .enterSweep | .leaveSweep =>
          .isFalse fun ⟨_, _, same⟩ => by rw [rest] at same; cases same

end Call

namespace World

variable {world later : World} {services : Service → Prop} {surroundings : Surroundings}
  {number : Nat} {call : Call} {step : Step}

/-- Nothing goes on but loaders. -/
def Quiet (world : World) : Prop := ∀ call ∈ world.calls, call.IsRunning → call.AtLoader

instance (world : World) : Decidable world.Quiet :=
  inferInstanceAs (Decidable (∀ call ∈ world.calls, call.IsRunning → call.AtLoader))

/-- A call starts when nothing goes on but loaders, and goes on when all later calls are over. -/
def InTurn (world : World) : Move → Prop
  | .start _ _ => world.Quiet
  | .advance number _ => ∀ call ∈ world.calls.drop (number + 1), ¬ call.IsRunning
  | .setClock _ => True

instance (world : World) (move : Move) : Decidable (world.InTurn move) :=
  match move with
  | .start _ _ => inferInstanceAs (Decidable world.Quiet)
  | .advance number _ =>
      inferInstanceAs (Decidable (∀ call ∈ world.calls.drop (number + 1), ¬ call.IsRunning))
  | .setClock _ => .isTrue trivial

/-- Of two calls that are running, the earlier one is at its loader. -/
def Nested (world : World) : Prop :=
  ∀ (one other : Nat) (below above : Call), world.calls[one]? = some below →
    world.calls[other]? = some above → one < other → below.IsRunning → above.IsRunning →
      below.AtLoader

theorem not_running_above (inTurn : world.InTurn (.advance number surroundings)) {other : Nat}
    {above : Call} (called : world.calls[other]? = some above) (later : number < other) :
    ¬ above.IsRunning := by
  refine inTurn above (List.mem_of_getElem? (i := other - (number + 1)) ?_)
  rw [List.getElem?_drop, ← called]
  congr 1
  omega

/-- While a call makes a step in its turn, all others that are running are at their loaders. -/
theorem Nested.at_loader (nested : world.Nested) (inTurn : world.InTurn (.advance number surroundings))
    (advances : world.Advances surroundings later number call step) {other : Nat} {found : Call}
    (called : world.calls[other]? = some found) (different : other ≠ number)
    (running : found.IsRunning) : found.AtLoader := by
  rcases Nat.lt_or_gt_of_ne different with below | above
  · exact nested other number found call called advances.called below running advances.running
  · exact absurd running (not_running_above inTurn called above)

theorem nested_of_start {service : Service} {operation : Operation}
    (inTurn : world.InTurn (.start service operation)) :
    (world.make (.start service operation)).Nested := by
  intro one other below above isBelow isAbove before belowRuns aboveRuns
  rcases call_of_start isBelow with oldBelow | ⟨rfl, rfl⟩
  · exact inTurn below (List.mem_of_getElem? oldBelow) belowRuns
  · have within := (List.getElem?_eq_some_iff.mp isAbove).1
    simp only [make, List.length_append, List.length_singleton] at within
    omega

theorem Nested.advance (nested : world.Nested) (inTurn : world.InTurn (.advance number surroundings))
    (advances : world.Advances surroundings later number call step) : later.Nested := by
  intro one other below above isBelow isAbove before belowRuns aboveRuns
  have running := advances.running
  rcases advances.call_of isBelow with ⟨rfl, _⟩ | ⟨_, oldBelow⟩
  · rcases advances.call_of isAbove with ⟨rfl, _⟩ | ⟨_, oldAbove⟩
    · exact absurd before (Nat.lt_irrefl _)
    · exact absurd aboveRuns (not_running_above inTurn oldAbove before)
  · rcases advances.call_of isAbove with ⟨rfl, _⟩ | ⟨_, oldAbove⟩
    · exact nested one _ below call oldBelow advances.called before belowRuns running
    · exact nested one other below above oldBelow oldAbove before belowRuns aboveRuns

theorem nested_opening (backend : Backend) : (opening backend).Nested := by
  intro one other below above called
  cases called

theorem Reaches.nested {fair : World → Move → Prop} {backend : Backend} {world : World}
    (reached : Reaches fair (opening backend) world) (keyed : backend.tasks.IsKeyed)
    (inTurn : ∀ world move, fair world move → world.InTurn move) : world.Nested := by
  apply reached.invariant Nested (sound_opening (fun _ => True) backend keyed)
    (fun _ _ _ => movesOf_any) (nested_opening backend)
  · exact fun _ _ _ _ isFair _ => nested_of_start (inTurn _ _ isFair)
  · exact fun _ _ nested => nested
  · exact fun _ _ _ _ _ _ _ isFair advances nested => nested.advance (inTurn _ _ isFair) advances

/-- A call at its loader has found its task to be executed, and has done nothing else. -/
theorem Scripted.at_loader (scripted : world.Scripted) (called : world.calls[number]? = some call)
    (atLoader : call.AtLoader) :
    ∃ message record, call.operation = .handle message ∧
      world.steps number = [found message record] := by
  obtain ⟨load, next, rest⟩ := atLoader
  have conduct := scripted.rest number call called
  rw [rest] at conduct
  obtain ⟨permitted, _⟩ := conduct
  obtain ⟨message, handles⟩ := Service.Script.handles_of_load permitted
  rw [handles] at permitted
  obtain ⟨record, _, _, steps, _⟩ := Handles.of_load permitted
  exact ⟨message, record, handles, steps⟩

/-- When nothing goes on but loaders, a call that does not handle a dispatch is over. -/
theorem Quiet.not_running (quiet : world.Quiet) (scripted : world.Scripted)
    (called : world.calls[number]? = some call) (other : call.operation.isHandle = false) :
    ¬ call.IsRunning := by
  intro running
  have atLoader := quiet call (List.mem_of_getElem? called) running
  obtain ⟨message, _, handles, _⟩ := scripted.at_loader called atLoader
  rw [handles] at other
  cases other

end World

end CacheFill
