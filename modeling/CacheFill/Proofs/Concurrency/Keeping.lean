import CacheFill.Proofs.Concurrency.Interleaving
import CacheFill.Proofs.Justified

/-!
Rules that calls keep beside the one they are judged by. A plain rule says what a call may do next by
the steps it has made and counts on nothing in return, so a call keeps it in any world. Main
statement: `Reaches.keeps`.
-/

set_option autoImplicit false

namespace CacheFill

/-- A rule that counts on nothing in return. -/
def Rule.plain (permits : List Step → Access → Prop) : Rule := ⟨permits, fun _ _ _ => True⟩

/-- Each step was permitted after the ones before it. -/
abbrev Permitted (permits : List Step → Access → Prop) (past : List Step) : Prop :=
  Justified (fun before step => permits before step.access) past

namespace Program

variable {α : Type} {permits : List Step → Access → Prop} {past : List Step}

theorem ensures_access {access : Access} {next : access.Answer → Program α}
    {ends : List Step → Except Failure α → Prop} (permitted : permits past access)
    (goesOn : ∀ answer, (next answer).Ensures (.plain permits) ends
      (past ++ [⟨access, answer⟩])) :
    (Program.perform access next).Ensures (.plain permits) ends past :=
  ⟨permitted, fun answer _ => goesOn answer⟩

/-- The program makes only accesses of a kind, whatever they answer. -/
def Uses (allowed : Access → Prop) : Program α → Prop
  | .done _ | .fail _ => True
  | .perform access next => allowed access ∧ ∀ answer, (next answer).Uses allowed

variable {β : Type} {allowed : Access → Prop}

theorem Uses.bind {program : Program α} {next : α → Program β} (first : program.Uses allowed)
    (rest : ∀ value, (next value).Uses allowed) : (program.bind next).Uses allowed := by
  induction program with
  | done value => exact rest value
  | fail failure => trivial
  | perform access continuation ih => exact ⟨first.1, fun answer => ih answer (first.2 answer)⟩

theorem Uses.attempt {program : Program α} (first : program.Uses allowed) :
    program.attempt.Uses allowed := by
  induction program with
  | done value => trivial
  | fail failure => trivial
  | perform access continuation ih => exact ⟨first.1, fun answer => ih answer (first.2 answer)⟩

theorem uses_ofStore (answer : Except StoreError α) : (ofStore answer).Uses allowed := by
  cases answer <;> trivial

theorem uses_ofBus (answer : Except String α) : (ofBus answer).Uses allowed := by
  cases answer <;> trivial

theorem Uses.ensures {program : Program α} {ends : List Step → Except Failure α → Prop}
    (uses : program.Uses allowed) (permitted : ∀ past access, allowed access → permits past access)
    (ended : ∀ own result, (∀ step ∈ own, allowed step.access) → ends (past ++ own) result) :
    program.Ensures (.plain permits) ends past := by
  induction program generalizing past with
  | done value => simpa using ended [] (.ok value) (by simp)
  | fail failure => simpa using ended [] (.error failure) (by simp)
  | perform access rest ih =>
      refine ⟨permitted _ _ uses.1, fun answer _ => ih answer (uses.2 answer) ?_⟩
      intro own result all
      have longer := ended (⟨access, answer⟩ :: own) result (by
        intro step member
        rcases List.mem_cons.mp member with rfl | later
        · exact uses.1
        · exact all step later)
      simpa using longer

end Program

namespace World

variable {permits : Service → Operation → List Step → Access → Prop}
  {ends : Service → Operation → List Step → Except Failure Reply → Prop}
  {world later : World} {services : Service → Prop} {surroundings : Surroundings} {number : Nat}
  {call : Call} {step : Step}

/-- Every call has kept the rule so far, and does so on the way to its end. -/
structure Keeps (permits : Service → Operation → List Step → Access → Prop)
    (ends : Service → Operation → List Step → Except Failure Reply → Prop) (world : World) :
    Prop where
  rest : ∀ (number : Nat) (call : Call), world.calls[number]? = some call →
    call.rest.Ensures (.plain (permits call.service call.operation))
      (ends call.service call.operation) (world.steps number)
  past : ∀ (number : Nat) (call : Call), world.calls[number]? = some call →
    Permitted (permits call.service call.operation) (world.steps number)

/-- The next step of a call is permitted. -/
theorem Keeps.permitted (keeps : world.Keeps permits ends)
    (advances : world.Advances surroundings later number call step) :
    permits call.service call.operation (world.steps number) step.access := by
  obtain ⟨next, rest, _⟩ := advances.performed
  have conduct := keeps.rest number call advances.called
  rw [rest] at conduct
  exact conduct.1

/-- A call that is not running has ended as it should. -/
theorem Keeps.ended (keeps : world.Keeps permits ends) (called : world.calls[number]? = some call)
    (notRunning : ¬ call.IsRunning) :
    ∃ result, ends call.service call.operation (world.steps number) result := by
  have conduct := keeps.rest number call called
  cases rest : call.rest with
  | done reply =>
      rw [rest] at conduct
      exact ⟨_, conduct⟩
  | fail failure =>
      rw [rest] at conduct
      exact ⟨_, conduct⟩
  | perform access next => exact absurd ⟨access, next, rest⟩ notRunning

/-- What a call has done was permitted after the steps it had made by then. -/
theorem Keeps.of_event (keeps : world.Keeps permits ends) (sound : world.Sound services)
    {event : Event} (member : event ∈ world.history) :
    ∃ call before after, world.calls[event.call]? = some call ∧
      world.steps event.call = before ++ event.step :: after ∧
      permits call.service call.operation before event.step.access := by
  have called := List.getElem?_eq_getElem (sound.numbered event member)
  obtain ⟨before, after, split⟩ := List.append_of_mem (mem_steps.mpr member)
  exact ⟨_, before, after, called, split, keeps.past event.call _ called before event.step after split⟩

theorem Keeps.start (keeps : world.Keeps permits ends) (sound : world.Sound services)
    (service : Service) (operation : Operation)
    (holds : (operation.program service).Ensures (.plain (permits service operation))
      (ends service operation) []) :
    (world.make (.start service operation)).Keeps permits ends := by
  have nothing : (world.make (.start service operation)).steps world.calls.length = [] :=
    sound.steps_beyond (Nat.le_refl _)
  refine ⟨fun number call called => ?_, fun number call called => ?_⟩
  · rcases call_of_start called with old | ⟨rfl, rfl⟩
    · exact keeps.rest number call old
    · rw [nothing]
      exact holds
  · rcases call_of_start called with old | ⟨rfl, rfl⟩
    · exact keeps.past number call old
    · rw [nothing]
      exact justified_nil _

theorem Keeps.advance (keeps : world.Keeps permits ends)
    (advances : world.Advances surroundings later number call step) :
    later.Keeps permits ends := by
  obtain ⟨next, rest, calls⟩ := advances.performed
  have within := (List.getElem?_eq_some_iff.mp advances.called).1
  have conduct := keeps.rest number call advances.called
  rw [rest] at conduct
  refine ⟨fun other found called => ?_, fun other found called => ?_⟩
  · rw [advances.steps]
    rcases advances.call_of called with ⟨rfl, _, _⟩ | ⟨different, old⟩
    · rw [calls, List.getElem?_set_self within] at called
      cases called
      rw [if_pos rfl]
      exact conduct.2 step.answer trivial
    · rw [if_neg fun same => different same.symm]
      exact keeps.rest other found old
  · rw [advances.steps]
    rcases advances.call_of called with ⟨rfl, service, operation⟩ | ⟨different, old⟩
    · rw [if_pos rfl, service, operation]
      exact (keeps.past _ call advances.called).snoc conduct.1
    · rw [if_neg fun same => different same.symm]
      exact keeps.past other found old

theorem Reaches.keeps {fair : World → Move → Prop} {first : World}
    (reached : Reaches fair first world) (sound : first.Sound services)
    (fits : ∀ world move, fair world move → MovesOf services world move)
    (holds : ∀ service operation, (Operation.program service operation).Ensures
      (.plain (permits service operation)) (ends service operation) [])
    (keeps : first.Keeps permits ends) : world.Keeps permits ends := by
  refine reached.invariant (Keeps permits ends) sound fits keeps ?_ ?_ ?_
  · exact fun _ service operation sound _ keeps =>
      keeps.start sound service operation (holds service operation)
  · exact fun _ _ keeps => ⟨keeps.rest, keeps.past⟩
  · exact fun _ _ _ _ _ _ _ _ advances keeps => keeps.advance advances

theorem keeps_opening (permits : Service → Operation → List Step → Access → Prop)
    (ends : Service → Operation → List Step → Except Failure Reply → Prop) (backend : Backend) :
    (opening backend).Keeps permits ends := by
  constructor <;> simp [opening]

end World

end CacheFill
