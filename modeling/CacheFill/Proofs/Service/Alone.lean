import CacheFill.Proofs.Concurrency.Script

/-!
Operations that run while no other does. The clock and the buses are free at every access, and so is
what a loader does while it runs; the stores change by the accesses of the operation alone. Main
statements: what dispatching, announcing and running a loader leave behind.
-/

set_option autoImplicit false

namespace CacheFill

namespace Program

variable {σ α β : Type} {perform : Performer σ} {state : σ}

/-- Run from a state, the program ends as asked for. -/
def EndsIn (perform : Performer σ) (ends : Except Failure α → σ → Prop) (program : Program α)
    (state : σ) : Prop :=
  ends (program.run perform state).1 (program.run perform state).2

theorem EndsIn.mono {program : Program α} {first last : Except Failure α → σ → Prop}
    (endsIn : program.EndsIn perform first state)
    (weaker : ∀ result later, first result later → last result later) :
    program.EndsIn perform last state := weaker _ _ endsIn

/-- The next program goes on from where the first one ended well. -/
theorem EndsIn.bind {program : Program α} {next : α → Program β}
    {first : Except Failure α → σ → Prop} {ends : Except Failure β → σ → Prop}
    (endsIn : program.EndsIn perform first state)
    (goesOn : ∀ value later, first (.ok value) later → (next value).EndsIn perform ends later)
    (failed : ∀ failure later, first (.error failure) later → ends (.error failure) later) :
    (program.bind next).EndsIn perform ends state := by
  unfold EndsIn at endsIn ⊢
  rw [run_bind]
  generalize program.run perform state = ran at endsIn ⊢
  rcases ran with ⟨failure | value, later⟩
  · exact failed failure later endsIn
  · exact goesOn value later endsIn

/-- An attempt ends well whatever its program ends with. -/
theorem EndsIn.attempt {program : Program α} {first : Except Failure α → σ → Prop}
    (endsIn : program.EndsIn perform first state) :
    program.attempt.EndsIn perform
      (fun result later => ∃ ended, result = .ok ended ∧ first ended later) state := by
  unfold EndsIn
  rw [run_attempt]
  exact ⟨_, rfl, endsIn⟩

end Program

/-- What an operation meets at each of its accesses, which are counted from 0. -/
structure Environment where
  around : Nat → Surroundings
  clock : Nat → Instant
  /-- What a loader does while it runs. -/
  work : LoadCall → Backend → Backend

/-- An operation on its way: the backend, and the steps made so far, the oldest first. -/
structure Solo where
  backend : Backend
  steps : List Step

namespace Environment

/-- A loader that is called does its work. -/
def worked (environment : Environment) : Access → Backend → Backend
  | .callLoader call, backend => environment.work call backend
  | _, backend => backend

def perform (environment : Environment) : Performer Solo := fun access solo =>
  let number := solo.steps.length
  let (answer, backend) := (environment.around number).perform access
    { solo.backend with now := environment.clock number }
  (answer, ⟨environment.worked access backend, solo.steps ++ [⟨access, answer⟩]⟩)

/-- The buses are out at all accesses, for these reasons, or never. The time is always the same, and
loaders do nothing. -/
def outage (noDispatch noNotification : Option String) : Environment :=
  ⟨fun _ => { Surroundings.calm with noDispatch, noNotification }, fun _ => Instant.epoch, fun _ => id⟩

instance : Inhabited Environment := ⟨outage none none⟩

/-- The tasks that the loaders leave which were called. -/
inductive Leaves (environment : Environment) (tasks : TaskStore) :
    List LoadCall → TaskStore → Prop where
  | unasked : Leaves environment tasks [] tasks
  | asked (call : LoadCall) (backend : Backend) (same : backend.tasks = tasks) :
      Leaves environment tasks [call] (environment.work call backend).tasks

end Environment

namespace Step

/-- The loader that the step calls. -/
def load? (step : Step) : Option LoadCall :=
  match step.access with
  | .callLoader call => some call
  | _ => none

end Step

/-- Log lines call no loader and put nothing on a bus. -/
theorem Step.quiet_of_logs {own : List Step} (logs : ∀ step ∈ own, ∃ line, step.access = .log line) :
    own.filterMap Step.load? = [] ∧ own.filter Step.isPublish = [] := by
  constructor
  · apply List.filterMap_eq_nil_iff.mpr
    intro step member
    obtain ⟨line, access⟩ := logs step member
    rw [load?, access]
  · apply List.filter_eq_nil_iff.mpr
    intro step member
    obtain ⟨line, access⟩ := logs step member
    obtain ⟨_, answer⟩ := step
    cases access
    exact Bool.false_ne_true

/-- Neither does the access write tasks nor does it call a loader. -/
def Access.sparesTasks : Access → Bool
  | .insertTask _ | .updateTask _ _ _ _ | .callLoader _ => false
  | _ => true

namespace Solo

/-- The operation made certain steps on its way, which left the tasks as they were. -/
structure Passes (solo later : Solo) (own : List Step) : Prop where
  steps : later.steps = solo.steps ++ own
  tasks : later.backend.tasks = solo.backend.tasks

variable {environment : Environment} {solo later last : Solo} {own more : List Step}

theorem Passes.refl (solo : Solo) : solo.Passes solo [] := ⟨(List.append_nil _).symm, rfl⟩

theorem Passes.trans (first : solo.Passes later own) (second : later.Passes last more) :
    solo.Passes last (own ++ more) :=
  ⟨by rw [second.steps, first.steps, List.append_assoc], second.tasks.trans first.tasks⟩

theorem steps_perform {access : Access} {answer : access.Answer}
    (done : environment.perform access solo = (answer, later)) :
    later.steps = solo.steps ++ [⟨access, answer⟩] := by
  cases done
  rfl

theorem passes_perform (environment : Environment) (solo : Solo) {access : Access}
    (spares : access.sparesTasks = true) :
    solo.Passes (environment.perform access solo).2
      [⟨access, (environment.perform access solo).1⟩] := by
  refine ⟨rfl, ?_⟩
  cases access with
  | insertTask _ | updateTask _ _ _ _ | callLoader _ => cases spares
  | publish topic message =>
      simp only [Environment.perform, Surroundings.perform]
      split <;> rfl
  | announce topic notification =>
      simp only [Environment.perform, Surroundings.perform]
      split <;> rfl
  | _ => rfl

/-- A record that is found as it was read is written. -/
theorem update_perform {record : Record} {status : Status} {resume : Option Json}
    {answer : Except StoreError Record}
    (found : solo.backend.tasks.get? record.task = some record)
    (done : environment.perform (.updateTask record.task (.exact record.version) status resume) solo =
      (answer, later)) :
    answer = .ok (record.next status resume) ∧
      later.backend.tasks = solo.backend.tasks.put (record.next status resume) := by
  simp only [Environment.perform, Surroundings.perform, Backend.perform,
    TaskStore.update_found found, Backend.withTasks] at done
  cases done
  exact ⟨rfl, rfl⟩

end Solo

open Program

variable {α : Type} {service : Service} {environment : Environment} {solo : Solo}

theorem endsIn_access {access : Access} {next : access.Answer → Program α}
    {ends : Except Failure α → Solo → Prop}
    (goesOn : ∀ answer later, environment.perform access solo = (answer, later) →
      (access.sparesTasks = true → solo.Passes later [⟨access, answer⟩]) →
      (next answer).EndsIn environment.perform ends later) :
    (Program.perform access next).EndsIn environment.perform ends solo :=
  goesOn _ _ rfl (solo.passes_perform environment)

/-- A program that writes no tasks and calls no loader passes by. -/
theorem Program.Uses.endsIn {allowed : Access → Prop} {program : Program α}
    (uses : program.Uses allowed) (spares : ∀ access, allowed access → access.sparesTasks = true) :
    program.EndsIn environment.perform (fun _ later => ∃ own, solo.Passes later own ∧
      ∀ step ∈ own, allowed step.access) solo := by
  induction program generalizing solo with
  | done value => exact ⟨[], .refl solo, by simp⟩
  | fail failure => exact ⟨[], .refl solo, by simp⟩
  | perform access next ih =>
      refine endsIn_access fun answer later _ first => ?_
      refine (ih answer (uses.2 answer)).mono ?_
      rintro _ last ⟨own, passes, all⟩
      refine ⟨_, (first (spares access uses.1)).trans passes, ?_⟩
      intro step member
      rcases List.mem_cons.mp member with rfl | later
      · exact uses.1
      · exact all step later

namespace Service

/-- Writing log lines never fails. -/
theorem logAll_alone (lines : List Log.Line) :
    (logAll lines).EndsIn environment.perform (fun result later => result = .ok () ∧
      ∃ own, solo.Passes later own ∧ ∀ step ∈ own, ∃ line, step.access = .log line) solo := by
  have logs : (logAll lines).Uses fun access => ∃ line, access = .log line :=
    uses_logAll (fun line => ⟨line, rfl⟩) lines
  refine ⟨?_, logs.endsIn ?_⟩
  · induction lines generalizing solo with
    | nil => rfl
    | cons line rest ih => exact ih (logs.2 ())
  · rintro _ ⟨line, rfl⟩
    rfl

/-- A record is announced once, and announcing it fails just as the bus does. -/
theorem announceRecord_alone (record : Record) :
    (service.announceRecord record).EndsIn environment.perform (fun result later =>
      ∃ (answer : Except String Unit) (logs : List Step),
        solo.Passes later
          (⟨.announce (service.topics.notifications record.type) record.notification, answer⟩ :: logs) ∧
        (∀ step ∈ logs, ∃ line, step.access = .log line) ∧
        result = answer.mapError .publish) solo := by
  refine endsIn_access fun answer later _ told => ?_
  cases answer with
  | ok _ => exact ⟨_, [], told rfl, by simp, rfl⟩
  | error reason =>
      refine endsIn_access fun _ last _ logged => ?_
      exact ⟨_, _, (told rfl).trans (logged rfl), by simp, rfl⟩

/-- A dispatch is published once, and publishing it fails just as the bus does. -/
theorem dispatch_alone (message : Dispatch) :
    (service.dispatch message).EndsIn environment.perform (fun result later =>
      ∃ (answer : Except String Unit) (logs : List Step),
        solo.Passes later
          (⟨.publish (service.topics.dispatch message.type) message, answer⟩ :: logs) ∧
        (∀ step ∈ logs, ∃ line, step.access = .log line) ∧
        result = answer.mapError .publish) solo := by
  refine endsIn_access fun answer later _ sent => ?_
  cases answer with
  | ok _ => exact ⟨_, [], sent rfl, by simp, rfl⟩
  | error reason =>
      refine endsIn_access fun _ last _ logged => ?_
      exact ⟨_, _, (sent rfl).trans (logged rfl), by simp, rfl⟩

/-- Saving the value of a loader never fails. -/
theorem saveLoaded_alone (load : LoadCall) (data : Json) :
    (saveLoaded load data).EndsIn environment.perform (fun result later =>
      result = .ok (.ok ()) ∧ ∃ now kept, solo.Passes later
        [⟨.readClock, now⟩, ⟨.saveValue (load.type, load.key) ⟨data, now⟩, .ok kept⟩]) solo := by
  refine endsIn_access fun now later timed read => ?_
  refine endsIn_access fun answer last saved saves => ?_
  obtain ⟨kept, rfl⟩ : ∃ kept, answer = .ok kept := ⟨_, (congrArg Prod.fst saved).symm⟩
  exact ⟨rfl, now, kept, (read rfl).trans (saves rfl)⟩

/-- A loader is run as `Runs` says, and the tasks are what it leaves. -/
theorem runLoader_alone (load : LoadCall) :
    (service.runLoader load).EndsIn environment.perform (fun result later =>
      ∃ own ended, result = .ok ended ∧ service.Runs load own ended ∧
        later.steps = solo.steps ++ own ∧
        environment.Leaves solo.backend.tasks (own.filterMap Step.load?) later.backend.tasks)
      solo := by
  unfold runLoader
  split
  · next unknown =>
      exact ⟨[], _, rfl, .missing unknown, (List.append_nil _).symm, .unasked⟩
  · next kind registered =>
      refine endsIn_access fun answer later done _ => ?_
      have called : environment.Leaves solo.backend.tasks [load] later.backend.tasks := by
        cases done
        exact .asked load _ rfl
      have steps := Solo.steps_perform done
      cases answer with
      | finished => exact ⟨_, _, rfl, .finished kind registered, steps, called⟩
      | failed error => exact ⟨_, _, rfl, .failed kind error registered, steps, called⟩
      | panicked payload => exact ⟨_, _, rfl, .panicked kind payload registered, steps, called⟩
      | value data =>
          cases kind with
          | storing => exact ⟨_, _, rfl, .stored data registered, steps, called⟩
          | caching =>
              refine (saveLoaded_alone load data).mono fun result last ended => ?_
              obtain ⟨returned, now, kept, passes⟩ := ended
              refine ⟨_, _, returned, .saved data now kept registered, ?_, ?_⟩
              · rw [passes.steps, steps, List.append_assoc]
                rfl
              · rw [passes.tasks]
                exact called

end Service

end CacheFill
