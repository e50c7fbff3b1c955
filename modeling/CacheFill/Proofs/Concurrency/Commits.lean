import CacheFill.Proofs.Concurrency.Executions

/-!
The results of executions. A call that handles a dispatch writes at most once: over the record that it
read, and only if that is still stored, it puts the result of a run of the loader, as of a reading of
the clock after the run. Main statement: `Scripted.commit`.
-/

set_option autoImplicit false

namespace CacheFill

open Script

variable {service : Service} {message : Dispatch} {past : List Step}

namespace Script

theorem Handles.of_update {task : TaskId} {expected : Expected} {status : Status}
    {resume : Option Json}
    (handles : Handles service message past (.updateTask task expected status resume)) :
    ∃ old attempt own ended now lines,
      old.status.admission message.attempt = .execute attempt ∧
      service.Runs (old.load attempt) own ended ∧
      (∀ step ∈ lines, step.access.isReport = true) ∧
      past = found message old :: (own ++ ⟨.readClock, now⟩ :: lines) ∧
      task = old.task ∧ expected = .exact old.version ∧
      status = (service.result old attempt ended now).1.1 ∧
      resume = (service.result old attempt ended now).2 := by
  cases handles with
  | write now admitted runs logged =>
      exact ⟨_, _, _, _, now, _, admitted, runs, logged, rfl, rfl, rfl, rfl, rfl⟩
  | report _ report => cases report

/-- After its write a call only reports. -/
theorem Handles.after_write {access : Access} (handles : Handles service message past access)
    {step : Step} (member : step ∈ past) (writes : step.isWrite = true) :
    access = .readClock ∨ access.isReport = true := by
  cases handles with
  | read => cases member
  | clock => exact .inl rfl
  | report _ report => exact .inr report
  | load _ _ =>
      rw [List.mem_singleton.mp member] at writes
      cases writes
  | save data now admitted registered =>
      simp only [List.mem_cons, List.not_mem_nil, or_false] at member
      rcases member with rfl | rfl | rfl <;> cases writes
  | @write record attempt own lines ended now admitted runs logged =>
      have silent : step.isWrite = false := by
        simp only [List.mem_cons, List.mem_append] at member
        rcases member with rfl | own | rfl | report
        · rfl
        · exact runs.not_write step own
        · rfl
        · exact Step.not_write_of_report (logged step report)
      rw [silent] at writes
      cases writes

end Script

namespace Service

variable {operation : Operation}

/-- A record is created as of a reading of the clock. -/
theorem Script.of_insert {record : Record}
    (permitted : service.Script operation past (.insertTask record)) :
    ∃ type key task now, record = .created type key task now ∧ ⟨.readClock, now⟩ ∈ past := by
  have created {type : LoadType} {key : String} {task : TaskId} {before : List Step}
      (schedules : Schedules type key task before past (.insertTask record)) :
      ∃ now, record = .created type key task now ∧ ⟨.readClock, now⟩ ∈ past := by
    cases schedules with
    | insert now => exact ⟨now, rfl, by simp⟩
    | report _ report => cases report
  cases operation with
  | schedule type key task => exact ⟨type, key, task, created permitted⟩
  | update type key =>
      cases permitted with
      | schedule task schedules => exact ⟨type, key, task, created schedules⟩
  | handle _ =>
      cases permitted with
      | report _ report => cases report
  | read _ _ | save _ _ _ | remove _ _ => cases permitted
  | sweep => cases permitted

/-- A value is saved as of a reading of the clock. -/
theorem Script.of_save {slot : Slot} {value : CachedValue Json}
    (permitted : service.Script operation past (.saveValue slot value)) :
    ⟨.readClock, value.cachedAt⟩ ∈ past := by
  cases operation with
  | save type key data =>
      cases permitted with
      | save now => simp
  | handle _ =>
      cases permitted with
      | save data now admitted registered => simp
      | report _ report => cases report
  | read _ _ | remove _ _ => cases permitted
  | sweep => cases permitted
  | schedule _ _ _ =>
      cases permitted with
      | report _ report => cases report
  | update _ _ =>
      cases permitted with
      | schedule _ schedules =>
          cases schedules with
          | report _ report => cases report

end Service

namespace World

variable {world later : World} {services : Service → Prop} {surroundings : Surroundings}
  {number : Nat} {call : Call} {step : Step} {record : Record}

/-- What a call that handles a dispatch writes is the result of its run of the loader, over the record
that is stored. -/
theorem Scripted.commit (scripted : world.Scripted) (sound : world.Sound services)
    (advances : world.Advances surroundings later number call step)
    (handles : call.operation = .handle message) (written : step.written? = some record) :
    later.backend.tasks = world.backend.tasks.put record ∧
      ∃ old attempt own ended now lines,
        world.backend.tasks.get? record.task = some old ∧
        step = ⟨.updateTask record.task (.exact old.version) record.status record.resume,
          .ok record⟩ ∧
        old.status.admission message.attempt = .execute attempt ∧
        call.service.Runs (old.load attempt) own ended ∧
        (∀ line ∈ lines, line.access.isReport = true) ∧
        world.steps number = found message old :: (own ++ ⟨.readClock, now⟩ :: lines) ∧
        record = old.next (call.service.result old attempt ended now).1.1
          (call.service.result old attempt ended now).2 := by
  have permitted := scripted.permitted advances
  rw [handles] at permitted
  have effect := advances.effect
  generalize later.backend.tasks = tasks at effect ⊢
  cases effect with
  | commit _ stored _ _ _ _ _ _ _ _ _ isStored next isNext =>
      cases written
      refine ⟨rfl, ?_⟩
      obtain ⟨old, attempt, own, ended, now, lines, admitted, runs, logged, steps, task, version, status,
        resume⟩ := Handles.of_update permitted
      have seen : Seen (world.steps number) old := by
        rw [steps]
        exact ⟨_, List.mem_cons_self, .read _⟩
      obtain ⟨current, isCurrent, becomes⟩ := sound.known_steps number old seen
      rw [← task, isStored] at isCurrent
      cases isCurrent
      obtain rfl := becomes.eq_of_version (Expected.exact.inj version)
      have kept : record.task = old.task := by rw [isNext]; exact task
      refine ⟨old, attempt, own, ended, now, lines, ?_, ?_, admitted, runs, logged, steps, ?_⟩
      · rw [kept]; exact isStored
      · rw [kept]
      · rw [← status, ← resume, isNext]; rfl
  | insert _ _ schedules => rw [handles] at schedules; cases schedules
  | retry _ _ _ sweeps => rw [handles] at sweeps; cases sweeps
  | giveUp _ _ _ sweeps => rw [handles] at sweeps; cases sweeps
  | aside aside => rw [(Step.quiet_of_aside aside).1] at written; cases written
  | _ => cases written

/-- Only a call that handles a dispatch writes a task as loaded. -/
theorem Advances.handles_of_loaded (advances : world.Advances surroundings later number call step)
    (written : step.written? = some record)
    (loaded : record.status.state = .loaded) : ∃ message, call.operation = .handle message := by
  have effect := advances.effect
  generalize later.backend.tasks = tasks at effect
  cases effect with
  | commit message _ _ _ _ handles => exact ⟨message, handles⟩
  | insert given now _ isNew _ _ =>
      cases written
      simp only [isNew] at loaded
      cases loaded
  | retry old _ now _ _ _ _ _ _ next isNext =>
      cases written
      rw [isNext] at loaded
      cases loaded
  | giveUp old _ now _ _ _ _ _ next isNext _ _ =>
      cases written
      rw [isNext] at loaded
      cases loaded
  | aside aside =>
      rw [(Step.quiet_of_aside aside).1] at written
      cases written
  | _ => cases written

/-- The record that an event writes as the result of an execution of a task, with the call. -/
def commit? (world : World) (task : TaskId) (event : Event) : Option (Nat × Record) :=
  if (world.operation? event.call).any Operation.isHandle then
    (event.step.written?.filter fun record => record.task = task).map (event.call, ·)
  else none

/-- The executions of a task whose results were stored, each with its call, the oldest first. -/
def commits (world : World) (task : TaskId) : List (Nat × Record) :=
  world.history.filterMap (world.commit? task)

theorem Sound.commits_start (sound : world.Sound services) (service : Service)
    (operation : Operation) (task : TaskId) :
    (world.make (.start service operation)).commits task = world.commits task := by
  refine List.filterMap_congr fun event member => ?_
  rw [commit?, commit?, operation?_start (sound.numbered event member)]

theorem Advances.commits (advances : world.Advances surroundings later number call step)
    (task : TaskId) :
    later.commits task = world.commits task ++ (world.commit? task ⟨number, step⟩).toList := by
  have same : later.commit? task = world.commit? task := by
    funext event
    rw [World.commit?, World.commit?, (advances.same_calls event.call).1]
  rw [World.commits, World.commits, same, advances.history, List.filterMap_append]
  cases found : world.commit? task ⟨number, step⟩ <;> simp [found]

theorem Advances.commits_of_aside (advances : world.Advances surroundings later number call step)
    (aside : ∀ message, call.operation = .handle message → step.written? = none) (task : TaskId) :
    later.commits task = world.commits task := by
  have nothing : world.commit? task ⟨number, step⟩ = none := by
    rw [World.commit?, advances.operation?, Option.any_some]
    cases operation : call.operation with
    | handle message => simp [aside message operation]
    | _ => rfl
  rw [advances.commits, nothing, Option.toList_none, List.append_nil]

theorem Advances.commits_of_written (advances : world.Advances surroundings later number call step)
    (handles : call.operation = .handle message) (written : step.written? = some record)
    (task : TaskId) :
    later.commits task =
      if record.task = task then world.commits task ++ [(number, record)] else world.commits task := by
  have isHandle : call.operation.isHandle = true := by rw [handles]; rfl
  rw [advances.commits, World.commit?, advances.operation?, Option.any_some, isHandle, written]
  by_cases same : record.task = task <;> simp [same, Option.filter]

end World

end CacheFill
