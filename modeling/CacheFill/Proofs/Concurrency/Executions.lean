import CacheFill.Proofs.Concurrency.Script
import Mathlib.Data.List.Basic

/-!
Executions of a task whose dispatches are handled one at a time. A dispatch may come again, late, or
from nowhere; it begins an execution only if it asks for the attempt that the task is scheduled for,
and nothing but the end of that execution moves the task on. So executions are numbered without a
gap, and the status tells how many there were. Main statement: `Counted.advance`.
-/

set_option autoImplicit false

namespace CacheFill

open Script

/-- How many executions of its task a status tells of. -/
def Status.executions : Status → Nat
  | .scheduled status => status.attempt.toNat - 1
  | .waiting status => status.attempt.toNat
  | .failed status => status.attempt.toNat
  | .loaded status => status.attempt.toNat

def Operation.handled? : Operation → Option TaskId
  | .handle message => some message.task
  | _ => none

instance (call : Call) : Decidable call.IsRunning :=
  match rest : call.rest with
  | .done _ => .isFalse fun ⟨_, _, runs⟩ => by rw [rest] at runs; cases runs
  | .fail _ => .isFalse fun ⟨_, _, runs⟩ => by rw [rest] at runs; cases runs
  | .perform access next => .isTrue ⟨access, next, rest⟩

namespace Step

/-- What the loader is to be called with if the step shows that a dispatch is to be executed. -/
def began? (message : Dispatch) : Step → Option LoadCall
  | ⟨.readTask _, .ok (some record)⟩ =>
      match record.status.admission message.attempt with
      | .execute attempt => some (record.load attempt)
      | .finished _ | .stale => none
  | _ => none

end Step

/-- A call that handles a dispatch has found its task to be executed, and has not come to write the
result. -/
def Executing (message : Dispatch) (past : List Step) (record : Record) : Prop :=
  ∃ attempt own, record.status.admission message.attempt = .execute attempt ∧
    past = found message record :: own ∧ ∀ step ∈ own, step.isWrite = false

namespace World

/-- Handlings of one task do not overlap: none starts while another one goes on. -/
def OneAtATime (world : World) : Move → Prop
  | .start _ operation => ∀ task ∈ operation.handled?, ∀ call ∈ world.calls, call.IsRunning →
      task ∉ call.operation.handled?
  | .advance _ _ => True
  | .setClock _ => True

instance (world : World) (move : Move) : Decidable (world.OneAtATime move) := by
  cases move <;> simp only [OneAtATime] <;> infer_instance

/-- The execution of a task that an event begins, if it does. -/
def began? (world : World) (task : TaskId) (event : Event) : Option LoadCall :=
  match world.operation? event.call with
  | some (.handle message) => if message.task = task then event.step.began? message else none
  | _ => none

/-- The executions of a task that were begun, each with what its loader is to be called with. -/
def executions (world : World) (task : TaskId) : List LoadCall :=
  world.history.filterMap (world.began? task)

/-- The call has a dispatch in hand and executes its task, found as a record. -/
def Executes (world : World) (number : Nat) (message : Dispatch) (record : Record) : Prop :=
  world.operation? number = some (.handle message) ∧
    Executing message (world.steps number) record

def IsExecuting (world : World) (task : TaskId) : Prop :=
  ∃ number message record, world.Executes number message record ∧ message.task = task

end World

variable {service : Service} {message : Dispatch} {past : List Step} {record : Record}

namespace Script

theorem Handles.of_read {task : TaskId} (handles : Handles service message past (.readTask task)) :
    past = [] ∧ task = message.task := by
  cases handles with
  | read => exact ⟨rfl, rfl⟩
  | report _ report => cases report

end Script

theorem Service.Runs.not_write {load : LoadCall} {own : List Step} {ended : Except LoaderError Unit}
    (runs : service.Runs load own ended) : ∀ step ∈ own, step.isWrite = false := by
  intro step member
  cases runs with
  | missing _ => cases member
  | finished _ _ | stored _ _ | failed _ _ _ | panicked _ _ _ =>
      rw [List.mem_singleton.mp member]
      rfl
  | saved _ _ _ _ | unsaved _ _ _ _ =>
      simp only [List.mem_cons, List.not_mem_nil, or_false] at member
      rcases member with rfl | rfl | rfl <;> rfl

theorem Step.not_write_of_report {step : Step} (report : step.access.isReport = true) :
    step.isWrite = false := by
  obtain ⟨access, answer⟩ := step
  cases access <;> first | rfl | cases report

/-- Only the result of an execution is written, over the record that was found. -/
theorem Script.Handles.of_write {task : TaskId} {expected : Expected} {status : Status}
    {resume : Option Json}
    (handles : Handles service message past (.updateTask task expected status resume)) :
    ∃ record, Executing message past record ∧ task = record.task ∧
      expected = .exact record.version := by
  cases handles with
  | write now admitted runs logged =>
      refine ⟨_, ⟨_, _, admitted, rfl, ?_⟩, rfl, rfl⟩
      intro step member
      rcases List.mem_append.mp member with own | rest
      · exact runs.not_write step own
      · rcases List.mem_cons.mp rest with rfl | report
        · rfl
        · exact Step.not_write_of_report (logged step report)
  | report _ report => cases report

theorem Step.began?_found (message : Dispatch) (record : Record) {attempt : UInt32}
    (admitted : record.status.admission message.attempt = .execute attempt) :
    (found message record).began? message = some (record.load attempt) := by
  simp only [found, began?, admitted]

theorem Step.not_write_of_began? {step : Step} {load : LoadCall}
    (began : step.began? message = some load) : step.isWrite = false := by
  obtain ⟨access, answer⟩ := step
  cases access <;> first | rfl | cases began

theorem Executing.append_write {step : Step} (writes : step.isWrite = true) :
    ¬ Executing message (past ++ [step]) record := by
  rintro ⟨attempt, own, _, split, silent⟩
  cases past with
  | nil =>
      obtain ⟨rfl, _⟩ := List.cons.inj split
      cases writes
  | cons first rest =>
      obtain ⟨_, rfl⟩ := List.cons.inj split
      rw [silent step (by simp)] at writes
      cases writes

/-- A step that neither begins an execution nor ends one. -/
theorem executing_append {step : Step} (notBegun : past = [] → step.began? message = none)
    (notWrite : step.isWrite = false) :
    Executing message (past ++ [step]) record ↔ Executing message past record := by
  constructor
  · rintro ⟨attempt, own, admitted, split, silent⟩
    cases past with
    | nil =>
        obtain ⟨rfl, _⟩ := List.cons.inj split
        have began := notBegun rfl
        rw [Step.began?_found message record admitted] at began
        cases began
    | cons first rest =>
        obtain ⟨rfl, rfl⟩ := List.cons.inj split
        exact ⟨attempt, rest, admitted, rfl, fun other member => silent other (by simp [member])⟩
  · rintro ⟨attempt, own, admitted, rfl, silent⟩
    refine ⟨attempt, own ++ [step], admitted, rfl, ?_⟩
    intro other member
    rcases List.mem_append.mp member with earlier | last
    · exact silent other earlier
    · rw [List.mem_singleton.mp last]
      exact notWrite

/-- What a step of a call means for the executions of tasks. -/
inductive Turn (operation : Operation) (past : List Step) (tasks : TaskStore) (step : Step) :
    TaskStore → Prop where
  | begins (message : Dispatch) (record : Record) (attempt : UInt32)
      (handles : operation = .handle message) (first : past = [])
      (admitted : record.status.admission message.attempt = .execute attempt)
      (stored : tasks.get? message.task = some record) (reads : step = found message record) :
      Turn operation past tasks step tasks
  | ends (message : Dispatch) (record next : Record) (handles : operation = .handle message)
      (executing : Executing message past record) (writes : step.isWrite = true)
      (task : next.task = message.task)
      (counts : next.status.executions = record.status.executions + 1) :
      Turn operation past tasks step (tasks.put next)
  | creates (record : Record) (quiet : operation.isHandle = false)
      (absent : tasks.get? record.task = none) (none : record.status.executions = 0) :
      Turn operation past tasks step (tasks.put record)
  | moves (old next : Record) (quiet : operation.isHandle = false)
      (stored : tasks.get? next.task = some old) (waits : old.status.state = .waitsForRetry)
      (counts : next.status.executions = old.status.executions) :
      Turn operation past tasks step (tasks.put next)
  | aside (quiet : ∀ message, operation = .handle message →
        step.began? message = none ∧ step.isWrite = false) :
      Turn operation past tasks step tasks

namespace World

variable {world later : World} {services : Service → Prop}
  {surroundings : Surroundings} {number : Nat} {call : Call} {step : Step}

structure Counted (world : World) : Prop where
  alone : ∀ (first second : Nat) (one other : Call), world.calls[first]? = some one →
    world.calls[second]? = some other → one.IsRunning → other.IsRunning →
      ∀ message message', one.operation = .handle message → other.operation = .handle message' →
        message.task = message'.task → first = second
  unchanged : ∀ number message record, world.Executes number message record →
    world.backend.tasks.get? message.task = some record
  absent : ∀ task, world.backend.tasks.get? task = none → world.executions task = []
  numbered : ∀ task, (world.executions task).map (·.attempt.toNat) =
    List.range' 1 (world.executions task).length
  counted : ∀ task record, world.backend.tasks.get? task = some record →
    (world.IsExecuting task →
      (world.executions task).length = record.status.executions + 1) ∧
    (¬ world.IsExecuting task → (world.executions task).length = record.status.executions)

/-- Who executes a task is running: an execution does not end without a write. -/
theorem Scripted.running (scripted : world.Scripted)
    (executes : world.Executes number message record) :
    ∃ call, world.calls[number]? = some call ∧ call.operation = .handle message ∧
      call.IsRunning := by
  obtain ⟨handles, attempt, own, admitted, steps, silent⟩ := executes
  obtain ⟨call, called, operation⟩ := Option.map_eq_some_iff.mp handles
  refine ⟨call, called, operation, ?_⟩
  by_contra notRunning
  obtain ⟨result, ended⟩ := scripted.ended called notRunning
  rw [operation] at ended
  obtain ⟨⟨step, member, writes⟩, _⟩ := ended record attempt own steps admitted
  rw [silent step member] at writes
  cases writes

theorem Advances.running (advances : world.Advances surroundings later number call step) :
    call.IsRunning := by
  obtain ⟨next, rest, _⟩ := advances.performed
  exact ⟨_, next, rest⟩

/-- While a call handles a task, nobody else executes it. -/
theorem Counted.sole (counted : world.Counted) (scripted : world.Scripted)
    (advances : world.Advances surroundings later number call step) {other : Nat}
    {message' : Dispatch} (handles : call.operation = .handle message)
    (executes : world.Executes other message' record) (same : message'.task = message.task) :
    other = number := by
  obtain ⟨call', called, operation, running⟩ := scripted.running executes
  exact counted.alone other number call' call called advances.called running advances.running
    message' message operation handles same

theorem Advances.executes (advances : world.Advances surroundings later number call step)
    (other : Nat) (message : Dispatch) (record : Record) :
    later.Executes other message record ↔
      if number = other then
        call.operation = .handle message ∧ Executing message (world.steps number ++ [step]) record
      else world.Executes other message record := by
  unfold Executes
  rw [(advances.same_calls other).1, advances.steps]
  split
  · next same =>
      subst same
      rw [advances.operation?, Option.some.injEq]
  · exact Iff.rfl

theorem Advances.executions (advances : world.Advances surroundings later number call step)
    (task : TaskId) :
    later.executions task =
      world.executions task ++ (world.began? task ⟨number, step⟩).toList := by
  have same : later.began? task = world.began? task := by
    funext event
    simp only [World.began?, (advances.same_calls event.call).1]
  rw [World.executions, World.executions, same, advances.history, List.filterMap_append]
  cases began : world.began? task ⟨number, step⟩ <;> simp [began]

/-- A step of a call that handles one task leaves the executions of the others going on as they are. -/
theorem Advances.isExecuting_elsewhere
    (advances : world.Advances surroundings later number call step)
    (handles : call.operation = .handle message) {task : TaskId} (different : task ≠ message.task) :
    later.IsExecuting task ↔ world.IsExecuting task := by
  have own {other : Nat} {message' : Dispatch} (same : number = other)
      (operation : world.operation? other = some (.handle message')) : message'.task = message.task := by
    subst same
    rw [advances.operation?, handles] at operation
    cases operation
    rfl
  constructor
  · rintro ⟨other, message', record, executes, rfl⟩
    have operation := (advances.same_calls other).1.symm.trans executes.1
    rw [advances.executes, if_neg fun same => different (own same operation)] at executes
    exact ⟨other, message', record, executes, rfl⟩
  · rintro ⟨other, message', record, executes, rfl⟩
    refine ⟨other, message', record, (advances.executes other message' record).mpr ?_, rfl⟩
    rwa [if_neg fun same => different (own same executes.1)]

theorem Advances.executions_of_found
    (advances : world.Advances surroundings later number call (found message record))
    (handles : call.operation = .handle message) {attempt : UInt32}
    (admitted : record.status.admission message.attempt = .execute attempt) (task : TaskId) :
    later.executions task =
      if task = message.task then world.executions task ++ [record.load attempt]
      else world.executions task := by
  rw [advances.executions, began?, advances.operation?, handles]
  by_cases isTask : task = message.task
  · simp [isTask, Step.began?_found message record admitted]
  · simp [isTask, Ne.symm isTask]

/-- Each step takes one of these turns. What a call executes is as it was found, so its write goes
through. -/
theorem Counted.turn (counted : world.Counted) (sound : world.Sound services)
    (scripted : world.Scripted)
    (advances : world.Advances surroundings later number call step) :
    Turn call.operation (world.steps number) world.backend.tasks step later.backend.tasks := by
  have permitted := scripted.permitted advances
  have stored (message : Dispatch) (record : Record) (handles : call.operation = .handle message)
      (executing : Executing message (world.steps number) record) :
      world.backend.tasks.get? message.task = some record :=
    counted.unchanged number message record ⟨handles ▸ advances.operation?, executing⟩
  have effect := advances.effect
  generalize later.backend.tasks = tasks at effect
  cases effect with
  | aside aside =>
      refine .aside fun message _ => ?_
      obtain ⟨access, answer⟩ := step
      cases access <;> first | exact ⟨rfl, rfl⟩ | cases aside
  | read task =>
      by_cases begins : ∃ message record attempt, call.operation = .handle message ∧
          world.backend.tasks.get? task = some record ∧
            record.status.admission message.attempt = .execute attempt
      · obtain ⟨message, record, attempt, handles, isStored, admitted⟩ := begins
        rw [handles] at permitted
        obtain ⟨first, rfl⟩ := Handles.of_read permitted
        exact .begins message record attempt handles first admitted isStored (by rw [isStored, found])
      · refine .aside fun message handles => ⟨?_, rfl⟩
        cases isStored : world.backend.tasks.get? task with
        | none => rfl
        | some record =>
            simp only [Step.began?]
            split
            · next attempt admitted =>
                exact absurd ⟨message, record, attempt, handles, isStored, admitted⟩ begins
            · rfl
            · rfl
  | due now limit => exact .aside fun _ _ => ⟨rfl, rfl⟩
  | insert record now schedules new idle absent =>
      have quiet : call.operation.isHandle = false := by
        cases operation : call.operation <;> first | rfl | (rw [operation] at schedules; cases schedules)
      refine .creates _ quiet absent ?_
      simp only [new]
      rfl
  | present record idle => exact .aside fun _ _ => ⟨rfl, rfl⟩
  | commit message record scheduled ended now handles task status attempt idle seen isStored next isNext =>
      rw [handles] at permitted
      obtain ⟨executed, executing, sameTask, _⟩ := Handles.of_write permitted
      have same := stored message executed handles executing
      rw [← task, isStored] at same
      obtain rfl := Option.some.inj same
      refine .ends message record next handles executing rfl (by rw [isNext]; exact task) ?_
      have last : (max scheduled.attempt 1).toNat = scheduled.attempt.toNat - 1 + 1 := by
        rw [Status.toNat_max_one]
        omega
      rw [isNext, status]
      simp only [Record.next]
      rcases call.service.result_cases record (max scheduled.attempt 1) ended now with
        ⟨result, is, number⟩ | ⟨result, is, number⟩ | ⟨result, is, number⟩ <;>
      · rw [is]
        simp only [Status.executions, number, last]
  | retry record waiting now sweeps status allowed idle seen isStored next isNext =>
      subst isNext
      refine .moves record _ (by rw [sweeps]; rfl) isStored (by rw [status]; rfl) ?_
      simp only [Record.next, status, Status.executions, Service.toNat_succ_of_lt allowed]
      omega
  | giveUp record waiting now sweeps status exhausted seen isStored next isNext told announced =>
      subst isNext
      refine .moves record _ (by rw [sweeps]; rfl) isStored (by rw [status]; rfl) ?_
      simp only [Record.next, status]
      rfl
  | conflict record status resume actual settled seen changed =>
      refine .aside fun message handles => ⟨rfl, ?_⟩
      rw [handles] at permitted
      obtain ⟨executed, executing, sameTask, version⟩ := Handles.of_write permitted
      have isStored := stored message executed handles executing
      have keyed := sound.keyed _ _ isStored
      -- What was seen has become what is executed, and has its version: then it is still stored.
      obtain ⟨current, isCurrent, becomes⟩ := sound.known_steps number record seen
      rw [sameTask, keyed, isStored] at isCurrent
      obtain rfl := Option.some.inj isCurrent
      obtain rfl := becomes.eq_of_version (Expected.exact.inj version).symm
      rw [keyed, isStored] at changed
      exact absurd rfl changed
  | dispatch message answer owed => exact .aside fun _ _ => ⟨rfl, rfl⟩
  | announce notification answer owed => exact .aside fun _ _ => ⟨rfl, rfl⟩
  | announceAgain message record answer handles seen terminal idle =>
      exact .aside fun _ _ => ⟨rfl, rfl⟩
  | announceAhead record waiting now answer sweeps seen status exhausted idle =>
      exact .aside fun _ _ => ⟨rfl, rfl⟩

/-- A step that neither begins nor ends an execution leaves all executions as they are. -/
theorem Advances.same_executions (advances : world.Advances surroundings later number call step)
    (quiet : ∀ message, call.operation = .handle message →
      step.began? message = none ∧ step.isWrite = false) (task : TaskId) :
    later.executions task = world.executions task ∧
      (later.IsExecuting task ↔ world.IsExecuting task) ∧
        ∀ other message record, later.Executes other message record →
          world.Executes other message record := by
  have executes (other : Nat) (message : Dispatch) (record : Record) :
      later.Executes other message record ↔ world.Executes other message record := by
    rw [advances.executes]
    split
    · next same =>
        subst same
        unfold Executes
        rw [advances.operation?, Option.some.injEq]
        refine and_congr_right fun handles => ?_
        obtain ⟨notBegun, notWrite⟩ := quiet message handles
        exact executing_append (fun _ => notBegun) notWrite
    · exact Iff.rfl
  refine ⟨?_, ?_, fun other message record => (executes other message record).mp⟩
  · have began : world.began? task ⟨number, step⟩ = none := by
      simp only [World.began?, advances.operation?]
      split
      · next message handles =>
          split
          · exact (quiet message (Option.some.inj handles)).1
          · rfl
      · rfl
    rw [advances.executions, began, Option.toList_none, List.append_nil]
  · unfold IsExecuting
    simp only [executes]

theorem Executes.scheduled (executes : world.Executes number message record) :
    record.status.state = .scheduled := by
  obtain ⟨_, attempt, own, admitted, _⟩ := executes
  obtain ⟨scheduled, status, _⟩ := Status.of_admission_execute admitted
  rw [status]
  rfl

theorem Counted.alone_advance (counted : world.Counted)
    (advances : world.Advances surroundings later number call step) (first second : Nat)
    (one other : Call) (isOne : later.calls[first]? = some one)
    (isOther : later.calls[second]? = some other) (runs : one.IsRunning) (runsToo : other.IsRunning)
    (message message' : Dispatch) (handles : one.operation = .handle message)
    (handlesToo : other.operation = .handle message') (same : message.task = message'.task) :
    first = second := by
  have before {index : Nat} {found : Call} (called : later.calls[index]? = some found)
      (running : found.IsRunning) : ∃ old, world.calls[index]? = some old ∧ old.IsRunning ∧
        old.operation = found.operation := by
    rcases advances.call_of called with ⟨rfl, _, operation⟩ | ⟨_, old⟩
    · exact ⟨call, advances.called, advances.running, operation.symm⟩
    · exact ⟨found, old, running, rfl⟩
  obtain ⟨oldOne, calledOne, runningOne, operationOne⟩ := before isOne runs
  obtain ⟨oldOther, calledOther, runningOther, operationOther⟩ := before isOther runsToo
  exact counted.alone first second oldOne oldOther calledOne calledOther runningOne runningOther
    message message' (operationOne.trans handles) (operationOther.trans handlesToo) same

/-- A record may be put where nobody executes its task, if it tells of the executions there were. -/
theorem Counted.of_put (counted : world.Counted)
    (advances : world.Advances surroundings later number call step) {next : Record}
    (same : later.backend.tasks = world.backend.tasks.put next)
    (executions : ∀ task, later.executions task = world.executions task)
    (idle : ¬ later.IsExecuting next.task)
    (elsewhere : ∀ task, task ≠ next.task → (later.IsExecuting task ↔ world.IsExecuting task))
    (executes : ∀ other message record, later.Executes other message record →
      world.Executes other message record)
    (count : (world.executions next.task).length = next.status.executions) :
    later.Counted := by
  refine ⟨counted.alone_advance advances, ?_, ?_, ?_, ?_⟩
  · intro other message record executing
    have different : message.task ≠ next.task := fun task =>
      idle ⟨other, message, record, executing, task⟩
    rw [same, TaskStore.get?_put, if_neg different]
    exact counted.unchanged other message record (executes other message record executing)
  · intro task missing
    rw [same, TaskStore.get?_put] at missing
    split at missing
    · cases missing
    · rw [executions]
      exact counted.absent task missing
  · intro task
    rw [executions]
    exact counted.numbered task
  · intro task record isStored
    rw [same, TaskStore.get?_put] at isStored
    rw [executions]
    split at isStored
    · next isTask =>
        subst isTask
        cases isStored
        exact ⟨fun executing => absurd executing idle, fun _ => count⟩
    · next different =>
        rw [elsewhere task different]
        exact counted.counted task record isStored

theorem Counted.of_begins (counted : world.Counted) (scripted : world.Scripted)
    (advances : world.Advances surroundings later number call (found message record))
    {attempt : UInt32}
    (handles : call.operation = .handle message) (first : world.steps number = [])
    (admitted : record.status.admission message.attempt = .execute attempt)
    (stored : world.backend.tasks.get? message.task = some record)
    (same : later.backend.tasks = world.backend.tasks) : later.Counted := by
  -- The call has made no step yet, and nobody else handles the task.
  have idle : ¬ world.IsExecuting message.task := by
    rintro ⟨other, message', record', executes, task⟩
    obtain rfl := counted.sole scripted advances handles executes task
    obtain ⟨_, _, _, _, split, _⟩ := executes
    rw [first] at split
    cases split
  have begun : later.Executes number message record := by
    rw [advances.executes, if_pos rfl, first]
    exact ⟨handles, attempt, [], admitted, rfl, by simp⟩
  have executes (other : Nat) (message' : Dispatch) (record' : Record)
      (executing : later.Executes other message' record') :
      message' = message ∧ record' = record ∨ world.Executes other message' record' := by
    rw [advances.executes] at executing
    split at executing
    · obtain ⟨handles', _, _, _, split, _⟩ := executing
      obtain rfl := Operation.handle.inj (handles'.symm.trans handles)
      rw [first] at split
      obtain ⟨reads', _⟩ := List.cons.inj split
      exact .inl ⟨rfl, (Option.some.inj (Except.ok.inj (eq_of_heq (Step.mk.inj reads').2))).symm⟩
    · exact .inr executing
  have count := (counted.counted _ record stored).2 idle
  refine ⟨counted.alone_advance advances, ?_, ?_, ?_, ?_⟩
  · intro other message' record' executing
    rw [same]
    rcases executes other message' record' executing with ⟨rfl, rfl⟩ | before
    · exact stored
    · exact counted.unchanged other message' record' before
  · intro task missing
    rw [same] at missing
    rw [advances.executions_of_found handles admitted, if_neg]
    · exact counted.absent task missing
    · rintro rfl
      rw [stored] at missing
      cases missing
  · intro task
    rw [advances.executions_of_found handles admitted]
    split
    · next isTask =>
        subst isTask
        -- A scheduled task tells of one execution less than the attempt that it is admitted for.
        obtain ⟨scheduled, status, _, isAttempt⟩ := Status.of_admission_execute admitted
        rw [List.map_append, counted.numbered, List.length_append, List.length_singleton,
          List.range'_1_concat, count, status, List.map_singleton, Record.load, isAttempt,
          Status.toNat_max_one, Status.executions]
        congr 2
        omega
    · exact counted.numbered task
  · intro task record' isStored
    rw [same] at isStored
    rw [advances.executions_of_found handles admitted]
    split
    · next isTask =>
        subst isTask
        rw [stored] at isStored
        cases isStored
        refine ⟨fun _ => ?_, fun notExecuting =>
          absurd ⟨number, message, record, begun, rfl⟩ notExecuting⟩
        rw [List.length_append, List.length_singleton, count]
    · next different =>
        rw [advances.isExecuting_elsewhere handles different]
        exact counted.counted task record' isStored

theorem Counted.of_ends (counted : world.Counted) (scripted : world.Scripted)
    (advances : world.Advances surroundings later number call step) {next : Record}
    (handles : call.operation = .handle message)
    (executing : Executing message (world.steps number) record) (writes : step.isWrite = true)
    (task : next.task = message.task)
    (counts : next.status.executions = record.status.executions + 1)
    (same : later.backend.tasks = world.backend.tasks.put next) : later.Counted := by
  have before : world.Executes number message record := ⟨handles ▸ advances.operation?, executing⟩
  have executes (other : Nat) (message' : Dispatch) (record' : Record) :
      later.Executes other message' record' ↔
        other ≠ number ∧ world.Executes other message' record' := by
    rw [advances.executes]
    split
    · next isOther =>
        subst isOther
        refine iff_of_false (fun ends => Executing.append_write writes ends.2) ?_
        rintro ⟨different, _⟩
        exact different rfl
    · next different =>
        exact (and_iff_right fun isOther => different isOther.symm).symm
  refine counted.of_put advances same ?_ ?_ ?_ ?_ ?_
  · intro task
    rw [advances.executions]
    have began : world.began? task ⟨number, step⟩ = none := by
      simp only [began?, advances.operation?, handles]
      split
      · cases begun : step.began? message with
        | none => rfl
        | some load =>
            rw [Step.not_write_of_began? begun] at writes
            cases writes
      · rfl
    rw [began, Option.toList_none, List.append_nil]
  · rintro ⟨other, message', record', executes', sameTask⟩
    obtain ⟨different, executes'⟩ := (executes other message' record').mp executes'
    exact different (counted.sole scripted advances handles executes' (sameTask.trans task))
  · intro other different
    exact advances.isExecuting_elsewhere handles (task ▸ different)
  · exact fun other message' record' executes' => ((executes other message' record').mp executes').2
  · rw [task, counts]
    exact (counted.counted _ record (counted.unchanged _ _ _ before)).1
      ⟨number, message, record, before, rfl⟩

theorem Counted.advance (counted : world.Counted) (sound : world.Sound services)
    (scripted : world.Scripted)
    (advances : world.Advances surroundings later number call step) : later.Counted := by
  have turn := counted.turn sound scripted advances
  generalize same : later.backend.tasks = tasks at turn
  have silent (quiet : call.operation.isHandle = false) (message : Dispatch)
      (handles : call.operation = .handle message) :
      step.began? message = none ∧ step.isWrite = false := by
    rw [handles] at quiet
    cases quiet
  cases turn with
  | begins message record attempt handles first admitted stored reads =>
      subst reads
      exact counted.of_begins scripted advances handles first admitted stored same
  | ends message record next handles executing writes task counts =>
      exact counted.of_ends scripted advances handles executing writes task counts same
  | creates record quiet absent none =>
      have executions := advances.same_executions (silent quiet)
      refine counted.of_put advances same (fun task => (executions task).1) ?_
        (fun task _ => (executions task).2.1) (executions record.task).2.2 ?_
      · rw [(executions record.task).2.1]
        rintro ⟨other, message, record', executes, task⟩
        have stored := counted.unchanged other message record' executes
        rw [task, absent] at stored
        cases stored
      · rw [counted.absent record.task absent, none]
        rfl
  | moves old next quiet stored waits counts =>
      have executions := advances.same_executions (silent quiet)
      -- The task waited for a retry, while a task that is executed is scheduled.
      have idle : ¬ world.IsExecuting next.task := by
        rintro ⟨other, message, record', executes, task⟩
        have isOld := counted.unchanged other message record' executes
        rw [task, stored] at isOld
        obtain rfl := Option.some.inj isOld
        rw [executes.scheduled] at waits
        cases waits
      refine counted.of_put advances same (fun task => (executions task).1) ?_
        (fun task _ => (executions task).2.1) (executions next.task).2.2 ?_
      · rwa [(executions next.task).2.1]
      · rw [counts]
        exact (counted.counted next.task old stored).2 idle
  | aside quiet =>
      have executions := advances.same_executions quiet
      refine ⟨counted.alone_advance advances, ?_, ?_, ?_, ?_⟩
      · intro other message record executes
        rw [same]
        exact counted.unchanged other message record
          ((executions message.task).2.2 other message record executes)
      · intro task missing
        rw [same] at missing
        rw [(executions task).1]
        exact counted.absent task missing
      · intro task
        rw [(executions task).1]
        exact counted.numbered task
      · intro task record stored
        rw [same] at stored
        rw [(executions task).1, (executions task).2.1]
        exact counted.counted task record stored

theorem executes_start (sound : world.Sound services) (service : Service) (operation : Operation)
    (other : Nat) (message : Dispatch) (record : Record) :
    (world.make (.start service operation)).Executes other message record ↔
      world.Executes other message record := by
  unfold Executes
  by_cases within : other < world.calls.length
  · rw [operation?_start within]
    exact Iff.rfl
  · have nothing : world.steps other = [] := sound.steps_beyond (Nat.le_of_not_lt within)
    have same : (world.make (.start service operation)).steps other = world.steps other := rfl
    rw [same, nothing]
    constructor <;> rintro ⟨_, _, _, _, split, _⟩ <;> cases split

theorem executions_start (sound : world.Sound services) (service : Service) (operation : Operation)
    (task : TaskId) :
    (world.make (.start service operation)).executions task = world.executions task := by
  apply List.filterMap_congr
  intro event member
  rw [began?, operation?_start (sound.numbered event member)]
  rfl

theorem Counted.start (counted : world.Counted) (sound : world.Sound services) {service : Service}
    {operation : Operation} (fair : world.OneAtATime (.start service operation)) :
    (world.make (.start service operation)).Counted := by
  have executing (task : TaskId) : (world.make (.start service operation)).IsExecuting task ↔
      world.IsExecuting task := by
    unfold IsExecuting
    simp only [executes_start sound]
  refine ⟨?_, ?_, ?_, ?_, ?_⟩
  · intro first second one other isOne isOther runs runsToo message message' handles handlesToo same
    rcases call_of_start isOne with oldOne | ⟨rfl, rfl⟩
    · rcases call_of_start isOther with oldOther | ⟨rfl, rfl⟩
      · exact counted.alone first second one other oldOne oldOther runs runsToo message message'
          handles handlesToo same
      · have isNew : message'.task ∈ operation.handled? := congrArg Operation.handled? handlesToo
        refine absurd ?_ (fair message'.task isNew one (List.mem_of_getElem? oldOne) runs)
        rw [handles, ← same]
        rfl
    · rcases call_of_start isOther with oldOther | ⟨rfl, _⟩
      · have isNew : message.task ∈ operation.handled? := congrArg Operation.handled? handles
        refine absurd ?_ (fair message.task isNew other (List.mem_of_getElem? oldOther) runsToo)
        rw [handlesToo, same]
        rfl
      · rfl
  · intro other message record executes
    exact counted.unchanged other message record
      ((executes_start sound service operation other message record).mp executes)
  · intro task missing
    rw [executions_start sound]
    exact counted.absent task missing
  · intro task
    rw [executions_start sound]
    exact counted.numbered task
  · intro task record stored
    rw [executions_start sound, executing]
    exact counted.counted task record stored

theorem counted_opening (backend : Backend) (empty : backend.tasks = .empty) :
    (opening backend).Counted := by
  constructor
  · intro first second one other isOne
    cases isOne
  · rintro other message record ⟨handles, _⟩
    cases handles
  · intro task _
    rfl
  · intro task
    rfl
  · intro task record stored
    rw [opening, empty] at stored
    cases stored

end World

end CacheFill
