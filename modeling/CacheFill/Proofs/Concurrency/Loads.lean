import CacheFill.Proofs.Concurrency.Attempts
import CacheFill.Proofs.Concurrency.Executions

/-!
Calls of loaders. Each execution of a task with a loader calls it once, and nothing else calls it, so
that the loader is called with attempts 1, 2 and so on, as often as the policy allows at most. Main
statement: `executed_once`.
-/

set_option autoImplicit false

namespace CacheFill

open Script

def Step.loaded? : Step → Option LoadCall
  | ⟨.callLoader load, _⟩ => some load
  | _ => none

variable {service : Service} {message : Dispatch} {past : List Step} {record : Record}

theorem Script.Handles.of_load {load : LoadCall}
    (handles : Handles service message past (.callLoader load)) :
    ∃ record attempt, record.status.admission message.attempt = .execute attempt ∧
      past = [found message record] ∧ load = record.load attempt := by
  cases handles with
  | load admitted registered => exact ⟨_, _, admitted, rfl, rfl⟩
  | report _ report => cases report

/-- Nobody but a call that handles a dispatch calls a loader. -/
theorem Service.Script.handles_of_load {operation : Operation} {load : LoadCall}
    (permitted : service.Script operation past (.callLoader load)) :
    ∃ message, operation = .handle message := by
  cases operation with
  | handle message => exact ⟨message, rfl⟩
  | read _ _ | save _ _ _ | remove _ _ => cases permitted
  | sweep => cases permitted
  | schedule _ _ _ =>
      cases permitted with
      | report _ report => cases report
  | update _ _ =>
      cases permitted with
      | schedule _ schedules =>
          cases schedules with
          | report _ report => cases report

namespace World

def loads (world : World) (task : TaskId) : List LoadCall :=
  (world.trace.filterMap Step.loaded?).filter fun load => load.task = task

variable {world later : World} {policies : RetryPolicies} {services : Service → Prop}
  {surroundings : Surroundings} {number : Nat} {call : Call} {step : Step}

/-- The loader calls of a task are among its executions, and the one that comes next is too. -/
structure Called (world : World) : Prop where
  among : ∀ task, (world.loads task).Sublist (world.executions task)
  next : ∀ number message record attempt, world.operation? number = some (.handle message) →
    record.status.admission message.attempt = .execute attempt →
      world.steps number = [found message record] → ∃ earlier,
        world.executions message.task = earlier ++ [record.load attempt] ∧
          (world.loads message.task).Sublist earlier

theorem Advances.loads (advances : world.Advances surroundings later number call step)
    (task : TaskId) :
    later.loads task = world.loads task ++ (step.loaded?.filter fun load => load.task = task).toList := by
  rw [World.loads, World.loads, advances.trace, List.filterMap_append, List.filter_append]
  cases loaded : step.loaded? with
  | none => simp [loaded]
  | some load =>
      by_cases same : load.task = task <;> simp [loaded, same, Option.filter]

theorem executes_of_found {attempt : UInt32}
    (handles : world.operation? number = some (.handle message))
    (admitted : record.status.admission message.attempt = .execute attempt)
    (steps : world.steps number = [found message record]) : world.Executes number message record :=
  ⟨handles, attempt, [], admitted, steps, by simp⟩

/-- A loader is called right after its execution began. -/
theorem Called.of_load (called : world.Called) (counted : world.Counted)
    (sound : world.Sound services) (scripted : world.Scripted)
    (advances : world.Advances surroundings later number call step) {load : LoadCall}
    (loads : step.loaded? = some load) : later.Called := by
  obtain ⟨access, answer⟩ := step
  cases access with
  | callLoader load' =>
      cases loads
      have permitted := scripted.permitted advances
      obtain ⟨message, handles⟩ := Service.Script.handles_of_load permitted
      rw [handles] at permitted
      obtain ⟨record, attempt, admitted, steps, rfl⟩ := Handles.of_load permitted
      have handles' : world.operation? number = some (.handle message) :=
        handles ▸ advances.operation?
      have stored := counted.unchanged number message record
        (executes_of_found handles' admitted steps)
      have isTask : (record.load attempt).task = message.task := sound.keyed _ _ stored
      have executions (task : TaskId) : later.executions task = world.executions task := by
        have began : world.began? task ⟨number, ⟨.callLoader (record.load attempt), answer⟩⟩ = none := by
          rw [began?, handles']
          simp only [Step.began?, ite_self]
        rw [advances.executions, began, Option.toList_none, List.append_nil]
      refine ⟨fun task => ?_, ?_⟩
      · rw [executions, advances.loads]
        by_cases same : message.task = task
        · subst same
          obtain ⟨earlier, isLast, among⟩ := called.next number message record attempt handles'
            admitted steps
          simpa [Step.loaded?, isTask, isLast, Option.filter] using among
        · have different : (record.load attempt).task ≠ task := fun isOther =>
            same (isTask.symm.trans isOther)
          simpa [Step.loaded?, different, Option.filter] using called.among task
      · intro other message' record' attempt' handlesOther admittedOther stepsOther
        rw [(advances.same_calls other).1] at handlesOther
        rw [advances.steps] at stepsOther
        split at stepsOther
        · next isOther =>
            rw [← isOther, steps] at stepsOther
            cases (List.cons.inj stepsOther).2
        · next different =>
            -- Another call that is about to call a loader does so for another task.
            have elsewhere : (record.load attempt).task ≠ message'.task := by
              intro same
              refine different (counted.sole scripted advances handles
                (executes_of_found handlesOther admittedOther stepsOther) ?_).symm
              exact same.symm.trans isTask
            obtain ⟨earlier, isLast, among⟩ := called.next other message' record' attempt'
              handlesOther admittedOther stepsOther
            refine ⟨earlier, (executions _).trans isLast, ?_⟩
            rw [advances.loads]
            simpa [Step.loaded?, elsewhere, Option.filter] using among
  | _ => cases loads

theorem Called.of_other (called : world.Called) (counted : world.Counted)
    (scripted : world.Scripted) (advances : world.Advances surroundings later number call step)
    (loads : step.loaded? = none) : later.Called := by
  have same (task : TaskId) : later.loads task = world.loads task := by
    simp [advances.loads, loads]
  refine ⟨fun task => ?_, ?_⟩
  · rw [same, advances.executions]
    exact (called.among task).trans (List.sublist_append_left _ _)
  · intro other message record attempt handles admitted steps
    rw [(advances.same_calls other).1] at handles
    rw [advances.steps] at steps
    rw [same, advances.executions]
    split at steps
    · next isOther =>
        subst isOther
        have first : world.steps number = [] := by
          have length := congrArg List.length steps
          simpa using length
        rw [first] at steps
        obtain ⟨rfl, _⟩ := List.cons.inj steps
        refine ⟨world.executions message.task, ?_, called.among message.task⟩
        rw [began?, handles]
        simp only [if_true, Step.began?_found message record admitted, Option.toList_some]
    · next different =>
        obtain ⟨earlier, isLast, among⟩ := called.next other message record attempt handles
          admitted steps
        refine ⟨earlier, ?_, among⟩
        have began : world.began? message.task ⟨number, step⟩ = none := by
          rw [began?, advances.operation?]
          cases operation : call.operation with
          | handle message' =>
              simp only
              split
              · next isTask =>
                  exact absurd (counted.sole scripted advances operation
                    (executes_of_found handles admitted steps) isTask.symm).symm different
              · rfl
          | _ => rfl
        rw [began, Option.toList_none, List.append_nil, isLast]

theorem Called.advance (called : world.Called) (counted : world.Counted)
    (sound : world.Sound services) (scripted : world.Scripted)
    (advances : world.Advances surroundings later number call step) : later.Called := by
  cases loads : step.loaded? with
  | none => exact called.of_other counted scripted advances loads
  | some load => exact called.of_load counted sound scripted advances loads

theorem Called.start (called : world.Called) (sound : world.Sound services) (service : Service)
    (operation : Operation) : (world.make (.start service operation)).Called := by
  refine ⟨fun task => ?_, ?_⟩
  · rw [executions_start sound]
    exact called.among task
  · intro number message record attempt handles admitted steps
    have within : number < world.calls.length := by
      refine Nat.lt_of_not_le fun beyond => ?_
      have nothing : world.steps number = [] := sound.steps_beyond beyond
      exact List.cons_ne_nil _ _ (steps.symm.trans nothing)
    rw [operation?_start within] at handles
    rw [executions_start sound]
    exact called.next number message record attempt handles admitted steps

theorem called_opening (backend : Backend) : (opening backend).Called := by
  constructor
  · intro task
    exact List.Sublist.refl _
  · intro number message record attempt handles
    cases handles

/-- What a status that is accounted for tells of is within the policy, the next execution of a
scheduled task included. -/
theorem executions_le_of_accounted {policy : RetryPolicy} {status : Status}
    (accounted : status.IsAccounted policy) :
    status.executions ≤ max policy.maxAttempts.toNat 1 ∧
      (status.state = .scheduled → status.executions + 1 ≤ max policy.maxAttempts.toNat 1) := by
  have bound {attempt : UInt32} (allowed : attempt ≤ max policy.maxAttempts 1) :
      attempt.toNat ≤ max policy.maxAttempts.toNat 1 := by
    rwa [UInt32.le_iff_toNat_le, Status.toNat_max_one] at allowed
  cases status with
  | scheduled status =>
      have within := bound accounted.execution.2
      rw [Status.toNat_max_one] at within
      simp only [Status.executions]
      omega
  | waiting status =>
      obtain ⟨_, below, _⟩ := accounted
      rw [UInt32.lt_iff_toNat_lt] at below
      simp only [Status.executions]
      exact ⟨by omega, fun scheduled => by cases scheduled⟩
  | failed status => exact ⟨bound accounted.2.1, fun scheduled => by cases scheduled⟩
  | loaded status => exact ⟨bound accounted.2, fun scheduled => by cases scheduled⟩

/-- A handling that has ended called the loader of the execution it began, if there is one. -/
theorem Scripted.called_of_ended (scripted : world.Scripted) (isCall : world.calls[number]? = some call)
    (ended : ¬ call.IsRunning) (handles : call.operation = .handle message) {attempt : UInt32}
    {own : List Step} (steps : world.steps number = found message record :: own)
    (admitted : record.status.admission message.attempt = .execute attempt) {kind : LoaderKind}
    (registered : call.service.loaders.get? record.type = some kind) :
    record.load attempt ∈ world.loads record.task := by
  obtain ⟨result, handled⟩ := scripted.ended isCall ended
  rw [handles] at handled
  obtain ⟨_, called⟩ := handled record attempt own steps admitted
  obtain ⟨answer, member⟩ := called kind registered
  have inTrace : (⟨.callLoader (record.load attempt), answer⟩ : Step) ∈ world.trace := by
    refine mem_trace_of_mem_steps (?_ : _ ∈ world.steps number)
    rw [steps]
    exact List.mem_cons_of_mem _ member
  refine List.mem_filter.mpr ⟨List.mem_filterMap.mpr ⟨_, inTrace, rfl⟩, ?_⟩
  simp [Record.load]

/-- Calls on services with the same retry policies schedule, handle and sweep tasks; the dispatches
that are handled are any, in any order, but those of one task are handled one at a time. Then the
executions of a task are numbered from 1 without a gap; unless one is under way, the status tells how
many there were; there are no more than the policy allows; and the loader is called once for each
that ended, unless it is missing, and never besides. -/
theorem executed_once {policies : RetryPolicies} {backend : Backend} {world : World}
    (reached : Reaches (fun world move =>
      MovesOf (·.policies = policies) world move ∧ world.OneAtATime move)
      (opening { backend with tasks := .empty }) world)
    (task : TaskId) :
    (∀ (k : Nat) (load : LoadCall), (world.executions task)[k]? = some load →
      load.attempt.toNat = k + 1) ∧
      (world.backend.tasks.get? task = none → world.executions task = []) ∧
      (∀ record, world.backend.tasks.get? task = some record →
        (¬ world.IsExecuting task →
          (world.executions task).length = record.status.executions) ∧
        (world.IsExecuting task → record.status.state = .scheduled ∧
          (world.executions task).length = record.status.executions + 1) ∧
        (world.executions task).length ≤ max (policies.get record.type).maxAttempts.toNat 1) ∧
      (world.loads task).Sublist (world.executions task) ∧
      ∀ (number : Nat) (call : Call) (message : Dispatch) (record : Record) (attempt : UInt32)
        (own : List Step) (kind : LoaderKind), world.calls[number]? = some call →
          ¬ call.IsRunning → call.operation = .handle message →
          world.steps number = found message record :: own →
          record.status.admission message.attempt = .execute attempt →
          call.service.loaders.get? record.type = some kind →
          record.load attempt ∈ world.loads record.task := by
  have kept : world.Counted ∧ world.Called := by
    refine reached.scripted_invariant (fun world => world.Counted ∧ world.Called)
      TaskStore.isKeyed_empty (fun _ _ fair => fair.1) ⟨counted_opening _ rfl, called_opening _⟩
      ?_ ?_ ?_
    · intro world service operation sound fair kept
      exact ⟨kept.1.start sound fair.2, kept.2.start sound service operation⟩
    · rintro world now ⟨counted, called⟩
      exact ⟨⟨counted.alone, counted.unchanged, counted.absent, counted.numbered, counted.counted⟩,
        ⟨called.among, called.next⟩⟩
    · rintro world later number surroundings call step sound scripted advances ⟨counted, called⟩
      exact ⟨counted.advance sound scripted advances, called.advance counted sound scripted advances⟩
  obtain ⟨counted, called⟩ := kept
  have scripted : world.Scripted := reached.scripted TaskStore.isKeyed_empty
  have accounted : world.Accounted policies := reached.accounted rfl fun _ _ fair => fair.1
  refine ⟨?_, counted.absent task, ?_, called.among task, ?_⟩
  · intro k load found
    have number := congrArg (·[k]?) (counted.numbered task)
    have within := (List.getElem?_eq_some_iff.mp found).1
    simp only [List.getElem?_map, found, Option.map_some, List.getElem?_range' within] at number
    have same := Option.some.inj number
    omega
  · intro record stored
    obtain ⟨during, between⟩ := counted.counted task record stored
    have within := executions_le_of_accounted (accounted.stored task record stored)
    by_cases executing : world.IsExecuting task
    · have scheduled : record.status.state = .scheduled := by
        obtain ⟨number, message, executed, executes, rfl⟩ := executing
        have same := counted.unchanged number message executed executes
        rw [stored] at same
        obtain rfl := Option.some.inj same
        exact executes.scheduled
      refine ⟨between, fun _ => ⟨scheduled, during executing⟩, ?_⟩
      rw [during executing]
      exact within.2 scheduled
    · refine ⟨between, fun is => absurd is executing, ?_⟩
      rw [between executing]
      exact within.1
  · intro number call message record attempt own kind isCall ended handles steps admitted registered
    exact scripted.called_of_ended isCall ended handles steps admitted registered

theorem executed_twice :
    Reaches (fun world move =>
        MovesOf (·.policies = Service.single.policies) world move ∧ world.OneAtATime move)
        (opening { (default : Backend) with tasks := .empty }) retried ∧
      (retried.loads default).Sublist (retried.executions default) ∧
      (retried.loads default).map (·.attempt) = [1, 2] := by
  have reached : Reaches (fun world move =>
      MovesOf (·.policies = Service.single.policies) world move ∧ world.OneAtATime move)
      (opening { (default : Backend) with tasks := .empty }) retried := by
    refine .run (AllFair.and ?_ (by decide +kernel))
    simp [AllFair, MovesOf, retrying, scheduling, List.replicate]
  exact ⟨reached, (executed_once reached default).2.2.2.1, by decide +kernel⟩

end World

end CacheFill
