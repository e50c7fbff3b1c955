import CacheFill.Proofs.Cache.Turns
import CacheFill.Proofs.Concurrency.Commits
import CacheFill.Proofs.Concurrency.Sweeping

/-!
Times. The clock is only ever read, so what is stored carries readings of it, and as long as it does
not go back none of them is ahead of it. A retry waits from the reading that ended the failed
execution, and what a sweep writes over a record that it found due is dated by a later reading than
the one it was found due by. Main statement: `retries_punctual`.
-/

set_option autoImplicit false

namespace CacheFill

open Script

/-- The reading of the clock that dates a status. -/
def Status.stampedAt? : Status → Option Instant
  | .scheduled status => some status.scheduledAt
  | .waiting _ => none
  | .failed status => some status.failedAt
  | .loaded status => some status.loadedAt

def Step.reading? : Step → Option Instant
  | ⟨.readClock, now⟩ => some now
  | _ => none

theorem Step.eq_of_reading? {step : Step} {now : Instant} (reading : step.reading? = some now) :
    step = ⟨.readClock, now⟩ := by
  obtain ⟨access, answer⟩ := step
  cases access <;> cases reading
  rfl

namespace Service

variable {service : Service} {record : Record} {attempt : UInt32} {ended : Except LoaderError Unit}
  {now : Instant}

theorem result_stamped {stamp : Instant}
    (stamped : (service.result record attempt ended now).1.1.stampedAt? = some stamp) :
    stamp = now := by
  cases ended with
  | ok _ => exact (Option.some.inj stamped).symm
  | error error =>
      simp only [result, failureStatus] at stamped
      split at stamped
      · split at stamped
        · cases stamped
        · exact (Option.some.inj stamped).symm
      · exact (Option.some.inj stamped).symm

/-- A retry waits for the delay of the policy, from the reading that ended the execution. -/
theorem result_waiting {waiting : Waiting}
    (status : (service.result record attempt ended now).1.1 = .waiting waiting) :
    now.add? ((service.policies.get record.type).delayAfter waiting.attempt) =
      some waiting.retryAt := by
  cases ended with
  | ok _ => cases status
  | error error =>
      simp only [result, failureStatus] at status
      split at status
      · next delay decided =>
          split at status
          · next retryAt later =>
              cases status
              rw [← later]
              congr 1
              cases kind : error.kind <;> simp only [kind, RetryPolicy.decide] at decided
              · split at decided
                · cases decided
                  rfl
                · cases decided
              · cases decided
              · cases decided
          · cases status
      · cases status

end Service

theorem Surroundings.now_of_perform (surroundings : Surroundings) (backend : Backend)
    (access : Access) : (surroundings.perform access backend).2.now = backend.now := by
  cases access with
  | publish topic message => simp only [perform]; split <;> rfl
  | announce topic notification => simp only [perform]; split <;> rfl
  | insertTask record =>
      have performed : (surroundings.perform (.insertTask record) backend).2 =
        (backend.withTasks (backend.tasks.insert record)).2 := rfl
      rw [performed]
      cases backend.tasks.insert record <;> rfl
  | updateTask task expected status resume =>
      have performed : (surroundings.perform (.updateTask task expected status resume) backend).2 =
        (backend.withTasks (backend.tasks.update task expected status resume)).2 := rfl
      rw [performed]
      cases backend.tasks.update task expected status resume <;> rfl
  | _ => rfl

/-- Which record a sweep writes over, and what it dates the write by. -/
theorem Script.Sweeps.of_update {past : List Step} {task : TaskId} {expected : Expected}
    {status : Status} {resume : Option Json}
    (sweeps : Sweeps past (.updateTask task expected status resume)) :
    ∃ now, ⟨.readClock, now⟩ ∈ past ∧ status.stampedAt? = some now ∧
      (status.state = .scheduled → ∃ before start due record,
        past = before ++ [⟨.readClock, now⟩] ∧ Lists before start due ∧ record ∈ due ∧
          task = record.task ∧ expected = .exact record.version) := by
  cases sweeps with
  | retry before start now lists listed _ steps =>
      exact ⟨now, by simp [steps], rfl, fun _ =>
        ⟨before, start, _, _, steps, lists, listed, rfl, rfl⟩⟩
  | giveUp now read => exact ⟨now, read, rfl, fun scheduled => by cases scheduled⟩
  | report report => cases report

namespace World

variable {world later : World} {services : Service → Prop} {surroundings : Surroundings}
  {number : Nat} {call : Call} {step : Step} {record : Record} {task : TaskId}

/-- Moves by which the clock does not go back. -/
def Forward (world : World) : Move → Prop
  | .setClock now => world.backend.now ≤ now
  | .start _ _ | .advance _ _ => True

instance (world : World) (move : Move) : Decidable (world.Forward move) :=
  match move with
  | .setClock now => inferInstanceAs (Decidable (world.backend.now ≤ now))
  | .start _ _ | .advance _ _ => .isTrue trivial

theorem Advances.now (advances : world.Advances surroundings later number call step) :
    later.backend.now = world.backend.now := by
  rw [advances.backend, surroundings.now_of_perform]

theorem Advances.reading (advances : world.Advances surroundings later number call step)
    {now : Instant} (reading : step.reading? = some now) : now = world.backend.now := by
  have answered := advances.answered
  rw [Step.eq_of_reading? reading] at answered
  exact answered

/-- The steps of a call are in the order of the trace. -/
theorem steps_sublist_trace (world : World) (number : Nat) :
    (world.steps number).Sublist world.trace := by
  rw [steps, trace]
  induction world.history with
  | nil => exact .slnil
  | cons event rest ih =>
      rw [List.filterMap_cons, List.map_cons]
      split
      · next isNone => exact ih.cons _
      · next found isSome =>
          split at isSome
          · cases isSome
            exact ih.cons_cons _
          · cases isSome

/-- What is written is dated by a reading of the clock that the call has made. -/
theorem Scripted.stamped (scripted : world.Scripted) (sweeps : world.Sweeps)
    (sound : world.Sound services)
    (advances : world.Advances surroundings later number call step)
    (written : step.written? = some record) {stamp : Instant}
    (stamped : record.status.stampedAt? = some stamp) :
    ⟨.readClock, stamp⟩ ∈ world.steps number := by
  have permitted := scripted.permitted advances
  have swept := sweeps.permitted advances
  have commit (message : Dispatch) (handles : call.operation = .handle message) :
      ⟨.readClock, stamp⟩ ∈ world.steps number := by
    obtain ⟨_, old, attempt, own, ended, now, lines, _, _, _, _, _, steps, result⟩ :=
      scripted.commit sound advances handles written
    rw [result] at stamped
    obtain rfl := call.service.result_stamped stamped
    rw [steps]
    simp
  have effect := advances.effect
  generalize later.backend.tasks = tasks at effect
  cases effect with
  | commit message _ _ _ _ handles => exact commit message handles
  | insert given now schedules new =>
      cases written
      obtain ⟨_, _, _, _, rfl, read⟩ := Service.Script.of_insert permitted
      cases stamped
      exact read
  | retry _ _ _ sweeps =>
      cases written
      obtain ⟨now, read, dated, _⟩ := (swept sweeps).of_update
      rw [stamped] at dated
      cases dated
      exact read
  | giveUp _ _ _ sweeps =>
      cases written
      obtain ⟨now, read, dated, _⟩ := (swept sweeps).of_update
      rw [stamped] at dated
      cases dated
      exact read
  | aside aside => rw [(Step.quiet_of_aside aside).1] at written; cases written
  | _ => cases written

/-- A call executed a task, and has it wait by a policy from its last reading of the clock. -/
inductive WaitsFrom (world : World) (record : Record) (waiting : Waiting) : Prop where
  | intro (number : Nat) (service : Service) (message : Dispatch) (old : Record) (attempt : UInt32)
      (own lines after : List Step) (ended : Except LoaderError Unit) (now : Instant)
      (called : world.service? number = some service)
      (handles : world.operation? number = some (.handle message))
      (runs : service.Runs (old.load attempt) own ended)
      (logged : ∀ step ∈ lines, step.access.isReport = true)
      (steps : world.steps number = found message old :: (own ++ ⟨.readClock, now⟩ :: lines) ++
        ⟨.updateTask record.task (.exact old.version) record.status record.resume, .ok record⟩ :: after)
      (retryAt : now.add? ((service.policies.get record.type).delayAfter waiting.attempt) =
        some waiting.retryAt) :
      WaitsFrom world record waiting

structure Timely (world : World) : Prop where
  rise : (world.trace.filterMap Step.reading?).Pairwise (· ≤ ·)
  read : ∀ now, ⟨.readClock, now⟩ ∈ world.trace → now ≤ world.backend.now
  listed : ∀ now limit due, ⟨.dueTasks now limit, .ok due⟩ ∈ world.trace →
    ∀ record ∈ due, TaskStore.isDue now record = true
  stamped : ∀ task record stamp, world.backend.tasks.get? task = some record →
    record.status.stampedAt? = some stamp → stamp ≤ world.backend.now
  cached : ∀ slot value, world.backend.values.get? slot = some value →
    value.cachedAt ≤ world.backend.now
  waits : ∀ task record waiting, world.backend.tasks.get? task = some record →
    record.status = .waiting waiting → world.WaitsFrom record waiting

theorem timely_opening (backend : Backend) :
    (opening { backend with tasks := .empty, values := .empty }).Timely := by
  constructor
  · exact .nil
  · intro now member
    cases member
  · intro now limit due member
    cases member
  · intro task record stamp found
    cases found
  · intro slot value found
    cases found
  · intro task record waiting found
    cases found

theorem WaitsFrom.of_steps {waiting : Waiting} (waits : world.WaitsFrom record waiting)
    (service : ∀ number found, world.service? number = some found → later.service? number = some found)
    (operation : ∀ number found, world.operation? number = some found →
      later.operation? number = some found)
    (steps : ∀ number, ∃ more, later.steps number = world.steps number ++ more) :
    later.WaitsFrom record waiting := by
  cases waits with
  | intro number found message old attempt own lines after ended now called handles runs logged same retryAt =>
    obtain ⟨more, longer⟩ := steps number
    refine .intro number found message old attempt own lines (after ++ more) ended now
      (service number found called) (operation number _ handles) runs logged ?_ retryAt
    simp only [longer, same, List.append_assoc, List.cons_append]

theorem WaitsFrom.advance {waiting : Waiting} (waits : world.WaitsFrom record waiting)
    (advances : world.Advances surroundings later number call step) :
    later.WaitsFrom record waiting := by
  refine waits.of_steps ?_ ?_ fun other => ?_
  · exact fun other found called => (advances.same_calls other).2.trans called
  · exact fun other found called => (advances.same_calls other).1.trans called
  · rw [advances.steps]
    split
    · exact ⟨[step], rfl⟩
    · exact ⟨[], (List.append_nil _).symm⟩

/-- Only an execution has a task wait. -/
theorem Scripted.waits (scripted : world.Scripted) (sound : world.Sound services)
    (advances : world.Advances surroundings later number call step)
    (written : step.written? = some record) {waiting : Waiting}
    (status : record.status = .waiting waiting) : later.WaitsFrom record waiting := by
  have commits (message : Dispatch) (handles : call.operation = .handle message) :
      later.WaitsFrom record waiting := by
    obtain ⟨_, old, attempt, own, ended, now, lines, _, write, _, runs, logged, steps, result⟩ :=
      scripted.commit sound advances handles written
    have calls := advances.same_calls number
    refine .intro number call.service message old attempt own lines [] ended now
      (calls.2.trans advances.service?) (calls.1.trans (handles ▸ advances.operation?)) runs logged
      ?_ ?_
    · rw [advances.steps, if_pos rfl, steps, write]
    · have type : record.type = old.type := by rw [result]; rfl
      have waits : (call.service.result old attempt ended now).1.1 = .waiting waiting := by
        rw [← status, result]; rfl
      rw [type]
      exact Service.result_waiting waits
  have effect := advances.effect
  generalize later.backend.tasks = tasks at effect
  cases effect with
  | commit message _ _ _ _ handles => exact commits message handles
  | insert given now schedules new =>
      cases written
      rw [new] at status
      cases status
  | retry _ _ _ _ _ _ _ _ _ _ isNext =>
      cases written
      rw [isNext] at status
      cases status
  | giveUp _ _ _ _ _ _ _ _ _ isNext =>
      cases written
      rw [isNext] at status
      cases status
  | aside aside => rw [(Step.quiet_of_aside aside).1] at written; cases written
  | _ => cases written

theorem Timely.steps_rise (timely : world.Timely) (number : Nat) :
    ((world.steps number).filterMap Step.reading?).Pairwise (· ≤ ·) :=
  timely.rise.sublist ((world.steps_sublist_trace number).filterMap _)

/-- What was listed as due by one reading is due at every later one. -/
theorem Timely.due_later (timely : world.Timely) {before : List Step} {start now : Instant}
    {due : List Record} {waiting : Waiting} (lists : Lists before start due) (listed : record ∈ due)
    (status : record.status = .waiting waiting)
    (steps : world.steps number = before ++ [⟨.readClock, now⟩]) : waiting.retryAt ≤ now := by
  have rise := timely.steps_rise number
  obtain ⟨first, limit, after, rfl⟩ := lists
  have member : ⟨.dueTasks start limit, .ok due⟩ ∈ world.trace :=
    mem_trace_of_mem_steps (by rw [steps]; simp)
  have isDue := timely.listed start limit due member record listed
  simp only [TaskStore.isDue, TaskStore.retryAt?, status, decide_eq_true_eq] at isDue
  have later : start ≤ now := by
    rw [steps] at rise
    simp only [List.append_assoc, List.cons_append, List.filterMap_append, List.filterMap_cons,
      Step.reading?, List.pairwise_append, List.pairwise_cons] at rise
    exact rise.2.1.1 now (by simp [Step.reading?])
  exact Instant.le_trans isDue later

/-- A sweep that schedules a task again found it due. -/
theorem Timely.not_early (timely : world.Timely) (sound : world.Sound services)
    (sweeps : world.Sweeps) (advances : world.Advances surroundings later number call step)
    {old new : Record} {waiting : Waiting} {scheduled : Scheduled}
    (stored : world.backend.tasks.get? task = some old) (waits : old.status = .waiting waiting)
    (found : later.backend.tasks.get? task = some new)
    (again : new.status = .scheduled scheduled) :
    waiting.retryAt ≤ scheduled.scheduledAt := by
  have swept := sweeps.permitted advances
  have isTask : old.task = task := sound.keyed task old stored
  have written : step.written? = some new := by
    rcases advances.effect.stored_or_written found with same | written
    · rw [stored] at same
      cases same
      rw [waits] at again
      cases again
    · exact written
  have isSame : new.task = task := (sound.of_advances advances).keyed task new found
  have effect := advances.effect
  generalize later.backend.tasks = tasks at effect
  cases effect with
  | retry record _ now isSweep status _ _ _ isStored next isNext =>
      cases written
      have same : record.task = task := by rw [← isSame, isNext]; rfl
      rw [same, stored] at isStored
      cases isStored
      obtain ⟨dated, _, stamped, retried⟩ := (swept isSweep).of_update
      obtain ⟨before, start, due, listed, steps, lists, member, taskSame, versionSame⟩ :=
        retried (by rw [again]; rfl)
      rw [again] at stamped
      cases stamped
      -- Only the version ties the record that was listed to the one that is written over.
      have seen : Seen (world.steps number) listed := by
        obtain ⟨first, limit, after, rfl⟩ := lists
        exact ⟨_, by rw [steps]; simp, .listed start limit due member⟩
      obtain ⟨current, isCurrent, becomes⟩ := sound.known_steps number listed seen
      rw [← taskSame, same, stored] at isCurrent
      cases isCurrent
      obtain rfl := becomes.eq_of_version (Expected.exact.inj versionSame)
      exact timely.due_later lists member waits steps
  | insert given now schedules _ _ absent =>
      cases written
      rw [show given.task = task from isSame, stored] at absent
      cases absent
  | commit _ record _ _ _ _ _ status _ _ _ isStored next isNext =>
      cases written
      have same : record.task = task := by rw [← isSame, isNext]; rfl
      rw [same, stored] at isStored
      cases isStored
      rw [waits] at status
      cases status
  | giveUp _ _ _ _ _ _ _ _ _ isNext =>
      cases written
      rw [isNext] at again
      cases again
  | aside aside => rw [(Step.quiet_of_aside aside).1] at written; cases written
  | _ => cases written

theorem Timely.rise_advance (timely : world.Timely)
    (advances : world.Advances surroundings later number call step) :
    (later.trace.filterMap Step.reading?).Pairwise (· ≤ ·) := by
  rw [advances.trace, List.filterMap_append, List.pairwise_append]
  refine ⟨timely.rise, ?_, ?_⟩
  · cases reading : step.reading? <;> simp [reading]
  · intro earlier isEarlier now isNow
    obtain ⟨other, member, reading⟩ := List.mem_filterMap.mp isEarlier
    obtain ⟨last, isLast, readingNow⟩ := List.mem_filterMap.mp isNow
    rw [List.mem_singleton.mp isLast] at readingNow
    rw [advances.reading readingNow]
    exact timely.read earlier (Step.eq_of_reading? reading ▸ member)

theorem Timely.advance (timely : world.Timely) (sound : world.Sound services)
    (scripted : world.Scripted) (sweeps : world.Sweeps)
    (advances : world.Advances surroundings later number call step) : later.Timely := by
  have stampRead {stamp : Instant} (member : ⟨.readClock, stamp⟩ ∈ world.steps number) :
      stamp ≤ world.backend.now := timely.read stamp (mem_trace_of_mem_steps member)
  refine ⟨timely.rise_advance advances, ?_, ?_, ?_, ?_, ?_⟩
  · intro now member
    rw [advances.trace] at member
    rw [advances.now]
    rcases List.mem_append.mp member with earlier | last
    · exact timely.read now earlier
    · have reading : step.reading? = some now := by
        rw [← List.mem_singleton.mp last]
        rfl
      rw [advances.reading reading]
      exact Int.le_refl _
  · intro now limit due member record listed
    rw [advances.trace] at member
    rcases List.mem_append.mp member with earlier | last
    · exact timely.listed now limit due earlier record listed
    · have answered := advances.answered
      rw [← List.mem_singleton.mp last] at answered
      have same : due = world.backend.tasks.due now limit := Except.ok.inj answered
      exact (TaskStore.of_mem_due sound.keyed (same ▸ listed)).2
  · intro task record stamp found stamped
    rw [advances.now]
    rcases advances.effect.stored_or_written found with stored | written
    · exact timely.stamped task record stamp stored stamped
    · exact stampRead (scripted.stamped sweeps sound advances written stamped)
  · intro slot value found
    rw [advances.now]
    have permitted := scripted.permitted advances
    have turn := advances.value slot
    generalize later.backend.values.get? slot = after at turn found
    cases turn with
    | saved saved saves =>
        rw [saves] at permitted
        split at found
        · cases found
          exact stampRead (Service.Script.of_save permitted)
        · exact timely.cached slot value found
    | removed _ => cases found
    | kept _ _ => exact timely.cached slot value found
  · intro task record waiting found status
    rcases advances.effect.stored_or_written found with stored | written
    · exact (timely.waits task record waiting stored status).advance advances
    · exact scripted.waits sound advances written status

theorem Timely.start (timely : world.Timely) (service : Service) (operation : Operation) :
    (world.make (.start service operation)).Timely := by
  refine ⟨timely.rise, timely.read, timely.listed, timely.stamped, timely.cached, ?_⟩
  intro task record waiting found status
  exact (timely.waits task record waiting found status).of_steps (fun _ _ => service?_of_start)
    (fun _ _ => operation?_of_start) fun _ => ⟨[], (List.append_nil _).symm⟩

theorem Timely.setClock (timely : world.Timely) {now : Instant}
    (forward : world.backend.now ≤ now) : (world.make (.setClock now)).Timely := by
  refine ⟨timely.rise, ?_, timely.listed, ?_, ?_, ?_⟩
  · exact fun earlier member => Instant.le_trans (timely.read earlier member) forward
  · exact fun task record stamp found stamped =>
      Instant.le_trans (timely.stamped task record stamp found stamped) forward
  · exact fun slot value found => Instant.le_trans (timely.cached slot value found) forward
  · intro task record waiting found status
    exact (timely.waits task record waiting found status).of_steps (fun _ _ => id) (fun _ _ => id)
      fun _ => ⟨[], (List.append_nil _).symm⟩

theorem Reaches.timely {backend : Backend} {world : World}
    (reached : Reaches Forward (opening { backend with tasks := .empty, values := .empty }) world) :
    world.Timely := by
  have fits : ∀ world move, Forward world move → MovesOf (fun _ => True) world move :=
    fun _ _ _ => movesOf_any
  have opened := sound_opening (fun _ => True) { backend with tasks := .empty, values := .empty }
    TaskStore.isKeyed_empty
  apply reached.fair_invariant Timely opened fits (timely_opening backend)
  · exact fun _ service operation _ _ timely => timely.start service operation
  · exact fun _ _ _ forward timely => timely.setClock forward
  · intro world later number surroundings call step earlier _ advances timely
    exact timely.advance (earlier.sound opened fits) (earlier.scripted TaskStore.isKeyed_empty)
      (earlier.sweeps TaskStore.isKeyed_empty) advances

/-- Calls of any operations are made in any order, on services of any settings, and their accesses
interleave in any way, while the clock does not go back. Then no time that is stored is ahead of the
clock. A task waits by the policy of its type from the reading of the clock that ended its execution,
and is not scheduled again before that time is over, whoever does it. -/
theorem retries_punctual {backend : Backend} {world : World}
    (reached : Reaches Forward (opening { backend with tasks := .empty, values := .empty }) world) :
    (∀ task record stamp, world.backend.tasks.get? task = some record →
      record.status.stampedAt? = some stamp → stamp ≤ world.backend.now) ∧
      (∀ slot value, world.backend.values.get? slot = some value →
        value.cachedAt ≤ world.backend.now) ∧
      (∀ task record waiting, world.backend.tasks.get? task = some record →
        record.status = .waiting waiting → world.WaitsFrom record waiting) ∧
      ∀ move task old new waiting scheduled, world.backend.tasks.get? task = some old →
        old.status = .waiting waiting → (world.make move).backend.tasks.get? task = some new →
          new.status = .scheduled scheduled → waiting.retryAt ≤ scheduled.scheduledAt := by
  have timely := reached.timely
  refine ⟨timely.stamped, timely.cached, timely.waits, ?_⟩
  intro move task old new waiting scheduled stored waits found again
  have unchanged (same : (world.make move).backend.tasks = world.backend.tasks) : False := by
    rw [same, stored] at found
    cases found
    rw [waits] at again
    cases again
  have sound := reached.sound (sound_opening (fun _ => True) _ TaskStore.isKeyed_empty)
    fun _ _ _ => movesOf_any
  cases move with
  | start service operation => exact (unchanged rfl).elim
  | setClock now => exact (unchanged rfl).elim
  | advance number surroundings =>
      rcases sound.advance number surroundings with same | ⟨call, step, advances⟩
      · exact (unchanged (by rw [same])).elim
      · exact timely.not_early sound (reached.sweeps TaskStore.isKeyed_empty) advances stored waits
          found again

/-- A task waits, and the next move of the sweep schedules its retry. -/
def waited : World := (opening default).run (retrying.take 17)

theorem retries_punctual_of_waited :
    Reaches Forward (opening { (default : Backend) with tasks := .empty, values := .empty })
        waited ∧
      ∃ waiting scheduled,
        (waited.backend.tasks.get? default).map (·.status) = some (.waiting waiting) ∧
        ((waited.make (.advance 2 .calm)).backend.tasks.get? default).map (·.status) =
          some (.scheduled scheduled) ∧
        waiting.retryAt ≤ scheduled.scheduledAt := by
  have reached : Reaches Forward
      (opening { (default : Backend) with tasks := .empty, values := .empty }) waited :=
    .run (by decide +kernel)
  have waits : (waited.backend.tasks.get? default).map (·.status) =
      some (.waiting ⟨1, ⟨1, 0, by decide, by decide⟩, ⟨.transient, ""⟩⟩) := by decide +kernel
  have again : ((waited.make (.advance 2 .calm)).backend.tasks.get? default).map (·.status) =
      some (.scheduled ⟨.latest, 2⟩) := by decide +kernel
  obtain ⟨old, stored, isWaiting⟩ := Option.map_eq_some_iff.mp waits
  obtain ⟨new, found, isScheduled⟩ := Option.map_eq_some_iff.mp again
  exact ⟨reached, _, _, waits, again,
    (retries_punctual reached).2.2.2 _ default old new _ _ stored isWaiting found isScheduled⟩

end World

end CacheFill
