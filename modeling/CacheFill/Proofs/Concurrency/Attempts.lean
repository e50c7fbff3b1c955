import CacheFill.Proofs.Concurrency.Ledger

/-!
How far tasks get under one set of retry policies. An execution asks the policy whether another one
may follow it, a sweep asks once more before it schedules that one; the two ask differently, but a
task that waits has always been granted its next attempt. So a sweep never finds a task that has used
up its attempts. Main statement: `attempts_accounted`.
-/

set_option autoImplicit false

namespace CacheFill

/-- How far a status may have got under a policy. The first attempt is scheduled as 0, so none is
scheduled as 1; a task that is given up has an error that says why. -/
def Status.IsAccounted (policy : RetryPolicy) : Status → Prop
  | .scheduled status =>
      status.attempt = 0 ∨ 2 ≤ status.attempt ∧ status.attempt ≤ policy.maxAttempts
  | .waiting status =>
      1 ≤ status.attempt ∧ status.attempt < policy.maxAttempts ∧
        status.lastError.kind = .transient
  | .loaded status => 1 ≤ status.attempt ∧ status.attempt ≤ max policy.maxAttempts 1
  | .failed status =>
      1 ≤ status.attempt ∧ status.attempt ≤ max policy.maxAttempts 1 ∧
        (status.lastError.kind = .permanent ∨
          status.lastError.kind = .retriesExhausted ∧
            (policy.maxAttempts ≤ status.attempt ∨
              status.failedAt.add? (policy.delayAfter status.attempt) = none))

def Record.IsAccounted (policies : RetryPolicies) (record : Record) : Prop :=
  record.status.IsAccounted (policies.get record.type)

namespace Status.IsAccounted

variable {policy : RetryPolicy}

/-- The number of an execution is within what the policy allows, which is one execution at least. -/
theorem execution {scheduled : Scheduled}
    (accounted : (Status.scheduled scheduled).IsAccounted policy) :
    1 ≤ max scheduled.attempt 1 ∧ max scheduled.attempt 1 ≤ max policy.maxAttempts 1 := by
  simp only [UInt32.le_iff_toNat_le, toNat_max_one, UInt32.toNat_one]
  rcases accounted with first | ⟨_, allowed⟩
  · simp only [first, UInt32.toNat_zero]
    omega
  · rw [UInt32.le_iff_toNat_le] at allowed
    omega

end Status.IsAccounted

/-- What an execution of an allowed number ends with. -/
theorem Service.result_accounted {service : Service} {record : Record} {attempt : UInt32}
    (ended : Except LoaderError Unit) (now : Instant) (positive : 1 ≤ attempt)
    (allowed : attempt ≤ max (service.policies.get record.type).maxAttempts 1) :
    (service.result record attempt ended now).1.1.IsAccounted
      (service.policies.get record.type) := by
  cases ended with
  | ok _ => exact ⟨positive, allowed⟩
  | error error =>
      cases error with
      | permanent message => exact ⟨positive, allowed, .inl rfl⟩
      | transient message resume =>
          simp only [result, failureStatus, LoaderError.kind, RetryPolicy.decide,
            RetryPolicy.allowsRetry, decide_eq_true_eq]
          by_cases more : attempt < (service.policies.get record.type).maxAttempts
          · simp only [if_pos more]
            cases retryAt : now.add? ((service.policies.get record.type).delayAfter attempt) with
            | some retryAt => exact ⟨positive, more, rfl⟩
            | none => exact ⟨positive, allowed, .inr ⟨rfl, .inr retryAt⟩⟩
          · simp only [if_neg more]
            exact ⟨positive, allowed, .inr ⟨rfl, .inl (UInt32.not_lt.mp more)⟩⟩

/-- A call on a service with these policies keeps a record accounted for, whatever it writes. -/
theorem Service.Rewrites.accounted {service : Service} {record next : Record}
    (rewrites : service.Rewrites record next) (accounted : record.IsAccounted service.policies) :
    next.IsAccounted service.policies := by
  unfold Record.IsAccounted at accounted
  cases rewrites with
  | commit scheduled ended now status =>
      rw [status] at accounted
      obtain ⟨positive, allowed⟩ := accounted.execution
      exact service.result_accounted ended now positive allowed
  | retry waiting now status allowed =>
      rw [status] at accounted
      obtain ⟨positive, _⟩ := accounted
      refine .inr ?_
      change 2 ≤ waiting.attempt + 1 ∧
        waiting.attempt + 1 ≤ (service.policies.get record.type).maxAttempts
      have raised := Service.toNat_succ_of_lt allowed
      rw [UInt32.lt_iff_toNat_lt] at allowed
      rw [UInt32.le_iff_toNat_le, UInt32.toNat_one] at positive
      simp only [UInt32.le_iff_toNat_le, raised]
      change 2 ≤ _ ∧ _
      omega
  | giveUp waiting now status exhausted =>
      rw [status] at accounted
      exact absurd exhausted (UInt32.not_le.mpr accounted.2.1)

namespace World

variable {world later : World} {policies : RetryPolicies} {surroundings : Surroundings}
  {number : Nat} {call : Call} {step : Step}

structure Accounted (policies : RetryPolicies) (world : World) : Prop where
  stored : ∀ task record, world.backend.tasks.get? task = some record →
    record.IsAccounted policies
  seen : ∀ record, Seen world.trace record → record.IsAccounted policies
  /-- A sweep never comes to give up a task. -/
  sweeps : ∀ event ∈ world.history, world.operation? event.call = some .sweep →
    (∀ topic notification, event.step.access ≠ .announce topic notification) ∧
      ∀ record, event.step.written? = some record → record.status.state = .scheduled
  published : ∀ event ∈ world.history, ∀ topic message,
    event.step.access = .publish topic message →
      message.attempt ≤ (policies.get message.type).maxAttempts

theorem accounted_opening (policies : RetryPolicies) (backend : Backend)
    (empty : backend.tasks = .empty) : (opening backend).Accounted policies where
  stored := by
    intro task record found
    rw [opening, empty] at found
    cases found
  seen := by
    rintro record ⟨step, member, _⟩
    cases member
  sweeps := by
    intro event member
    cases member
  published := by
    intro event member
    cases member

theorem Accounted.stored_advance (accounted : world.Accounted policies)
    (fits : call.service.policies = policies)
    (advances : world.Advances surroundings later number call step) :
    ∀ task record, later.backend.tasks.get? task = some record → record.IsAccounted policies := by
  intro task record found
  rcases advances.effect.stored_or_written found with stored | written
  · exact accounted.stored task record stored
  rcases advances.effect.writes with ⟨unwritten, _⟩ | ⟨record', written', _, writes⟩
  · rw [unwritten] at written
    cases written
  obtain rfl := Option.some.inj (written.symm.trans written')
  cases writes with
  | insert now new absent =>
      unfold Record.IsAccounted
      rw [new]
      exact .inl rfl
  | rewrite old isOld rewrites =>
      subst fits
      exact rewrites.accounted (accounted.stored _ old isOld)

/-- A sweep goes by what it was shown, and no task that it was shown has used up its attempts. -/
theorem Accounted.sweeps_advance (accounted : world.Accounted policies)
    (fits : call.service.policies = policies) (sweeps : call.operation = .sweep)
    (advances : world.Advances surroundings later number call step) :
    (∀ topic notification, step.access ≠ .announce topic notification) ∧
      ∀ record, step.written? = some record → record.status.state = .scheduled := by
  have shown (record : Record) (seen : Seen (world.steps number) record) :
      record.IsAccounted policies := by
    obtain ⟨step, member, shows⟩ := seen
    exact accounted.seen record ⟨step, mem_trace_of_mem_steps member, shows⟩
  have notExhausted (record : Record) (waiting : Waiting) (seen : Seen (world.steps number) record)
      (status : record.status = .waiting waiting) :
      ¬ (call.service.policies.get record.type).maxAttempts ≤ waiting.attempt := by
    have accounted := shown record seen
    rw [Record.IsAccounted, status] at accounted
    rw [fits]
    exact UInt32.not_le.mpr accounted.2.1
  have effect := advances.effect
  generalize later.backend.tasks = tasks at effect
  cases effect with
  | aside aside =>
      refine ⟨fun topic notification same => ?_, fun record written => ?_⟩
      · rw [Step.isAside, same] at aside
        cases aside
      · rw [(Step.quiet_of_aside aside).1] at written
        cases written
  | read _ | due _ _ | present _ _ | conflict _ _ _ _ _ _ | dispatch _ _ _ =>
      refine ⟨fun _ _ same => ?_, fun _ written => ?_⟩
      · cases same
      · cases written
  | insert _ _ schedules => rw [sweeps] at schedules; cases schedules
  | commit _ _ _ _ _ handles => rw [sweeps] at handles; cases handles
  | announceAgain _ _ _ handles => rw [sweeps] at handles; cases handles
  | retry record waiting now _ status allowed idle seen found next isNext =>
      refine ⟨fun _ _ same => ?_, fun record written => ?_⟩
      · cases same
      · cases written
        rw [isNext]
        rfl
  | giveUp record waiting now _ status exhausted seen =>
      exact absurd exhausted (notExhausted record waiting seen status)
  | announceAhead record waiting now answer _ seen status exhausted =>
      exact absurd exhausted (notExhausted record waiting seen status)
  | announce notification answer owed =>
      -- It would announce what it wrote, but it has only scheduled tasks so far.
      obtain ⟨record, awaits, terminal, _⟩ := awaitsPublish_of_announcing owed
      obtain ⟨write, member, written⟩ := awaits.wrote
      have scheduled := (accounted.sweeps ⟨number, write⟩ (mem_steps.mp member)
        (by rw [advances.operation?, sweeps])).2 record written
      cases status : record.status with
      | scheduled _ => rw [status] at terminal; cases terminal
      | waiting _ | failed _ | loaded _ => rw [status] at scheduled; cases scheduled

theorem Accounted.published_advance (accounted : world.Accounted policies)
    (advances : world.Advances surroundings later number call step) (topic : String)
    (message : Dispatch) (publishes : step.access = .publish topic message) :
    message.attempt ≤ (policies.get message.type).maxAttempts := by
  have effect := advances.effect
  generalize later.backend.tasks = tasks at effect
  cases effect with
  | aside aside =>
      rw [Step.isAside, publishes] at aside
      cases aside
  | dispatch sent answer owed =>
      cases publishes
      obtain ⟨record, awaits, scheduled, rfl⟩ :=
        awaitsPublish_of_owed (Stance.owed?_eq_some.mpr owed)
      obtain ⟨write, member, shows⟩ := awaits.wrote.seen
      have shown := accounted.seen record ⟨write, mem_trace_of_mem_steps member, shows⟩
      change record.status.attempt ≤ (policies.get record.type).maxAttempts
      unfold Record.IsAccounted at shown
      cases status : record.status with
      | scheduled current =>
          rw [status] at shown
          change current.attempt ≤ _
          rcases shown with first | ⟨_, allowed⟩
          · rw [first, UInt32.le_iff_toNat_le, UInt32.toNat_zero]
            exact Nat.zero_le _
          · exact allowed
      | waiting _ | failed _ | loaded _ => rw [status] at scheduled; cases scheduled
  | _ => cases publishes

theorem Accounted.advance (accounted : world.Accounted policies)
    (sound : world.Sound (·.policies = policies))
    (advances : world.Advances surroundings later number call step) :
    later.Accounted policies := by
  have fits := sound.fits number call advances.called
  have stored := accounted.stored_advance fits advances
  refine ⟨stored, ?_, ?_, ?_⟩
  · rintro record ⟨other, member, shows⟩
    rw [advances.trace] at member
    rcases List.mem_append.mp member with earlier | now
    · exact accounted.seen record ⟨other, earlier, shows⟩
    · rw [List.mem_singleton.mp now] at shows
      exact stored record.task record (advances.effect.current sound.keyed shows)
  · intro event member sweeps
    rw [(advances.same_calls event.call).1] at sweeps
    rw [advances.history] at member
    rcases List.mem_append.mp member with earlier | now
    · exact accounted.sweeps event earlier sweeps
    · obtain rfl := List.mem_singleton.mp now
      have same := advances.operation?.symm.trans sweeps
      exact accounted.sweeps_advance fits (Option.some.inj same) advances
  · intro event member topic message publishes
    rw [advances.history] at member
    rcases List.mem_append.mp member with earlier | now
    · exact accounted.published event earlier topic message publishes
    · obtain rfl := List.mem_singleton.mp now
      exact accounted.published_advance advances topic message publishes

theorem Reaches.accounted {fair : World → Move → Prop} {backend : Backend}
    (reached : Reaches fair (opening backend) world) (empty : backend.tasks = .empty)
    (fits : ∀ world move, fair world move → MovesOf (·.policies = policies) world move) :
    world.Accounted policies := by
  have soundFirst : (opening backend).Sound (·.policies = policies) :=
    sound_opening _ _ (empty ▸ TaskStore.isKeyed_empty)
  refine reached.invariant (·.Accounted policies) soundFirst fits
    (accounted_opening policies backend empty) ?_ ?_ ?_
  · intro world service operation sound _ accounted
    refine ⟨accounted.stored, accounted.seen, ?_, accounted.published⟩
    intro event member sweeps
    rw [operation?_start (sound.numbered event member)] at sweeps
    exact accounted.sweeps event member sweeps
  · exact fun _ _ accounted =>
      ⟨accounted.stored, accounted.seen, accounted.sweeps, accounted.published⟩
  · exact fun _ _ _ _ _ _ sound _ advances accounted => accounted.advance sound advances

/-- Tasks are scheduled, executed and swept by any number of calls that go by the same retry
policies; dispatches of any kind are handled, loaders end in any way or are missing, and accesses
interleave in any way. Then every record is accounted for under the policy of its type. A task that
a sweep is shown has its next attempt granted, which does not overflow; so no sweep announces or
writes a failure, and no dispatch goes beyond the policy. -/
theorem attempts_accounted {policies : RetryPolicies} {backend : Backend} {world : World}
    (reached : Reaches (MovesOf (·.policies = policies))
      (opening { backend with tasks := .empty }) world) :
    (∀ task record, world.backend.tasks.get? task = some record →
      record.IsAccounted policies) ∧
      (∀ record waiting, Seen world.trace record → record.status = .waiting waiting →
        waiting.attempt < (policies.get record.type).maxAttempts ∧
          (waiting.attempt + 1).toNat = waiting.attempt.toNat + 1) ∧
      (∀ event ∈ world.history, world.operation? event.call = some .sweep →
        (∀ topic notification, event.step.access ≠ .announce topic notification) ∧
          ∀ record, event.step.written? = some record → record.status.state = .scheduled) ∧
      ∀ event ∈ world.history, ∀ topic message, event.step.access = .publish topic message →
        message.attempt ≤ (policies.get message.type).maxAttempts := by
  have accounted : world.Accounted policies := reached.accounted rfl fun _ _ fair => fair
  refine ⟨accounted.stored, ?_, accounted.sweeps, accounted.published⟩
  intro record waiting seen status
  have shown := accounted.seen record seen
  rw [Record.IsAccounted, status] at shown
  exact ⟨shown.2.1, Service.toNat_succ_of_lt shown.2.1⟩

theorem attempts_accounted_after_retry :
    Reaches (MovesOf (·.policies = Service.single.policies))
        (opening { (default : Backend) with tasks := .empty }) retried ∧
      (∀ record, retried.backend.tasks.get? default = some record →
        record.IsAccounted Service.single.policies) ∧
      (retried.backend.tasks.get? default).map (fun record =>
        (record.status.state, record.status.attempt)) = some (.loaded, 2) := by
  have reached : Reaches (MovesOf (·.policies = Service.single.policies))
      (opening { (default : Backend) with tasks := .empty }) retried := by
    refine .run ?_
    simp [AllFair, MovesOf, retrying, scheduling, List.replicate]
  exact ⟨reached, (attempts_accounted reached).1 default, by decide +kernel⟩

end World

end CacheFill
