import CacheFill.Proofs.Concurrency.Operations

/-!
What one move does to a world of calls that conduct themselves. `Effect` says all that a step can do
to the tasks; `Sound` holds in every world that is reached, so that each step of a run has one of
these effects. Main statement: `Sound.advance`, from which the properties of runs are drawn.
-/

set_option autoImplicit false

namespace CacheFill

/-- A step that a call may make after others, with the tasks that it meets and leaves behind. -/
inductive Effect (service : Service) (operation : Operation) (past : List Step)
    (tasks : TaskStore) : Step → TaskStore → Prop where
  | aside {step : Step} (aside : step.isAside = true) : Effect service operation past tasks step tasks
  | read (task : TaskId) :
      Effect service operation past tasks ⟨.readTask task, .ok (tasks.get? task)⟩ tasks
  | due (now : Instant) (limit : Nat) :
      Effect service operation past tasks ⟨.dueTasks now limit, .ok (tasks.due now limit)⟩ tasks
  | insert (record : Record) (now : Instant) (schedules : operation.isSchedule = true)
      (new : record.status = .initial now) (idle : stance past = .idle)
      (absent : tasks.get? record.task = none) :
      Effect service operation past tasks ⟨.insertTask record, .ok { record with version := 1 }⟩
        (tasks.put { record with version := 1 })
  | present (record : Record) (idle : stance past = .idle) :
      Effect service operation past tasks
        ⟨.insertTask record, .error (.alreadyExists record.task)⟩ tasks
  | commit (message : Dispatch) (record : Record) (scheduled : Scheduled)
      (ended : Except LoaderError Unit) (now : Instant) (handles : operation = .handle message)
      (task : record.task = message.task) (status : record.status = .scheduled scheduled)
      (attempt : scheduled.attempt = message.attempt) (idle : stance past = .idle)
      (seen : Seen past record) (found : tasks.get? record.task = some record) (next : Record)
      (isNext : next =
        record.next (service.result record (max scheduled.attempt 1) ended now).1.1
          (service.result record (max scheduled.attempt 1) ended now).2) :
      Effect service operation past tasks
        ⟨.updateTask record.task (.exact record.version) next.status next.resume, .ok next⟩
        (tasks.put next)
  | retry (record : Record) (waiting : Waiting) (now : Instant) (sweeps : operation = .sweep)
      (status : record.status = .waiting waiting)
      (allowed : waiting.attempt < (service.policies.get record.type).maxAttempts)
      (idle : stance past = .idle) (seen : Seen past record)
      (found : tasks.get? record.task = some record) (next : Record)
      (isNext : next = record.next (.scheduled ⟨now, waiting.attempt + 1⟩) record.resume) :
      Effect service operation past tasks
        ⟨.updateTask record.task (.exact record.version) next.status next.resume, .ok next⟩
        (tasks.put next)
  | giveUp (record : Record) (waiting : Waiting) (now : Instant) (sweeps : operation = .sweep)
      (status : record.status = .waiting waiting)
      (exhausted : (service.policies.get record.type).maxAttempts ≤ waiting.attempt)
      (seen : Seen past record) (found : tasks.get? record.task = some record) (next : Record)
      (isNext : next = record.next (waiting.givenUp now) record.resume)
      (told : Told past next.notification) (announced : stance past = .announced next.notification) :
      Effect service operation past tasks
        ⟨.updateTask record.task (.exact record.version) next.status next.resume, .ok next⟩
        (tasks.put next)
  | conflict (record : Record) (status : Status) (resume : Option Json) (actual : UInt64)
      (settled : (stance past).IsSettled) (seen : Seen past record)
      (changed : tasks.get? record.task ≠ some record) :
      Effect service operation past tasks
        ⟨.updateTask record.task (.exact record.version) status resume,
          .error (.conflict record.task (.exact record.version) actual)⟩ tasks
  | dispatch (message : Dispatch) (answer : Except String Unit)
      (owed : stance past = .dispatching message) :
      Effect service operation past tasks
        ⟨.publish (service.topics.dispatch message.type) message, answer⟩ tasks
  | announce (notification : Notification) (answer : Except String Unit)
      (owed : stance past = .announcing notification) :
      Effect service operation past tasks
        ⟨.announce (service.topics.notifications notification.type) notification, answer⟩ tasks
  | announceAgain (message : Dispatch) (record : Record) (answer : Except String Unit)
      (handles : operation = .handle message) (seen : Seen past record)
      (terminal : record.status.isTerminal = true) (idle : stance past = .idle) :
      Effect service operation past tasks
        ⟨.announce (service.topics.notifications record.type) record.notification, answer⟩ tasks
  | announceAhead (record : Record) (waiting : Waiting) (now : Instant)
      (answer : Except String Unit) (sweeps : operation = .sweep) (seen : Seen past record)
      (status : record.status = .waiting waiting)
      (exhausted : (service.policies.get record.type).maxAttempts ≤ waiting.attempt)
      (idle : stance past = .idle) :
      Effect service operation past tasks
        ⟨.announce (service.topics.notifications record.type)
          ⟨record.type, record.key, record.task, waiting.givenUp now⟩, answer⟩ tasks

/-- What the calls were shown of a task has become what is stored of it. -/
def Known (services : Service → Prop) (tasks : TaskStore) (past : List Step) : Prop :=
  ∀ record, Seen past record →
    ∃ current, tasks.get? record.task = some current ∧ record.Becomes services current

variable {services : Service → Prop} {service : Service} {operation : Operation}
  {past : List Step} {tasks : TaskStore} {surroundings : Surroundings} {backend : Backend}

theorem Surroundings.tasks_of_aside (surroundings : Surroundings) (backend : Backend)
    {access : Access} (aside : access.isAside = true) :
    (surroundings.perform access backend).2.tasks = backend.tasks := by
  cases access <;> first | rfl | cases aside

theorem Surroundings.tasks_of_publish (surroundings : Surroundings) (backend : Backend)
    (topic : String) (message : Dispatch) :
    (surroundings.perform (.publish topic message) backend).2.tasks = backend.tasks := by
  simp only [perform]
  split <;> rfl

theorem Surroundings.tasks_of_announce (surroundings : Surroundings) (backend : Backend)
    (topic : String) (notification : Notification) :
    (surroundings.perform (.announce topic notification) backend).2.tasks = backend.tasks := by
  simp only [perform]
  split <;> rfl

theorem Surroundings.dispatches_of_perform (surroundings : Surroundings) (backend : Backend)
    {access : Access} (elsewhere : ∀ topic message, access ≠ .publish topic message) :
    (surroundings.perform access backend).2.dispatches = backend.dispatches := by
  cases access with
  | publish topic message => exact absurd rfl (elsewhere topic message)
  | announce topic notification =>
      simp only [perform]
      split <;> rfl
  | insertTask record =>
      have performed : (surroundings.perform (.insertTask record) backend).2 =
        (backend.withTasks (backend.tasks.insert record)).2 := rfl
      rw [performed]
      cases backend.tasks.insert record <;> rfl
  | updateTask task expected status resume =>
      have performed : (surroundings.perform (.updateTask task expected status resume) backend).2 =
        (backend.withTasks (backend.tasks.update task expected status resume)).2 := rfl
      rw [performed]
      cases backend.tasks.update task expected status resume <;> rfl
  | _ => rfl

/-- A write over a record that was shown goes through if and only if the record is still stored. -/
theorem Known.update (known : Known services backend.tasks past) {record : Record}
    (seen : Seen past record) (status : Status) (resume : Option Json)
    (surroundings : Surroundings) :
    (backend.tasks.get? record.task = some record ∧
      surroundings.perform (.updateTask record.task (.exact record.version) status resume) backend =
        (.ok (record.next status resume),
          { backend with tasks := backend.tasks.put (record.next status resume) })) ∨
    (backend.tasks.get? record.task ≠ some record ∧ ∃ actual,
      surroundings.perform (.updateTask record.task (.exact record.version) status resume) backend =
        (.error (.conflict record.task (.exact record.version) actual), backend)) := by
  obtain ⟨current, found, becomes⟩ := known record seen
  have performed : surroundings.perform
      (.updateTask record.task (.exact record.version) status resume) backend =
        backend.withTasks (backend.tasks.update record.task (.exact record.version) status resume) :=
    rfl
  rw [performed, TaskStore.update_exact found]
  by_cases same : record.version = current.version
  · obtain rfl := becomes.eq_of_version same.symm
    exact .inl ⟨found, by rw [if_pos rfl]; rfl⟩
  · refine .inr ⟨fun still => same ?_, current.version, by rw [if_neg same]; rfl⟩
    rw [found] at still
    rw [Option.some.inj still]

theorem Service.Permits.effect {access : Access}
    (permits : service.Permits operation past access)
    (known : Known services backend.tasks past) (surroundings : Surroundings) :
    Effect service operation past backend.tasks
      ⟨access, (surroundings.perform access backend).1⟩
      (surroundings.perform access backend).2.tasks := by
  cases permits with
  | aside aside =>
      rw [surroundings.tasks_of_aside backend aside]
      exact .aside aside
  | read task => exact .read task
  | due now limit => exact .due now limit
  | insert record now schedules new idle =>
      have performed : surroundings.perform (.insertTask record) backend =
        backend.withTasks (backend.tasks.insert record) := rfl
      cases found : backend.tasks.get? record.task with
      | none =>
          rw [performed, TaskStore.insert_of_get?_none found]
          exact .insert record now schedules new idle found
      | some stored =>
          rw [performed, TaskStore.insert_of_get?_some found]
          exact .present record idle
  | commit message record scheduled ended now handles seen task status attempt idle =>
      rcases known.update seen _ _ surroundings with ⟨found, performed⟩ | ⟨changed, _, performed⟩
      · rw [performed]
        exact .commit message record scheduled ended now handles task status attempt idle seen found
          _ rfl
      · rw [performed]
        exact .conflict record _ _ _ (idle ▸ trivial) seen changed
  | retry record waiting now sweeps seen status allowed idle =>
      rcases known.update seen _ _ surroundings with ⟨found, performed⟩ | ⟨changed, _, performed⟩
      · rw [performed]
        exact .retry record waiting now sweeps status allowed idle seen found _ rfl
      · rw [performed]
        exact .conflict record _ _ _ (idle ▸ trivial) seen changed
  | giveUp record waiting now sweeps seen status exhausted told announced =>
      rcases known.update seen _ _ surroundings with ⟨found, performed⟩ | ⟨changed, _, performed⟩
      · rw [performed]
        exact .giveUp record waiting now sweeps status exhausted seen found _ rfl told announced
      · rw [performed]
        exact .conflict record _ _ _ (announced ▸ trivial) seen changed
  | dispatch message owed =>
      rw [surroundings.tasks_of_publish]
      exact .dispatch message _ owed
  | announce notification owed =>
      rw [surroundings.tasks_of_announce]
      exact .announce notification _ owed
  | announceAgain message record handles seen terminal idle =>
      rw [surroundings.tasks_of_announce]
      exact .announceAgain message record _ handles seen terminal idle
  | announceAhead record waiting now sweeps seen status exhausted idle =>
      rw [surroundings.tasks_of_announce]
      exact .announceAhead record waiting now _ sweeps seen status exhausted idle

theorem Surroundings.answers (surroundings : Surroundings) (keyed : backend.tasks.IsKeyed)
    (known : Known services backend.tasks past) (access : Access) :
    Answers past access (surroundings.perform access backend).1 := by
  cases access with
  | insertTask record =>
      have performed : surroundings.perform (.insertTask record) backend =
        backend.withTasks (backend.tasks.insert record) := rfl
      cases found : backend.tasks.get? record.task with
      | none =>
          rw [performed, TaskStore.insert_of_get?_none found]
          exact .inl rfl
      | some stored =>
          rw [performed, TaskStore.insert_of_get?_some found]
          exact .inr rfl
  | readTask task =>
      change Answers past (.readTask task) (.ok (backend.tasks.get? task))
      cases found : backend.tasks.get? task with
      | none => exact .inl rfl
      | some record => exact .inr ⟨record, keyed task record found, rfl⟩
  | dueTasks now limit =>
      exact ⟨_, rfl, fun record member => (TaskStore.of_mem_due keyed member).2⟩
  | updateTask task expected status resume =>
      intro record seen sameTask exact
      subst sameTask exact
      rcases known.update seen status resume surroundings with ⟨_, performed⟩ | ⟨_, actual, performed⟩
      · rw [performed]
        exact .inl rfl
      · rw [performed]
        exact .inr ⟨actual, rfl⟩
  | _ => trivial

/-- How a call on a service may come to write a record. -/
inductive Service.Writes (service : Service) (tasks : TaskStore) (record : Record) : Prop where
  | insert (now : Instant) (new : record.status = .initial now)
      (absent : tasks.get? record.task = none)
  | rewrite (old : Record) (found : tasks.get? record.task = some old)
      (rewrites : service.Rewrites old record)

namespace Effect

variable {step : Step} {later : TaskStore}

/-- A step writes one record, or leaves the tasks as they are. -/
theorem writes (effect : Effect service operation past tasks step later) :
    (step.written? = none ∧ later = tasks) ∨
      ∃ record, step.written? = some record ∧ later = tasks.put record ∧
        service.Writes tasks record := by
  cases effect with
  | aside aside => exact .inl ⟨(Step.quiet_of_aside aside).1, rfl⟩
  | read _ | due _ _ | present _ _ | conflict _ _ _ _ _ _ | dispatch _ _ _ | announce _ _ _
  | announceAgain _ _ _ _ _ _ | announceAhead _ _ _ _ _ _ _ _ _ => exact .inl ⟨rfl, rfl⟩
  | insert record now schedules new idle absent => exact .inr ⟨_, rfl, rfl, .insert now new absent⟩
  | commit message record scheduled ended now handles task status attempt idle seen found next isNext =>
      subst isNext
      exact .inr ⟨_, rfl, rfl, .rewrite record found (.commit scheduled ended now status)⟩
  | retry record waiting now sweeps status allowed idle seen found next isNext =>
      subst isNext
      exact .inr ⟨_, rfl, rfl, .rewrite record found (.retry waiting now status allowed)⟩
  | giveUp record waiting now sweeps status exhausted seen found next isNext told announced =>
      subst isNext
      exact .inr ⟨_, rfl, rfl, .rewrite record found (.giveUp waiting now status exhausted)⟩

theorem stored_or_written (effect : Effect service operation past tasks step later)
    {task : TaskId} {record : Record} (found : later.get? task = some record) :
    tasks.get? task = some record ∨ step.written? = some record := by
  rcases effect.writes with ⟨_, rfl⟩ | ⟨written, isWritten, rfl, _⟩
  · exact .inl found
  · rw [TaskStore.get?_put] at found
    split at found
    · exact .inr (isWritten.trans found)
    · exact .inl found

/-- What a step shows is stored when it is done. -/
theorem current (effect : Effect service operation past tasks step later) (keyed : tasks.IsKeyed)
    {record : Record} (shows : step.Shows record) : later.get? record.task = some record := by
  rcases effect.writes with ⟨unwritten, unchanged⟩ | ⟨written, isWritten, rfl, _⟩
  · rw [unchanged]
    cases effect with
    | read task =>
        generalize found : tasks.get? task = answer at shows
        cases shows with
        | read => rwa [keyed task record found]
    | due now limit =>
        generalize listed : tasks.due now limit = answer at shows
        cases shows with
        | listed _ _ _ member => exact (TaskStore.of_mem_due keyed (listed ▸ member)).1
    | aside aside => cases shows <;> cases aside
    | present _ _ | conflict _ _ _ _ _ _ | dispatch _ _ _ | announce _ _ _
    | announceAgain _ _ _ _ _ _ | announceAhead _ _ _ _ _ _ _ _ _ => cases shows
    | insert _ _ _ _ _ _ | commit _ _ _ _ _ _ _ _ _ _ _ _ _ _ | retry _ _ _ _ _ _ _ _ _ _ _
    | giveUp _ _ _ _ _ _ _ _ _ _ _ _ => cases unwritten
  · have same : record = written := by
      cases shows with
      | read _ | listed _ _ _ _ => cases isWritten
      | inserted given => cases isWritten; rfl
      | updated task expected status resume => cases isWritten; rfl
    subst same
    simp

end Effect

theorem Known.mono {other : List Step} (known : Known services tasks past)
    (fewer : ∀ step ∈ other, step ∈ past) : Known services tasks other := by
  rintro record ⟨step, member, shows⟩
  exact known record ⟨step, fewer step member, shows⟩

/-- What is stored of a task stays, or becomes something by a write of the call. -/
theorem Effect.becomes {step : Step} {later : TaskStore} {task : TaskId} {record : Record}
    (effect : Effect service operation past tasks step later) (fits : services service)
    (found : tasks.get? task = some record) :
    ∃ current, later.get? task = some current ∧ record.Becomes services current := by
  rcases effect.writes with ⟨_, rfl⟩ | ⟨written, _, rfl, writes⟩
  · exact ⟨record, found, .refl record⟩
  by_cases same : task = written.task
  · refine ⟨written, by rw [TaskStore.get?_put, if_pos same], ?_⟩
    cases writes with
    | insert _ _ absent => rw [← same, found] at absent; cases absent
    | rewrite old isOld rewrites =>
        rw [← same, found] at isOld
        obtain rfl := Option.some.inj isOld
        exact (Record.Becomes.refl record).write fits rewrites
  · exact ⟨record, by rw [TaskStore.get?_put, if_neg same, found], .refl record⟩

theorem Known.snoc {step : Step} {later : TaskStore} {whole : List Step}
    (known : Known services tasks whole) (fits : services service) (keyed : tasks.IsKeyed)
    (effect : Effect service operation past tasks step later) :
    Known services later (whole ++ [step]) := by
  rintro record ⟨other, member, shows⟩
  rcases List.mem_append.mp member with earlier | now
  · obtain ⟨current, found, becomes⟩ := known record ⟨other, earlier, shows⟩
    obtain ⟨next, isNext, more⟩ := effect.becomes fits found
    exact ⟨next, isNext, becomes.trans more⟩
  · rw [List.mem_singleton.mp now] at shows
    exact ⟨record, effect.current keyed shows, .refl record⟩

namespace World

/-- What all moves keep up while all calls are made on certain services. -/
structure Sound (services : Service → Prop) (world : World) : Prop where
  keyed : world.backend.tasks.IsKeyed
  numbered : ∀ event ∈ world.history, event.call < world.calls.length
  known : Known services world.backend.tasks world.trace
  fits : ∀ (number : Nat) (call : Call), world.calls[number]? = some call → services call.service
  conduct : ∀ (number : Nat) (call : Call), world.calls[number]? = some call →
    call.rest.Ensures (call.service.rule call.operation) call.operation.Ends (world.steps number)

/-- One call makes one more step. -/
structure Advances (surroundings : Surroundings) (world later : World) (number : Nat)
    (call : Call) (step : Step) : Prop where
  called : world.calls[number]? = some call
  effect : Effect call.service call.operation (world.steps number) world.backend.tasks step
    later.backend.tasks
  answered : step.answer = (surroundings.perform step.access world.backend).1
  backend : later.backend = (surroundings.perform step.access world.backend).2
  history : later.history = world.history ++ [⟨number, step⟩]
  performed : ∃ next, call.rest = .perform step.access next ∧
    later.calls = world.calls.set number { call with rest := next step.answer }
  calls : ∃ rest, later.calls = world.calls.set number { call with rest } ∧
    rest.Ensures (call.service.rule call.operation) call.operation.Ends
      (world.steps number ++ [step])

theorem sound_opening (services : Service → Prop) (backend : Backend)
    (keyed : backend.tasks.IsKeyed) : (opening backend).Sound services where
  keyed := keyed
  numbered := by simp [opening]
  known := by
    rintro record ⟨step, member, _⟩
    cases member
  fits := by simp [opening]
  conduct := by simp [opening]

variable {world : World}

theorem Sound.known_steps (sound : world.Sound services) (number : Nat) :
    Known services world.backend.tasks (world.steps number) :=
  sound.known.mono fun _ => mem_trace_of_mem_steps

theorem call_of_start {service : Service} {operation : Operation} {number : Nat} {call : Call}
    (called : (world.make (.start service operation)).calls[number]? = some call) :
    world.calls[number]? = some call ∨
      number = world.calls.length ∧ call = ⟨service, operation, operation.program service⟩ := by
  simp only [make, List.getElem?_append] at called
  split at called
  · exact .inl called
  · next beyond =>
      rw [List.getElem?_singleton] at called
      split at called
      · cases called
        exact .inr ⟨by omega, rfl⟩
      · cases called

theorem Sound.steps_beyond (sound : world.Sound services) {number : Nat}
    (beyond : world.calls.length ≤ number) : world.steps number = [] := by
  refine List.filterMap_eq_nil_iff.mpr fun event member => if_neg ?_
  have within := sound.numbered event member
  omega

theorem Sound.start (sound : world.Sound services) (service : Service) (operation : Operation)
    (fits : services service) : (world.make (.start service operation)).Sound services where
  keyed := sound.keyed
  numbered := by
    intro event member
    have earlier := sound.numbered event member
    simp only [World.make, List.length_append, List.length_singleton]
    omega
  known := sound.known
  fits := by
    intro number call called
    rcases call_of_start called with old | ⟨_, rfl⟩
    · exact sound.fits number call old
    · exact fits
  conduct := by
    intro number call called
    rcases call_of_start called with old | ⟨rfl, rfl⟩
    · exact sound.conduct number call old
    · have nothing : (world.make (.start service operation)).steps world.calls.length = [] :=
        sound.steps_beyond (Nat.le_refl _)
      rw [nothing]
      exact operation.program_ensures service

/-- A call that is told to go on makes a step that it may make, or has ended. -/
theorem Sound.advance (sound : world.Sound services) (number : Nat) (surroundings : Surroundings) :
    world.make (.advance number surroundings) = world ∨
      ∃ call step, (world.Advances surroundings (world.make (.advance number surroundings)) number
        call step) := by
  cases called : world.calls[number]? with
  | none => exact .inl (by simp only [make, called])
  | some call =>
      obtain ⟨service, operation, rest⟩ := call
      cases rest with
      | done value => exact .inl (by simp only [make, called])
      | fail failure => exact .inl (by simp only [make, called])
      | perform access next =>
          right
          have known := sound.known_steps number
          obtain ⟨permitted, goesOn⟩ := sound.conduct number _ called
          have made : world.make (.advance number surroundings) =
            { backend := (surroundings.perform access world.backend).2
              calls := world.calls.set number
                ⟨service, operation, next (surroundings.perform access world.backend).1⟩
              history := world.history ++
                [⟨number, access, (surroundings.perform access world.backend).1⟩] } := by
            simp only [make, called]
          rw [made]
          exact ⟨_, _, called, permitted.effect known surroundings, rfl, rfl, rfl, ⟨next, rfl, rfl⟩, _,
            rfl, goesOn _ (surroundings.answers sound.keyed known access)⟩

theorem Advances.steps {later : World} {number : Nat} {call : Call} {step : Step}
    (advances : world.Advances surroundings later number call step) (other : Nat) :
    later.steps other =
      if number = other then world.steps other ++ [step] else world.steps other := by
  have whole : later = ⟨later.backend, later.calls, world.history ++ [⟨number, step⟩]⟩ := by
    rw [← advances.history]
  rw [whole, steps_snoc]
  rfl

theorem Advances.trace {later : World} {number : Nat} {call : Call} {step : Step}
    (advances : world.Advances surroundings later number call step) :
    later.trace = world.trace ++ [step] := by
  simp only [World.trace, advances.history, List.map_append, List.map_cons, List.map_nil]

theorem Advances.call_of {later : World} {number other : Nat} {call found : Call} {step : Step}
    (advances : world.Advances surroundings later number call step)
    (called : later.calls[other]? = some found) :
    (other = number ∧ found.service = call.service ∧ found.operation = call.operation) ∨
      (other ≠ number ∧ world.calls[other]? = some found) := by
  obtain ⟨rest, calls, _⟩ := advances.calls
  rw [calls, List.getElem?_set] at called
  split at called
  · next same =>
      split at called
      · cases called
        exact .inl ⟨same.symm, rfl, rfl⟩
      · cases called
  · next different => exact .inr ⟨fun same => different same.symm, called⟩

theorem Sound.of_advances {later : World} {number : Nat} {call : Call} {step : Step}
    (sound : world.Sound services)
    (advances : world.Advances surroundings later number call step) : later.Sound services := by
  obtain ⟨rest, calls, conduct⟩ := advances.calls
  have fits := sound.fits number call advances.called
  refine ⟨?_, ?_, ?_, ?_, ?_⟩
  · rcases advances.effect.writes with ⟨_, same⟩ | ⟨written, _, same, _⟩
    · rw [same]; exact sound.keyed
    · rw [same]; exact sound.keyed.put written
  · intro event member
    rw [advances.history] at member
    rw [calls, List.length_set]
    rcases List.mem_append.mp member with earlier | now
    · exact sound.numbered event earlier
    · rw [List.mem_singleton.mp now]
      exact (List.getElem?_eq_some_iff.mp advances.called).1
  · rw [advances.trace]
    exact sound.known.snoc fits sound.keyed advances.effect
  · intro other found called
    rcases advances.call_of called with ⟨rfl, same, _⟩ | ⟨_, old⟩
    · rw [same]; exact fits
    · exact sound.fits other found old
  · intro other found called
    rw [advances.steps]
    rcases advances.call_of called with ⟨rfl, _, _⟩ | ⟨different, old⟩
    · have within := (List.getElem?_eq_some_iff.mp advances.called).1
      rw [calls, List.getElem?_set_self within] at called
      cases called
      rw [if_pos rfl]
      exact conduct
    · rw [if_neg fun same => different same.symm]
      exact sound.conduct other found old

theorem Sound.make (sound : world.Sound services) {move : Move}
    (fair : MovesOf services world move) : (world.make move).Sound services := by
  cases move with
  | start service operation => exact sound.start service operation fair
  | setClock now => exact ⟨sound.keyed, sound.numbered, sound.known, sound.fits, sound.conduct⟩
  | advance number surroundings =>
      rcases sound.advance number surroundings with same | ⟨call, step, advances⟩
      · rw [same]; exact sound
      generalize world.make (.advance number surroundings) = later at advances ⊢
      exact sound.of_advances advances

theorem Reaches.sound {fair : World → Move → Prop} {first : World}
    (reached : Reaches fair first world) (sound : first.Sound services)
    (fits : ∀ world move, fair world move → MovesOf services world move) :
    world.Sound services := by
  induction reached with
  | here => exact sound
  | next _ move isFair ih => exact ih.make (fits _ move isFair)

/-- What the first world has, and every fair move keeps in a world that is reached, the last world
has. -/
theorem Reaches.fair_invariant {fair : World → Move → Prop} {first : World}
    (reached : Reaches fair first world) (holds : World → Prop) (sound : first.Sound services)
    (fits : ∀ world move, fair world move → MovesOf services world move) (here : holds first)
    (start : ∀ (world : World) (service : Service) (operation : Operation),
      Reaches fair first world → fair world (.start service operation) → holds world →
        holds (world.make (.start service operation)))
    (clock : ∀ (world : World) (now : Instant), Reaches fair first world →
      fair world (.setClock now) → holds world → holds (world.make (.setClock now)))
    (advance : ∀ (world later : World) (number : Nat) (surroundings : Surroundings) (call : Call)
      (step : Step), Reaches fair first world → fair world (.advance number surroundings) →
        world.Advances surroundings later number call step → holds world → holds later) :
    holds world := by
  induction reached with
  | here => exact here
  | @next world earlier move isFair ih =>
      cases move with
      | start service operation => exact start world service operation earlier isFair ih
      | setClock now => exact clock world now earlier isFair ih
      | advance number surroundings =>
          rcases (earlier.sound sound fits).advance number surroundings with
            same | ⟨call, step, advances⟩
          · rw [same]; exact ih
          · exact advance _ _ number surroundings call step earlier isFair advances ih

/-- What the first world has, and every move of a run keeps, the last world has. -/
theorem Reaches.invariant {fair : World → Move → Prop} {first : World}
    (reached : Reaches fair first world) (holds : World → Prop) (sound : first.Sound services)
    (fits : ∀ world move, fair world move → MovesOf services world move) (here : holds first)
    (start : ∀ (world : World) (service : Service) (operation : Operation), world.Sound services →
      fair world (.start service operation) → holds world →
      holds (world.make (.start service operation)))
    (clock : ∀ (world : World) (now : Instant), holds world → holds (world.make (.setClock now)))
    (advance : ∀ (world later : World) (number : Nat) (surroundings : Surroundings) (call : Call)
      (step : Step), world.Sound services → fair world (.advance number surroundings) →
      world.Advances surroundings later number call step → holds world → holds later) :
    holds world := by
  apply reached.fair_invariant holds sound fits here
  · exact fun world service operation earlier isFair held =>
      start world service operation (earlier.sound sound fits) isFair held
  · exact fun world now _ _ held => clock world now held
  · exact fun world later number surroundings call step earlier isFair advances held =>
      advance world later number surroundings call step (earlier.sound sound fits) isFair advances held

/-- The dispatches that were published, the oldest first. -/
def published (world : World) : List Dispatch := world.trace.filterMap Step.published?

/-- The notifications that were published, the oldest first. -/
def announced (world : World) : List Notification := world.trace.filterMap Step.announced?

theorem Advances.published {later : World} {number : Nat} {call : Call} {step : Step}
    (advances : world.Advances surroundings later number call step) :
    later.published = world.published ++ step.published?.toList := by
  simp only [World.published, advances.trace, List.filterMap_append]
  cases found : step.published? <;> simp [found]

theorem Advances.announced {later : World} {number : Nat} {call : Call} {step : Step}
    (advances : world.Advances surroundings later number call step) :
    later.announced = world.announced ++ step.announced?.toList := by
  simp only [World.announced, advances.trace, List.filterMap_append]
  cases found : step.announced? <;> simp [found]

/-- A call with something left to publish is running. -/
theorem Sound.running_of_unsettled (sound : world.Sound services) {number : Nat}
    (unsettled : ¬ (stance (world.steps number)).IsSettled) :
    ∃ call, world.calls[number]? = some call ∧ call.IsRunning := by
  have within : number < world.calls.length := by
    refine Nat.lt_of_not_le fun beyond => unsettled ?_
    rw [sound.steps_beyond beyond]
    trivial
  refine ⟨world.calls[number], List.getElem?_eq_getElem within, ?_⟩
  have conduct := sound.conduct number _ (List.getElem?_eq_getElem within)
  cases rest : world.calls[number].rest with
  | done reply => rw [rest] at conduct; exact absurd conduct.1 unsettled
  | fail failure => rw [rest] at conduct; exact absurd conduct.1 unsettled
  | perform access next => exact ⟨access, next, rest⟩

def operation? (world : World) (number : Nat) : Option Operation :=
  (world.calls[number]?).map (·.operation)

def service? (world : World) (number : Nat) : Option Service :=
  (world.calls[number]?).map (·.service)

theorem operation?_start {service : Service} {operation : Operation} {number : Nat}
    (within : number < world.calls.length) :
    (world.make (.start service operation)).operation? number = world.operation? number := by
  simp only [operation?, make, List.getElem?_append_left within]

theorem operation?_of_start {service : Service} {operation found : Operation} {number : Nat}
    (called : world.operation? number = some found) :
    (world.make (.start service operation)).operation? number = some found := by
  rw [operation?_start, called]
  refine Nat.lt_of_not_le fun beyond => ?_
  rw [World.operation?, List.getElem?_eq_none beyond] at called
  cases called

theorem operation_of_start {service : Service} {operation found : Operation} {number : Nat}
    (called : (world.make (.start service operation)).operation? number = some found) :
    world.operation? number = some found ∨ found = operation := by
  obtain ⟨call, isCall, rfl⟩ := Option.map_eq_some_iff.mp called
  rcases call_of_start isCall with old | ⟨_, rfl⟩
  · left
    rw [operation?, old, Option.map_some]
  · exact .inr rfl

theorem service?_start {service : Service} {operation : Operation} {number : Nat}
    (within : number < world.calls.length) :
    (world.make (.start service operation)).service? number = world.service? number := by
  simp only [service?, make, List.getElem?_append_left within]

theorem service?_of_start {service found : Service} {operation : Operation} {number : Nat}
    (called : world.service? number = some found) :
    (world.make (.start service operation)).service? number = some found := by
  rw [service?_start, called]
  refine Nat.lt_of_not_le fun beyond => ?_
  rw [World.service?, List.getElem?_eq_none beyond] at called
  cases called

/-- A step changes nothing about a call but what is left of its program. -/
theorem Advances.same_calls {later : World} {number : Nat} {call : Call} {step : Step}
    (advances : world.Advances surroundings later number call step) (other : Nat) :
    later.operation? other = world.operation? other ∧
      later.service? other = world.service? other := by
  obtain ⟨rest, calls, _⟩ := advances.calls
  simp only [operation?, service?, calls, List.getElem?_set]
  by_cases same : number = other
  · subst same
    have within := (List.getElem?_eq_some_iff.mp advances.called).1
    rw [if_pos rfl, if_pos within, advances.called]
    exact ⟨rfl, rfl⟩
  · rw [if_neg same]
    exact ⟨rfl, rfl⟩

theorem Advances.operation? {later : World} {number : Nat} {call : Call} {step : Step}
    (advances : world.Advances surroundings later number call step) :
    world.operation? number = some call.operation := by
  rw [World.operation?, advances.called, Option.map_some]

theorem Advances.service? {later : World} {number : Nat} {call : Call} {step : Step}
    (advances : world.Advances surroundings later number call step) :
    world.service? number = some call.service := by
  rw [World.service?, advances.called, Option.map_some]

/-- A run goes on from the calls and the history it starts with. -/
theorem Reaches.goesOn {fair : World → Move → Prop} {first : World}
    (reached : Reaches fair first world) (sound : first.Sound services)
    (fits : ∀ world move, fair world move → MovesOf services world move) :
    (∃ more, world.history = first.history ++ more) ∧
      ∀ number operation, first.operation? number = some operation →
        world.operation? number = some operation := by
  refine reached.invariant (fun world => (∃ more, world.history = first.history ++ more) ∧
    ∀ number operation, first.operation? number = some operation →
      world.operation? number = some operation) sound fits ⟨⟨[], by simp⟩, fun _ _ called => called⟩ ?_ ?_ ?_
  · rintro world service operation _ _ ⟨history, same⟩
    exact ⟨history, fun number called isCalled => operation?_of_start (same number called isCalled)⟩
  · rintro world now ⟨history, same⟩
    exact ⟨history, same⟩
  · rintro world later number surroundings call step _ _ advances ⟨⟨more, history⟩, same⟩
    refine ⟨⟨more ++ [⟨number, step⟩], ?_⟩, fun other operation isCalled => ?_⟩
    · rw [advances.history, history, List.append_assoc]
    · rw [(advances.same_calls other).1]
      exact same other operation isCalled

end World

end CacheFill
