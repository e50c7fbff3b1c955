import CacheFill.Proofs.Concurrency.Ledger

/-!
Dispatches while any calls go on side by side. Writing a scheduled status and publishing its dispatch
are two steps, and other calls may come between them. But the next attempt can only be written once
the execution that this one asks for has ended, and that takes its dispatch; so the dispatches of a
task are published in the order of their attempts, each by the call that wrote the attempt. Main
statement: `one_dispatch_per_attempt`.
-/

set_option autoImplicit false

namespace CacheFill

namespace Effect

variable {service : Service} {operation : Operation} {past : List Step} {tasks later : TaskStore}
  {step : Step}

/-- A first attempt is written by a call that schedules, and each other one by a sweep. -/
theorem origin (effect : Effect service operation past tasks step later) {record : Record}
    (written : step.written? = some record) (scheduled : record.status.state = .scheduled)
    (waits : ∀ task record, tasks.get? task = some record →
      record.status.state = .waitsForRetry → 1 ≤ record.status.attempt) :
    operation.isSchedule = true ∧ record.status.attempt = 0 ∨
      operation = .sweep ∧ 2 ≤ record.status.attempt := by
  cases effect with
  | aside aside =>
      rw [(Step.quiet_of_aside aside).1] at written
      cases written
  | read _ | due _ _ | present _ _ | conflict _ _ _ _ _ _ | dispatch _ _ _ | announce _ _ _
  | announceAgain _ _ _ _ _ _ | announceAhead _ _ _ _ _ _ _ _ _ => cases written
  | insert record now schedules new =>
      cases written
      exact .inl ⟨schedules, by simp only [new]; rfl⟩
  | commit message old first ended now handles task status attempt idle seen found next isNext =>
      cases written
      have rewrites : service.Rewrites old record := isNext ▸ .commit first ended now status
      have waited := rewrites.follows.waits_before scheduled
      rw [status] at waited
      cases waited
  | retry old waiting now sweeps status allowed idle seen found next isNext =>
      cases written
      refine .inr ⟨sweeps, ?_⟩
      have counted := waits _ old found (by rw [status]; rfl)
      rw [status, UInt32.le_iff_toNat_le] at counted
      have raised := Service.toNat_succ_of_lt allowed
      rw [isNext, UInt32.le_iff_toNat_le]
      change 1 ≤ waiting.attempt.toNat at counted
      change 2 ≤ (waiting.attempt + 1).toNat
      omega
  | giveUp old waiting now sweeps status exhausted seen found next isNext told announced =>
      cases written
      rw [isNext] at scheduled
      cases scheduled

theorem of_published? (effect : Effect service operation past tasks step later)
    {message : Dispatch} (published : step.published? = some message) :
    stance past = .dispatching message ∧
      step.access = .publish (service.topics.dispatch message.type) message := by
  cases effect with
  | aside aside =>
      rw [(Step.quiet_of_aside aside).2.1] at published
      cases published
  | read _ | due _ _ | present _ _ | conflict _ _ _ _ _ _ | announce _ _ _
  | announceAgain _ _ _ _ _ _ | announceAhead _ _ _ _ _ _ _ _ _ | insert _ _ _ _ _ _
  | commit _ _ _ _ _ _ _ _ _ _ _ _ _ _ | retry _ _ _ _ _ _ _ _ _ _ _
  | giveUp _ _ _ _ _ _ _ _ _ _ _ _ => cases published
  | dispatch sent answer owed =>
      cases answer with
      | ok _ => cases published; exact ⟨owed, rfl⟩
      | error reason => cases published

end Effect

/-- What a partition retains after a message was published is the message itself, in the partition of
its key, or was retained before. -/
theorem Bus.mem_retained_publish {M : Type} {bus : Bus M} {topic key : String} {message other : M}
    {place : String × UInt32} {partition : Partition M}
    (found : (bus.publish topic key message).partitions.get? place = some partition)
    (member : other ∈ partition.retained) :
    (other = message ∧ place = (topic, Partition.ofKey key bus.partitionCount)) ∨
      ∃ before, bus.partitions.get? place = some before ∧ other ∈ before.retained := by
  simp only [publish, Table.get?_insert] at found
  split at found
  · next here =>
      cases found
      rcases List.mem_append.mp (List.mem_of_mem_drop member) with earlier | now
      · simp only [Bus.partition, ← here] at earlier
        cases stored : bus.partitions.get? place with
        | none =>
            rw [stored] at earlier
            cases earlier
        | some before =>
            rw [stored] at earlier
            exact .inr ⟨before, rfl, earlier⟩
      · exact .inl ⟨List.mem_singleton.mp now, here⟩
  · exact .inr ⟨partition, found, member⟩

namespace World

variable {world later : World} {surroundings : Surroundings} {number : Nat} {call : Call}
  {step : Step} {services : Service → Prop}

def ledger (world : World) : Ledger where
  tasks := world.backend.tasks
  published := world.published
  owed? := fun number => (stance (world.steps number)).owed?

/-- Dispatches are handled that were published, as often as may be, and their bus is never out. -/
def fromBus (world : World) : Move → Prop
  | .start _ operation => ∀ message, operation = .handle message → message ∈ world.published
  | .advance _ surroundings => surroundings.noDispatch = none
  | .setClock _ => True

instance (world : World) : (move : Move) → Decidable (fromBus world move)
  | .start _ (.handle message) =>
      decidable_of_iff (message ∈ world.published)
        ⟨fun member _ same => Operation.handle.inj same ▸ member, fun handled => handled message rfl⟩
  | .start _ (.read _ _) | .start _ (.save _ _ _) | .start _ (.remove _ _) | .start _ (.update _ _)
  | .start _ (.schedule _ _ _) | .start _ .sweep => .isTrue fun _ same => by cases same
  | .advance _ surroundings => inferInstanceAs (Decidable (surroundings.noDispatch = none))
  | .setClock _ => .isTrue trivial

theorem Advances.ledger (advances : world.Advances surroundings later number call step) :
    later.ledger = ⟨later.backend.tasks, world.published ++ step.published?.toList, fun other =>
      if number = other then ((stance (world.steps number)).after step).owed?
      else world.ledger.owed? other⟩ := by
  have owed : later.ledger.owed? = fun other =>
      if number = other then ((stance (world.steps number)).after step).owed?
      else world.ledger.owed? other := by
    funext other
    simp only [World.ledger, advances.steps]
    split
    · next same => rw [stance_snoc, same]
    · rfl
  rw [← advances.published, ← owed]
  rfl

theorem Advances.ledger_quiet (advances : world.Advances surroundings later number call step)
    (tasks : later.backend.tasks = world.backend.tasks) (unpublished : step.published? = none)
    (owed : ((stance (world.steps number)).after step).owed? =
      (stance (world.steps number)).owed?) : later.ledger = world.ledger := by
  have same : (fun other => if number = other then (stance (world.steps number)).owed?
      else world.ledger.owed? other) = world.ledger.owed? := by
    funext other
    split
    · next here => rw [← here]; rfl
    · rfl
  rw [advances.ledger, tasks, unpublished, owed, Option.toList_none, List.append_nil, same]
  rfl

theorem Advances.ledger_write (advances : world.Advances surroundings later number call step)
    {record : Record} (written : step.written? = some record)
    (tasks : later.backend.tasks = world.backend.tasks.put record)
    (unpublished : step.published? = none) :
    later.ledger = world.ledger.write number record := by
  rw [advances.ledger, tasks, unpublished, Stance.after_of_written _ written,
    Stance.owed?_afterWrite, Option.toList_none, List.append_nil]
  rfl

/-- What is known of calls and dispatches when every dispatch that is handled was published. -/
structure Posted (world : World) : Prop where
  balanced : world.ledger.Balanced
  handled : ∀ number message, world.operation? number = some (.handle message) →
    message ∈ world.published
  origin : ∀ number record, Wrote (world.steps number) record →
    record.status.state = .scheduled → ∃ operation, world.operation? number = some operation ∧
      (operation.isSchedule = true ∧ record.status.attempt = 0 ∨
        operation = .sweep ∧ 2 ≤ record.status.attempt)
  sender : ∀ event ∈ world.history, ∀ message, event.step.published? = some message →
    (∃ service, world.service? event.call = some service ∧
      event.step.access = .publish (service.topics.dispatch message.type) message) ∧
    ∃ record, Wrote (world.steps event.call) record ∧ record.status.state = .scheduled ∧
      record.dispatch = message

/-- Nobody owes the dispatch of a task that was given to a handler. -/
theorem Posted.clear_of_handled (posted : world.Posted)
    {record : Record} {message : Dispatch}
    (handled : message ∈ world.published) (task : record.task = message.task)
    (found : world.backend.tasks.get? record.task = some record)
    (attempt : record.status.attempt = message.attempt) (other : Nat) (owed : Dispatch)
    (owes : world.ledger.owed? other = some owed) : owed.task ≠ record.task := by
  intro same
  obtain ⟨unpublished, stored, isStored, _, dispatch⟩ := posted.balanced.owed other owed owes
  rw [same] at isStored
  obtain rfl := Option.some.inj (found.symm.trans isStored)
  obtain ⟨stored, isStored, type, key, _⟩ := posted.balanced.sent message handled
  rw [← task] at isStored
  obtain rfl := Option.some.inj (found.symm.trans isStored)
  rw [← dispatch, ← Record.eq_dispatch type key task.symm attempt.symm] at unpublished
  exact unpublished handled

/-- Nobody owes the dispatch of a task that is not scheduled. -/
theorem Posted.clear_of_pending (posted : world.Posted) {record : Record}
    (found : world.backend.tasks.get? record.task = some record)
    (pending : record.status.state ≠ .scheduled) (other : Nat) (owed : Dispatch)
    (owes : world.ledger.owed? other = some owed) : owed.task ≠ record.task := by
  intro same
  obtain ⟨_, stored, isStored, scheduled, _⟩ := posted.balanced.owed other owed owes
  rw [same] at isStored
  obtain rfl := Option.some.inj (found.symm.trans isStored)
  exact pending scheduled

/-- Writing over a record keeps the balance when nobody owes a dispatch of its task: what was
published of the task came before. -/
theorem Posted.ledger_rewrite (posted : world.Posted) {service : Service} {record next : Record}
    (silent : world.ledger.owed? number = none)
    (found : world.backend.tasks.get? record.task = some record)
    (rewrites : service.Rewrites record next)
    (clear : ∀ other owed, world.ledger.owed? other = some owed → owed.task ≠ record.task) :
    (world.ledger.write number next).Balanced := by
  obtain ⟨sameTask, sameType, sameKey, _⟩ := rewrites.frame
  have follows := rewrites.follows
  have sent (message : Dispatch) (member : message ∈ world.published)
      (task : message.task = next.task) : message.type = next.type ∧ message.key = next.key ∧
        message.attempt ≤ record.status.attempt := by
    obtain ⟨stored, isStored, type, key, attempt⟩ := posted.balanced.sent message member
    rw [task, sameTask] at isStored
    obtain rfl := Option.some.inj (found.symm.trans isStored)
    exact ⟨type.trans sameType.symm, key.trans sameKey.symm, attempt⟩
  refine posted.balanced.write silent ?_ ?_ ?_ follows.one_le_attempt
  · rw [sameTask]
    exact clear
  · intro message member task
    obtain ⟨type, key, attempt⟩ := sent message member task
    exact ⟨type, key, UInt32.le_trans attempt follows.attempt_le⟩
  · intro scheduled member
    obtain ⟨_, _, attempt⟩ := sent next.dispatch member rfl
    exact absurd attempt (UInt32.not_le.mpr (follows.attempt_lt scheduled))

theorem Posted.ledger_advance (posted : world.Posted) (sound : world.Sound services)
    (advances : world.Advances surroundings later number call step)
    (calm : surroundings.noDispatch = none) : later.ledger.Balanced := by
  have effect := advances.effect
  generalize stored : later.backend.tasks = tasks at effect
  have owes : world.ledger.owed? number = (stance (world.steps number)).owed? := rfl
  have silent (settled : (stance (world.steps number)).IsSettled) :
      world.ledger.owed? number = none := owes.trans (Stance.owed?_of_settled settled)
  cases effect with
  | aside aside =>
      rw [advances.ledger_quiet stored (Step.quiet_of_aside aside).2.1
        (by rw [Stance.after_of_aside aside])]
      exact posted.balanced
  | read _ | due _ _ | present _ _ =>
      rw [advances.ledger_quiet stored rfl rfl]
      exact posted.balanced
  | conflict record status resume actual settled seen changed =>
      rw [advances.ledger_quiet stored rfl (Stance.owed?_of_settled settled).symm]
      exact posted.balanced
  | announce notification answer owed =>
      rw [advances.ledger_quiet stored rfl (by rw [Stance.owed?_after_announce, owed]; rfl)]
      exact posted.balanced
  | announceAgain message record answer handles seen terminal idle =>
      rw [advances.ledger_quiet stored rfl (by rw [Stance.owed?_after_announce, idle]; rfl)]
      exact posted.balanced
  | announceAhead record waiting now answer sweeps seen status exhausted idle =>
      rw [advances.ledger_quiet stored rfl (by rw [Stance.owed?_after_announce, idle]; rfl)]
      exact posted.balanced
  | insert record now schedules new idle absent =>
      rw [advances.ledger_write rfl stored rfl]
      refine posted.balanced.write (silent (idle ▸ trivial)) ?_ ?_ ?_ ?_
      · intro other owed owesOther same
        obtain ⟨_, stored, isStored, _⟩ := posted.balanced.owed other owed owesOther
        rw [same] at isStored
        cases absent.symm.trans isStored
      · intro message member same
        obtain ⟨stored, isStored, _⟩ := posted.balanced.sent message member
        rw [same] at isStored
        cases absent.symm.trans isStored
      · intro _ member
        obtain ⟨stored, isStored, _⟩ := posted.balanced.sent _ member
        cases absent.symm.trans isStored
      · intro waits
        simp only [new] at waits
        cases waits
  | commit message record scheduled ended now handles task status attempt idle seen found next
      isNext =>
      have rewrites : call.service.Rewrites record next :=
        isNext ▸ .commit scheduled ended now status
      rw [advances.ledger_write rfl stored rfl]
      refine posted.ledger_rewrite (silent (idle ▸ trivial)) found rewrites ?_
      have handled := posted.handled number message (by rw [advances.operation?, handles])
      exact posted.clear_of_handled handled task found (by rw [status]; exact attempt)
  | retry record waiting now sweeps status allowed idle seen found next isNext =>
      have rewrites : call.service.Rewrites record next :=
        isNext ▸ .retry waiting now status allowed
      rw [advances.ledger_write rfl stored rfl]
      exact posted.ledger_rewrite (silent (idle ▸ trivial)) found rewrites
        (posted.clear_of_pending found fun scheduled => by rw [status] at scheduled; cases scheduled)
  | giveUp record waiting now sweeps status exhausted seen found next isNext told announced =>
      have rewrites : call.service.Rewrites record next :=
        isNext ▸ .giveUp waiting now status exhausted
      rw [advances.ledger_write rfl stored rfl]
      exact posted.ledger_rewrite (silent (announced ▸ trivial)) found rewrites
        (posted.clear_of_pending found fun scheduled => by rw [status] at scheduled; cases scheduled)
  | dispatch message answer owed =>
      have sent : answer = .ok () := by
        have answered := advances.answered
        simp only [Surroundings.perform, calm] at answered
        exact answered
      subst sent
      have published : later.ledger = world.ledger.publish number message := by
        rw [advances.ledger, stored]
        rfl
      rw [published]
      exact posted.balanced.publish sound.keyed (owes.trans (by rw [owed]; rfl))

theorem Posted.advance (posted : world.Posted) (sound : world.Sound services)
    (advances : world.Advances surroundings later number call step)
    (calm : surroundings.noDispatch = none) : later.Posted where
  balanced := posted.ledger_advance sound advances calm
  handled := by
    intro other message handles
    rw [(advances.same_calls other).1] at handles
    rw [advances.published]
    exact List.mem_append_left _ (posted.handled other message handles)
  origin := by
    intro other record wrote scheduled
    rw [(advances.same_calls other).1]
    rw [advances.steps] at wrote
    split at wrote
    · next same =>
        subst same
        obtain ⟨write, member, written⟩ := wrote
        rcases List.mem_append.mp member with earlier | now
        · exact posted.origin number record ⟨write, earlier, written⟩ scheduled
        · rw [List.mem_singleton.mp now] at written
          exact ⟨_, advances.operation?, advances.effect.origin written scheduled
            posted.balanced.waits⟩
    · exact posted.origin other record wrote scheduled
  sender := by
    intro event member message sent
    rw [(advances.same_calls event.call).2, advances.steps]
    rw [advances.history] at member
    rcases List.mem_append.mp member with earlier | now
    · obtain ⟨access, record, wrote, rest⟩ := posted.sender event earlier message sent
      refine ⟨access, record, ?_, rest⟩
      split
      · exact wrote.append _
      · exact wrote
    · rw [List.mem_singleton.mp now] at sent ⊢
      obtain ⟨owed, access⟩ := advances.effect.of_published? sent
      obtain ⟨record, awaits, rest⟩ := awaitsPublish_of_owed (Stance.owed?_eq_some.mpr owed)
      refine ⟨⟨_, advances.service?, access⟩, record, ?_, rest⟩
      rw [if_pos rfl]
      exact awaits.wrote.append _

theorem Posted.start (posted : world.Posted) (sound : world.Sound services) (service : Service)
    (operation : Operation)
    (handled : ∀ message, operation = .handle message → message ∈ world.published) :
    (world.make (.start service operation)).Posted where
  balanced := posted.balanced
  handled := by
    intro number message handles
    obtain ⟨call, called, same⟩ := Option.map_eq_some_iff.mp handles
    rcases call_of_start called with old | ⟨_, rfl⟩
    · exact posted.handled number message (Option.map_eq_some_iff.mpr ⟨call, old, same⟩)
    · exact handled message same
  origin := by
    intro number record wrote scheduled
    obtain ⟨step, member, _⟩ := id wrote
    rw [operation?_start (sound.numbered _ (mem_steps.mp member))]
    exact posted.origin number record wrote scheduled
  sender := by
    intro event member message sent
    rw [service?_start (sound.numbered event member)]
    exact posted.sender event member message sent

theorem posted_opening (backend : Backend) (empty : backend.tasks = .empty) :
    (opening backend).Posted where
  balanced := by
    have nothing : (opening backend).ledger = ⟨.empty, [], fun _ => none⟩ := by
      rw [← empty]; rfl
    rw [nothing]
    refine ⟨?_, ?_, ?_, ?_, .nil, ?_⟩
    · intro _ _ owed; cases owed
    · intro _ _ _ _ owed; cases owed
    · intro _ _ found; cases found
    · intro _ member; cases member
    · intro _ _ found; cases found
  handled := by
    intro number message handles
    cases handles
  origin := by
    rintro number record ⟨step, member, _⟩
    cases member
  sender := by
    intro event member
    cases member

/-- What the bus retains was published to its topic, and stands in the partition of its key. -/
def Placed (world : World) : Prop :=
  ∀ place partition message, world.backend.dispatches.partitions.get? place = some partition →
    message ∈ partition.retained →
      place.2 = Partition.ofKey message.key world.backend.dispatches.partitionCount ∧
        ∃ event ∈ world.history, event.step = ⟨.publish place.1 message, .ok ()⟩

theorem Placed.advance (placed : world.Placed)
    (advances : world.Advances surroundings later number call step)
    (calm : surroundings.noDispatch = none) : later.Placed := by
  intro place partition message found member
  have earlier (member : ∃ event ∈ world.history, event.step = ⟨.publish place.1 message, .ok ()⟩) :
      ∃ event ∈ later.history, event.step = ⟨.publish place.1 message, .ok ()⟩ := by
    obtain ⟨event, member, same⟩ := member
    exact ⟨event, by rw [advances.history]; exact List.mem_append_left _ member, same⟩
  by_cases publishes : ∃ topic sent, step.access = .publish topic sent
  · obtain ⟨topic, sent, access⟩ := publishes
    obtain ⟨_, answer⟩ := step
    obtain rfl : _ = Access.publish topic sent := access
    have performed : surroundings.perform (.publish topic sent) world.backend =
        (.ok (), { world.backend with
          dispatches := world.backend.dispatches.publish topic sent.key sent }) := by
      simp only [Surroundings.perform, calm]
      rfl
    obtain rfl : answer = .ok () := by
      have answered := advances.answered
      rw [performed] at answered
      exact answered
    rw [advances.backend, performed] at found ⊢
    rcases Bus.mem_retained_publish found member with ⟨rfl, rfl⟩ | ⟨before, stored, retained⟩
    · refine ⟨rfl, ⟨number, _⟩, ?_, rfl⟩
      rw [advances.history]
      exact List.mem_append_right _ List.mem_cons_self
    · obtain ⟨number, published⟩ := placed place before message stored retained
      exact ⟨number, earlier published⟩
  · have same : later.backend.dispatches = world.backend.dispatches := by
      rw [advances.backend]
      exact surroundings.dispatches_of_perform world.backend fun topic sent access =>
        publishes ⟨topic, sent, access⟩
    rw [same] at found ⊢
    obtain ⟨number, published⟩ := placed place partition message found member
    exact ⟨number, earlier published⟩

/-- The call that owes the dispatch of a record is the one that wrote it, and it is running. -/
theorem Sound.awaits_of_owed (sound : world.Sound services) {record : Record}
    (found : world.backend.tasks.get? record.task = some record)
    (scheduled : record.status.state = .scheduled)
    (owed : world.ledger.owed? number = some record.dispatch) :
    ∃ call, world.calls[number]? = some call ∧ call.IsRunning ∧
      AwaitsPublish (world.steps number) record := by
  obtain ⟨written, awaits, isScheduled, same⟩ := awaitsPublish_of_owed owed
  have isRecord : written = record := by
    obtain ⟨current, isCurrent, becomes⟩ := sound.known_steps number written awaits.wrote.seen
    have sameTask : written.task = record.task := congrArg Dispatch.task same
    have sameAttempt : written.status.attempt = record.status.attempt :=
      congrArg Dispatch.attempt same
    rw [sameTask, found] at isCurrent
    obtain rfl := Option.some.inj isCurrent
    obtain ⟨writes, _, rank, unwritten⟩ := becomes.count
    refine unwritten ?_
    rw [Status.rank_of_scheduled isScheduled, Status.rank_of_scheduled scheduled,
      sameAttempt] at rank
    omega
  rw [isRecord] at awaits
  have unsettled : ¬ (stance (world.steps number)).IsSettled := by
    rw [Stance.owed?_eq_some.mp owed]
    exact id
  obtain ⟨call, called, running⟩ := sound.running_of_unsettled unsettled
  exact ⟨call, called, running, awaits⟩

/-- Tasks are scheduled, swept and executed by any number of calls whose accesses interleave in any
way; dispatches are handled that were published, each as often as may be. Then every dispatch carries
the load type and key of its task, so that it goes to one topic of a namespace and to one partition.
Each is published by the call that wrote its attempt: the first by the one that scheduled the task,
every other, from 2 on, by a sweep. The attempts of a task are published in rising order, so none is
published twice. And no attempt gets lost: when a task is scheduled, its dispatch is published, or
the call that wrote this status is running and has not yet come to publish it. -/
theorem one_dispatch_per_attempt {backend : Backend} {count : UInt32} {retention : Nat}
    {world : World} (reached : Reaches fromBus (opening { backend with
      tasks := .empty, dispatches := .create count retention }) world) :
    (∀ event ∈ world.history, ∀ message, event.step.published? = some message →
      ∃ service operation stored written, world.service? event.call = some service ∧
        world.operation? event.call = some operation ∧
        world.backend.tasks.get? message.task = some stored ∧ message.type = stored.type ∧
        message.key = stored.key ∧
        event.step.access = .publish (service.topics.dispatch stored.type) message ∧
        Wrote (world.steps event.call) written ∧ written.status.state = .scheduled ∧
        written.dispatch = message ∧
        (operation.isSchedule = true ∧ message.attempt = 0 ∨
          operation = .sweep ∧ 2 ≤ message.attempt)) ∧
      (∀ place partition message,
        world.backend.dispatches.partitions.get? place = some partition →
        message ∈ partition.retained → ∃ number service stored,
          world.service? number = some service ∧
          world.backend.tasks.get? message.task = some stored ∧
          place = (service.topics.dispatch stored.type,
            Partition.ofKey stored.key world.backend.dispatches.partitionCount)) ∧
      (world.published.Pairwise fun earlier later =>
        earlier.task = later.task → earlier.attempt < later.attempt) ∧
      ∀ task record, world.backend.tasks.get? task = some record →
        record.status.state = .scheduled →
        record.dispatch ∈ world.published ∨ ∃ number call, world.calls[number]? = some call ∧
          call.IsRunning ∧ AwaitsPublish (world.steps number) record := by
  have any : ∀ world move, fromBus world move → MovesOf (fun _ => True) world move :=
    fun _ _ _ => movesOf_any
  have soundFirst : (opening { backend with
      tasks := .empty, dispatches := .create count retention }).Sound fun _ => True :=
    sound_opening _ _ TaskStore.isKeyed_empty
  have sound := reached.sound soundFirst any
  have posted : world.Posted := by
    refine reached.invariant Posted soundFirst any (posted_opening _ rfl) ?_ ?_ ?_
    · exact fun _ service operation sound handled posted =>
        posted.start sound service operation handled
    · exact fun _ _ posted => ⟨posted.balanced, posted.handled, posted.origin, posted.sender⟩
    · exact fun _ _ _ _ _ _ sound calm advances posted => posted.advance sound advances calm
  have placed : world.Placed := by
    refine reached.invariant Placed soundFirst any ?_ ?_ ?_ ?_
    · rintro place partition message ⟨⟩
    · exact fun _ _ _ _ _ placed => placed
    · exact fun _ _ placed => placed
    · exact fun _ _ _ _ _ _ _ calm advances placed => placed.advance advances calm
  refine ⟨?_, ?_, posted.balanced.rising, ?_⟩
  · intro event member message sent
    obtain ⟨⟨service, isService, access⟩, written, wrote, scheduled, same⟩ :=
      posted.sender event member message sent
    obtain ⟨operation, isOperation, origin⟩ := posted.origin event.call written wrote scheduled
    have isPublished : message ∈ world.published :=
      List.mem_filterMap.mpr ⟨event.step, List.mem_map.mpr ⟨event, member, rfl⟩, sent⟩
    obtain ⟨stored, found, type, key, _⟩ := posted.balanced.sent message isPublished
    refine ⟨service, operation, stored, written, isService, isOperation, found, type, key, ?_,
      wrote, scheduled, same, ?_⟩
    · rw [← type]; exact access
    · rw [← same]; exact origin
  · intro place partition message found member
    obtain ⟨number, event, inHistory, step⟩ := placed place partition message found member
    have sent : event.step.published? = some message := by rw [step]; rfl
    obtain ⟨⟨service, isService, access⟩, _⟩ := posted.sender event inHistory message sent
    have isPublished : message ∈ world.published :=
      List.mem_filterMap.mpr ⟨event.step, List.mem_map.mpr ⟨event, inHistory, rfl⟩, sent⟩
    obtain ⟨stored, isStored, type, key, _⟩ := posted.balanced.sent message isPublished
    refine ⟨event.call, service, stored, isService, isStored, Prod.ext ?_ ?_⟩
    · rw [step, type] at access
      exact (Access.publish.inj access).1
    · rw [number, key]
  · intro task record found scheduled
    have sameTask := sound.keyed task record found
    rcases posted.balanced.due task record found scheduled with published | ⟨number, owed⟩
    · exact .inl published
    · rw [← sameTask] at found
      obtain ⟨call, running⟩ := sound.awaits_of_owed found scheduled owed
      exact .inr ⟨number, call, running⟩

/-- A task is scheduled, but the loader fails for now. Two sweepers are shown it when its retry is
due. The second one wins the write and publishes the dispatch, which is handled. -/
def contesting : List Move :=
  scheduling ++
  [.start .single (.handle ⟨default, "", default, 0⟩)] ++
  List.replicate 5 (.advance 1 { Surroundings.calm with loaded := .failed (.transient "" none) }) ++
  .setClock .latest :: sweeping 2 3 .latest ++
  List.replicate 2 (.advance 3 .calm) ++ List.replicate 3 (.advance 2 .calm) ++
  List.replicate 2 (.advance 3 .calm) ++
  [.start .single (.handle ⟨default, "", default, 2⟩)] ++ List.replicate 6 (.advance 4 .calm)

/-- The world after two sweepers have come upon a task that waits for its second attempt. -/
def contested : World := (opening default).run contesting

/-- The call that scheduled the task publishes its first attempt, and the second sweeper the next one;
the first sweeper finds the task changed and passes it over. -/
theorem one_dispatch_among_sweepers :
    Reaches fromBus (opening { (default : Backend) with
        tasks := .empty, dispatches := .create 1 Bus.defaultRetention }) contested ∧
      (contested.published.Pairwise fun earlier later =>
        earlier.task = later.task → earlier.attempt < later.attempt) ∧
      (contested.history.filterMap fun event => event.step.published?.map (event.call, ·)) =
        [(0, ⟨default, "", default, 0⟩), (3, ⟨default, "", default, 2⟩)] ∧
      contested.calls.map Call.report? =
        [none, none, some ⟨1, 0, 0, 1, 0⟩, some ⟨1, 1, 0, 0, 0⟩, none] ∧
      (contested.backend.tasks.get? default).map (fun record =>
        (record.status.state, record.status.attempt)) = some (.loaded, 2) := by
  have reached : Reaches fromBus (opening { (default : Backend) with
      tasks := .empty, dispatches := .create 1 Bus.defaultRetention }) contested :=
    .run (by decide +kernel)
  exact ⟨reached, (one_dispatch_per_attempt reached).2.2.1, by decide +kernel, by decide +kernel,
    by decide +kernel⟩

end World

end CacheFill
