import CacheFill.Proofs.Concurrency.Interleaving

/-!
Announcements while any calls go on side by side. A worker announces a result that it has written; a
sweep announces a failure before it writes it, and other calls may come between the two. But a task
that has used up its attempts has only this one result left, so long as all calls go by the same
retry policies: what is announced of it is foretold by its record. Main statement:
`announcements_agree`.
-/

set_option autoImplicit false

namespace CacheFill

/-- Two results are the same, but for the time of a failure. -/
inductive Status.Agrees : Status → Status → Prop where
  | loaded (status : Loaded) : Agrees (.loaded status) (.loaded status)
  | failed {first second : Failed} (attempt : first.attempt = second.attempt)
      (error : first.lastError = second.lastError) : Agrees (.failed first) (.failed second)

namespace Status.Agrees

variable {first second third : Status}

theorem refl (terminal : first.isTerminal = true) : first.Agrees first := by
  cases first with
  | loaded status => exact .loaded status
  | failed _ => exact .failed rfl rfl
  | scheduled _ | waiting _ => cases terminal

theorem symm (agrees : first.Agrees second) : second.Agrees first := by
  cases agrees with
  | loaded status => exact .loaded status
  | failed attempt error => exact .failed attempt.symm error.symm

theorem trans (agrees : first.Agrees second) (more : second.Agrees third) :
    first.Agrees third := by
  cases agrees with
  | loaded status => exact more
  | failed attempt error =>
      cases more with
      | failed attempt' error' => exact .failed (attempt.trans attempt') (error.trans error')

theorem terminal (agrees : first.Agrees second) : first.isTerminal = true := by
  cases agrees <;> rfl

theorem state (agrees : first.Agrees second) : first.state = second.state := by
  cases agrees <;> rfl

end Status.Agrees

/-- The record has the result already, or can come to no other. -/
inductive Record.Foretells (policies : RetryPolicies) (record : Record) (status : Status) :
    Prop where
  | ended (terminal : record.status.isTerminal = true) (agrees : status.Agrees record.status)
  | exhausted (waiting : Waiting) (waits : record.status = .waiting waiting)
      (limit : (policies.get record.type).maxAttempts ≤ waiting.attempt)
      (agrees : ∀ now, status.Agrees (waiting.givenUp now))

namespace Record.Foretells

variable {policies : RetryPolicies} {record current : Record} {status other : Status}

theorem terminal (foretells : record.Foretells policies status) : status.isTerminal = true := by
  cases foretells with
  | ended _ agrees => exact agrees.terminal
  | exhausted _ _ _ agrees => exact (agrees default).terminal

theorem agrees_of_terminal (foretells : record.Foretells policies status)
    (terminal : record.status.isTerminal = true) : status.Agrees record.status := by
  cases foretells with
  | ended _ agrees => exact agrees
  | exhausted waiting waits _ _ => rw [waits] at terminal; cases terminal

theorem agree (foretells : record.Foretells policies status)
    (too : record.Foretells policies other) : status.Agrees other := by
  cases foretells with
  | ended terminal agrees => exact agrees.trans (too.agrees_of_terminal terminal).symm
  | exhausted waiting waits _ agrees =>
      cases too with
      | ended terminal _ => rw [waits] at terminal; cases terminal
      | exhausted waiting' waits' _ agrees' =>
          obtain rfl := Status.waiting.inj (waits.symm.trans waits')
          exact (agrees default).trans (agrees' default).symm

/-- A task that has used up its attempts is not scheduled again, as far as one policy goes. -/
theorem rewrite {service : Service} {next : Record} (foretells : record.Foretells policies status)
    (same : service.policies = policies) (rewrites : service.Rewrites record next) :
    next.Foretells policies status := by
  have pending := rewrites.follows.not_terminal
  cases foretells with
  | ended terminal _ => rw [terminal] at pending; cases pending
  | exhausted waiting waits limit agrees =>
      cases rewrites with
      | commit scheduled ended now isScheduled =>
          rw [waits] at isScheduled
          cases isScheduled
      | retry waiting' now waits' allowed =>
          obtain rfl := Status.waiting.inj (waits.symm.trans waits')
          rw [same] at allowed
          exact absurd limit (UInt32.not_le.mpr allowed)
      | giveUp waiting' now waits' exhausted =>
          obtain rfl := Status.waiting.inj (waits.symm.trans waits')
          exact .ended rfl (agrees now)

theorem becomes (foretells : record.Foretells policies status)
    (becomes : record.Becomes (·.policies = policies) current) :
    current.Foretells policies status := by
  induction becomes with
  | refl => exact foretells
  | tail _ last ih =>
      obtain ⟨service, same, rewrites⟩ := last
      exact ih.rewrite same rewrites

end Record.Foretells

/-- What is announced was seen to be the result, or to be the only one left. -/
theorem Effect.of_announced? {service : Service} {operation : Operation} {past : List Step}
    {tasks later : TaskStore} {step : Step} {notification : Notification}
    (effect : Effect service operation past tasks step later)
    (announced : step.announced? = some notification) :
    ∃ record, Seen past record ∧ record.Foretells service.policies notification.status ∧
      notification.task = record.task ∧ notification.type = record.type ∧
        notification.key = record.key := by
  have ofRecord (record : Record) (seen : Seen past record)
      (terminal : record.status.isTerminal = true) (same : record.notification = notification) :
      ∃ record, Seen past record ∧ record.Foretells service.policies notification.status ∧
        notification.task = record.task ∧ notification.type = record.type ∧
          notification.key = record.key := by
    subst same
    exact ⟨record, seen, .ended terminal (.refl terminal), rfl, rfl, rfl⟩
  cases effect with
  | aside aside =>
      rw [(Step.quiet_of_aside aside).2.2.1] at announced
      cases announced
  | read _ | due _ _ | present _ _ | conflict _ _ _ _ _ _ | dispatch _ _ _ | insert _ _ _ _ _ _
  | commit _ _ _ _ _ _ _ _ _ _ _ _ _ _ | retry _ _ _ _ _ _ _ _ _ _ _
  | giveUp _ _ _ _ _ _ _ _ _ _ _ _ => cases announced
  | announce sent answer owed =>
      cases answer with
      | error reason => cases announced
      | ok _ =>
          cases announced
          obtain ⟨record, awaits, terminal, same⟩ := awaitsPublish_of_announcing owed
          exact ofRecord record awaits.wrote.seen terminal same
  | announceAgain message record answer handles seen terminal idle =>
      cases answer with
      | error reason => cases announced
      | ok _ => cases announced; exact ofRecord record seen terminal rfl
  | announceAhead record waiting now answer sweeps seen status exhausted idle =>
      cases answer with
      | error reason => cases announced
      | ok _ =>
          cases announced
          refine ⟨record, seen, ?_, rfl, rfl, rfl⟩
          exact .exhausted waiting status exhausted fun later => .failed rfl rfl

namespace World

variable {world later : World} {policies : RetryPolicies} {surroundings : Surroundings}
  {number : Nat} {call : Call} {step : Step}

/-- The records foretell what was announced of their tasks. -/
def Foretold (policies : RetryPolicies) (world : World) : Prop :=
  ∀ notification ∈ world.announced, ∃ record,
    world.backend.tasks.get? notification.task = some record ∧
      record.Foretells policies notification.status ∧ notification.type = record.type ∧
        notification.key = record.key

theorem Foretold.advance (foretold : world.Foretold policies)
    (sound : world.Sound (·.policies = policies))
    (advances : world.Advances surroundings later number call step) :
    later.Foretold policies := by
  have fits := sound.fits number call advances.called
  have stays (task : TaskId) (record : Record) (status : Status)
      (found : world.backend.tasks.get? task = some record)
      (foretells : record.Foretells policies status) :
      ∃ current, later.backend.tasks.get? task = some current ∧
        current.Foretells policies status ∧ record.type = current.type ∧
          record.key = current.key := by
    obtain ⟨current, isCurrent, becomes⟩ : ∃ current, later.backend.tasks.get? task = some current ∧
        record.Becomes (·.policies = policies) current := advances.effect.becomes fits found
    obtain ⟨_, type, key⟩ := becomes.frame
    exact ⟨current, isCurrent, foretells.becomes becomes, type.symm, key.symm⟩
  intro notification member
  rw [advances.announced] at member
  rcases List.mem_append.mp member with earlier | now
  · obtain ⟨record, found, foretells, type, key⟩ := foretold notification earlier
    obtain ⟨current, isCurrent, still, type', key'⟩ := stays _ record _ found foretells
    exact ⟨current, isCurrent, still, type.trans type', key.trans key'⟩
  · obtain ⟨record, seen, foretells, task, type, key⟩ :=
      advances.effect.of_announced? (Option.mem_toList.mp now)
    obtain ⟨known, isKnown, becomes⟩ := sound.known_steps number record seen
    obtain ⟨_, sameType, sameKey⟩ := becomes.frame
    rw [fits] at foretells
    obtain ⟨current, isCurrent, still, type', key'⟩ :=
      stays _ known _ isKnown (foretells.becomes becomes)
    refine ⟨current, by rw [task, isCurrent], still, ?_, ?_⟩
    · rw [type, ← sameType, type']
    · rw [key, ← sameKey, key']

/-- Tasks are scheduled, executed and swept by any number of calls that go by the same retry
policies, from any content of the store on; their accesses interleave in any way, and the bus of
notifications is out at any time. Then only results are announced; all that is announced of one task
agrees, and it agrees with the record of the task once that has a result. So no task is announced
both as loaded and as failed. -/
theorem announcements_agree {policies : RetryPolicies} {backend : Backend} {records : List Record}
    {world : World} (reached : Reaches (MovesOf (·.policies = policies))
      (opening { backend with tasks := .ofRecords records }) world) :
    (∀ notification ∈ world.announced, notification.status.isTerminal = true) ∧
      (∀ first ∈ world.announced, ∀ second ∈ world.announced, first.task = second.task →
        first.type = second.type ∧ first.key = second.key ∧
          first.status.Agrees second.status) ∧
      (∀ notification ∈ world.announced, ∃ record,
        world.backend.tasks.get? notification.task = some record ∧
          notification.type = record.type ∧ notification.key = record.key ∧
            (record.status.isTerminal = true → notification.status.Agrees record.status)) ∧
      ∀ first ∈ world.announced, ∀ second ∈ world.announced, first.task = second.task →
        ¬ (first.status.state = .loaded ∧ second.status.state = .failed) := by
  have soundFirst : (opening { backend with tasks := .ofRecords records }).Sound
      (·.policies = policies) := sound_opening _ _ (TaskStore.isKeyed_ofRecords records)
  have foretold : world.Foretold policies := by
    refine reached.invariant (·.Foretold policies) soundFirst (fun _ _ fair => fair) ?_ ?_ ?_ ?_
    · rintro notification ⟨⟩
    · exact fun _ _ _ _ _ foretold => foretold
    · exact fun _ _ foretold => foretold
    · exact fun _ _ _ _ _ _ sound _ advances foretold => foretold.advance sound advances
  have agree : ∀ first ∈ world.announced, ∀ second ∈ world.announced,
      first.task = second.task → first.type = second.type ∧ first.key = second.key ∧
        first.status.Agrees second.status := by
    intro first isFirst second isSecond task
    obtain ⟨record, found, foretells, type, key⟩ := foretold first isFirst
    obtain ⟨record', found', foretells', type', key'⟩ := foretold second isSecond
    rw [task, found'] at found
    obtain rfl := Option.some.inj found
    exact ⟨type.trans type'.symm, key.trans key'.symm, foretells.agree foretells'⟩
  refine ⟨?_, agree, ?_, ?_⟩
  · intro notification member
    obtain ⟨record, _, foretells, _⟩ := foretold notification member
    exact foretells.terminal
  · intro notification member
    obtain ⟨record, found, foretells, type, key⟩ := foretold notification member
    exact ⟨record, found, type, key, foretells.agrees_of_terminal⟩
  · rintro first isFirst second isSecond task ⟨loaded, failed⟩
    have same := (agree first isFirst second isSecond task).2.2.state
    rw [loaded, failed] at same
    cases same

/-- A task that has used up its attempts. -/
def exhausted : Record :=
  ⟨default, default, "", .waiting ⟨5, default, ⟨.transient, "timeout"⟩⟩, 1, none⟩

/-- Two sweepers are shown it. Both announce its failure, as of different times, before the second
one writes it. -/
def disputed : World :=
  (opening { (default : Backend) with tasks := .ofRecords [exhausted] }).run
    (sweeping 0 1 .latest ++
      [.advance 0 .calm, .advance 1 .calm, .advance 1 .calm, .advance 0 .calm] ++
      List.replicate 2 (.advance 1 .calm) ++ List.replicate 2 (.advance 0 .calm))

theorem announcements_agree_among_sweepers :
    Reaches (MovesOf (·.policies = Service.single.policies))
        (opening { (default : Backend) with tasks := .ofRecords [exhausted] }) disputed ∧
      (∀ first ∈ disputed.announced, ∀ second ∈ disputed.announced, first.task = second.task →
        first.type = second.type ∧ first.key = second.key ∧
          first.status.Agrees second.status) ∧
      disputed.announced.map (·.status) =
        [.failed ⟨5, ⟨.retriesExhausted, "timeout"⟩, default⟩,
          .failed ⟨5, ⟨.retriesExhausted, "timeout"⟩, .latest⟩] ∧
      disputed.calls.map Call.report? = [some ⟨1, 0, 0, 1, 0⟩, some ⟨1, 0, 1, 0, 0⟩] ∧
      (disputed.backend.tasks.get? default).map (·.status) =
        some (.failed ⟨5, ⟨.retriesExhausted, "timeout"⟩, .latest⟩) := by
  have reached : Reaches (MovesOf (·.policies = Service.single.policies))
      (opening { (default : Backend) with tasks := .ofRecords [exhausted] }) disputed := by
    refine .run ?_
    simp [AllFair, MovesOf, sweeping, List.replicate]
  exact ⟨reached, (announcements_agree reached).2.1, by decide +kernel, by decide +kernel,
    by decide +kernel⟩

end World

end CacheFill
