import CacheFill.Proofs.Concurrency.History

/-!
How far an acknowledged dispatch is an announced result. A worker that wrote a result announces it,
and fails when the bus refuses, so that its dispatch comes again and is announced then. But the same
dispatch may have been dropped meanwhile by another worker, which lost the race for the write or
found another attempt; that worker succeeds and its dispatch is acknowledged. Main statements:
`announced_unless_dropped` and the run `dropped_unannounced` that shows the exception to happen.
-/

set_option autoImplicit false

namespace CacheFill

/-- The dispatch was dropped, though not for a result that was found. -/
def Outcome.isDropped : Outcome → Bool
  | .skipped .unknownTask | .skipped .staleAttempt | .skipped .conflict => true
  | .skipped .alreadyTerminal | .loaded | .retryScheduled _ _ | .failed _ _ => false

/-- One of the steps wrote the record, and a later one was refused its announcement. -/
def RefusedAfter (past : List Step) (record : Record) : Prop :=
  ∃ before write after, past = before ++ write :: after ∧ write.written? = some record ∧
    ∃ topic reason, ⟨.announce topic record.notification, .error reason⟩ ∈ after

theorem RefusedAfter.append {past : List Step} {record : Record}
    (refused : RefusedAfter past record) (more : List Step) :
    RefusedAfter (past ++ more) record := by
  obtain ⟨before, write, after, rfl, written, topic, reason, member⟩ := refused
  exact ⟨before, write, after ++ more, by simp, written, topic, reason,
    List.mem_append_left more member⟩

theorem AwaitsPublish.refused {past : List Step} {record : Record}
    (awaits : AwaitsPublish past record) (topic reason : String) :
    RefusedAfter (past ++ [⟨.announce topic record.notification, .error reason⟩]) record := by
  obtain ⟨before, write, after, rfl, written, _⟩ := awaits
  refine ⟨before, write, after ++ [⟨.announce topic record.notification, .error reason⟩], ?_,
    written, topic, reason, ?_⟩
  · simp only [List.append_assoc, List.cons_append]
  · exact List.mem_append_right _ (List.mem_singleton_self _)

namespace Effect

variable {service : Service} {operation : Operation} {past : List Step}
  {tasks later : TaskStore} {step : Step}

/-- A call with something to announce announces it, or does something aside. -/
theorem of_announcing (effect : Effect service operation past tasks step later)
    {notification : Notification} (announcing : stance past = .announcing notification) :
    stance (past ++ [step]) = .announcing notification ∨
      ∃ topic answer, step = ⟨.announce topic notification, answer⟩ := by
  have notIdle (idle : stance past = .idle) : False := by
    rw [announcing] at idle
    cases idle
  cases effect with
  | aside aside =>
      left
      rw [stance_snoc, Stance.after_of_aside aside, announcing]
  | read _ | due _ _ =>
      left
      rw [stance_snoc, announcing]
      rfl
  | insert _ _ _ _ idle _ => exact (notIdle idle).elim
  | present _ idle => exact (notIdle idle).elim
  | commit _ _ _ _ _ _ _ _ _ idle _ _ _ _ => exact (notIdle idle).elim
  | retry _ _ _ _ _ _ idle _ _ _ _ => exact (notIdle idle).elim
  | announceAgain _ _ _ _ _ _ idle => exact (notIdle idle).elim
  | announceAhead _ _ _ _ _ _ _ _ idle => exact (notIdle idle).elim
  | giveUp _ _ _ _ _ _ _ _ _ _ _ announced => rw [announcing] at announced; cases announced
  | conflict _ _ _ _ settled _ _ => rw [announcing] at settled; exact settled.elim
  | dispatch _ _ owed => rw [announcing] at owed; cases owed
  | announce other answer owed =>
      obtain rfl := Stance.announcing.inj (announcing.symm.trans owed)
      exact .inr ⟨_, answer, rfl⟩

/-- A worker that wrote a result has it to announce; a sweep has announced it before. -/
theorem of_written_terminal (effect : Effect service operation past tasks step later)
    {record : Record} (written : step.written? = some record)
    (terminal : record.status.isTerminal = true) :
    (operation.isHandle = true ∧
      stance (past ++ [step]) = .announcing record.notification) ∨
      Told past record.notification := by
  cases effect with
  | aside aside =>
      rw [(Step.quiet_of_aside aside).1] at written
      cases written
  | read _ | due _ _ | present _ _ | conflict _ _ _ _ _ _ | dispatch _ _ _ | announce _ _ _
  | announceAgain _ _ _ _ _ _ | announceAhead _ _ _ _ _ _ _ _ _ => cases written
  | insert given now _ new _ _ =>
      cases written
      rw [show ({ given with version := 1 } : Record).status = .initial now from new] at terminal
      cases terminal
  | retry _ _ _ _ _ _ _ _ _ next isNext =>
      cases written
      subst isNext
      cases terminal
  | commit message _ _ _ _ handles _ _ _ idle _ _ next _ =>
      cases written
      subst handles
      rw [stance_snoc, idle]
      exact .inl ⟨rfl, Stance.afterWrite_of_terminal terminal⟩
  | giveUp _ _ _ _ _ _ _ _ next _ told _ =>
      cases written
      exact .inr told

/-- A task that waits is scheduled for a later attempt, or fails and that was announced. -/
theorem after_waiting (effect : Effect service operation past tasks step later)
    {record : Record} {waiting : Waiting} (found : tasks.get? record.task = some record)
    (status : record.status = .waiting waiting) :
    later.get? record.task = some record ∨ ∃ next, later.get? record.task = some next ∧
      (waiting.attempt < next.status.attempt ∨
        next.status.isTerminal = true ∧ Told past next.notification) := by
  have elsewhere (next : Record) (different : record.task ≠ next.task) :
      (tasks.put next).get? record.task = some record := by
    rw [TaskStore.get?_put, if_neg different, found]
  have here (next : Record) (same : record.task = next.task) :
      (tasks.put next).get? record.task = some next := by
    rw [TaskStore.get?_put, if_pos same]
  cases effect with
  | aside _ | read _ | due _ _ | present _ _ | conflict _ _ _ _ _ _ | dispatch _ _ _
  | announce _ _ _ | announceAgain _ _ _ _ _ _ | announceAhead _ _ _ _ _ _ _ _ _ =>
      exact .inl found
  | insert given _ _ _ _ absent =>
      refine .inl (elsewhere _ fun same => ?_)
      rw [same, absent] at found
      cases found
  | commit message old scheduled _ _ _ _ isScheduled _ _ _ isOld next isNext =>
      subst isNext
      refine .inl (elsewhere _ fun (same : record.task = old.task) => ?_)
      rw [same, isOld] at found
      cases found
      rw [status] at isScheduled
      cases isScheduled
  | retry old waits now _ isWaiting allowed _ _ isOld next isNext =>
      subst isNext
      by_cases same : record.task = old.task
      · rw [same, isOld] at found
        cases found
        obtain rfl := Status.waiting.inj (status.symm.trans isWaiting)
        refine .inr ⟨_, here _ same, .inl ?_⟩
        have counted := Service.toNat_succ_of_lt allowed
        change waiting.attempt < waiting.attempt + 1
        rw [UInt32.lt_iff_toNat_lt, counted]
        exact Nat.lt_succ_self _
      · exact .inl (elsewhere _ same)
  | giveUp old waits now _ _ _ _ isOld next isNext told _ =>
      subst isNext
      by_cases same : record.task = old.task
      · exact .inr ⟨_, here _ same, .inr ⟨rfl, told⟩⟩
      · exact .inl (elsewhere _ same)

end Effect

namespace World

variable {first world later : World} {surroundings : Surroundings} {number : Nat} {call : Call}
  {step : Step} {services : Service → Prop} {record : Record}

/-- A worker that wrote the record is running, and has not come to announce it. -/
def IsAboutToAnnounce (world : World) (record : Record) : Prop :=
  ∃ number call, world.calls[number]? = some call ∧ call.operation.isHandle = true ∧
    call.IsRunning ∧ AwaitsPublish (world.steps number) record

/-- The call that wrote the record was refused its announcement, and no other has announced it. -/
def IsUnheard (world : World) (record : Record) : Prop :=
  record.notification ∉ world.announced ∧ ∃ number, RefusedAfter (world.steps number) record

theorem mem_announced_of_told {notification : Notification}
    (told : Told (world.steps number) notification) : notification ∈ world.announced := by
  obtain ⟨step, member, announced⟩ := told
  exact List.mem_filterMap.mpr ⟨step, mem_trace_of_mem_steps member, announced⟩

theorem Advances.announced_before (advances : world.Advances surroundings later number call step)
    {notification : Notification} (member : notification ∈ world.announced) :
    notification ∈ later.announced := by
  rw [advances.announced]
  exact List.mem_append_left _ member

/-- What is to be announced of a task is what is stored of it. -/
theorem Sound.awaits_of_announcing (sound : world.Sound services)
    (found : world.backend.tasks.get? record.task = some record)
    (announcing : stance (world.steps number) = .announcing record.notification) :
    AwaitsPublish (world.steps number) record := by
  obtain ⟨written, awaits, terminal, same⟩ := awaitsPublish_of_announcing announcing
  obtain ⟨current, isCurrent, becomes⟩ := sound.known_steps number written awaits.wrote.seen
  have task : written.task = record.task := congrArg Notification.task same
  rw [task, found] at isCurrent
  cases isCurrent
  obtain rfl := becomes.eq_of_terminal terminal
  exact awaits

/-- What has come of announcing a result that is stored. -/
inductive Fate (first world : World) (record : Record) : Prop where
  | announced (member : record.notification ∈ world.announced)
  | owed (number : Nat) (operation : Operation)
      (called : world.operation? number = some operation) (handles : operation.isHandle = true)
      (announcing : stance (world.steps number) = .announcing record.notification)
  | refused (number : Nat) (refused : RefusedAfter (world.steps number) record)
  | original (found : first.backend.tasks.get? record.task = some record)

theorem Fate.advance (fate : first.Fate world record) (sound : world.Sound services)
    (found : world.backend.tasks.get? record.task = some record)
    (advances : world.Advances surroundings later number call step) : first.Fate later record := by
  cases fate with
  | announced member => exact .announced (advances.announced_before member)
  | original found => exact .original found
  | refused other refused =>
      refine .refused other ?_
      rw [advances.steps]
      split
      · exact refused.append [step]
      · exact refused
  | owed other operation called handles announcing =>
      have still := (advances.same_calls other).1.trans called
      by_cases own : number = other
      · subst own
        rcases advances.effect.of_announcing announcing with kept | ⟨topic, answer, rfl⟩
        · refine .owed number operation still handles ?_
          rw [advances.steps, if_pos rfl, kept]
        · cases answer with
          | ok _ =>
              refine .announced ?_
              rw [advances.announced]
              exact List.mem_append_right _ (List.mem_singleton_self _)
          | error reason =>
              refine .refused number ?_
              rw [advances.steps, if_pos rfl]
              exact (sound.awaits_of_announcing found announcing).refused topic reason
      · refine .owed other operation still handles ?_
        rw [advances.steps, if_neg own, announcing]

/-- A task that was seen to wait still does, or has been scheduled for a later attempt, or has failed
in a sweep that announced it. -/
def HasWaited (world : World) (record : Record) (waiting : Waiting) : Prop :=
  ∃ current, world.backend.tasks.get? record.task = some current ∧
    (current = record ∨ waiting.attempt < current.status.attempt ∨
      current.status.isTerminal = true ∧ current.notification ∈ world.announced)

theorem HasWaited.advance {waiting : Waiting} (waited : world.HasWaited record waiting)
    (status : record.status = .waiting waiting) (sound : world.Sound services)
    (advances : world.Advances surroundings later number call step) :
    later.HasWaited record waiting := by
  obtain ⟨current, found, state⟩ := waited
  have fits := sound.fits number call advances.called
  obtain ⟨next, isNext, becomes⟩ :
      ∃ next, later.backend.tasks.get? record.task = some next ∧
        current.Becomes services next := advances.effect.becomes fits found
  rcases state with rfl | later' | ⟨terminal, member⟩
  · rcases advances.effect.after_waiting found status with
      same | ⟨other, isOther, again | ⟨terminal, told⟩⟩
    · exact ⟨current, same, .inl rfl⟩
    · exact ⟨other, isOther, .inr (.inl again)⟩
    · exact ⟨other, isOther,
        .inr (.inr ⟨terminal, advances.announced_before (mem_announced_of_told told)⟩)⟩
  · exact ⟨next, isNext, .inr (.inl (UInt32.lt_of_lt_of_le later' becomes.attempt_le))⟩
  · obtain rfl := becomes.eq_of_terminal terminal
    exact ⟨current, isNext, .inr (.inr ⟨terminal, advances.announced_before member⟩)⟩

/-- What a run keeps up about announcements. -/
structure Accounts (services : Service → Prop) (first world : World) : Prop where
  rising : world.Rising
  rooted : first.Rooted services world
  fate : ∀ task record, world.backend.tasks.get? task = some record →
    record.status.isTerminal = true → first.Fate world record
  waited : ∀ record waiting, Seen world.trace record → record.status = .waiting waiting →
    world.HasWaited record waiting

theorem accounts_self (services : Service → Prop) (backend : Backend)
    (keyed : backend.tasks.IsKeyed) :
    (opening backend).Accounts services (opening backend) where
  rising := .nil
  rooted := rooted_self services backend
  fate := fun task record found _ => .original ((keyed task record found).symm ▸ found)
  waited := by
    rintro record waiting ⟨step, member, _⟩
    cases member

theorem Accounts.advance (accounts : first.Accounts services world)
    (sound : world.Sound services)
    (advances : world.Advances surroundings later number call step) :
    first.Accounts services later := by
  refine ⟨accounts.rising.advance sound advances, accounts.rooted.advance sound advances, ?_, ?_⟩
  · intro task record found terminal
    rcases advances.effect.stored_or_written found with stored | written
    · have same := sound.keyed task record stored
      exact (accounts.fate task record stored terminal).advance sound (same ▸ stored) advances
    · rcases advances.effect.of_written_terminal written terminal with
        ⟨handles, announcing⟩ | told
      · refine .owed number call.operation ?_ handles ?_
        · rw [(advances.same_calls number).1, advances.operation?]
        · rw [advances.steps, if_pos rfl, announcing]
      · exact .announced (advances.announced_before (mem_announced_of_told told))
  · rintro record waiting ⟨other, member, shows⟩ status
    rw [advances.trace] at member
    rcases List.mem_append.mp member with earlier | now
    · exact (accounts.waited record waiting ⟨other, earlier, shows⟩ status).advance status sound
        advances
    · rw [List.mem_singleton.mp now] at shows
      exact ⟨record, advances.effect.current sound.keyed shows, .inl rfl⟩

/-- Only steps count, so nothing changes when a call starts or the clock is set. -/
theorem Accounts.of_same_history (accounts : first.Accounts services world)
    (tasks : later.backend.tasks = world.backend.tasks) (history : later.history = world.history)
    (calls : ∀ number operation, world.operation? number = some operation →
      later.operation? number = some operation) : first.Accounts services later := by
  have trace : later.trace = world.trace := congrArg (List.map _) history
  have announced : later.announced = world.announced := congrArg (List.filterMap _) trace
  have steps (number : Nat) : later.steps number = world.steps number :=
    congrArg (List.filterMap _) history
  refine ⟨?_, ⟨?_, ?_, ?_⟩, ?_, ?_⟩
  · unfold Rising
    rw [history]
    exact accounts.rising
  · rw [tasks]; exact accounts.rooted.stored
  · rw [trace]; exact accounts.rooted.seen
  · rw [trace]; exact accounts.rooted.absent
  · intro task record found terminal
    rw [tasks] at found
    cases accounts.fate task record found terminal with
    | announced member => exact .announced (announced ▸ member)
    | refused number refused => exact .refused number (steps number ▸ refused)
    | original found => exact .original found
    | owed number other called handles announcing =>
        exact .owed number other (calls number other called) handles (steps number ▸ announcing)
  · intro record waiting seen status
    unfold HasWaited
    rw [tasks, announced]
    exact accounts.waited record waiting (trace ▸ seen) status

/-- The one call that wrote a record has either not come to announce it, or was refused. -/
theorem Rising.not_refused (rising : world.Rising) {other : Nat}
    (awaits : AwaitsPublish (world.steps number) record)
    (refused : RefusedAfter (world.steps other) record) : False := by
  obtain ⟨before, write, after, split, written, silent⟩ := awaits
  obtain ⟨before', write', after', split', written', topic, reason, member⟩ := refused
  have one : ⟨number, write⟩ ∈ world.history := mem_steps.mp (by simp [split])
  have two : ⟨other, write'⟩ ∈ world.history := mem_steps.mp (by simp [split'])
  -- Both wrote the record, so they are one step of one call, with one list of steps after it.
  obtain ⟨rfl, rfl⟩ := Event.mk.inj (rising.same_write one two written written')
  have rises := rising.steps number
  rw [split] at rises split'
  have same := Step.RisesTo.eq_of_append_cons rises written split'
  subst same
  exact Bool.noConfusion (silent _ member).2

/-- What a call that wrote the record still has to do, it is there to do. -/
theorem Sound.isAboutToAnnounce (sound : world.Sound services)
    (found : world.backend.tasks.get? record.task = some record) {operation : Operation}
    (called : world.operation? number = some operation) (handles : operation.isHandle = true)
    (announcing : stance (world.steps number) = .announcing record.notification) :
    world.IsAboutToAnnounce record := by
  have unsettled : ¬ (stance (world.steps number)).IsSettled := by
    rw [announcing]
    exact id
  obtain ⟨call, isCall, running⟩ := sound.running_of_unsettled unsettled
  rw [World.operation?, isCall] at called
  cases called
  exact ⟨number, call, isCall, handles, running, sound.awaits_of_announcing found announcing⟩

variable {message : Dispatch} {outcome : Outcome}

/-- An outcome that is not dropped comes from an announcement of the result. -/
theorem Accounts.announced (accounts : first.Accounts services world)
    (sound : world.Sound services)
    (found : world.backend.tasks.get? message.task = some record)
    (terminal : record.status.isTerminal = true)
    (attempt : record.status.attempt = max message.attempt 1)
    (borne : outcome.BorneOut message (world.steps number)) (kept : outcome.isDropped = false) :
    record.notification ∈ world.announced := by
  have isCurrent (shown : Record) (seen : Seen (world.steps number) shown)
      (task : shown.task = message.task) (ended : shown.status.isTerminal = true) :
      shown = record := by
    obtain ⟨current, isCurrent, becomes⟩ := sound.known_steps number shown seen
    rw [task, found] at isCurrent
    cases isCurrent
    exact becomes.eq_of_terminal ended
  cases outcome with
  | loaded | failed _ _ =>
      obtain ⟨written, wrote, task, ended, told⟩ := borne
      rw [← isCurrent written wrote.seen task ended]
      exact mem_announced_of_told told
  | retryScheduled _ _ =>
      obtain ⟨written, waiting, wrote, task, status, same⟩ := borne
      have seen : Seen world.trace written := by
        obtain ⟨step, member, shows⟩ := wrote.seen
        exact ⟨step, mem_trace_of_mem_steps member, shows⟩
      obtain ⟨current, isStored, state⟩ := accounts.waited written waiting seen status
      rw [task, found] at isStored
      cases isStored
      rcases state with rfl | again | ⟨_, member⟩
      · rw [status] at terminal
        cases terminal
      · rw [attempt, same] at again
        exact absurd again (UInt32.lt_irrefl _)
      · exact member
  | skipped reason =>
      cases reason with
      | alreadyTerminal =>
          obtain ⟨shown, seen, task, ended, told⟩ := borne
          obtain rfl := isCurrent shown seen task ended
          exact mem_announced_of_told (told attempt)
      | unknownTask | staleAttempt | conflict => cases kept

/-- A dispatch that was dropped met its task before that had a result. -/
theorem Accounts.not_original (accounts : first.Accounts services world)
    (terminal : record.status.isTerminal = true)
    (borne : outcome.BorneOut message (world.steps number)) (dropped : outcome.isDropped = true) :
    first.backend.tasks.get? message.task ≠ some record := by
  intro original
  have pending (shown : Record) (seen : Seen (world.steps number) shown)
      (task : shown.task = message.task) : shown.status.isTerminal = true := by
    obtain ⟨step, member, shows⟩ := seen
    have becomes := accounts.rooted.seen shown record
      ⟨step, mem_trace_of_mem_steps member, shows⟩ (task ▸ original)
    obtain rfl := becomes.eq_of_terminal terminal
    exact terminal
  cases outcome with
  | loaded | failed _ _ | retryScheduled _ _ => cases dropped
  | skipped reason =>
      cases reason with
      | alreadyTerminal => cases dropped
      | unknownTask =>
          have absent := accounts.rooted.absent message.task (mem_trace_of_mem_steps borne)
          rw [original] at absent
          cases absent
      | staleAttempt | conflict =>
          obtain ⟨shown, seen, task, open_⟩ := borne
          rw [pending shown seen task] at open_
          cases open_

/-- Dispatches are handled by any number of calls, among other calls of any operations and from any
content of the store on; their accesses interleave in any way, and the bus of notifications is out at
any time. Then a dispatch that was handled for a task that has its result is an announced result, or
the call that wrote the result has yet to try: except for just those dispatches that were dropped
where the call that wrote the result was refused and no other call announced it. -/
theorem announced_unless_dropped {backend : Backend} {records : List Record}
    (reached : Reaches anyMove (opening { backend with tasks := .ofRecords records }) world)
    (called : world.calls[number]? = some call) (handles : call.operation = .handle message)
    (finished : call.rest = .done (.handled outcome))
    (found : world.backend.tasks.get? message.task = some record)
    (terminal : record.status.isTerminal = true)
    (attempt : record.status.attempt = max message.attempt 1) :
    (record.notification ∈ world.announced ∨ world.IsAboutToAnnounce record) ↔
      ¬ (outcome.isDropped = true ∧ world.IsUnheard record) := by
  have keyed : (opening { backend with tasks := .ofRecords records }).backend.tasks.IsKeyed :=
    TaskStore.isKeyed_ofRecords records
  have soundFirst := sound_opening (fun _ => True) { backend with tasks := .ofRecords records } keyed
  have sound := reached.sound soundFirst fun _ _ _ => movesOf_any
  have accounts : (opening { backend with tasks := .ofRecords records }).Accounts
      (fun _ => True) world := by
    refine reached.invariant (Accounts _ _) soundFirst (fun _ _ _ => movesOf_any)
      (accounts_self _ _ keyed) ?_ ?_ ?_
    · exact fun _ _ _ _ _ accounts =>
        accounts.of_same_history rfl rfl fun _ _ => operation?_of_start
    · exact fun _ _ accounts => accounts.of_same_history rfl rfl fun _ _ called => called
    · exact fun _ _ _ _ _ _ sound _ advances accounts => accounts.advance sound advances
  have borne : outcome.BorneOut message (world.steps number) := by
    have ended := sound.conduct number call called
    rw [finished, handles] at ended
    exact ended.2
  have task := sound.keyed message.task record found
  constructor
  · rintro (announced | ⟨writer, _, _, _, _, awaits⟩) ⟨_, unheard, _, refused⟩
    · exact unheard announced
    · exact accounts.rising.not_refused awaits refused
  · intro heard
    cases dropped : outcome.isDropped with
    | false => exact .inl (accounts.announced sound found terminal attempt borne dropped)
    | true =>
        cases accounts.fate message.task record found terminal with
        | announced member => exact .inl member
        | owed writer operation isCall isHandle announcing =>
            exact .inr (sound.isAboutToAnnounce (task ▸ found) isCall isHandle announcing)
        -- Just here the dispatch may be lost: it counts as heard unless nobody announced it.
        | refused writer refused =>
            by_contra silent
            exact heard ⟨dropped, fun member => silent (.inl member), writer, refused⟩
        | original isFirst =>
            rw [task] at isFirst
            exact absurd isFirst (accounts.not_original terminal borne dropped)

/-- A worker drops the dispatch that it lost the race for, and the result is announced. -/
theorem announced_in_race :
    raced.calls[1]? =
        some ⟨.single, .handle ⟨default, "", default, 0⟩, .done (.handled (.skipped .conflict))⟩ ∧
      raced.backend.tasks.get? default = some raceResult ∧
      raceResult.notification ∈ raced.announced ∧
      ¬ (Outcome.isDropped (.skipped .conflict) = true ∧ raced.IsUnheard raceResult) := by
  have reached : Reaches anyMove (opening { (default : Backend) with tasks := .ofRecords [] })
      raced := .run allFair_any
  have called : raced.calls[1]? = some
      ⟨.single, .handle ⟨default, "", default, 0⟩, .done (.handled (.skipped .conflict))⟩ := rfl
  have found : raced.backend.tasks.get? default = some raceResult := rfl
  have announced : raceResult.notification ∈ raced.announced := by decide
  have heard := announced_unless_dropped reached called rfl rfl found rfl rfl
  exact ⟨called, found, announced, heard.mp (.inl announced)⟩

/-- Two workers handle one dispatch at a time, and the bus of notifications is out when the one that
wrote the result comes to announce it. -/
def silenced : World :=
  (opening { (default : Backend) with
    tasks := .ofRecords [⟨default, default, "", .initial default, 1, none⟩] }).run
      (race 0 1 { Surroundings.calm with noNotification := some "out" })

/-- One worker drops the dispatch and succeeds, so that it is acknowledged; its task has a result,
which was not announced, and nobody is left to announce it. -/
theorem dropped_unannounced :
    silenced.calls[0]? =
        some ⟨.single, .handle ⟨default, "", default, 0⟩, .done (.handled (.skipped .conflict))⟩ ∧
      silenced.backend.tasks.get? default = some raceResult ∧
      raceResult.status.isTerminal = true ∧ raceResult.status.attempt = max 0 1 ∧
      ¬ (raceResult.notification ∈ silenced.announced ∨
        silenced.IsAboutToAnnounce raceResult) := by
  refine ⟨rfl, rfl, rfl, rfl, ?_⟩
  rintro (announced | ⟨number, call, called, _, ⟨access, next, running⟩, _⟩)
  · revert announced
    decide
  · have calls : silenced.calls =
        [⟨.single, .handle ⟨default, "", default, 0⟩, .done (.handled (.skipped .conflict))⟩,
          ⟨.single, .handle ⟨default, "", default, 0⟩, .fail (.publish "out")⟩] := rfl
    rw [calls] at called
    match number with
    | 0 => cases called; cases running
    | 1 => cases called; cases running
    | _ + 2 => cases called

end World

end CacheFill
