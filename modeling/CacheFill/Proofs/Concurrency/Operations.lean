import CacheFill.Proofs.Concurrency.Conduct
import CacheFill.Proofs.Task.Store

/-!
Every operation conducts itself as its rule says: one theorem per program, each citing those of the
programs it is made of. Main statement: `Operation.program_ensures`.
-/

set_option autoImplicit false

namespace CacheFill

open Program

variable {α β : Type} {service : Service} {operation : Operation} {past : List Step}

namespace Program

@[simp] theorem bind_eq (program : Program α) (next : α → Program β) :
    program >>= next = program.bind next := rfl

@[simp] theorem pure_eq (value : α) : (pure value : Program α) = .done value := rfl

theorem StaysAside.ensures_bind {program : Program α} {next : α → Program β}
    {ends : List Step → Except Failure β → Prop} (aside : program.StaysAside)
    (failed : ∀ own failure, (∀ step ∈ own, step.isAside = true) →
      (∀ error, failure ≠ .transition error) → ends (past ++ own) (.error failure))
    (goesOn : ∀ own value, (∀ step ∈ own, step.isAside = true) →
      (next value).Ensures (service.rule operation) ends (past ++ own)) :
    (program.bind next).Ensures (service.rule operation) ends past := by
  rw [Program.ensures_bind]
  refine aside.ensures (fun _ _ isAside => .aside isAside) ?_
  intro own result allAside noTransition
  cases result with
  | ok value => exact goesOn own value allAside
  | error failure =>
      exact failed own failure allAside fun error same => noTransition error (congrArg _ same)

theorem ensures_aside_access {access : Access} {next : access.Answer → Program α}
    {ends : List Step → Except Failure α → Prop} (aside : access.isAside = true)
    (goesOn : ∀ answer, (next answer).Ensures (service.rule operation) ends
      (past ++ [⟨access, answer⟩])) :
    (Program.perform access next).Ensures (service.rule operation) ends past :=
  ⟨.aside aside, fun answer _ => goesOn answer⟩

/-- Log lines never get in the way of what comes after them. -/
theorem ensures_logAll {lines : List Log.Line} {next : Unit → Program α}
    {ends : List Step → Except Failure α → Prop}
    (goesOn : ∀ own, (∀ step ∈ own, step.isAside = true) →
      (next ()).Ensures (service.rule operation) ends (past ++ own)) :
    ((Service.logAll lines).bind next).Ensures (service.rule operation) ends past := by
  induction lines generalizing past with
  | nil =>
      have now := goesOn [] (by simp)
      rwa [List.append_nil] at now
  | cons line rest ih =>
      refine ensures_aside_access rfl fun answer => ih fun own aside => ?_
      have longer := goesOn (⟨.log line, answer⟩ :: own) (by
        intro step member
        rcases List.mem_cons.mp member with rfl | later
        · rfl
        · exact aside step later)
      simpa using longer

theorem ensures_map {rule : Rule} {program : Program α} {give : α → β}
    {ends : List Step → Except Failure β → Prop}
    (ensures : program.Ensures rule (fun past result => ends past (result.map give)) past) :
    (program.bind fun value => .done (give value)).Ensures rule ends past := by
  rw [ensures_bind]
  refine ensures.mono fun past result ended => ?_
  cases result with
  | ok value => exact ended
  | error failure => exact ended

theorem staysAside_ofStore (answer : Except StoreError α) : (ofStore answer).StaysAside := by
  cases answer with
  | ok value => trivial
  | error error => exact fun _ same => by cases same

theorem staysAside_save (type : LoadType) (key : String) (data : Json) :
    ((View.json type).save key data).StaysAside :=
  ⟨rfl, fun _ => ⟨rfl, fun answer => (staysAside_ofStore answer).bind fun _ => trivial⟩⟩

theorem staysAside_saveLoaded (call : LoadCall) (data : Json) :
    (Service.saveLoaded call data).StaysAside := by
  refine (staysAside_save call.type call.key data).attempt.bind fun result => ?_
  cases result <;> trivial

theorem staysAside_runLoader (service : Service) (call : LoadCall) :
    (service.runLoader call).StaysAside := by
  unfold Service.runLoader
  split
  · trivial
  · next kind _ =>
      refine ⟨rfl, fun answer => ?_⟩
      cases answer with
      | finished => trivial
      | value data =>
          cases kind with
          | storing => trivial
          | caching => exact staysAside_saveLoaded call data
      | failed error => trivial
      | panicked payload => trivial

end Program

theorem Service.dispatch_ensures {message : Dispatch} {ends : List Step → Except Failure Unit → Prop}
    (owed : stance past = .dispatching message)
    (sent : ∀ topic, ends (past ++ [⟨.publish topic message, .ok ()⟩]) (.ok ()))
    (refused : ∀ topic reason line,
      ends (past ++ [⟨.publish topic message, .error reason⟩] ++ [⟨.log line, ()⟩])
        (.error (.publish reason))) :
    (service.dispatch message).Ensures (service.rule operation) ends past := by
  refine ⟨.dispatch message owed, fun answer _ => ?_⟩
  cases answer with
  | ok _ => exact sent _
  | error reason => exact ensures_aside_access rfl fun _ => refused _ reason _

theorem Service.announceRecord_ensures {record : Record}
    {ends : List Step → Except Failure Unit → Prop}
    (permitted : service.Permits operation past
      (.announce (service.topics.notifications record.type) record.notification))
    (sent : ∀ topic, ends (past ++ [⟨.announce topic record.notification, .ok ()⟩]) (.ok ()))
    (refused : ∀ topic reason line,
      ends (past ++ [⟨.announce topic record.notification, .error reason⟩] ++ [⟨.log line, ()⟩])
        (.error (.publish reason))) :
    (service.announceRecord record).Ensures (service.rule operation) ends past := by
  refine ⟨permitted, fun answer _ => ?_⟩
  cases answer with
  | ok _ => exact sent _
  | error reason => exact ensures_aside_access rfl fun _ => refused _ reason _


/-- Scheduling inserts a new record and publishes its dispatch; a bus that is out makes it fail. -/
theorem Service.schedule_ensures {type : LoadType} {key : String} {task : TaskId}
    {ends : List Step → Except Failure Unit → Prop} (schedules : operation.isSchedule = true)
    (idle : stance past = .idle)
    (ended : ∀ past result, (stance past).IsSettled →
      (∀ error, result ≠ .error (.transition error)) → ends past result) :
    (service.schedule type key task).Ensures (service.rule operation) ends past := by
  refine ensures_aside_access rfl fun now => ?_
  have still : stance (past ++ [⟨.readClock, now⟩]) = .idle := by
    rw [stance_snoc, idle]; rfl
  refine ⟨.insert _ now schedules rfl still, ?_⟩
  intro answer counted
  rcases counted with rfl | rfl
  · refine Service.dispatch_ensures ?_ ?_ ?_
    · rw [stance_snoc, still]; rfl
    · intro topic
      refine ended _ _ ?_ (fun _ same => by cases same)
      simp only [stance_snoc, Stance.after, Stance.IsSettled]
    · intro topic reason line
      refine ended _ _ ?_ (fun _ same => by cases same)
      simp only [stance_snoc, Stance.after, Stance.IsSettled]
  · refine ended _ _ ?_ (fun _ same => by cases same)
    simp only [stance_snoc, still, Stance.after, Stance.IsSettled]

theorem Status.of_admission_execute {status : Status} {dispatched attempt : UInt32}
    (admitted : status.admission dispatched = .execute attempt) :
    ∃ scheduled, status = .scheduled scheduled ∧ scheduled.attempt = dispatched ∧
      attempt = max scheduled.attempt 1 := by
  cases status with
  | scheduled current =>
      simp only [Status.admission] at admitted
      split at admitted
      · next same => cases admitted; exact ⟨current, rfl, same, rfl⟩
      · cases admitted
  | waiting _ | failed _ | loaded _ => cases admitted

theorem Status.of_admission_finished {status : Status} {dispatched : UInt32} {here : Bool}
    (admitted : status.admission dispatched = .finished here) :
    status.isTerminal = true ∧ (here = true ↔ status.attempt = max dispatched 1) := by
  cases status with
  | failed current | loaded current =>
      cases admitted
      exact ⟨rfl, decide_eq_true_iff⟩
  | waiting _ => cases admitted
  | scheduled current =>
      simp only [Status.admission] at admitted
      split at admitted <;> cases admitted

theorem Status.of_admission_stale {status : Status} {dispatched : UInt32}
    (admitted : status.admission dispatched = .stale) : status.isTerminal = false := by
  cases status with
  | scheduled _ | waiting _ => rfl
  | failed _ | loaded _ => cases admitted

/-- How a call that handles a dispatch ends, seen from within. -/
def EndsHandled (message : Dispatch) (past : List Step) (result : Except Failure Outcome) : Prop :=
  (Operation.handle message).Ends past (result.map .handled)

theorem EndsHandled.of_outcome {message : Dispatch} {outcome : Outcome}
    (settled : (stance past).IsSettled) (borneOut : outcome.BorneOut message past) :
    EndsHandled message past (.ok outcome) := ⟨settled, borneOut⟩

theorem Service.report_of_terminal {message : Dispatch} {record : Record} (attempt : UInt32)
    (terminal : record.status.isTerminal = true) (wrote : Wrote past record)
    (task : record.task = message.task) (told : Told past record.notification) :
    (report record attempt).1.BorneOut message past := by
  cases status : record.status with
  | loaded _ => simpa only [report, status] using ⟨record, wrote, task, terminal, told⟩
  | failed _ => simpa only [report, status] using ⟨record, wrote, task, terminal, told⟩
  | scheduled _ | waiting _ => rw [status] at terminal; cases terminal

theorem Service.report_of_waiting {message : Dispatch} {record : Record} {waiting : Waiting}
    (attempt : UInt32) (status : record.status = .waiting waiting)
    (current : waiting.attempt = max message.attempt 1) (wrote : Wrote past record)
    (task : record.task = message.task) :
    (report record attempt).1.BorneOut message past := by
  simpa only [report, status] using ⟨record, waiting, wrote, task, status, current⟩

/-- What is left to do about a status that was just written: a terminal one is announced. -/
theorem Service.afterWrite_ensures {message : Dispatch} {updated : Record} (record : Record)
    (attempt : UInt32)
    (wrote : Wrote past updated) (task : updated.task = message.task)
    (ended : updated.status.isTerminal = true ∨ ∃ waiting, updated.status = .waiting waiting ∧
      waiting.attempt = max message.attempt 1)
    (owing : stance past = Stance.idle.afterWrite updated) :
    (service.afterWrite record attempt (.ok updated)).Ensures (service.rule (.handle message))
      (EndsHandled message) past := by
  simp only [Service.afterWrite, bind_eq, pure_eq]
  refine ensures_logAll fun own aside => ?_
  have wrote := wrote.append own
  rcases ended with terminal | ⟨waiting, status, current⟩
  · rw [if_pos terminal, ensures_bind]
    have owed : stance (past ++ own) = .announcing updated.notification := by
      rw [stance_append_of_aside past aside, owing, Stance.afterWrite_of_terminal terminal]
    refine announceRecord_ensures (.announce updated.notification owed) ?_ ?_
    · intro topic
      refine ⟨by simp only [stance_snoc, owed, Stance.after, Stance.IsSettled], ?_⟩
      exact report_of_terminal attempt terminal (wrote.append _) task
        ⟨_, List.mem_append_right _ List.mem_cons_self, rfl⟩
    · intro topic reason line
      refine ⟨by simp only [stance_snoc, Stance.after, Stance.IsSettled], fun _ same => ?_⟩
      cases same
  · have pending : ¬ updated.status.isTerminal = true := by simp [status, Status.isTerminal]
    rw [if_neg pending]
    refine ⟨?_, report_of_waiting attempt status current wrote task⟩
    rw [stance_append_of_aside past aside, owing, Stance.afterWrite_of_waiting status]
    trivial

theorem Service.execute_ensures {message : Dispatch} {record : Record} {scheduled : Scheduled}
    (seen : Seen past record) (task : record.task = message.task)
    (status : record.status = .scheduled scheduled)
    (current : scheduled.attempt = message.attempt) (idle : stance past = .idle) :
    (service.execute record (max scheduled.attempt 1)).Ensures (service.rule (.handle message))
      (EndsHandled message) past := by
  simp only [Service.execute, bind_eq]
  refine (staysAside_runLoader service _).ensures_bind ?_ ?_
  · intro own failure aside noTransition
    refine ⟨?_, noTransition⟩
    rw [stance_append_of_aside past aside, idle]
    trivial
  intro own ended aside
  refine ensures_aside_access rfl fun now => ensures_logAll fun more asideToo => ?_
  have follows := status ▸ service.result_follows record scheduled ended now
  rw [follows.checkTransition]
  have before : stance (past ++ own ++ [⟨.readClock, now⟩] ++ more) = .idle := by
    rw [stance_append_of_aside _ asideToo, stance_snoc, stance_append_of_aside past aside, idle]
    rfl
  have stillSeen : Seen (past ++ own ++ [⟨.readClock, now⟩] ++ more) record := by
    simpa only [List.append_assoc] using seen.append (own ++ ([⟨.readClock, now⟩] ++ more))
  generalize past ++ own ++ [⟨.readClock, now⟩] ++ more = whole at before stillSeen ⊢
  refine ⟨.commit message record scheduled ended now rfl stillSeen task status current before, ?_⟩
  intro answer counted
  rcases counted record stillSeen rfl rfl with rfl | ⟨actual, rfl⟩
  · refine afterWrite_ensures record _ ⟨_, List.mem_append_right _ List.mem_cons_self, rfl⟩ task ?_ ?_
    · rcases service.result_cases record (max scheduled.attempt 1) ended now with
        ⟨loaded, result, _⟩ | ⟨failed, result, _⟩ | ⟨waiting, result, same⟩
      · exact .inl (by rw [Record.next, result]; rfl)
      · exact .inl (by rw [Record.next, result]; rfl)
      · exact .inr ⟨waiting, result, by rw [same, current]⟩
    · rw [stance_snoc, before]; rfl
  · refine ensures_aside_access rfl fun _ => ⟨?_, record, ?_, task, ?_⟩
    · simp only [stance_snoc, Stance.after, Stance.IsSettled]
    · exact (stillSeen.append _).append _
    · rw [status]; rfl

theorem Service.handle_ensures (message : Dispatch) :
    (service.handle message).Ensures (service.rule (.handle message)) (EndsHandled message) [] := by
  refine ⟨.read message.task, fun answer counted => ?_⟩
  rcases counted with rfl | ⟨record, task, rfl⟩
  · refine ensures_aside_access rfl fun _ => .of_outcome trivial ?_
    exact List.mem_cons_self
  have idle : stance [⟨.readTask message.task, .ok (some record)⟩] = .idle := rfl
  have seen : Seen [⟨.readTask message.task, .ok (some record)⟩] record :=
    ⟨_, List.mem_singleton_self _, .read message.task⟩
  dsimp only [ofStore, done_bind, bind_eq, pure_eq, List.nil_append]
  cases admitted : record.status.admission message.attempt with
  | execute attempt =>
      obtain ⟨scheduled, status, current, rfl⟩ := Status.of_admission_execute admitted
      exact execute_ensures seen task status current idle
  | finished here =>
      obtain ⟨terminal, same⟩ := Status.of_admission_finished admitted
      by_cases again : here = true
      · simp only [if_pos again]
        rw [ensures_bind]
        refine announceRecord_ensures (.announceAgain message record rfl seen terminal idle) ?_ ?_
        · intro topic
          refine .of_outcome ?_ ⟨record, seen.append _, task, terminal, fun _ => ?_⟩
          · simp only [stance_snoc, idle, Stance.after, Stance.IsSettled]
          · exact ⟨_, List.mem_append_right _ List.mem_cons_self, rfl⟩
        · intro topic reason line
          refine ⟨by simp only [stance_snoc, Stance.after, Stance.IsSettled], fun _ failed => ?_⟩
          cases failed
      · simp only [if_neg again]
        refine .of_outcome (by rw [idle]; trivial) ⟨record, seen, task, terminal, fun current => ?_⟩
        exact absurd (same.mpr current) again
  | stale =>
      have pending := Status.of_admission_stale admitted
      exact .of_outcome (by rw [idle]; trivial) ⟨record, seen, task, pending⟩
/-- How the sweep of one record ends that began after certain steps: nothing is left to publish, and
it counts as errors just the refusals of the buses. -/
def EndsSwept (before past : List Step) (result : Except Failure Swept) : Prop :=
  ∃ own, past = before ++ own ∧ stance past = .idle ∧
    ∀ report : SweepReport,
      (report.count result).errors = report.errors + own.countP Step.isRefused

theorem Service.giveUp_ensures {record : Record} {waiting : Waiting} (now : Instant)
    (seen : Seen past record) (status : record.status = .waiting waiting)
    (exhausted : (service.policies.get record.type).maxAttempts ≤ waiting.attempt)
    (idle : stance past = .idle) :
    (service.giveUp record waiting now).Ensures (service.rule .sweep) (EndsSwept past) past := by
  have follows : record.status.Follows (waiting.givenUp now) := status ▸ .givenUp rfl
  have checked := follows.checkTransition
  unfold Waiting.givenUp at checked
  simp only [Service.giveUp, bind_eq, pure_eq, checked]
  refine ⟨.announceAhead record waiting now rfl seen status exhausted idle, fun answer _ => ?_⟩
  cases answer with
  | error reason =>
      refine ⟨[_], rfl, ?_, fun report => rfl⟩
      simp only [stance_snoc, Stance.after]
  | ok _ =>
      generalize extended : past ++ [_] = told
      have announced : stance told =
          .announced ⟨record.type, record.key, record.task, waiting.givenUp now⟩ := by
        rw [← extended, stance_snoc, idle]; rfl
      have isTold : Told told ⟨record.type, record.key, record.task, waiting.givenUp now⟩ := by
        rw [← extended]
        exact ⟨_, List.mem_append_right _ List.mem_cons_self, rfl⟩
      have seen : Seen told record := extended ▸ seen.append _
      refine ⟨.giveUp record waiting now rfl seen status exhausted isTold announced, ?_⟩
      intro answer counted
      rcases counted record seen rfl rfl with rfl | ⟨actual, rfl⟩
      · refine ⟨[_, _], by rw [← extended, List.append_assoc]; rfl, ?_, fun report => rfl⟩
        rw [stance_snoc, announced]; rfl
      · refine ⟨[_, _], by rw [← extended, List.append_assoc]; rfl, ?_, fun report => rfl⟩
        rw [stance_snoc]; rfl

theorem Service.retry_ensures {record : Record} {waiting : Waiting} (now : Instant)
    (seen : Seen past record) (status : record.status = .waiting waiting)
    (allowed : waiting.attempt < (service.policies.get record.type).maxAttempts)
    (idle : stance past = .idle) :
    (service.retry record waiting now).Ensures (service.rule .sweep) (EndsSwept past) past := by
  have follows : record.status.Follows (.scheduled ⟨now, waiting.attempt + 1⟩) :=
    status ▸ .again (toNat_succ_of_lt allowed)
  simp only [Service.retry, bind_eq, pure_eq, follows.checkTransition]
  refine ⟨.retry record waiting now rfl seen status allowed idle, fun answer counted => ?_⟩
  rcases counted record seen rfl rfl with rfl | ⟨actual, rfl⟩
  · simp only [ofStore, done_bind]
    rw [ensures_bind]
    refine Service.dispatch_ensures ?_ ?_ ?_
    · rw [stance_snoc, idle]; rfl
    · intro topic
      refine ⟨[_, _], List.append_assoc _ _ _, ?_, fun report => rfl⟩
      rw [stance_snoc]; rfl
    · intro topic reason line
      refine ⟨[_] ++ ([_] ++ [_]), by rw [List.append_assoc, List.append_assoc], ?_, fun report => rfl⟩
      simp only [stance_snoc, Stance.after]
  · refine ⟨[_], rfl, ?_, fun report => rfl⟩
    rw [stance_snoc]; rfl

theorem EndsSwept.of_aside {step : Step} {result : Except Failure Swept} {before : List Step}
    (aside : step.isAside = true) (ended : EndsSwept (before ++ [step]) past result) :
    EndsSwept before past result := by
  obtain ⟨own, rfl, idle, counted⟩ := ended
  refine ⟨step :: own, by simp, idle, fun report => ?_⟩
  rw [counted report, List.countP_cons_of_neg (by rw [(Step.quiet_of_aside aside).2.2.2]; simp)]

theorem Service.sweepRecord_ensures {record : Record} {waiting : Waiting}
    (seen : Seen past record) (status : record.status = .waiting waiting)
    (idle : stance past = .idle) :
    (service.sweepRecord record).Ensures (service.rule .sweep) (EndsSwept past) past := by
  simp only [Service.sweepRecord, status, bind_eq]
  refine ensures_aside_access rfl fun now => ?_
  have still : stance (past ++ [⟨.readClock, now⟩]) = .idle := by
    rw [stance_snoc, idle]; rfl
  split
  · next exhausted =>
      exact (giveUp_ensures now (seen.append _) status exhausted still).mono
        fun _ _ ended => ended.of_aside rfl
  · next more =>
      exact (retry_ensures now (seen.append _) status (UInt32.not_le.mp more) still).mono
        fun _ _ ended => ended.of_aside rfl


/-- Nothing is left to publish, and the buses have refused so much. -/
def Tallied (errors : Nat) (past : List Step) : Prop :=
  stance past = .idle ∧ errors = past.countP Step.isRefused

theorem Tallied.snoc {errors : Nat} {step : Step} (tallied : Tallied errors past)
    (quiet : Stance.idle.after step = .idle) (fine : step.isRefused = false) :
    Tallied errors (past ++ [step]) := by
  refine ⟨by rw [stance_snoc, tallied.1, quiet], ?_⟩
  rw [List.countP_append, ← tallied.2, List.countP_singleton, fine]
  rfl

theorem Tallied.swept {report : SweepReport} {before : List Step} {result : Except Failure Swept}
    (tallied : Tallied report.errors before) (ended : EndsSwept before past result) :
    Tallied (report.count result).errors past := by
  obtain ⟨own, rfl, idle, counted⟩ := ended
  exact ⟨idle, by rw [counted, tallied.2, List.countP_append]⟩

/-- The records of one listing are swept one by one; each was shown to wait. -/
theorem Service.sweepRecords_ensures {due : List Record} {report : SweepReport}
    {ends : List Step → Except Failure SweepReport → Prop}
    (waits : ∀ record ∈ due, Seen past record ∧ ∃ waiting, record.status = .waiting waiting)
    (tallied : Tallied report.errors past)
    (ended : ∀ past (report : SweepReport), Tallied report.errors past → ends past (.ok report)) :
    (service.sweepRecords report due).Ensures (service.rule .sweep) ends past := by
  induction due generalizing past report with
  | nil => exact ended past report tallied
  | cons record rest ih =>
      obtain ⟨seen, waiting, status⟩ := waits record List.mem_cons_self
      simp only [Service.sweepRecords, bind_eq]
      rw [ensures_bind, ensures_attempt]
      refine (sweepRecord_ensures seen status tallied.1).mono fun after result swept => ?_
      have tallied := tallied.swept swept
      obtain ⟨own, rfl, _⟩ := swept
      have restWaits : ∀ other ∈ rest, Seen (past ++ own) other ∧
          ∃ waiting, other.status = .waiting waiting := fun other later =>
        have ⟨seen, waits⟩ := waits other (List.mem_cons_of_mem _ later)
        ⟨seen.append own, waits⟩
      simp only [thenEnds]
      cases result with
      | ok swept => exact ih restWaits tallied
      | error failure =>
          simp only
          split
          · refine ensures_aside_access rfl fun _ => ih (fun other later => ?_) (tallied.snoc rfl rfl)
            exact ⟨(restWaits other later).1.append _, (restWaits other later).2⟩
          · exact ih restWaits tallied

theorem Service.sweep_ensures {ends : List Step → Except Failure SweepReport → Prop}
    (tallied : Tallied 0 past)
    (ended : ∀ past (report : SweepReport), Tallied report.errors past → ends past (.ok report)) :
    service.sweep.Ensures (service.rule .sweep) ends past := by
  simp only [Service.sweep, bind_eq, pure_eq]
  refine ensures_aside_access rfl fun now => ⟨.due now _, fun answer counted => ?_⟩
  obtain ⟨due, rfl, allDue⟩ := counted
  have clock : Tallied 0 (past ++ [⟨.readClock, now⟩]) := tallied.snoc rfl rfl
  have listed : Tallied 0
      (past ++ [⟨.readClock, now⟩] ++ [⟨.dueTasks now service.batchSize, .ok due⟩]) :=
    clock.snoc rfl rfl
  simp only [ofStore, done_bind]
  split
  · exact ended _ _ listed
  · refine ensures_aside_access rfl fun _ => ?_
    rw [done_bind, ensures_bind]
    refine sweepRecords_ensures ?_ (listed.snoc rfl rfl) fun _ _ tallied =>
      ensures_aside_access rfl fun _ => ended _ _ (tallied.snoc rfl rfl)
    intro record member
    refine ⟨Seen.append ?_ _, TaskStore.waiting_of_isDue (allDue record member)⟩
    exact ⟨_, List.mem_append_right _ List.mem_cons_self, .listed now _ due member⟩

theorem Service.sweepOnce_ensures :
    service.sweepOnce.Ensures (service.rule .sweep)
      (fun past result => Operation.sweep.Ends past (result.map .swept)) [] := by
  refine ensures_aside_access rfl fun enters => ?_
  simp only [done_bind, bind_eq, pure_eq]
  cases enters with
  | false => exact ⟨trivial, trivial⟩
  | true =>
      simp only [if_true]
      rw [ensures_bind, ensures_attempt]
      refine sweep_ensures ⟨rfl, rfl⟩ fun past report tallied =>
        ensures_aside_access rfl fun _ => ?_
      have left : Tallied report.errors (past ++ [⟨.leaveSweep, ()⟩]) := tallied.snoc rfl rfl
      obtain ⟨idle, counted⟩ := left
      refine ⟨?_, counted⟩
      rw [idle]
      trivial

/-- Calls that neither handle nor sweep promise no more than all calls do. -/
theorem Operation.ends_plain {result : Except Failure Reply} (handles : operation.isHandle = false)
    (sweeps : operation.isSweep = false) (settled : (stance past).IsSettled)
    (noTransition : ∀ error, result ≠ .error (.transition error)) : operation.Ends past result := by
  refine ⟨settled, ?_⟩
  cases result with
  | error failure => cases operation <;> exact fun error same => noTransition error (congrArg _ same)
  | ok reply =>
      cases operation with
      | handle _ => cases handles
      | sweep => cases sweeps
      | read _ _ | save _ _ _ | remove _ _ | update _ _ | schedule _ _ _ => trivial

theorem ensures_status {task : TaskId} {ends : List Step → Except Failure (Option Status) → Prop}
    (ended : ∀ answer status, ends (past ++ [⟨.readTask task, answer⟩]) (.ok status)) :
    (Service.status task).Ensures (service.rule operation) ends past := by
  refine ⟨.read task, fun answer counted => ?_⟩
  rcases counted with rfl | ⟨record, _, rfl⟩
  · exact ended _ _
  · exact ended _ _

/-- Reading looks at a task at most; it writes and publishes nothing. -/
theorem read_ensures (type : LoadType) (key : String) :
    ((Operation.read type key).program service).Ensures (service.rule (.read type key))
      (Operation.read type key).Ends [] := by
  simp only [Operation.program, View.get, bind_eq, pure_eq]
  refine ⟨.aside rfl, fun value _ => ?_⟩
  cases value with
  | error error => exact Operation.ends_plain rfl rfl trivial fun _ same => by cases same
  | ok value =>
  have decoded : ∃ same, (View.json type).decodeValue value = .done same := by
    cases value <;> exact ⟨_, rfl⟩
  obtain ⟨same, decoded⟩ := decoded
  simp only [ofStore, done_bind, decoded]
  refine ⟨.aside rfl, fun pointer _ => ?_⟩
  cases pointer with
  | error error => exact Operation.ends_plain rfl rfl trivial fun _ same => by cases same
  | ok pointer =>
  cases pointer with
  | none => exact Operation.ends_plain rfl rfl trivial fun _ same => by cases same
  | some task =>
      simp only [ofStore, done_bind]
      rw [ensures_bind, ensures_bind]
      refine ensures_status fun answer status => ?_
      change (Operation.read type key).Ends _ (.ok (.entry (.compose same status)))
      exact Operation.ends_plain rfl rfl trivial fun _ same => by cases same

theorem update_ensures (type : LoadType) (key : String) :
    ((Operation.update type key).program service).Ensures (service.rule (.update type key))
      (Operation.update type key).Ends [] := by
  simp only [Operation.program, View.update, bind_eq, pure_eq]
  refine ensures_aside_access rfl fun task => ⟨.aside rfl, fun answer _ => ?_⟩
  cases answer with
  | error error => exact Operation.ends_plain rfl rfl trivial fun _ same => by cases same
  | ok _ =>
  simp only [ofStore, done_bind]
  rw [ensures_bind, ensures_bind]
  refine Service.schedule_ensures rfl rfl fun past result settled noTransition => ?_
  cases result with
  | error failure =>
      change (Operation.update type key).Ends past (.error failure)
      refine Operation.ends_plain rfl rfl settled fun error same => ?_
      exact noTransition error (congrArg Except.error (Except.error.inj same))
  | ok _ =>
      refine ensures_aside_access rfl fun _ => ?_
      change (Operation.update type key).Ends _ (.ok (.started task))
      refine Operation.ends_plain rfl rfl ?_ fun _ same => by cases same
      rw [stance_snoc]
      exact settled

/-- Every operation keeps the rule of its calls and ends as they may. -/
theorem Operation.program_ensures (service : Service) (operation : Operation) :
    (operation.program service).Ensures (service.rule operation) operation.Ends [] := by
  have ofAside (aside : (operation.program service).StaysAside)
      (handles : operation.isHandle = false) (sweeps : operation.isSweep = false) :
      (operation.program service).Ensures (service.rule operation) operation.Ends [] := by
    refine aside.ensures (fun _ _ isAside => .aside isAside) fun own result allAside noTransition => ?_
    refine ends_plain handles sweeps ?_ noTransition
    rw [stance_append_of_aside [] allAside]
    trivial
  cases operation with
  | read type key => exact read_ensures type key
  | save type key data =>
      exact ofAside ((staysAside_save type key data).bind fun _ => trivial) rfl rfl
  | remove type key =>
      refine ofAside (StaysAside.bind ?_ fun _ => trivial) rfl rfl
      refine ⟨rfl, fun answer => (staysAside_ofStore answer).bind fun _ => ⟨rfl, fun answer => ?_⟩⟩
      exact staysAside_ofStore answer
  | update type key => exact update_ensures type key
  | schedule type key task =>
      refine ensures_map (Service.schedule_ensures rfl rfl fun past result settled noTransition => ?_)
      refine ends_plain rfl rfl settled fun error same => ?_
      cases result with
      | ok _ => cases same
      | error failure => exact noTransition error (congrArg Except.error (Except.error.inj same))
  | handle message => exact ensures_map (Service.handle_ensures message)
  | sweep => exact ensures_map Service.sweepOnce_ensures

end CacheFill
