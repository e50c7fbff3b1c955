import CacheFill.Proofs.Service.Alone

/-!
All that handling one dispatch does while no other call runs: which loader it calls, what it writes,
what it announces, and what it gives back. Main statement: `Service.handle_alone`.
-/

set_option autoImplicit false

namespace CacheFill

namespace Record

/-- The record waits for the execution that a dispatch asks for. -/
def awaits (message : Dispatch) (record : Record) : Bool :=
  match record.status with
  | .scheduled scheduled => scheduled.attempt = message.attempt
  | .waiting _ | .failed _ | .loaded _ => false

/-- The record is finished, by the execution that a dispatch asks for. -/
def isFinishedBy (message : Dispatch) (record : Record) : Bool :=
  record.status.isTerminal && record.status.attempt = max message.attempt 1

theorem awaits_iff {message : Dispatch} {record : Record} :
    record.awaits message = true ↔
      record.status.admission message.attempt = .execute (max message.attempt 1) := by
  unfold awaits Status.admission
  cases record.status with
  | scheduled current =>
      by_cases same : current.attempt = message.attempt
      · simp [same]
      · simp [same]
  | waiting _ | failed _ | loaded _ => simp

theorem not_awaits {message : Dispatch} {record : Record}
    (unadmitted : ∀ attempt, record.status.admission message.attempt ≠ .execute attempt) :
    record.awaits message = false :=
  Bool.eq_false_iff.mpr fun asked => unadmitted _ (awaits_iff.mp asked)

end Record

/-- What an outcome tells about the record that was found and the one that was left. -/
inductive Outcome.Tells (message : Dispatch) : Option Record → Option Record → Outcome → Prop where
  | unknown : Tells message none none (.skipped .unknownTask)
  | finished (record : Record) (terminal : record.status.isTerminal = true) :
      Tells message (some record) (some record) (.skipped .alreadyTerminal)
  | stale (record : Record) (pending : record.status.isTerminal = false)
      (unasked : record.awaits message = false) :
      Tells message (some record) (some record) (.skipped .staleAttempt)
  | loaded (record updated : Record) (loaded : Loaded) (asked : record.awaits message = true)
      (status : updated.status = .loaded loaded) :
      Tells message (some record) (some updated) .loaded
  | waits (record updated : Record) (waiting : Waiting) (asked : record.awaits message = true)
      (status : updated.status = .waiting waiting) :
      Tells message (some record) (some updated)
        (.retryScheduled waiting.attempt waiting.retryAt)
  | failed (record updated : Record) (failed : Failed) (asked : record.awaits message = true)
      (status : updated.status = .failed failed) :
      Tells message (some record) (some updated) (.failed failed.attempt failed.lastError.kind)

/-- The record that an execution leaves: it has another status and resume state, and its version is
counted up. -/
def Service.executed (service : Service) (record : Record) (attempt : UInt32)
    (ended : Except LoaderError Unit) (now : Instant) : Record :=
  let ((status, _), resume) := service.result record attempt ended now
  record.next status resume

/-- What an execution writes is reported for what it is. -/
theorem Outcome.tells_report (service : Service) {message : Dispatch} {record : Record}
    (asked : record.awaits message = true) (ended : Except LoaderError Unit) (now : Instant) :
    let updated := service.executed record (max message.attempt 1) ended now
    Tells message (some record) (some updated)
        (Service.report updated (max message.attempt 1)).1 ∧
      updated.isFinishedBy message = updated.status.isTerminal := by
  intro updated
  unfold Service.report Record.isFinishedBy
  rcases service.result_cases record (max message.attempt 1) ended now with
    ⟨loaded, status, attempt⟩ | ⟨failed, status, attempt⟩ | ⟨waiting, status, attempt⟩
  · have same : updated.status = .loaded loaded := status
    rw [same]
    exact ⟨.loaded record updated loaded asked same, by simp [Status.attempt, attempt]⟩
  · have same : updated.status = .failed failed := status
    rw [same, ← attempt]
    exact ⟨.failed record updated failed asked same, by simp [Status.attempt]⟩
  · have same : updated.status = .waiting waiting := status
    rw [same, ← attempt]
    exact ⟨.waits record updated waiting asked same, by simp [Status.isTerminal]⟩

namespace Service

/-- How a call ends that announces a record as the last thing it does, or none: what it tries to put
on a bus, and what it gives back. -/
inductive Reports (service : Service) (outcome : Outcome) :
    Option Record → List Step → Except Failure Outcome → Prop where
  | silent : Reports service outcome none [] (.ok outcome)
  | told (record : Record) :
      Reports service outcome (some record)
        [⟨.announce (service.topics.notifications record.type) record.notification, .ok ()⟩]
        (.ok outcome)
  | untold (record : Record) (reason : String) :
      Reports service outcome (some record)
        [⟨.announce (service.topics.notifications record.type) record.notification, .error reason⟩]
        (.error (.publish reason))

/-- What a call left that handled a dispatch while no other call ran. -/
structure HandledAlone (service : Service) (environment : Environment) (message : Dispatch)
    (tasks : TaskStore) (result : Except Failure Outcome) (later : Solo) : Prop where
  once : (later.steps.filterMap Step.load?).length ≤ 1
  asked : ∀ call ∈ later.steps.filterMap Step.load?, ∃ record,
    tasks.get? message.task = some record ∧ record.awaits message = true ∧
      call = record.load (max message.attempt 1)
  /-- The result is written over the record, whatever the loader did to other tasks. -/
  written : ∀ record, tasks.get? message.task = some record → record.awaits message = true →
    ∃ own ended now left,
      own ++ [⟨.readClock, now⟩] <:+: later.steps ∧
      service.Runs (record.load (max message.attempt 1)) own ended ∧
      environment.Leaves tasks (later.steps.filterMap Step.load?) left ∧
      ∀ task, later.backend.tasks.get? task =
        if task = message.task then
          some (service.executed record (max message.attempt 1) ended now)
        else left.get? task
  unwritten : (∀ record, tasks.get? message.task = some record → record.awaits message = false) →
    later.backend.tasks = tasks
  reported : ∃ outcome,
    outcome.Tells message (tasks.get? message.task) (later.backend.tasks.get? message.task) ∧
      service.Reports outcome
        ((later.backend.tasks.get? message.task).filter (Record.isFinishedBy message))
        (later.steps.filter Step.isPublish) result

open Program

variable {service : Service} {environment : Environment} {message : Dispatch} {record : Record}
  {backend : Backend} {solo : Solo}

theorem Runs.quiet {load : LoadCall} {own : List Step} {ended : Except LoaderError Unit}
    (runs : service.Runs load own ended) :
    own.filter Step.isPublish = [] ∧
      (own.filterMap Step.load? = [] ∨ own.filterMap Step.load? = [load]) := by
  cases runs with
  | missing _ => exact ⟨rfl, .inl rfl⟩
  | finished | stored | saved | unsaved | failed | panicked => exact ⟨rfl, .inr rfl⟩

/-- A loader that leaves its own record alone is run without a change of it. -/
theorem Runs.spares {load : LoadCall} {own : List Step} {ended : Except LoaderError Unit}
    {tasks left : TaskStore} (runs : service.Runs load own ended)
    (spares : ∀ call before, (environment.work call before).tasks.get? call.task =
      before.tasks.get? call.task)
    (leaves : environment.Leaves tasks (own.filterMap Step.load?) left) :
    left.get? load.task = tasks.get? load.task := by
  rcases runs.quiet.2 with none | one
  · rw [none] at leaves
    cases leaves
    rfl
  · rw [one] at leaves
    cases leaves with
    | asked call backend same => exact (spares load backend).trans (by rw [same])

/-- What happens after the stores are settled: a record may be announced. -/
theorem announceLast_alone (record : Record) (outcome : Outcome) :
    ((service.announceRecord record).bind fun _ => .done outcome).EndsIn environment.perform
      (fun result later => ∃ own, solo.Passes later own ∧ own.filterMap Step.load? = [] ∧
        service.Reports outcome (some record) (own.filter Step.isPublish) result) solo := by
  refine (announceRecord_alone record).bind ?_ ?_
  · rintro _ later ⟨answer, logs, passes, allLogs, returned⟩
    obtain ⟨noLoads, noPublishes⟩ := Step.quiet_of_logs allLogs
    refine ⟨_, passes, noLoads, ?_⟩
    rw [List.filter_cons_of_pos rfl, noPublishes]
    cases answer with
    | ok _ => exact .told record
    | error reason => cases returned
  · rintro failure later ⟨answer, logs, passes, allLogs, returned⟩
    obtain ⟨noLoads, noPublishes⟩ := Step.quiet_of_logs allLogs
    refine ⟨_, passes, noLoads, ?_⟩
    rw [List.filter_cons_of_pos rfl, noPublishes]
    cases answer with
    | ok _ => cases returned
    | error reason =>
        cases returned
        exact .untold record reason

/-- A written record is announced if it is finished. -/
theorem afterWrite_alone (record updated : Record) (attempt : UInt32) :
    (service.afterWrite record attempt (.ok updated)).EndsIn environment.perform
      (fun result later => ∃ own, solo.Passes later own ∧ own.filterMap Step.load? = [] ∧
        service.Reports (report updated attempt).1
          ((some updated).filter (·.status.isTerminal)) (own.filter Step.isPublish) result)
      solo := by
  simp only [afterWrite, bind_eq, pure_eq]
  refine (logAll_alone _).bind ?_ fun _ _ ended => by cases ended.1
  rintro _ later ⟨_, lines, passes, allLogs⟩
  obtain ⟨noLoads, noPublishes⟩ := Step.quiet_of_logs allLogs
  cases terminal : updated.status.isTerminal with
  | false =>
      refine ⟨lines, passes, noLoads, ?_⟩
      rw [noPublishes, Option.filter_some, terminal]
      exact .silent
  | true =>
      refine (announceLast_alone updated _).mono fun result last ended => ?_
      obtain ⟨own, more, noMoreLoads, reports⟩ := ended
      refine ⟨_, passes.trans more, ?_, ?_⟩
      · rw [List.filterMap_append, noLoads, noMoreLoads]
        rfl
      · rw [List.filter_append, noPublishes, Option.filter_some, terminal]
        exact reports

/-- A task is executed, and its result is written as nobody else writes its record. -/
theorem execute_alone {scheduled : Scheduled} (status : record.status = .scheduled scheduled)
    (found : solo.backend.tasks.get? record.task = some record)
    (spares : ∀ call before, (environment.work call before).tasks.get? call.task =
      before.tasks.get? call.task) :
    (service.execute record (max scheduled.attempt 1)).EndsIn environment.perform
      (fun result later => ∃ own ended now left more,
        service.Runs (record.load (max scheduled.attempt 1)) own ended ∧
        environment.Leaves solo.backend.tasks (own.filterMap Step.load?) left ∧
        later.backend.tasks =
          left.put (service.executed record (max scheduled.attempt 1) ended now) ∧
        later.steps = solo.steps ++ (own ++ [⟨.readClock, now⟩]) ++ more ∧
        more.filterMap Step.load? = [] ∧
        service.Reports
          (report (service.executed record (max scheduled.attempt 1) ended now)
            (max scheduled.attempt 1)).1
          ((some (service.executed record (max scheduled.attempt 1) ended now)).filter
            (·.status.isTerminal))
          (more.filter Step.isPublish) result)
      solo := by
  simp only [execute, bind_eq]
  refine (runLoader_alone _).bind ?_ fun _ _ ended => by
    cases ended.choose_spec.choose_spec.1
  rintro ended ran ⟨own, _, returned, runs, steps, leaves⟩
  obtain rfl := Except.ok.inj returned
  have stillFound : ran.backend.tasks.get? record.task = some record :=
    (runs.spares spares leaves).trans found
  refine endsIn_access fun now timed _ read => ?_
  refine (logAll_alone _).bind ?_ fun _ _ ended => by cases ended.1
  rintro _ logged ⟨_, lines, logs, allLogs⟩
  obtain ⟨noLoads, noPublishes⟩ := Step.quiet_of_logs allLogs
  have follows := status ▸ service.result_follows record scheduled ended now
  rw [follows.checkTransition]
  have passes := (read rfl).trans logs
  refine endsIn_access fun answer written done _ => ?_
  obtain ⟨rfl, tasks⟩ := Solo.update_perform (passes.tasks ▸ stillFound) done
  obtain ⟨write, writes, noLoad, noPublish⟩ : ∃ write : Step, written.steps = logged.steps ++ [write] ∧
      write.load? = none ∧ write.isPublish = false := ⟨_, Solo.steps_perform done, rfl, rfl⟩
  refine (afterWrite_alone record _ _).mono fun result last reported => ?_
  obtain ⟨more, after, noMoreLoads, reports⟩ := reported
  refine ⟨own, ended, now, ran.backend.tasks, lines ++ write :: more, runs, leaves, ?_, ?_, ?_, ?_⟩
  · rw [after.tasks, tasks, passes.tasks]
    rfl
  · rw [after.steps, writes, passes.steps, steps]
    simp only [List.append_assoc, List.cons_append, List.nil_append]
  · rw [List.filterMap_append, noLoads, List.filterMap_cons_none noLoad, noMoreLoads]
    rfl
  · rw [List.filter_append, noPublishes, List.filter_cons_of_neg (by simp [noPublish])]
    exact reports

/-- A call that executes nothing leaves the tasks as they are. -/
theorem HandledAlone.of_passes {result : Except Failure Outcome} {later : Solo} {own : List Step}
    (outcome : Outcome) (passes : Solo.Passes ⟨backend, []⟩ later own)
    (noLoads : own.filterMap Step.load? = [])
    (unasked : ∀ record, backend.tasks.get? message.task = some record →
      record.awaits message = false)
    (tells : outcome.Tells message (backend.tasks.get? message.task)
      (backend.tasks.get? message.task))
    (reports : service.Reports outcome
      ((backend.tasks.get? message.task).filter (Record.isFinishedBy message))
      (own.filter Step.isPublish) result) :
    service.HandledAlone environment message backend.tasks result later := by
  have steps : later.steps = own := passes.steps
  constructor
  · rw [steps, noLoads]
    exact Nat.zero_le 1
  · rw [steps, noLoads]
    intro call member
    cases member
  · intro record found asked
    rw [unasked record found] at asked
    cases asked
  · exact fun _ => passes.tasks
  · rw [steps, passes.tasks]
    exact ⟨outcome, tells, reports⟩

/-- A call that executes a task writes what the execution came to. -/
theorem HandledAlone.of_executed {result : Except Failure Outcome} {later : Solo} {left : TaskStore}
    {first : Step} {own more : List Step} {ended : Except LoaderError Unit} {now : Instant}
    (found : backend.tasks.get? message.task = some record) (task : record.task = message.task)
    (asked : record.awaits message = true)
    (runs : service.Runs (record.load (max message.attempt 1)) own ended)
    (leaves : environment.Leaves backend.tasks (own.filterMap Step.load?) left)
    (tasks : later.backend.tasks =
      left.put (service.executed record (max message.attempt 1) ended now))
    (steps : later.steps = [first] ++ (own ++ [⟨.readClock, now⟩]) ++ more)
    (noLoad : first.load? = none) (noPublish : first.isPublish = false)
    (noLoads : more.filterMap Step.load? = [])
    (reports : service.Reports
      (report (service.executed record (max message.attempt 1) ended now)
        (max message.attempt 1)).1
      ((some (service.executed record (max message.attempt 1) ended now)).filter
        (·.status.isTerminal))
      (more.filter Step.isPublish) result) :
    service.HandledAlone environment message backend.tasks result later := by
  have loads : later.steps.filterMap Step.load? = own.filterMap Step.load? := by
    have nothing : [first].filterMap Step.load? = [] := List.filterMap_cons_none noLoad
    rw [steps, List.filterMap_append, noLoads, List.filterMap_append, nothing,
      List.filterMap_append]
    simp [Step.load?]
  have publishes : later.steps.filter Step.isPublish = more.filter Step.isPublish := by
    have nothing : [first].filter Step.isPublish = [] :=
      List.filter_cons_of_neg (by rw [noPublish]; exact Bool.false_ne_true)
    rw [steps, List.filter_append, List.filter_append, nothing, List.filter_append, runs.quiet.1]
    rfl
  have stored (other : TaskId) : later.backend.tasks.get? other =
      if other = message.task then some (service.executed record (max message.attempt 1) ended now)
      else left.get? other := by
    rw [tasks, TaskStore.get?_put, ← task]
    rfl
  obtain ⟨tells, finished⟩ := Outcome.tells_report service asked ended now
  constructor
  · rw [loads]
    rcases runs.quiet.2 with none | one
    · rw [none]
      exact Nat.zero_le 1
    · rw [one]
      exact Nat.le_refl 1
  · rw [loads]
    intro call member
    refine ⟨record, found, asked, ?_⟩
    rcases runs.quiet.2 with none | one
    · rw [none] at member
      cases member
    · rw [one] at member
      exact List.mem_singleton.mp member
  · intro other foundToo _
    obtain rfl := Option.some.inj (found.symm.trans foundToo)
    refine ⟨own, ended, now, left, ?_, runs, loads ▸ leaves, stored⟩
    exact steps ▸ List.infix_append [first] _ more
  · intro unasked
    rw [unasked record found] at asked
    cases asked
  · refine ⟨(report (service.executed record (max message.attempt 1) ended now)
      (max message.attempt 1)).1, ?_, ?_⟩
    · rw [found, stored, if_pos rfl]
      exact tells
    · rw [stored, if_pos rfl, publishes, Option.filter_some, finished]
      exact reports

/-- A call handles a dispatch while no other call writes, on any store of tasks, with any loaders and
policies, whatever the clock shows and the buses and loaders do; a loader may change all but the
record of its own task. Then a loader is called once at most, and only for a record that waits for
just the execution that the dispatch asks for; the result of the execution is written over that
record, whose version is counted up, and no other record changes but by what the loader did. In all
other cases the tasks stay as they are. If the record is finished in the end, by the execution that
the dispatch asks for, it is announced once as it is then, and otherwise nothing is. The call fails
if and only if the announcement does, which takes nothing back. -/
theorem handle_alone (service : Service) (message : Dispatch) (environment : Environment)
    (backend : Backend) (keyed : backend.tasks.IsKeyed)
    (spares : ∀ call before, (environment.work call before).tasks.get? call.task =
      before.tasks.get? call.task) :
    ∃ result later,
      (service.handle message).run environment.perform ⟨backend, []⟩ = (result, later) ∧
      service.HandledAlone environment message backend.tasks result later := by
  refine ⟨_, _, rfl, ?_⟩
  change (service.handle message).EndsIn environment.perform
    (service.HandledAlone environment message backend.tasks) ⟨backend, []⟩
  simp only [handle, bind_eq, pure_eq]
  refine endsIn_access fun answer first done read => ?_
  obtain rfl : answer = .ok (backend.tasks.get? message.task) := (congrArg Prod.fst done).symm
  have here := (read rfl).tasks
  cases found : backend.tasks.get? message.task with
  | none =>
      refine endsIn_access fun _ last _ logged => ?_
      refine .of_passes (.skipped .unknownTask) ((read rfl).trans (logged rfl)) rfl ?_ ?_ ?_
      · simp [found]
      · rw [found]
        exact .unknown
      · rw [found]
        exact .silent
  | some record =>
      have task : record.task = message.task := keyed _ _ found
      have only (other : Record) (same : backend.tasks.get? message.task = some other) :
          record = other := Option.some.inj (found.symm.trans same)
      simp only [ofStore, done_bind]
      split
      · next attempt admitted =>
          obtain ⟨scheduled, status, same, rfl⟩ := Status.of_admission_execute admitted
          have asked : record.awaits message = true := Record.awaits_iff.mpr (same ▸ admitted)
          have stored : first.backend.tasks.get? record.task = some record := by
            rw [here, task, found]
          refine (execute_alone status stored spares).mono ?_
          rintro result last ⟨own, ended, now, left, more, runs, leaves, tasks, steps, noLoads, reports⟩
          rw [same] at runs tasks reports
          rw [here] at leaves
          rw [(read rfl).steps] at steps
          exact .of_executed found task asked runs leaves tasks steps rfl rfl noLoads reports
      · next finishedHere admitted =>
          obtain ⟨terminal, isHere⟩ := Status.of_admission_finished admitted
          have unasked (other : Record) (same : backend.tasks.get? message.task = some other) :
              other.awaits message = false := by
            rw [← only other same]
            refine Record.not_awaits fun attempt executes => ?_
            cases admitted.symm.trans executes
          have tells : Outcome.Tells message (backend.tasks.get? message.task)
              (backend.tasks.get? message.task) (.skipped .alreadyTerminal) :=
            found ▸ .finished record terminal
          have finished : record.isFinishedBy message = finishedHere := by
            rw [Record.isFinishedBy, terminal, Bool.true_and, Bool.eq_iff_iff, decide_eq_true_iff]
            exact isHere.symm
          cases finishedHere with
          | true =>
              refine (announceLast_alone record _).mono ?_
              rintro result last ⟨own, more, noLoads, reports⟩
              refine .of_passes _ ((read rfl).trans more) noLoads unasked tells ?_
              rw [found, Option.filter_some, finished]
              exact reports
          | false =>
              refine .of_passes _ (read rfl) rfl unasked tells ?_
              rw [found, Option.filter_some, finished]
              exact .silent
      · next admitted =>
          have pending := Status.of_admission_stale admitted
          have unasked : record.awaits message = false := by
            refine Record.not_awaits fun attempt executes => ?_
            cases admitted.symm.trans executes
          refine .of_passes (.skipped .staleAttempt) (read rfl) rfl ?_ ?_ ?_
          · intro other same
            rw [← only other same]
            exact unasked
          · rw [found]
            exact .stale record pending unasked
          · rw [found, Option.filter_some, Record.isFinishedBy, pending]
            exact .silent

/-- A task that was just created. -/
def newTask : Backend :=
  { (default : Backend) with
    tasks := .ofRecords [{ Record.created default "" default default with version := 1 }] }

/-- A task is executed while the bus of notifications is out: the call fails, and the task is loaded
all the same. -/
theorem handled_unheard :
    let environment := Environment.outage none (some "out")
    newTask.tasks.IsKeyed ∧
      (∀ call before, (environment.work call before).tasks.get? call.task =
        before.tasks.get? call.task) ∧
      ∃ result later,
        (Service.single.handle ⟨default, "", default, 0⟩).run environment.perform ⟨newTask, []⟩ =
          (result, later) ∧
        Service.single.HandledAlone environment ⟨default, "", default, 0⟩ newTask.tasks result later ∧
        result = .error (.publish "out") ∧
        later.backend.tasks.get? default =
          some ⟨default, default, "", .loaded ⟨Instant.epoch, 1⟩, 2, none⟩ := by
  intro environment
  have keyed : newTask.tasks.IsKeyed := TaskStore.isKeyed_ofRecords _
  have spares (call : LoadCall) (before : Backend) :
      (environment.work call before).tasks.get? call.task = before.tasks.get? call.task := rfl
  obtain ⟨result, later, ran, handled⟩ :=
    handle_alone .single ⟨default, "", default, 0⟩ environment newTask keyed spares
  refine ⟨keyed, spares, result, later, ran, handled, ?_, ?_⟩
  · cases ran
    rfl
  · cases ran
    rfl

end Service

end CacheFill
