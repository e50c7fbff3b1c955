import CacheFill.Proofs.Concurrency.Ensures
import CacheFill.Proofs.Task.Life
import Mathlib.Data.List.Induction

/-!
How a call conducts itself, told by its own steps. A call writes only over records it was shown; what
it still has to publish about its last write is its stance. `Service.Permits` says once what each
operation may do next, and `Operation.Ends` how it may end. The shared stores and buses do their part
if they answer as `Answers` says.
-/

set_option autoImplicit false

namespace CacheFill

namespace Step

/-- The step reads, lists or writes the record. -/
inductive Shows (record : Record) : Step → Prop where
  | read (task : TaskId) : Shows record ⟨.readTask task, .ok (some record)⟩
  | listed (now : Instant) (limit : Nat) (due : List Record) (member : record ∈ due) :
      Shows record ⟨.dueTasks now limit, .ok due⟩
  | inserted (given : Record) : Shows record ⟨.insertTask given, .ok record⟩
  | updated (task : TaskId) (expected : Expected) (status : Status) (resume : Option Json) :
      Shows record ⟨.updateTask task expected status resume, .ok record⟩

def written? : Step → Option Record
  | ⟨.insertTask _, .ok record⟩ => some record
  | ⟨.updateTask _ _ _ _, .ok record⟩ => some record
  | _ => none

def published? : Step → Option Dispatch
  | ⟨.publish _ message, .ok ()⟩ => some message
  | _ => none

def announced? : Step → Option Notification
  | ⟨.announce _ notification, .ok ()⟩ => some notification
  | _ => none

/-- A bus refused what the step was to publish. -/
def isRefused : Step → Bool
  | ⟨.publish _ _, .error _⟩ | ⟨.announce _ _, .error _⟩ => true
  | _ => false

def isPublish : Step → Bool
  | ⟨.publish _ _, _⟩ | ⟨.announce _ _, _⟩ => true
  | _ => false

theorem Shows.of_written? {step : Step} {record : Record}
    (written : step.written? = some record) : step.Shows record := by
  obtain ⟨access, answer⟩ := step
  cases access with
  | insertTask given =>
      cases answer with
      | ok stored => cases written; exact .inserted given
      | error error => cases written
  | updateTask task expected status resume =>
      cases answer with
      | ok stored => cases written; exact .updated task expected status resume
      | error error => cases written
  | _ => cases written

end Step

def Seen (past : List Step) (record : Record) : Prop := ∃ step ∈ past, step.Shows record

def Wrote (past : List Step) (record : Record) : Prop :=
  ∃ step ∈ past, step.written? = some record

def Told (past : List Step) (notification : Notification) : Prop :=
  ∃ step ∈ past, step.announced? = some notification

theorem Seen.append {past : List Step} {record : Record} (seen : Seen past record)
    (more : List Step) : Seen (past ++ more) record := by
  obtain ⟨step, member, shows⟩ := seen
  exact ⟨step, List.mem_append_left more member, shows⟩

theorem Wrote.append {past : List Step} {record : Record} (wrote : Wrote past record)
    (more : List Step) : Wrote (past ++ more) record := by
  obtain ⟨step, member, written⟩ := wrote
  exact ⟨step, List.mem_append_left more member, written⟩

theorem Wrote.seen {past : List Step} {record : Record} (wrote : Wrote past record) :
    Seen past record := by
  obtain ⟨step, member, written⟩ := wrote
  exact ⟨step, member, .of_written? written⟩

/-- The dispatch that a scheduled record asks for. -/
def Record.dispatch (record : Record) : Dispatch :=
  ⟨record.type, record.key, record.task, record.status.attempt⟩

/-- What a call still has to do about the last status it wrote. -/
inductive Stance where
  | idle
  /-- A scheduled status is written, and publishing its dispatch has not been tried. -/
  | dispatching (message : Dispatch)
  /-- A terminal status is written, and announcing it has not been tried. -/
  | announcing (notification : Notification)
  /-- A terminal status is announced ahead of its write. -/
  | announced (notification : Notification)
  deriving DecidableEq

namespace Stance

def IsSettled : Stance → Prop
  | .idle | .announced _ => True
  | .dispatching _ | .announcing _ => False

def afterWrite (stance : Stance) (record : Record) : Stance :=
  match record.status, stance with
  | .scheduled _, _ => .dispatching record.dispatch
  | .waiting _, _ => .idle
  | .failed _, .announced _ | .loaded _, .announced _ => .idle
  | .failed _, _ | .loaded _, _ => .announcing record.notification

def after (stance : Stance) : Step → Stance
  | ⟨.insertTask _, .ok record⟩ => stance.afterWrite record
  | ⟨.updateTask _ _ _ _, .ok record⟩ => stance.afterWrite record
  | ⟨.updateTask _ _ _ _, .error _⟩ => .idle
  | ⟨.publish _ _, _⟩ => .idle
  | ⟨.announce _ notification, .ok ()⟩ =>
      match stance with
      | .announcing _ => .idle
      | _ => .announced notification
  | ⟨.announce _ _, .error _⟩ => .idle
  | _ => stance

end Stance

/-- The stance of a call after its steps. -/
def stance (past : List Step) : Stance := past.foldl Stance.after .idle

@[simp] theorem stance_nil : stance [] = .idle := rfl

@[simp] theorem stance_snoc (past : List Step) (step : Step) :
    stance (past ++ [step]) = (stance past).after step := by
  simp [stance, List.foldl_append]

theorem Stance.after_of_aside {step : Step} (aside : step.isAside = true) (stance : Stance) :
    stance.after step = stance := by
  obtain ⟨access, answer⟩ := step
  cases access <;> first | rfl | cases aside

theorem Step.quiet_of_aside {step : Step} (aside : step.isAside = true) :
    step.written? = none ∧ step.published? = none ∧ step.announced? = none ∧
      step.isRefused = false := by
  obtain ⟨access, answer⟩ := step
  cases access <;> first | exact ⟨rfl, rfl, rfl, rfl⟩ | cases aside

theorem Stance.afterWrite_of_terminal {record : Record} (terminal : record.status.isTerminal = true) :
    Stance.idle.afterWrite record = .announcing record.notification := by
  cases status : record.status with
  | loaded _ | failed _ => simp only [Stance.afterWrite, status]
  | scheduled _ | waiting _ => rw [status] at terminal; cases terminal

theorem Stance.afterWrite_of_waiting {record : Record} {waiting : Waiting}
    (status : record.status = .waiting waiting) (stance : Stance) :
    stance.afterWrite record = .idle := by
  simp only [Stance.afterWrite, status]

theorem stance_append_of_aside (past : List Step) {own : List Step}
    (aside : ∀ step ∈ own, step.isAside = true) : stance (past ++ own) = stance past := by
  induction own generalizing past with
  | nil => simp
  | cons step rest ih =>
      have first : past ++ step :: rest = (past ++ [step]) ++ rest := by simp
      rw [first, ih _ fun other member => aside other (List.mem_cons_of_mem _ member),
        stance_snoc, Stance.after_of_aside (aside step List.mem_cons_self)]

theorem Stance.after_of_written {step : Step} {record : Record} (stance : Stance)
    (written : step.written? = some record) : stance.after step = stance.afterWrite record := by
  obtain ⟨access, answer⟩ := step
  cases access with
  | insertTask given =>
      cases answer with
      | ok stored => cases written; rfl
      | error error => cases written
  | updateTask task expected status resume =>
      cases answer with
      | ok stored => cases written; rfl
      | error error => cases written
  | _ => cases written

/-- The last thing that was written is a record, and nothing was tried to publish since. -/
def AwaitsPublish (past : List Step) (record : Record) : Prop :=
  ∃ before write after, past = before ++ write :: after ∧ write.written? = some record ∧
    ∀ step ∈ after, step.written? = none ∧ step.isPublish = false

theorem AwaitsPublish.wrote {past : List Step} {record : Record}
    (awaits : AwaitsPublish past record) : Wrote past record := by
  obtain ⟨before, write, after, rfl, written, _⟩ := awaits
  exact ⟨write, by simp, written⟩

/-- What a write leaves to publish does not depend on what was left before. -/
theorem Stance.afterWrite_of_unsettled {stance : Stance} {record : Record}
    (unsettled : ¬ (stance.afterWrite record).IsSettled) :
    stance.afterWrite record = Stance.idle.afterWrite record := by
  cases status : record.status with
  | scheduled _ | waiting _ => simp only [afterWrite, status]
  | failed _ | loaded _ =>
      cases stance with
      | announced _ =>
          simp only [afterWrite, status] at unsettled
          exact absurd trivial unsettled
      | idle | dispatching _ | announcing _ => simp only [afterWrite, status]

theorem Stance.of_unsettled_after {stance : Stance} {step : Step}
    (unsettled : ¬ (stance.after step).IsSettled) :
    (∃ record, step.written? = some record ∧
      stance.after step = Stance.idle.afterWrite record) ∨
    (step.written? = none ∧ step.isPublish = false ∧ stance.after step = stance) := by
  cases written : step.written? with
  | some record =>
      rw [stance.after_of_written written] at unsettled ⊢
      exact .inl ⟨record, rfl, afterWrite_of_unsettled unsettled⟩
  | none =>
      obtain ⟨access, answer⟩ := step
      cases access with
      | publish topic message => exact absurd trivial unsettled
      | announce topic notification =>
          cases answer with
          | ok _ => cases stance <;> exact absurd trivial unsettled
          | error reason => exact absurd trivial unsettled
      | insertTask given =>
          cases answer with
          | ok stored => cases written
          | error error => exact .inr ⟨rfl, rfl, rfl⟩
      | updateTask task expected status resume =>
          cases answer with
          | ok stored => cases written
          | error error => exact absurd trivial unsettled
      | _ => exact .inr ⟨rfl, rfl, rfl⟩

/-- A call that has something left to publish wrote it last, and has not come to publish it. -/
theorem awaitsPublish_of_unsettled {past : List Step} (unsettled : ¬ (stance past).IsSettled) :
    ∃ record, AwaitsPublish past record ∧ stance past = Stance.idle.afterWrite record := by
  induction past using List.reverseRecOn with
  | nil => exact absurd trivial unsettled
  | append_singleton earlier step ih =>
      rw [stance_snoc] at unsettled ⊢
      rcases Stance.of_unsettled_after unsettled with ⟨record, written, same⟩ | ⟨unwritten, rest⟩
      · exact ⟨record, ⟨earlier, step, [], rfl, written, by simp⟩, same⟩
      · rw [rest.2] at unsettled ⊢
        obtain ⟨record, ⟨before, write, after, split, written, silent⟩, same⟩ := ih unsettled
        refine ⟨record, ⟨before, write, after ++ [step], by simp [split], written, ?_⟩, same⟩
        intro other member
        rcases List.mem_append.mp member with earlier | last
        · exact silent other earlier
        · rw [List.mem_singleton.mp last]
          exact ⟨unwritten, rest.1⟩

theorem Stance.of_afterWrite_announcing {record : Record} {notification : Notification}
    (announcing : Stance.idle.afterWrite record = .announcing notification) :
    record.status.isTerminal = true ∧ record.notification = notification := by
  cases status : record.status with
  | scheduled _ | waiting _ =>
      simp only [afterWrite, status] at announcing
      cases announcing
  | failed _ | loaded _ =>
      simp only [afterWrite, status] at announcing
      exact ⟨rfl, Stance.announcing.inj announcing⟩

theorem awaitsPublish_of_announcing {past : List Step} {notification : Notification}
    (announcing : stance past = .announcing notification) :
    ∃ record, AwaitsPublish past record ∧ record.status.isTerminal = true ∧
      record.notification = notification := by
  have unsettled : ¬ (stance past).IsSettled := by
    rw [announcing]
    exact id
  obtain ⟨record, awaits, same⟩ := awaitsPublish_of_unsettled unsettled
  exact ⟨record, awaits, Stance.of_afterWrite_announcing (same.symm.trans announcing)⟩

/-- The answers of stores that hold each record under its task and count versions up with writes.
Nobody else has written a record that still has the version with which it was shown. -/
def Answers (past : List Step) : (access : Access) → access.Answer → Prop
  | .insertTask record, answer =>
      answer = .ok { record with version := 1 } ∨ answer = .error (.alreadyExists record.task)
  | .readTask task, answer =>
      answer = .ok none ∨ ∃ record, record.task = task ∧ answer = .ok (some record)
  | .dueTasks now _, answer =>
      ∃ due, answer = .ok due ∧ ∀ record ∈ due, TaskStore.isDue now record = true
  | .updateTask task expected status resume, answer =>
      ∀ record, Seen past record → record.task = task → expected = .exact record.version →
        answer = .ok (record.next status resume) ∨
          ∃ actual, answer = .error (.conflict task expected actual)
  | _, _ => True

namespace Service

/-- What a call on a service may do next after the steps it has made. -/
inductive Permits (service : Service) (operation : Operation) (past : List Step) :
    Access → Prop where
  | aside {access : Access} (aside : access.isAside = true) : Permits service operation past access
  | read (task : TaskId) : Permits service operation past (.readTask task)
  | due (now : Instant) (limit : Nat) : Permits service operation past (.dueTasks now limit)
  | insert (record : Record) (now : Instant) (schedules : operation.isSchedule = true)
      (new : record.status = .initial now) (idle : stance past = .idle) :
      Permits service operation past (.insertTask record)
  | commit (message : Dispatch) (record : Record) (scheduled : Scheduled)
      (ended : Except LoaderError Unit) (now : Instant) (handles : operation = .handle message)
      (seen : Seen past record) (task : record.task = message.task)
      (status : record.status = .scheduled scheduled)
      (attempt : scheduled.attempt = message.attempt) (idle : stance past = .idle) :
      Permits service operation past (.updateTask record.task (.exact record.version)
        (service.result record (max scheduled.attempt 1) ended now).1.1
        (service.result record (max scheduled.attempt 1) ended now).2)
  | retry (record : Record) (waiting : Waiting) (now : Instant) (sweeps : operation = .sweep)
      (seen : Seen past record) (status : record.status = .waiting waiting)
      (allowed : waiting.attempt < (service.policies.get record.type).maxAttempts)
      (idle : stance past = .idle) :
      Permits service operation past (.updateTask record.task (.exact record.version)
        (.scheduled ⟨now, waiting.attempt + 1⟩) record.resume)
  | giveUp (record : Record) (waiting : Waiting) (now : Instant) (sweeps : operation = .sweep)
      (seen : Seen past record) (status : record.status = .waiting waiting)
      (exhausted : (service.policies.get record.type).maxAttempts ≤ waiting.attempt)
      (told : Told past ⟨record.type, record.key, record.task, waiting.givenUp now⟩)
      (announced : stance past =
        .announced ⟨record.type, record.key, record.task, waiting.givenUp now⟩) :
      Permits service operation past (.updateTask record.task (.exact record.version)
        (waiting.givenUp now) record.resume)
  | dispatch (message : Dispatch) (owed : stance past = .dispatching message) :
      Permits service operation past (.publish (service.topics.dispatch message.type) message)
  | announce (notification : Notification) (owed : stance past = .announcing notification) :
      Permits service operation past
        (.announce (service.topics.notifications notification.type) notification)
  | announceAgain (message : Dispatch) (record : Record) (handles : operation = .handle message)
      (seen : Seen past record) (terminal : record.status.isTerminal = true)
      (idle : stance past = .idle) :
      Permits service operation past
        (.announce (service.topics.notifications record.type) record.notification)
  | announceAhead (record : Record) (waiting : Waiting) (now : Instant)
      (sweeps : operation = .sweep) (seen : Seen past record)
      (status : record.status = .waiting waiting)
      (exhausted : (service.policies.get record.type).maxAttempts ≤ waiting.attempt)
      (idle : stance past = .idle) :
      Permits service operation past (.announce (service.topics.notifications record.type)
        ⟨record.type, record.key, record.task, waiting.givenUp now⟩)

def rule (service : Service) (operation : Operation) : Rule :=
  ⟨service.Permits operation, Answers⟩

end Service

/-- What the steps of a call that handled a dispatch bear out about its outcome. -/
def Outcome.BorneOut (message : Dispatch) (past : List Step) : Outcome → Prop
  | .loaded | .failed _ _ =>
      ∃ record, Wrote past record ∧ record.task = message.task ∧
        record.status.isTerminal = true ∧ Told past record.notification
  | .retryScheduled _ _ =>
      ∃ record waiting, Wrote past record ∧ record.task = message.task ∧
        record.status = .waiting waiting ∧ waiting.attempt = max message.attempt 1
  | .skipped .alreadyTerminal =>
      ∃ record, Seen past record ∧ record.task = message.task ∧
        record.status.isTerminal = true ∧
        (record.status.attempt = max message.attempt 1 → Told past record.notification)
  | .skipped .staleAttempt | .skipped .conflict =>
      ∃ record, Seen past record ∧ record.task = message.task ∧ record.status.isTerminal = false
  | .skipped .unknownTask => ⟨.readTask message.task, .ok none⟩ ∈ past

/-- How a call of an operation may end after its steps. Nothing is left to publish, no transition
was refused, and a sweep counts as errors just the refusals of the buses. -/
def Operation.Ends (operation : Operation) (past : List Step) (result : Except Failure Reply) :
    Prop :=
  (stance past).IsSettled ∧
    match operation, result with
    | .handle message, .ok (.handled outcome) => outcome.BorneOut message past
    | .sweep, .ok (.swept (some report)) => report.errors = past.countP Step.isRefused
    | _, .ok _ => True
    | _, .error failure => ∀ error, failure ≠ .transition error

end CacheFill
