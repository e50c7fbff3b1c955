import CacheFill.Proofs.Service.Sweeping

/-!
Sweeps one after the other, while the clock stands still, nothing else writes and the buses refuse
nothing. Each works off the next batch of the backlog, one record after the other, so the backlog
grows shorter from its front until nothing is due. Main statement: `Service.sweepTimes_worksOff`.
-/

set_option autoImplicit false

namespace CacheFill

/-- The step changed a record or put something on a bus. -/
def Step.isEffect (step : Step) : Bool := step.written?.isSome || step.isPublish

namespace Solo

/-- The backend answers by itself, and the steps are noted. -/
def perform (load : LoadCall → LoaderAnswer) : Performer Solo := fun access solo =>
  let (answer, backend) := Backend.perform load access solo.backend
  (answer, ⟨backend, solo.steps ++ [⟨access, answer⟩]⟩)

variable {load : LoadCall → LoaderAnswer} {solo : Solo} {α : Type}

/-- Noting the steps changes nothing about a run. -/
theorem run_noted (load : LoadCall → LoaderAnswer) (program : Program α) (solo : Solo) :
    program.run (Backend.perform load) solo.backend =
      ((program.run (Solo.perform load) solo).1,
        (program.run (Solo.perform load) solo).2.backend) := by
  induction program generalizing solo with
  | done value => rfl
  | fail failure => rfl
  | perform access next ih => exact ih _ (Solo.perform load access solo).2

theorem steps_noted (access : Access) :
    (Solo.perform load access solo).2.steps =
      solo.steps ++ [⟨access, (Solo.perform load access solo).1⟩] := rfl

theorem perform_update {record : Record} (status : Status) (resume : Option Json)
    (found : solo.backend.tasks.get? record.task = some record) :
    Solo.perform load (.updateTask record.task (.exact record.version) status resume) solo =
      (.ok (record.next status resume),
        ⟨{ solo.backend with tasks := solo.backend.tasks.put (record.next status resume) },
          solo.steps ++ [⟨.updateTask record.task (.exact record.version) status resume,
            .ok (record.next status resume)⟩]⟩) := by
  simp only [Solo.perform, Backend.perform, TaskStore.update_found found, Backend.withTasks]

end Solo

namespace Service

section Fate

variable (service : Service) (now : Instant) (record : Record)

def isExhausted : Bool :=
  (service.policies.get record.type).maxAttempts ≤ record.status.attempt

/-- What becomes of a waiting record in a sweep. -/
def fate : Swept := if service.isExhausted record then .failed else .redispatched

/-- The status that a sweep leaves a waiting record in: failed for good, or scheduled again. -/
def statusAfter : Status :=
  match record.status with
  | .waiting waiting =>
      if service.isExhausted record then waiting.givenUp now
      else .scheduled ⟨now, waiting.attempt + 1⟩
  | status => status

def settled : Record := record.next (service.statusAfter now record) record.resume

@[simp] theorem settled_task : (service.settled now record).task = record.task := rfl

/-- What a sweep does about a waiting record: it announces the failure and writes it, or it writes the
next attempt and dispatches it. -/
def effects : List Step :=
  let write : Step :=
    ⟨.updateTask record.task (.exact record.version) (service.statusAfter now record) record.resume,
      .ok (service.settled now record)⟩
  if service.isExhausted record then
    [⟨.announce (service.topics.notifications record.type) (service.settled now record).notification,
      .ok ()⟩, write]
  else
    [write, ⟨.publish (service.topics.dispatch record.type)
      ⟨record.type, record.key, record.task, (service.statusAfter now record).attempt⟩, .ok ()⟩]

/-- The report of a sweep over a batch of waiting records. -/
def reportOf (batch : List Record) : SweepReport :=
  ⟨batch.length, batch.countP (!service.isExhausted ·), batch.countP service.isExhausted, 0, 0⟩

end Fate

variable {service : Service} {load : LoadCall → LoaderAnswer} {record : Record} {waiting : Waiting}
  {solo between later : Solo}

theorem isDue_settled (now : Instant) (status : record.status = .waiting waiting) :
    TaskStore.isDue now (service.settled now record) = false := by
  simp only [settled, statusAfter, status]
  split <;> rfl

theorem lt_maxAttempts (status : record.status = .waiting waiting)
    (allowed : service.isExhausted record = false) :
    waiting.attempt < (service.policies.get record.type).maxAttempts := by
  simp only [isExhausted, status, decide_eq_false_iff_not] at allowed
  exact UInt32.not_le.mp allowed

theorem countsUp_settled (now : Instant) (status : record.status = .waiting waiting)
    (allowed : service.isExhausted record = false) :
    (service.settled now record).status.attempt.toNat = record.status.attempt.toNat + 1 := by
  have raised := toNat_succ_of_lt (lt_maxAttempts status allowed)
  simp only [settled, Record.next, statusAfter, status, allowed]
  exact raised

/-- Records were settled one after the other, and nothing else has happened to the tasks and the
buses. -/
structure Settles (service : Service) (records : List Record) (solo later : Solo) : Prop where
  tasks : later.backend.tasks =
    (records.map (service.settled solo.backend.now)).foldl TaskStore.put solo.backend.tasks
  effects : later.steps.filter Step.isEffect =
    solo.steps.filter Step.isEffect ++ records.flatMap (service.effects solo.backend.now)
  clock : later.backend.now = solo.backend.now

theorem filter_effects (now : Instant) (record : Record) :
    (service.effects now record).filter Step.isEffect = service.effects now record := by
  unfold effects
  split <;> rfl

theorem settles_one
    (tasks : later.backend.tasks =
      solo.backend.tasks.put (service.settled solo.backend.now record))
    (steps : later.steps = solo.steps ++ service.effects solo.backend.now record)
    (clock : later.backend.now = solo.backend.now) : service.Settles [record] solo later where
  tasks := tasks
  effects := by rw [steps, List.filter_append, filter_effects, List.flatMap_singleton]
  clock := clock

theorem Settles.trans {first more : List Record} (settles : service.Settles first solo between)
    (settlesMore : service.Settles more between later) :
    service.Settles (first ++ more) solo later where
  tasks := by
    rw [settlesMore.tasks, settles.tasks, settles.clock, List.map_append, List.foldl_append]
  effects := by
    rw [settlesMore.effects, settles.effects, settles.clock, List.flatMap_append, List.append_assoc]
  clock := settlesMore.clock.trans settles.clock

theorem Settles.then_looks {records : List Record} (settles : service.Settles records solo between)
    (looks : service.Settles [] between later) : service.Settles records solo later :=
  records.append_nil ▸ settles.trans looks

/-- An access that neither writes nor publishes. -/
theorem settles_look (load : LoadCall → LoaderAnswer) (access : Access)
    (quiet : (⟨access, (Solo.perform load access solo).1⟩ : Step).isEffect = false)
    (tasks : (Solo.perform load access solo).2.backend.tasks = solo.backend.tasks)
    (clock : (Solo.perform load access solo).2.backend.now = solo.backend.now) :
    service.Settles [] solo (Solo.perform load access solo).2 where
  tasks := tasks
  effects := by
    rw [Solo.steps_noted, List.filter_append, List.filter_singleton, quiet]
    rfl
  clock := clock

section Ends

variable {α : Type} {ends : Except Failure α → Solo → Prop}

theorem endsIn_step {access : Access} {next : access.Answer → Program α}
    (goesOn : (next (Solo.perform load access solo).1).EndsIn (Solo.perform load) ends
      (Solo.perform load access solo).2) :
    (Program.perform access next).EndsIn (Solo.perform load) ends solo := goesOn

theorem endsIn_announce {topic : String} {notification : Notification} {next : Unit → Program α}
    (goesOn : (next ()).EndsIn (Solo.perform load) ends
      (Solo.perform load (.announce topic notification) solo).2) :
    ((Program.announce topic notification).bind next).EndsIn (Solo.perform load) ends solo := goesOn

theorem endsIn_dispatch {message : Dispatch} {next : Unit → Program α}
    (goesOn : (next ()).EndsIn (Solo.perform load) ends
      (Solo.perform load (.publish (service.topics.dispatch message.type) message) solo).2) :
    ((service.dispatch message).bind next).EndsIn (Solo.perform load) ends solo := goesOn

theorem endsIn_update {status : Status} {resume : Option Json} {next : Record → Program α}
    (found : solo.backend.tasks.get? record.task = some record)
    (goesOn : (next (record.next status resume)).EndsIn (Solo.perform load) ends
      ⟨{ solo.backend with tasks := solo.backend.tasks.put (record.next status resume) },
        solo.steps ++ [⟨.updateTask record.task (.exact record.version) status resume,
          .ok (record.next status resume)⟩]⟩) :
    ((Program.updateTask record.task (.exact record.version) status resume).bind next).EndsIn
      (Solo.perform load) ends solo := by
  unfold Program.EndsIn Program.updateTask
  rw [Program.perform_bind, Program.run_perform, Solo.perform_update status resume found]
  exact goesOn

end Ends

theorem giveUp_settles (status : record.status = .waiting waiting)
    (exhausted : service.isExhausted record = true)
    (found : solo.backend.tasks.get? record.task = some record) :
    (service.giveUp record waiting solo.backend.now).EndsIn (Solo.perform load) (fun result later =>
      result = .ok (service.fate record) ∧ service.Settles [record] solo later) solo := by
  have after : service.statusAfter solo.backend.now record = waiting.givenUp solo.backend.now := by
    simp only [statusAfter, status, exhausted, if_true]
  have follows : record.status.Follows (waiting.givenUp solo.backend.now) := status ▸ .givenUp rfl
  have checked := follows.checkTransition
  unfold Waiting.givenUp at checked
  simp only [giveUp, Program.bind_eq, Program.pure_eq, checked]
  refine endsIn_announce (endsIn_update found ⟨?_, settles_one ?_ ?_ rfl⟩)
  · rw [fate, exhausted]
    rfl
  · rw [settled, after]
    rfl
  · rw [effects, exhausted, settled, after]
    exact List.append_assoc solo.steps [_] [_]

theorem retry_settles (status : record.status = .waiting waiting)
    (allowed : service.isExhausted record = false)
    (found : solo.backend.tasks.get? record.task = some record) :
    (service.retry record waiting solo.backend.now).EndsIn (Solo.perform load) (fun result later =>
      result = .ok (service.fate record) ∧ service.Settles [record] solo later) solo := by
  have after : service.statusAfter solo.backend.now record =
      .scheduled ⟨solo.backend.now, waiting.attempt + 1⟩ := by
    simp only [statusAfter, status, allowed, Bool.false_eq_true, if_false]
  have follows : record.status.Follows (.scheduled ⟨solo.backend.now, waiting.attempt + 1⟩) :=
    status ▸ .again (toNat_succ_of_lt (lt_maxAttempts status allowed))
  simp only [retry, Program.bind_eq, Program.pure_eq, follows.checkTransition]
  refine endsIn_update found (endsIn_dispatch ⟨?_, settles_one ?_ ?_ rfl⟩)
  · rw [fate, allowed]
    rfl
  · rw [settled, after]
    rfl
  · rw [effects, allowed, settled, after]
    exact List.append_assoc solo.steps [_] [_]

theorem sweepRecord_settles (status : record.status = .waiting waiting)
    (found : solo.backend.tasks.get? record.task = some record) :
    (service.sweepRecord record).EndsIn (Solo.perform load) (fun result later =>
      result = .ok (service.fate record) ∧ service.Settles [record] solo later) solo := by
  have reads : service.Settles [] solo (Solo.perform load .readClock solo).2 :=
    settles_look load .readClock rfl rfl rfl
  have tested : service.isExhausted record =
      decide ((service.policies.get record.type).maxAttempts ≤ waiting.attempt) := by
    rw [isExhausted, status]
    rfl
  simp only [sweepRecord, status, Program.bind_eq]
  refine endsIn_step ?_
  suffices settles : (if (service.policies.get record.type).maxAttempts ≤ waiting.attempt then
      service.giveUp record waiting solo.backend.now
      else service.retry record waiting solo.backend.now).EndsIn (Solo.perform load)
        (fun result later => result = .ok (service.fate record) ∧
          service.Settles [record] (Solo.perform load .readClock solo).2 later)
        (Solo.perform load .readClock solo).2 from
    settles.mono fun _ _ ended => ⟨ended.1, reads.trans ended.2⟩
  split
  · next exhausted => exact giveUp_settles status (tested.trans (decide_eq_true exhausted)) found
  · next more => exact retry_settles status (tested.trans (decide_eq_false more)) found

/-- Settling the first records of the backlog leaves the rest of it. -/
theorem Settles.backlog {records rest : List Record} (settles : service.Settles records solo later)
    (keyed : solo.backend.tasks.IsKeyed)
    (first : solo.backend.tasks.backlog solo.backend.now = records ++ rest) :
    later.backend.tasks.IsKeyed ∧ later.backend.tasks.backlog later.backend.now = rest := by
  rw [settles.tasks, settles.clock]
  refine TaskStore.backlog_foldl_put keyed first (service.settled_task _) fun record member => ?_
  have listed := (TaskStore.mem_backlog keyed).mp (first ▸ List.mem_append_left rest member)
  obtain ⟨waiting, status⟩ := TaskStore.waiting_of_isDue listed.2
  exact isDue_settled _ status

/-- The first records of the backlog are settled, one after the other. -/
theorem sweepRecords_settles {records rest : List Record} (report : SweepReport)
    (keyed : solo.backend.tasks.IsKeyed)
    (first : solo.backend.tasks.backlog solo.backend.now = records ++ rest) :
    (service.sweepRecords report records).EndsIn (Solo.perform load) (fun result later =>
      result = .ok (records.foldl (fun report record => report.count (.ok (service.fate record)))
        report) ∧ service.Settles records solo later) solo := by
  induction records generalizing report solo with
  | nil => exact ⟨rfl, rfl, (List.append_nil _).symm, rfl⟩
  | cons record others ih =>
      have member : record ∈ solo.backend.tasks.backlog solo.backend.now :=
        first ▸ List.mem_append_left rest List.mem_cons_self
      have listed := (TaskStore.mem_backlog keyed).mp member
      obtain ⟨waiting, status⟩ := TaskStore.waiting_of_isDue listed.2
      simp only [sweepRecords, Program.bind_eq]
      refine (sweepRecord_settles status listed.1).attempt.bind ?_ fun _ _ ended => by
        cases ended.choose_spec.1
      rintro _ between ⟨_, returned, rfl, settles⟩
      obtain rfl := Except.ok.inj returned
      -- the others still stand at the front of the backlog, as they were listed
      obtain ⟨keyed, next⟩ := settles.backlog keyed first
      exact (ih _ keyed next).mono fun _ _ ended => ⟨ended.1, settles.trans ended.2⟩

theorem foldl_count (records : List Record) (report : SweepReport) :
    records.foldl (fun report record => report.count (.ok (service.fate record))) report =
      { report with
        redispatched := report.redispatched + records.countP (!service.isExhausted ·)
        failed := report.failed + records.countP service.isExhausted } := by
  induction records generalizing report with
  | nil => rfl
  | cons record rest ih =>
      rw [List.foldl_cons, ih]
      cases exhausted : service.isExhausted record <;>
        simp [fate, exhausted, SweepReport.count] <;> omega

theorem sweepRecords_reportOf {batch rest : List Record} (keyed : solo.backend.tasks.IsKeyed)
    (first : solo.backend.tasks.backlog solo.backend.now = batch ++ rest) :
    (service.sweepRecords (.ofScanned batch.length) batch).EndsIn (Solo.perform load)
      (fun result later => result = .ok (service.reportOf batch) ∧ service.Settles batch solo later)
      solo := by
  refine (sweepRecords_settles _ keyed first).mono fun _ _ ended => ⟨?_, ended.2⟩
  rw [ended.1, foldl_count]
  simp [SweepReport.ofScanned, reportOf]

/-- A sweep settles the first batch of the backlog. -/
theorem sweep_settles (keyed : solo.backend.tasks.IsKeyed) :
    service.sweep.EndsIn (Solo.perform load) (fun result later =>
      let batch := (solo.backend.tasks.backlog solo.backend.now).take service.batchSize
      result = .ok (service.reportOf batch) ∧ service.Settles batch solo later) solo := by
  have first := (List.take_append_drop service.batchSize
    (solo.backend.tasks.backlog solo.backend.now)).symm
  have isDue := solo.backend.tasks.due_eq_take solo.backend.now service.batchSize
  generalize (solo.backend.tasks.backlog solo.backend.now).take service.batchSize = batch
    at first isDue ⊢
  have answered : (Solo.perform load (.dueTasks solo.backend.now service.batchSize)
      (Solo.perform load .readClock solo).2).1 = .ok batch := congrArg Except.ok isDue
  have listed : service.Settles [] solo (Solo.perform load
      (.dueTasks solo.backend.now service.batchSize) (Solo.perform load .readClock solo).2).2 :=
    (settles_look load .readClock rfl rfl rfl).trans (settles_look load (.dueTasks _ _) rfl rfl rfl)
  simp only [sweep, Program.bind_eq, Program.pure_eq]
  refine endsIn_step (endsIn_step ?_)
  change ((Program.ofStore (Solo.perform load (.dueTasks solo.backend.now service.batchSize)
    (Solo.perform load .readClock solo).2).1).bind _).EndsIn _ _ _
  rw [answered, Program.ofStore, Program.done_bind]
  split
  · next nothing =>
      rw [List.isEmpty_iff.mp nothing]
      exact ⟨rfl, listed⟩
  · refine endsIn_step ?_
    have begins := listed.then_looks (settles_look load (.log
      (Log.info "scheduling tasks to retry" [("count", .number batch.length)])) rfl rfl rfl)
    obtain ⟨keyed, first⟩ := begins.backlog keyed first
    refine (sweepRecords_reportOf keyed first).bind ?_ fun _ _ ended => by cases ended.1
    rintro report swept ⟨returned, settles⟩
    obtain rfl := Except.ok.inj returned
    exact ⟨rfl, (begins.trans settles).then_looks (settles_look load (.log _) rfl rfl rfl)⟩

theorem sweepOnce_settles (keyed : solo.backend.tasks.IsKeyed)
    (idle : solo.backend.sweepGuard = .idle) :
    service.sweepOnce.EndsIn (Solo.perform load) (fun result later =>
      let batch := (solo.backend.tasks.backlog solo.backend.now).take service.batchSize
      result = .ok (some (service.reportOf batch)) ∧ service.Settles batch solo later ∧
        later.backend.sweepGuard = .idle) solo := by
  have admitted : (Solo.perform load .enterSweep solo).1 = true := by
    simp [Solo.perform, Backend.perform, idle, RunGuard.enter, RunGuard.idle]
  have entered : service.Settles [] solo (Solo.perform load .enterSweep solo).2 :=
    settles_look load .enterSweep rfl rfl rfl
  have swept : service.sweep.EndsIn (Solo.perform load) _ (Solo.perform load .enterSweep solo).2 :=
    sweep_settles keyed
  simp only [sweepOnce, Program.bind_eq, Program.pure_eq]
  refine endsIn_step ?_
  rw [admitted]
  refine swept.attempt.bind ?_ fun _ _ ended => by cases ended.choose_spec.1
  rintro _ between ⟨_, returned, rfl, settles⟩
  obtain rfl := Except.ok.inj returned
  exact ⟨rfl, (entered.trans settles).then_looks (settles_look load .leaveSweep rfl rfl rfl), rfl⟩

/-- Sweeps one after the other, this many times. -/
def sweepTimes (service : Service) : Nat → Program (List (Option SweepReport))
  | 0 => .done []
  | times + 1 => do
      let report ← service.sweepOnce
      let reports ← service.sweepTimes times
      return report :: reports

/-- The records that the sweep of some number takes up, counted from 0. -/
def batchOf (service : Service) (backlog : List Record) (number : Nat) : List Record :=
  (backlog.drop (number * service.batchSize)).take service.batchSize

theorem sweepTimes_settles (times : Nat) (keyed : solo.backend.tasks.IsKeyed)
    (idle : solo.backend.sweepGuard = .idle) :
    (service.sweepTimes times).EndsIn (Solo.perform load) (fun result later =>
      let backlog := solo.backend.tasks.backlog solo.backend.now
      result = .ok ((List.range times).map fun number =>
        some (service.reportOf (service.batchOf backlog number))) ∧
      service.Settles (backlog.take (times * service.batchSize)) solo later ∧
      later.backend.sweepGuard = .idle) solo := by
  induction times generalizing solo with
  | zero =>
      refine ⟨rfl, ?_, idle⟩
      rw [Nat.zero_mul, List.take_zero]
      exact ⟨rfl, (List.append_nil _).symm, rfl⟩
  | succ times ih =>
      simp only [sweepTimes, Program.bind_eq, Program.pure_eq]
      refine (sweepOnce_settles keyed idle).bind ?_ fun _ _ ended => by cases ended.1
      rintro report between ⟨returned, settles, idleThen⟩
      obtain rfl := Except.ok.inj returned
      -- the sweeps that follow find the backlog without its first batch
      obtain ⟨keyedThen, rest⟩ := settles.backlog keyed (List.take_append_drop _ _).symm
      refine (ih keyedThen idleThen).bind ?_ fun _ _ ended => by cases ended.1
      rintro reports last ⟨returned, settlesMore, idleLast⟩
      obtain rfl := Except.ok.inj returned
      rw [rest] at settlesMore ⊢
      refine ⟨congrArg Except.ok ?_, ?_, idleLast⟩
      · rw [List.range_succ_eq_map, List.map_cons, List.map_map]
        refine congrArg₂ List.cons ?_ (List.map_congr_left fun number _ => ?_)
        · rw [batchOf, Nat.zero_mul, List.drop_zero]
        · simp only [Function.comp_apply, batchOf, List.drop_drop, Nat.succ_mul, Nat.add_comm]
      · rw [Nat.succ_mul, Nat.add_comm, List.take_add]
        exact settles.trans settlesMore

/-- What sweeps one after the other leave of the backlog that the first of them found. -/
structure WorkedOff (service : Service) (backend : Backend) (times : Nat)
    (reports : List (Option SweepReport)) (later : Solo) (backlog : List Record) : Prop where
  /-- The backlog is all that is due. -/
  isDue : ∀ record, record ∈ backlog ↔ backend.tasks.get? record.task = some record ∧
    TaskStore.isDue backend.now record = true
  ordered : backlog.Pairwise fun first second =>
    TaskStore.dueBefore first second = true ∧ first.task ≠ second.task
  /-- All that was written and published on the way. -/
  effects : later.steps.filter Step.isEffect =
    (backlog.take (times * service.batchSize)).flatMap (service.effects backend.now)
  settled : ∀ record ∈ backlog.take (times * service.batchSize),
    later.backend.tasks.get? record.task = some (service.settled backend.now record)
  /-- No attempt number overflows. -/
  countsUp : ∀ record ∈ backlog, service.isExhausted record = false →
    (service.settled backend.now record).status.attempt.toNat = record.status.attempt.toNat + 1
  others : ∀ task, (∀ record ∈ backlog.take (times * service.batchSize), record.task ≠ task) →
    later.backend.tasks.get? task = backend.tasks.get? task
  reported : reports = (List.range times).map fun number =>
    some (service.reportOf (service.batchOf backlog number))
  counted : ∀ number < times, ∃ report, reports[number]? = some (some report) ∧
    report.scanned = min service.batchSize (backlog.length - number * service.batchSize) ∧
    report.scanned = report.redispatched + report.failed ∧ report.skipped = 0 ∧ report.errors = 0
  stillDue : ∀ limit, later.backend.tasks.due backend.now limit =
    (backlog.drop (times * service.batchSize)).take limit
  /-- As many sweeps as there are batches leave nothing due. -/
  nothingDue : 0 < service.batchSize →
    (backlog.length + service.batchSize - 1) / service.batchSize ≤ times →
    ∀ limit, later.backend.tasks.due backend.now limit = []
  clock : later.backend.now = backend.now

theorem scanned_reportOf (batch : List Record) :
    (service.reportOf batch).scanned =
      (service.reportOf batch).redispatched + (service.reportOf batch).failed := by
  simp only [reportOf]
  rw [Nat.add_comm, List.length_eq_countP_add_countP service.isExhausted]
  simp

theorem length_batchOf (backlog : List Record) (number : Nat) :
    (service.batchOf backlog number).length =
      min service.batchSize (backlog.length - number * service.batchSize) := by
  rw [batchOf, List.length_take, List.length_drop]

/-- Sweeps one after the other, with nothing else going on, settle the records that are due in their
order, a batch at a time and each once, until nothing is due. -/
theorem sweepTimes_worksOff (service : Service) (load : LoadCall → LoaderAnswer) (backend : Backend)
    (keyed : backend.tasks.IsKeyed) (idle : backend.sweepGuard = .idle) (times : Nat) :
    ∃ reports later,
      (service.sweepTimes times).run (Backend.perform load) backend = (.ok reports, later.backend) ∧
      (service.sweepTimes times).run (Solo.perform load) ⟨backend, []⟩ = (.ok reports, later) ∧
      service.WorkedOff backend times reports later (backend.tasks.backlog backend.now) := by
  obtain ⟨returned, settles, _⟩ :
      (service.sweepTimes times).EndsIn (Solo.perform load) _ ⟨backend, []⟩ :=
    sweepTimes_settles times keyed idle
  obtain ⟨_, stillDue⟩ := settles.backlog keyed (List.take_append_drop _ _).symm
  have noted := Solo.run_noted load (service.sweepTimes times) ⟨backend, []⟩
  generalize (service.sweepTimes times).run (Solo.perform load) ⟨backend, []⟩ = ran
    at returned settles stillDue noted
  obtain ⟨result, later⟩ := ran
  dsimp only at returned settles stillDue noted
  rw [settles.clock] at stillDue
  have distinct := TaskStore.nodup_backlog keyed backend.now
  have isDue (record : Record) : record ∈ backend.tasks.backlog backend.now ↔ _ :=
    TaskStore.mem_backlog keyed
  have ordered := TaskStore.pairwise_backlog backend.tasks backend.now
  generalize backend.tasks.backlog backend.now = backlog
    at returned settles stillDue distinct isDue ordered ⊢
  have settledDistinct : (((backlog.take (times * service.batchSize)).map
      (service.settled backend.now)).map Record.task).Nodup := by
    rw [List.map_map]
    exact distinct.sublist ((List.take_sublist _ _).map _)
  obtain rfl := returned
  refine ⟨_, later, noted, rfl, isDue, ?_, settles.effects, ?_, ?_, ?_, rfl, ?_, ?_, ?_,
    settles.clock⟩
  · exact ordered.and (List.pairwise_map.mp distinct)
  · intro record member
    rw [settles.tasks]
    exact TaskStore.get?_foldl_put_of_mem settledDistinct (List.mem_map_of_mem member) _
  · intro record member allowed
    obtain ⟨waiting, status⟩ := TaskStore.waiting_of_isDue ((isDue record).mp member).2
    exact countsUp_settled _ status allowed
  · intro task other
    rw [settles.tasks]
    refine TaskStore.get?_foldl_put_of_ne ?_ _
    exact List.forall_mem_map.mpr other
  · intro number within
    refine ⟨service.reportOf (service.batchOf backlog number), ?_, ?_, ?_, rfl, rfl⟩
    · rw [List.getElem?_map, List.getElem?_range within]
      rfl
    · exact length_batchOf backlog number
    · exact scanned_reportOf _
  · intro limit
    rw [TaskStore.due_eq_take, stillDue]
  · intro positive enough limit
    have all : backlog.length ≤ times * service.batchSize := by
      have within := (Nat.div_lt_iff_lt_mul positive).mp (Nat.lt_succ_of_le enough)
      rw [Nat.succ_mul] at within
      omega
    rw [TaskStore.due_eq_take, stillDue, List.drop_eq_nil_of_le all, List.take_nil]

/-- A record of another task than the waiting record. -/
def otherRecord : Record := { waitingRecord 1 with task := ⟨1⟩ }

/-- Two tasks that are due at once: one may be executed again, the other has used up its attempts. -/
def overdue : Backend :=
  { (default : Backend) with tasks := .ofRecords [otherRecord, waitingRecord 9] }

theorem backlog_overdue : overdue.tasks.backlog overdue.now = [waitingRecord 9, otherRecord] := by
  have later : TaskStore.dueBefore otherRecord (waitingRecord 9) = false := by decide +kernel
  change [otherRecord, waitingRecord 9].mergeSort TaskStore.dueBefore = _
  simp [List.mergeSort, later]

/-- Sweeps of one record each: the first one fails a task, the second one dispatches the other. -/
theorem overdue_after_two_sweeps :
    overdue.tasks.IsKeyed ∧ overdue.sweepGuard = .idle ∧ ∃ reports later,
      ({ Service.single with batchSize := 1 }.sweepTimes 2).run
        (Backend.perform fun _ => .finished) overdue = (.ok reports, later) ∧
      reports = [some ⟨1, 0, 1, 0, 0⟩, some ⟨1, 1, 0, 0, 0⟩] ∧
      ∀ limit, later.tasks.due overdue.now limit = [] := by
  have keyed : overdue.tasks.IsKeyed := TaskStore.isKeyed_ofRecords _
  obtain ⟨reports, later, ran, _, worked⟩ := sweepTimes_worksOff
    { Service.single with batchSize := 1 } (fun _ => .finished) overdue keyed rfl 2
  have reported := worked.reported
  have nothingDue := worked.nothingDue Nat.one_pos
  rw [backlog_overdue] at reported nothingDue
  refine ⟨keyed, rfl, reports, later.backend, ran, reported.trans ?_, nothingDue (Nat.le_refl 2)⟩
  decide +kernel

end Service

end CacheFill
