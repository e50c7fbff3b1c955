import CacheFill.Proofs.Service.Alone
import CacheFill.Proofs.Task.Listing

/-!
What one sweep leaves of the records it lists, whatever the buses refuse. A task that has used up its
attempts is announced before it is written, so it stays due if that fails; a task that has not is
scheduled before it is dispatched, so a refused dispatch leaves it scheduled. Main statement:
`Service.sweepOnce_alone`.
-/

set_option autoImplicit false

namespace CacheFill

namespace Service

/-- What a sweep left of a record that it listed, beside the verdict that its report counts. -/
inductive Verdict (service : Service) (later : Solo) (record : Record) :
    Except Failure Swept → Prop where
  | failed (waiting : Waiting) (now : Instant) (status : record.status = .waiting waiting)
      (exhausted : (service.policies.get record.type).maxAttempts ≤ waiting.attempt)
      (told : ⟨.announce (service.topics.notifications record.type)
        ⟨record.type, record.key, record.task, waiting.givenUp now⟩, .ok ()⟩ ∈ later.steps)
      (stored : later.backend.tasks.get? record.task =
        some (record.next (waiting.givenUp now) record.resume)) :
      Verdict service later record (.ok .failed)
  | untold (waiting : Waiting) (now : Instant) (reason : String)
      (status : record.status = .waiting waiting)
      (exhausted : (service.policies.get record.type).maxAttempts ≤ waiting.attempt)
      (refused : ⟨.announce (service.topics.notifications record.type)
        ⟨record.type, record.key, record.task, waiting.givenUp now⟩, .error reason⟩ ∈ later.steps)
      (stored : later.backend.tasks.get? record.task = some record) :
      Verdict service later record (.error (.publish reason))
  | redispatched (waiting : Waiting) (now : Instant) (status : record.status = .waiting waiting)
      (allowed : waiting.attempt < (service.policies.get record.type).maxAttempts)
      (sent : ⟨.publish (service.topics.dispatch record.type)
        ⟨record.type, record.key, record.task, waiting.attempt + 1⟩, .ok ()⟩ ∈ later.steps)
      (stored : later.backend.tasks.get? record.task =
        some (record.next (.scheduled ⟨now, waiting.attempt + 1⟩) record.resume)) :
      Verdict service later record (.ok .redispatched)
  | unsent (waiting : Waiting) (now : Instant) (reason : String)
      (status : record.status = .waiting waiting)
      (allowed : waiting.attempt < (service.policies.get record.type).maxAttempts)
      (refused : ⟨.publish (service.topics.dispatch record.type)
        ⟨record.type, record.key, record.task, waiting.attempt + 1⟩, .error reason⟩ ∈ later.steps)
      (stored : later.backend.tasks.get? record.task =
        some (record.next (.scheduled ⟨now, waiting.attempt + 1⟩) record.resume)) :
      Verdict service later record (.error (.publish reason))

variable {service : Service} {environment : Environment} {record : Record} {waiting : Waiting}
  {solo later last : Solo}

/-- A verdict stands as long as nobody writes the record. -/
theorem Verdict.mono {result : Except Failure Swept} (verdict : service.Verdict later record result)
    (steps : later.steps <+: last.steps)
    (stays : last.backend.tasks.get? record.task = later.backend.tasks.get? record.task) :
    service.Verdict last record result := by
  cases verdict with
  | failed waiting now status exhausted told stored =>
      exact .failed waiting now status exhausted (steps.subset told) (stays.trans stored)
  | untold waiting now reason status exhausted refused stored =>
      exact .untold waiting now reason status exhausted (steps.subset refused) (stays.trans stored)
  | redispatched waiting now status allowed sent stored =>
      exact .redispatched waiting now status allowed (steps.subset sent) (stays.trans stored)
  | unsent waiting now reason status allowed refused stored =>
      exact .unsent waiting now reason status allowed (steps.subset refused) (stays.trans stored)

theorem Verdict.not_conflict {failure : Failure}
    (verdict : service.Verdict later record (.error failure)) : failure.isConflict = false := by
  cases verdict <;> rfl

/-- What a part of a sweep leaves: no steps are taken back, and fewer records wait. -/
structure Relieved (solo later : Solo) : Prop where
  steps : solo.steps <+: later.steps
  relieves : solo.backend.tasks.Relieves later.backend.tasks
  keyed : solo.backend.tasks.IsKeyed → later.backend.tasks.IsKeyed

theorem Relieved.trans (first : Relieved solo later) (second : Relieved later last) :
    Relieved solo last :=
  ⟨first.steps.trans second.steps, first.relieves.trans second.relieves,
    second.keyed ∘ first.keyed⟩

theorem Relieved.of_passes {own : List Step} (passes : solo.Passes later own) :
    Relieved solo later where
  steps := ⟨own, passes.steps.symm⟩
  relieves := passes.tasks ▸ .refl _
  keyed := fun keyed => passes.tasks ▸ keyed

/-- A record that waits is written so that it waits no longer; no other record changes. -/
theorem Relieved.of_update {status : Status} {resume : Option Json}
    {answer : Except StoreError Record}
    (found : solo.backend.tasks.get? record.task = some record)
    (done : environment.perform (.updateTask record.task (.exact record.version) status resume) solo =
      (answer, later))
    (settled : TaskStore.waits (record.next status resume) = false) :
    answer = .ok (record.next status resume) ∧ Relieved solo later ∧
      later.backend.tasks.get? record.task = some (record.next status resume) ∧
      ∀ task, task ≠ record.task →
        later.backend.tasks.get? task = solo.backend.tasks.get? task := by
  obtain ⟨written, tasks⟩ := Solo.update_perform found done
  refine ⟨written, ?_, ?_, ?_⟩
  · constructor
    · exact ⟨_, (Solo.steps_perform done).symm⟩
    · exact tasks ▸ .put found settled
    · exact fun keyed => tasks ▸ keyed.put _
  · rw [tasks, TaskStore.get?_put]
    exact if_pos rfl
  · intro task different
    rw [tasks, TaskStore.get?_put]
    exact if_neg different

/-- What the sweep of one record leaves. -/
structure SweptAlone (service : Service) (record : Record) (solo : Solo)
    (result : Except Failure Swept) (later : Solo) : Prop extends Relieved solo later where
  verdict : service.Verdict later record result
  others : ∀ task, task ≠ record.task →
    later.backend.tasks.get? task = solo.backend.tasks.get? task

theorem SweptAlone.of_passes {result : Except Failure Swept} {own : List Step}
    (passes : solo.Passes later own) (swept : service.SweptAlone record later result last) :
    service.SweptAlone record solo result last where
  toRelieved := (Relieved.of_passes passes).trans swept.toRelieved
  verdict := swept.verdict
  others := fun task different => by rw [swept.others task different, passes.tasks]

theorem giveUp_alone (now : Instant) (status : record.status = .waiting waiting)
    (exhausted : (service.policies.get record.type).maxAttempts ≤ waiting.attempt)
    (found : solo.backend.tasks.get? record.task = some record) :
    (service.giveUp record waiting now).EndsIn environment.perform
      (service.SweptAlone record solo) solo := by
  have follows : record.status.Follows (waiting.givenUp now) := status ▸ .givenUp rfl
  have checked := follows.checkTransition
  unfold Waiting.givenUp at checked
  simp only [Service.giveUp, Program.bind_eq, Program.pure_eq, checked]
  refine endsIn_access fun answer told _ passes => ?_
  have announced := passes rfl
  have isMember := announced.steps ▸ List.mem_append_right solo.steps List.mem_cons_self
  cases answer with
  | error reason =>
      refine ⟨.of_passes announced, ?_, fun task _ => congrArg (·.get? task) announced.tasks⟩
      exact .untold waiting now reason status exhausted isMember (announced.tasks ▸ found)
  | ok _ =>
      refine endsIn_access fun answer written done _ => ?_
      obtain ⟨rfl, relieved, stored, others⟩ := Relieved.of_update (announced.tasks ▸ found) done rfl
      refine ⟨(Relieved.of_passes announced).trans relieved, ?_, fun task different => ?_⟩
      · exact .failed waiting now status exhausted (relieved.steps.subset isMember) stored
      · exact (others task different).trans (congrArg (·.get? task) announced.tasks)

theorem retry_alone (now : Instant) (status : record.status = .waiting waiting)
    (allowed : waiting.attempt < (service.policies.get record.type).maxAttempts)
    (found : solo.backend.tasks.get? record.task = some record) :
    (service.retry record waiting now).EndsIn environment.perform
      (service.SweptAlone record solo) solo := by
  have follows : record.status.Follows (.scheduled ⟨now, waiting.attempt + 1⟩) :=
    status ▸ .again (toNat_succ_of_lt allowed)
  simp only [Service.retry, Program.bind_eq, Program.pure_eq, follows.checkTransition]
  refine endsIn_access fun answer written done _ => ?_
  obtain ⟨rfl, relieved, stored, others⟩ := Relieved.of_update found done rfl
  refine (dispatch_alone _).bind ?_ ?_
  · rintro _ last ⟨answer, logs, passes, _, returned⟩
    have isMember := passes.steps ▸ List.mem_append_right written.steps List.mem_cons_self
    cases answer with
    | error reason => cases returned
    | ok _ =>
        refine ⟨relieved.trans (.of_passes passes), ?_, fun task different => ?_⟩
        · exact .redispatched waiting now status allowed isMember (passes.tasks ▸ stored)
        · exact (congrArg (·.get? task) passes.tasks).trans (others task different)
  · rintro failure last ⟨answer, logs, passes, _, returned⟩
    have isMember := passes.steps ▸ List.mem_append_right written.steps List.mem_cons_self
    cases answer with
    | ok _ => cases returned
    | error reason =>
        cases returned
        refine ⟨relieved.trans (.of_passes passes), ?_, fun task different => ?_⟩
        · exact .unsent waiting now reason status allowed isMember (passes.tasks ▸ stored)
        · exact (congrArg (·.get? task) passes.tasks).trans (others task different)

theorem sweepRecord_alone (status : record.status = .waiting waiting)
    (found : solo.backend.tasks.get? record.task = some record) :
    (service.sweepRecord record).EndsIn environment.perform (service.SweptAlone record solo)
      solo := by
  simp only [Service.sweepRecord, status, Program.bind_eq]
  refine endsIn_access fun now timed _ passes => ?_
  have read := passes rfl
  have stillFound := read.tasks ▸ found
  split
  · next exhausted =>
      exact (giveUp_alone now status exhausted stillFound).mono fun _ _ swept => .of_passes read swept
  · next more =>
      exact (retry_alone now status (UInt32.not_le.mp more) stillFound).mono
        fun _ _ swept => .of_passes read swept

/-- What the sweep of a whole listing leaves. -/
structure SweptAllAlone (service : Service) (due : List Record)
    (verdicts : List (Except Failure Swept)) (solo later : Solo) : Prop
    extends Relieved solo later where
  verdicts : List.Forall₂ (service.Verdict later) due verdicts
  others : ∀ task, task ∉ due.map Record.task →
    later.backend.tasks.get? task = solo.backend.tasks.get? task

variable {due : List Record} {verdicts : List (Except Failure Swept)}

theorem SweptAllAlone.of_passes {own : List Step} (passes : solo.Passes later own)
    (swept : service.SweptAllAlone due verdicts later last) :
    service.SweptAllAlone due verdicts solo last where
  toRelieved := (Relieved.of_passes passes).trans swept.toRelieved
  verdicts := swept.verdicts
  others := fun task absent => by rw [swept.others task absent, passes.tasks]

theorem SweptAllAlone.then_passes {own : List Step}
    (swept : service.SweptAllAlone due verdicts solo later) (passes : later.Passes last own) :
    service.SweptAllAlone due verdicts solo last where
  toRelieved := swept.toRelieved.trans (.of_passes passes)
  verdicts := swept.verdicts.imp fun record _ verdict =>
    verdict.mono ⟨own, passes.steps.symm⟩ (congrArg (·.get? record.task) passes.tasks)
  others := fun task absent => by rw [passes.tasks, swept.others task absent]

/-- A record that was swept stays as it was left while the rest of its listing is swept. -/
theorem SweptAlone.cons {swept : Except Failure Swept} (first : service.SweptAlone record solo swept later)
    (rest : service.SweptAllAlone due verdicts later last)
    (absent : record.task ∉ due.map Record.task) :
    service.SweptAllAlone (record :: due) (swept :: verdicts) solo last where
  toRelieved := first.toRelieved.trans rest.toRelieved
  verdicts := .cons (first.verdict.mono rest.steps (rest.others _ absent)) rest.verdicts
  others := by
    intro task isAbsent
    rw [List.map_cons, List.mem_cons, not_or] at isAbsent
    rw [rest.others task isAbsent.2, first.others task isAbsent.1]

/-- The records of a listing are swept one by one, each in its own turn. -/
theorem sweepRecords_alone (due : List Record) (report : SweepReport)
    (found : ∀ record ∈ due, solo.backend.tasks.get? record.task = some record ∧
      ∃ waiting, record.status = .waiting waiting)
    (distinct : (due.map Record.task).Nodup) :
    (service.sweepRecords report due).EndsIn environment.perform (fun result later =>
      ∃ verdicts, result = .ok (verdicts.foldl SweepReport.count report) ∧
        service.SweptAllAlone due verdicts solo later) solo := by
  induction due generalizing report solo with
  | nil => exact ⟨[], rfl, .of_passes (.refl solo), .nil, fun _ _ => rfl⟩
  | cons record rest ih =>
      obtain ⟨stored, waiting, status⟩ := found record List.mem_cons_self
      rw [List.map_cons, List.nodup_cons] at distinct
      simp only [Service.sweepRecords, Program.bind_eq]
      refine (sweepRecord_alone status stored).attempt.bind ?_
        fun _ _ ended => by cases ended.choose_spec.1
      rintro swept later ⟨_, returned, first⟩
      obtain rfl := Except.ok.inj returned
      have goesOn (next : Solo) (own : List Step) (passes : later.Passes next own) :
          (service.sweepRecords (report.count swept) rest).EndsIn environment.perform
            (fun result last => ∃ verdicts,
              result = .ok (verdicts.foldl SweepReport.count report) ∧
              service.SweptAllAlone (record :: rest) verdicts solo last) next := by
        have stillFound (other : Record) (member : other ∈ rest) :
            next.backend.tasks.get? other.task = some other ∧
              ∃ waiting, other.status = .waiting waiting := by
          obtain ⟨foundThere, waits⟩ := found other (List.mem_cons_of_mem _ member)
          have different : other.task ≠ record.task := fun equal =>
            distinct.1 (equal ▸ List.mem_map_of_mem member)
          rw [passes.tasks, first.others _ different]
          exact ⟨foundThere, waits⟩
        refine (ih (report.count swept) stillFound distinct.2).mono ?_
        rintro result last ⟨verdicts, counted, sweptAll⟩
        exact ⟨swept :: verdicts, counted, first.cons (.of_passes passes sweptAll) distinct.1⟩
      cases swept with
      | ok _ => exact goesOn later [] (.refl later)
      | error failure =>
          have noConflict := first.verdict.not_conflict
          simp only [noConflict, Bool.not_false, if_true]
          exact endsIn_access fun _ logged _ passes => goesOn logged _ (passes rfl)

/-- A sweep counts one verdict for each record that it lists. -/
theorem sweep_alone (keyed : solo.backend.tasks.IsKeyed) :
    service.sweep.EndsIn environment.perform (fun result later =>
      let due := solo.backend.tasks.due (environment.clock solo.steps.length) service.batchSize
      ∃ verdicts, result = .ok (verdicts.foldl SweepReport.count (.ofScanned due.length)) ∧
        service.SweptAllAlone due verdicts solo later) solo := by
  simp only [Service.sweep, Program.bind_eq, Program.pure_eq]
  refine endsIn_access fun now timed done passes => ?_
  obtain rfl : now = environment.clock solo.steps.length := (congrArg Prod.fst done).symm
  have read := passes rfl
  refine endsIn_access fun answer shown done passes => ?_
  obtain rfl : answer = .ok (solo.backend.tasks.due (environment.clock solo.steps.length)
      service.batchSize) := by
    rw [← read.tasks]
    exact (congrArg Prod.fst done).symm
  have listed := read.trans (passes rfl)
  simp only [Program.ofStore, Program.done_bind]
  split
  · next nothing =>
      rw [List.isEmpty_iff.mp nothing]
      exact ⟨[], rfl, .of_passes listed ⟨.of_passes (.refl shown), .nil, fun _ _ => rfl⟩⟩
  · refine endsIn_access fun _ begun _ passes => ?_
    have begins := listed.trans (passes rfl)
    have found (record : Record) (member : record ∈ solo.backend.tasks.due
        (environment.clock solo.steps.length) service.batchSize) :
        begun.backend.tasks.get? record.task = some record ∧
          ∃ waiting, record.status = .waiting waiting := by
      obtain ⟨stored, isDue⟩ := TaskStore.of_mem_due keyed member
      exact ⟨begins.tasks ▸ stored, TaskStore.waiting_of_isDue isDue⟩
    refine (sweepRecords_alone _ _ found (TaskStore.nodup_due keyed _ _)).bind ?_
      fun _ _ ended => by cases ended.choose_spec.1
    rintro report swept ⟨verdicts, returned, all⟩
    obtain rfl := Except.ok.inj returned
    refine endsIn_access fun _ last _ passes => ?_
    exact ⟨verdicts, rfl, .of_passes begins (all.then_passes (passes rfl))⟩

/-- One sweep runs while no other call writes, over any store of tasks, and the buses refuse whatever
they like. It lists the records that are due, and its report counts one verdict for each. A record
whose publishing was refused is counted as an error. If it has used up its attempts, it stays just
as it was listed, and any later sweep of batches of this size lists it again; if not, it is left
scheduled for its next attempt, and nothing but its status and version has changed. Records that
are not listed stay as they are. -/
theorem sweepOnce_alone (service : Service) (environment : Environment) (backend : Backend)
    (keyed : backend.tasks.IsKeyed) (admitted : (environment.around 0).admits = true) :
    let due := backend.tasks.due (environment.clock 1) service.batchSize
    ∃ verdicts later,
      service.sweepOnce.run environment.perform ⟨backend, []⟩ =
        (.ok (some (verdicts.foldl SweepReport.count (.ofScanned due.length))), later) ∧
      List.Forall₂ (service.Verdict later) due verdicts ∧
      (∀ record ∈ due, later.backend.tasks.get? record.task = some record →
        ∀ moment, environment.clock 1 ≤ moment →
          record ∈ later.backend.tasks.due moment service.batchSize) ∧
      ∀ task, task ∉ due.map Record.task →
        later.backend.tasks.get? task = backend.tasks.get? task := by
  intro due
  suffices ends : service.sweepOnce.EndsIn environment.perform (fun result later =>
      ∃ verdicts, result = .ok (some (verdicts.foldl SweepReport.count (.ofScanned due.length))) ∧
        service.SweptAllAlone due verdicts ⟨backend, []⟩ later) ⟨backend, []⟩ by
    obtain ⟨verdicts, returned, all⟩ := ends
    refine ⟨verdicts, _, Prod.ext returned rfl, all.verdicts, ?_, all.others⟩
    intro record member still moment later
    exact all.relieves.mem_due keyed (all.keyed keyed) member still later
  simp only [Service.sweepOnce, Program.bind_eq, Program.pure_eq]
  refine endsIn_access fun entered begun done passes => ?_
  obtain rfl : entered = true := (congrArg Prod.fst done).symm.trans admitted
  have begins := passes rfl
  have counted : begun.steps.length = 1 := by
    rw [begins.steps]
    rfl
  have swept : service.sweep.EndsIn environment.perform _ begun :=
    sweep_alone (begins.tasks ▸ keyed)
  rw [counted, begins.tasks] at swept
  refine swept.attempt.bind ?_ fun _ _ ended => by cases ended.choose_spec.1
  rintro _ later ⟨_, returned, verdicts, rfl, all⟩
  obtain rfl := Except.ok.inj returned
  refine endsIn_access fun _ last _ passes => ?_
  exact ⟨verdicts, rfl, .of_passes begins (all.then_passes (passes rfl))⟩

/-- A task that waits after certain executions. -/
def waitingRecord (attempt : UInt32) : Record :=
  ⟨default, default, "", .waiting ⟨attempt, default, ⟨.transient, ""⟩⟩, 1, none⟩

def waitingTask (attempt : UInt32) : Backend :=
  { (default : Backend) with tasks := .ofRecords [waitingRecord attempt] }

theorem due_waitingTask (attempt : UInt32) :
    (waitingTask attempt).tasks.due Instant.epoch Service.single.batchSize = [waitingRecord attempt] := by
  change ([waitingRecord attempt].mergeSort TaskStore.dueBefore).take _ = _
  rw [List.mergeSort_singleton]
  rfl

/-- A task that has used up its attempts is swept while the bus of notifications is out. -/
theorem swept_unheard :
    (waitingTask 9).tasks.IsKeyed ∧ ((Environment.outage none (some "out")).around 0).admits = true ∧
      ∃ report later,
        Service.single.sweepOnce.run (Environment.outage none (some "out")).perform
          ⟨waitingTask 9, []⟩ = (.ok (some report), later) ∧
        report = ⟨1, 0, 0, 0, 1⟩ ∧
        waitingRecord 9 ∈ later.backend.tasks.due .latest Service.single.batchSize := by
  have keyed : (waitingTask 9).tasks.IsKeyed := TaskStore.isKeyed_ofRecords _
  obtain ⟨verdicts, later, ran, all, stays, _⟩ :=
    sweepOnce_alone .single (.outage none (some "out")) (waitingTask 9) keyed rfl
  have counted : (Service.single.sweepOnce.run (Environment.outage none (some "out")).perform
      ⟨waitingTask 9, []⟩).1 = .ok (some ⟨1, 0, 0, 0, 1⟩) := by decide +kernel
  have due : (waitingTask 9).tasks.due ((Environment.outage none (some "out")).clock 1)
      Service.single.batchSize = [waitingRecord 9] := due_waitingTask 9
  rw [ran] at counted
  rw [due] at all stays counted
  have report := Option.some.inj (Except.ok.inj counted)
  refine ⟨keyed, rfl, _, later, due ▸ ran, report, ?_⟩
  refine stays _ List.mem_cons_self ?_ .latest (by decide)
  have exhausted : (Service.single.policies.get (waitingRecord 9).type).maxAttempts ≤ 9 := by decide
  rcases all with _ | ⟨verdict, rest⟩
  cases rest
  cases verdict with
  | untold _ _ _ _ _ _ stored => exact stored
  | failed => cases report
  | redispatched => cases report
  | unsent waiting _ _ status allowed =>
      cases status
      exact absurd allowed (UInt32.not_lt.mpr exhausted)

/-- A task that may be executed again is swept while the bus of dispatches is out. The report counts
it as an error, but it is not left as it was listed, and no later sweep lists it. -/
theorem stranded_by_refused_dispatch :
    ∃ report later,
      Service.single.sweepOnce.run (Environment.outage (some "out") none).perform
        ⟨waitingTask 1, []⟩ = (.ok (some report), later) ∧
      report = ⟨1, 0, 0, 0, 1⟩ ∧
      (waitingTask 1).tasks.due Instant.epoch Service.single.batchSize = [waitingRecord 1] ∧
      later.backend.tasks.get? default ≠ some (waitingRecord 1) ∧
      later.backend.tasks.due .latest Service.single.batchSize = [] := by
  refine ⟨_, _, Prod.ext ?_ rfl, rfl, due_waitingTask 1, ?_, ?_⟩
  · decide +kernel
  · intro same
    have status := congrArg (Option.map Record.version) same
    revert status
    decide +kernel
  · apply List.eq_nil_of_length_eq_zero
    decide +kernel

end Service

end CacheFill
