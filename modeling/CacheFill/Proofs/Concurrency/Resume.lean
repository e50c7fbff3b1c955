import CacheFill.Proofs.Concurrency.Commits
import CacheFill.Proofs.Concurrency.Loads

/-!
The state that a loader leaves behind for the next attempt. It goes into the record with the result
of its execution or not at all, so what the next loader is handed is what the last of the executions
attached whose results were stored. Main statement: `resume_carried`.
-/

set_option autoImplicit false

namespace CacheFill

open Script

/-- What a loader attaches to its error. -/
def Step.attached? : Step → Option Json
  | ⟨.callLoader _, .failed error⟩ => error.resume?
  | _ => none

/-- What the loader that a call runs attaches to its error. -/
def attached? (past : List Step) : Option Json := past.findSome? Step.attached?

theorem Step.attached?_of_unloaded {step : Step} (unloaded : step.loaded? = none) :
    step.attached? = none := by
  obtain ⟨access, answer⟩ := step
  cases access with
  | callLoader _ => cases unloaded
  | _ => rfl

theorem attached?_append_of_unloaded (past : List Step) {more : List Step}
    (unloaded : ∀ step ∈ more, step.loaded? = none) : attached? (past ++ more) = attached? past := by
  have nothing : more.findSome? Step.attached? = none :=
    List.findSome?_eq_none_iff.mpr fun step member => Step.attached?_of_unloaded (unloaded step member)
  rw [attached?, List.findSome?_append, nothing, Option.or_none, attached?]

namespace Service

variable {service : Service}

/-- What an execution leaves behind by the way it ends. -/
def leftBehind? : Except LoaderError Unit → Option Json
  | .ok _ => none
  | .error error => error.resume?

/-- Only an error of the loader itself attaches something: a panic or a value that is not saved does
not. -/
theorem Runs.attached? {load : LoadCall} {own : List Step} {ended : Except LoaderError Unit}
    (runs : service.Runs load own ended) : CacheFill.attached? own = leftBehind? ended := by
  cases runs with
  | failed kind error found =>
      rw [CacheFill.attached?, List.findSome?_singleton]
      rfl
  | missing _ | finished _ _ | stored _ _ | saved _ _ _ _ | unsaved _ _ _ _ | panicked _ _ _ => rfl

theorem result_attempt (service : Service) (record : Record) (attempt : UInt32)
    (ended : Except LoaderError Unit) (now : Instant) :
    (service.result record attempt ended now).1.1.attempt = attempt := by
  rcases service.result_cases record attempt ended now with
    ⟨loaded, status, same⟩ | ⟨failed, status, same⟩ | ⟨waiting, status, same⟩
  · rw [status]; exact same
  · rw [status]; exact same
  · rw [status]; exact same

/-- The result of an execution takes over what the loader attached, or else what was there before. -/
theorem result_resume (service : Service) (record : Record) {load : LoadCall} {own : List Step}
    {ended : Except LoaderError Unit} (runs : service.Runs load own ended) (attempt : UInt32)
    (now : Instant) :
    (service.result record attempt ended now).2 =
      if (service.result record attempt ended now).1.1.state = .loaded then none
      else (CacheFill.attached? own).or record.resume := by
  rw [runs.attached?]
  cases ended with
  | ok _ => rfl
  | error error => exact (if_neg (service.failureStatus_not_loaded _ _ _ _)).symm

end Service

theorem Step.unloaded_of_report {step : Step} (report : step.access.isReport = true) :
    step.loaded? = none := by
  obtain ⟨access, answer⟩ := step
  cases access <;> first | rfl | cases report

theorem Step.unloaded_of_write {step : Step} (writes : step.isWrite = true) :
    step.loaded? = none := by
  obtain ⟨access, answer⟩ := step
  cases access <;> first | rfl | cases writes

/-- After its write a call does not call the loader any more. -/
theorem Script.Handles.unloaded_after_write {service : Service} {message : Dispatch}
    {past : List Step} {step write : Step}
    (handles : Handles service message past step.access) (member : write ∈ past)
    (writes : write.isWrite = true) : step.loaded? = none := by
  obtain ⟨access, answer⟩ := step
  rcases handles.after_write member writes with same | report
  · cases same; rfl
  · cases access <;> first | rfl | cases report

namespace World

variable {world later : World} {services : Service → Prop} {surroundings : Surroundings}
  {number : Nat} {call : Call} {step : Step} {message : Dispatch} {record : Record} {task : TaskId}

/-- What the last of certain executions attached that attached something. -/
def lastAttached (world : World) (commits : List (Nat × Record)) : Option Json :=
  (commits.filterMap fun commit => attached? (world.steps commit.1)).getLast?

theorem lastAttached_snoc (world : World) (commits : List (Nat × Record))
    (last : Nat × Record) :
    world.lastAttached (commits ++ [last]) =
      (attached? (world.steps last.1)).or (world.lastAttached commits) := by
  simp only [lastAttached, List.filterMap_append, List.filterMap_cons, List.filterMap_nil]
  cases attached? (world.steps last.1) <;> simp

/-- A call executed its task with a certain resume state, as its steps show, and stored the result. -/
inductive Commits (world : World) (handed : Option Json) : Nat × Record → Prop where
  | intro {number : Nat} {record : Record} (service : Service) (message : Dispatch)
      (load : LoadCall) (own rest : List Step) (ended : Except LoaderError Unit)
      (called : world.service? number = some service)
      (handles : world.operation? number = some (.handle message))
      (steps : ∃ found, found.loaded? = none ∧ world.steps number = found :: (own ++ rest))
      (runs : service.Runs load own ended) (task : load.task = record.task)
      (attempt : load.attempt = record.status.attempt) (resume : load.resume = handed)
      (quiet : ∀ step ∈ rest, step.loaded? = none)
      (wrote : ∃ step ∈ rest, step.isWrite = true ∧ step.written? = some record)
      (kept : record.resume =
        if record.status.state = .loaded then none else (attached? own).or handed) :
      Commits world handed (number, record)

structure Carries (world : World) : Prop where
  absent : ∀ task, world.backend.tasks.get? task = none → world.commits task = []
  stored : ∀ task record, world.backend.tasks.get? task = some record →
    record.resume = if record.status.state = .loaded then none
      else world.lastAttached (world.commits task)
  committed : ∀ task, Justified (fun earlier commit =>
    world.Commits (world.lastAttached earlier) commit) (world.commits task)

theorem Commits.resume {handed : Option Json} (commits : world.Commits handed (number, record)) :
    record.resume = if record.status.state = .loaded then none
      else (attached? (world.steps number)).or handed := by
  cases commits with
  | intro service message load own rest ended called handles steps runs task attempt resume quiet wrote
      kept =>
  obtain ⟨found, unloaded, same⟩ := steps
  have attaches : attached? (world.steps number) = attached? own := by
    rw [same, ← List.cons_append, attached?_append_of_unloaded _ quiet, attached?,
      List.findSome?_cons, Step.attached?_of_unloaded unloaded, attached?]
  rw [attaches]
  exact kept

theorem Commits.of_steps {handed : Option Json} {commit : Nat × Record}
    (commits : world.Commits handed commit) (same : later.steps commit.1 = world.steps commit.1)
    (service : ∀ found, world.service? commit.1 = some found → later.service? commit.1 = some found)
    (operation : ∀ found, world.operation? commit.1 = some found →
      later.operation? commit.1 = some found) : later.Commits handed commit := by
  cases commits with
  | intro found message load own rest ended called handles steps runs task attempt resume quiet wrote
      kept =>
  rw [← same] at steps
  exact .intro found message load own rest ended (service found called) (operation _ handles) steps runs
    task attempt resume quiet wrote kept

/-- A call that has stored its result attaches nothing any more. -/
theorem Commits.advance {handed : Option Json} {commit : Nat × Record}
    (commits : world.Commits handed commit) (scripted : world.Scripted)
    (advances : world.Advances surroundings later number call step) :
    later.Commits handed commit ∧
      CacheFill.attached? (later.steps commit.1) = CacheFill.attached? (world.steps commit.1) := by
  cases commits with
  | @intro other record service message load own rest ended called handles steps runs task attempt
      resume quiet wrote kept =>
  obtain ⟨found, unloaded, same⟩ := steps
  obtain ⟨write, member, writes, written⟩ := wrote
  have calls := advances.same_calls other
  by_cases own' : number = other
  · subst own'
    have operation : call.operation = .handle message := by
      rw [advances.operation?] at handles
      exact Option.some.inj handles
    have permitted := scripted.permitted advances
    rw [operation] at permitted
    have nothing : step.loaded? = none :=
      permitted.unloaded_after_write (by rw [same]; simp [member]) writes
    have appended := advances.steps number
    rw [if_pos rfl] at appended
    refine ⟨.intro service message load own (rest ++ [step]) ended (calls.2.trans called)
      (calls.1.trans handles) ⟨found, unloaded, ?_⟩ runs task attempt resume ?_
      ⟨write, List.mem_append_left _ member, writes, written⟩ kept, ?_⟩
    · rw [appended, same, List.cons_append, List.append_assoc]
    · intro other isOther
      rcases List.mem_append.mp isOther with earlier | last
      · exact quiet other earlier
      · rw [List.mem_singleton.mp last]
        exact nothing
    · simp only [appended]
      exact attached?_append_of_unloaded _ fun other isOther => by
        rw [List.mem_singleton.mp isOther]
        exact nothing
  · have kept' := advances.steps other
    rw [if_neg own'] at kept'
    refine ⟨?_, by simp only [kept']⟩
    exact (Commits.intro service message load own rest ended called handles ⟨found, unloaded, same⟩ runs
      task attempt resume quiet ⟨write, member, writes, written⟩ kept).of_steps kept'
        (fun _ isService => calls.2.trans isService) (fun _ isOperation => calls.1.trans isOperation)

/-- Executions whose results are stored go on to have attached what they attached. -/
theorem Carries.lastAttached (carries : world.Carries) (scripted : world.Scripted)
    (advances : world.Advances surroundings later number call step)
    {commits : List (Nat × Record)} (among : ∀ commit ∈ commits, commit ∈ world.commits task) :
    later.lastAttached commits = world.lastAttached commits := by
  rw [World.lastAttached, World.lastAttached]
  refine congrArg List.getLast? (List.filterMap_congr fun commit member => ?_)
  obtain ⟨before, after, split⟩ := List.append_of_mem (among commit member)
  exact ((carries.committed task before commit after split).advance scripted advances).2

theorem Carries.committed_later (carries : world.Carries) (scripted : world.Scripted)
    (advances : world.Advances surroundings later number call step) (task : TaskId) :
    Justified (fun earlier commit => later.Commits (later.lastAttached earlier) commit)
      (world.commits task) := by
  intro before commit after split
  have among : ∀ other ∈ before, other ∈ world.commits task := fun other member => by
    simp [split, member]
  rw [carries.lastAttached scripted advances among]
  exact ((carries.committed task before commit after split).advance scripted advances).1

/-- Other calls than those that handle dispatches create records without a resume state, or keep the
one that they find. -/
theorem Advances.resume_kept (advances : world.Advances surroundings later number call step)
    (scripted : world.Scripted) (other : ∀ message, call.operation ≠ .handle message)
    (written : step.written? = some record) :
    record.status.state ≠ .loaded ∧
      ((world.backend.tasks.get? record.task = none ∧ record.resume = none) ∨
        ∃ old, world.backend.tasks.get? record.task = some old ∧ old.status.state ≠ .loaded ∧
          record.resume = old.resume) := by
  have permitted := scripted.permitted advances
  have effect := advances.effect
  generalize later.backend.tasks = tasks at effect
  cases effect with
  | insert given now schedules new idle absent =>
      cases written
      have resume : given.resume = none := by
        obtain ⟨_, _, _, _, rfl, _⟩ := Service.Script.of_insert permitted
        rfl
      exact ⟨by rw [new]; simp [Status.initial, Status.state], .inl ⟨absent, resume⟩⟩
  | commit message _ _ _ _ handles => exact absurd handles (other message)
  | retry old waiting now sweeps status allowed idle seen found next isNext =>
      cases written
      subst isNext
      refine ⟨by simp [Record.next, Status.state], .inr ⟨old, found, ?_, rfl⟩⟩
      simp [status, Status.state]
  | giveUp old waiting now sweeps status exhausted seen found next isNext told announced =>
      cases written
      subst isNext
      refine ⟨by simp [Record.next, Waiting.givenUp, Status.state], .inr ⟨old, found, ?_, rfl⟩⟩
      simp [status, Status.state]
  | aside aside => rw [(Step.quiet_of_aside aside).1] at written; cases written
  | _ => cases written

theorem Carries.advance_aside (carries : world.Carries) (sound : world.Sound services)
    (scripted : world.Scripted)
    (advances : world.Advances surroundings later number call step)
    (aside : ∀ message, call.operation = .handle message → step.written? = none) :
    later.Carries := by
  have fits := sound.fits number call advances.called
  have same (task : TaskId) := advances.commits_of_aside aside task
  refine ⟨fun task absent => ?_, fun task record found => ?_, fun task => ?_⟩
  · rw [same]
    refine carries.absent task ?_
    cases stored : world.backend.tasks.get? task with
    | none => rfl
    | some old =>
        obtain ⟨current, isCurrent, _⟩ := advances.effect.becomes fits stored
        rw [absent] at isCurrent
        cases isCurrent
  · rw [same, carries.lastAttached scripted advances fun _ member => member]
    rcases advances.effect.stored_or_written found with stored | written
    · exact carries.stored task record stored
    obtain rfl := (sound.of_advances advances).keyed task record found
    have other (message : Dispatch) : call.operation ≠ .handle message := by
      intro handles
      rw [aside message handles] at written
      cases written
    obtain ⟨unloaded, ⟨absent, resume⟩ | ⟨old, stored, unloaded', resume⟩⟩ :=
      advances.resume_kept scripted other written
    · rw [if_neg unloaded, carries.absent _ absent, resume]
      rfl
    · rw [if_neg unloaded, resume, carries.stored _ old stored, if_neg unloaded']
  · rw [same]
    exact carries.committed_later scripted advances task

/-- A call that stores its result was handed the resume state of the record it writes over. -/
theorem Scripted.commits (scripted : world.Scripted) (sound : world.Sound services)
    (advances : world.Advances surroundings later number call step)
    (handles : call.operation = .handle message) (written : step.written? = some record) :
    later.backend.tasks = world.backend.tasks.put record ∧
      ∃ old, world.backend.tasks.get? record.task = some old ∧ old.status.state ≠ .loaded ∧
        later.Commits old.resume (number, record) := by
  obtain ⟨tasks, old, attempt, own, ended, now, lines, stored, write, admitted, runs, logged, steps,
    result⟩ := scripted.commit sound advances handles written
  have writes : step.isWrite = true := by rw [write]; rfl
  obtain ⟨scheduled, status, _⟩ := Status.of_admission_execute admitted
  refine ⟨tasks, old, stored, by rw [status]; simp [Status.state], ?_⟩
  have appended : later.steps number =
      found message old :: (own ++ (⟨.readClock, now⟩ :: lines ++ [step])) := by
    rw [advances.steps, if_pos rfl, steps]
    simp
  have quiet : ∀ other ∈ ⟨.readClock, now⟩ :: lines ++ [step], other.loaded? = none := by
    intro other member
    simp only [List.cons_append, List.mem_cons, List.mem_append, List.not_mem_nil, or_false] at member
    rcases member with rfl | line | rfl
    · rfl
    · exact Step.unloaded_of_report (logged other line)
    · exact Step.unloaded_of_write writes
  have calls := advances.same_calls number
  refine .intro call.service message (old.load attempt) own _ ended
    (calls.2.trans advances.service?) (calls.1.trans (handles ▸ advances.operation?))
    ⟨found message old, rfl, appended⟩ runs ?_ ?_ rfl quiet ⟨step, by simp, writes, written⟩ ?_
  · rw [result]; rfl
  · rw [result]; exact (call.service.result_attempt old attempt ended now).symm
  · rw [result]; exact call.service.result_resume old runs attempt now

theorem Carries.advance_commit (carries : world.Carries) (sound : world.Sound services)
    (scripted : world.Scripted)
    (advances : world.Advances surroundings later number call step)
    (handles : call.operation = .handle message) (written : step.written? = some record) :
    later.Carries := by
  obtain ⟨tasks, old, stored, unloaded, commit⟩ :=
    scripted.commits sound advances handles written
  have here : later.commits record.task = world.commits record.task ++ [(number, record)] := by
    rw [advances.commits_of_written handles written, if_pos rfl]
  have elsewhere {task : TaskId} (different : task ≠ record.task) :
      later.commits task = world.commits task := by
    rw [advances.commits_of_written handles written, if_neg fun same => different same.symm]
  have handed : old.resume = later.lastAttached (world.commits record.task) := by
    rw [carries.lastAttached scripted advances fun _ member => member, carries.stored _ old stored,
      if_neg unloaded]
  rw [handed] at commit
  refine ⟨fun task absent => ?_, fun task other found => ?_, fun task => ?_⟩
  · rw [tasks, TaskStore.get?_put] at absent
    split at absent
    · cases absent
    · next different =>
      rw [elsewhere different]
      exact carries.absent task absent
  · rw [tasks, TaskStore.get?_put] at found
    split at found
    · next same =>
      cases found
      subst same
      rw [here, lastAttached_snoc]
      exact commit.resume
    · next different =>
      rw [elsewhere different, carries.lastAttached scripted advances fun _ member => member]
      exact carries.stored task other found
  · have earlier := carries.committed_later scripted advances task
    by_cases same : task = record.task
    · subst same
      rw [here]
      exact earlier.snoc commit
    · rw [elsewhere same]
      exact earlier

theorem Carries.advance (carries : world.Carries) (sound : world.Sound services)
    (scripted : world.Scripted)
    (advances : world.Advances surroundings later number call step) : later.Carries := by
  by_cases commits : ∃ message record, call.operation = .handle message ∧
      step.written? = some record
  · obtain ⟨message, record, handles, written⟩ := commits
    exact carries.advance_commit sound scripted advances handles written
  · refine carries.advance_aside sound scripted advances fun message handles => ?_
    cases written : step.written? with
    | none => rfl
    | some record => exact absurd ⟨message, record, handles, written⟩ commits

theorem Carries.start (carries : world.Carries) (sound : world.Sound services) (service : Service)
    (operation : Operation) : (world.make (.start service operation)).Carries := by
  have same (task : TaskId) := sound.commits_start service operation task
  refine ⟨fun task absent => ?_, fun task record found => ?_, fun task => ?_⟩
  · rw [same]
    exact carries.absent task absent
  · rw [same]
    exact carries.stored task record found
  · rw [same]
    intro earlier commit more split
    exact (carries.committed task earlier commit more split).of_steps rfl
      (fun _ => service?_of_start) (fun _ => operation?_of_start)

theorem carries_opening (backend : Backend) : (opening { backend with tasks := .empty }).Carries := by
  constructor
  · exact fun _ _ => rfl
  · intro task record found
    cases found
  · exact fun _ => justified_nil _

/-- Calls of any operations are made in any order, on services of any settings, with any answers of
the loaders, and their accesses interleave in any way. Then each execution of a task whose result was
stored ran the loader with what the last one before it attached that attached something and whose
result was stored, and with nothing if there was none. A record holds what the last of all these
attached, and nothing if it is loaded. -/
theorem resume_carried {backend : Backend} {world : World}
    (reached : Reaches anyMove (opening { backend with tasks := .empty }) world) (task : TaskId) :
    (∀ earlier commit more, world.commits task = earlier ++ commit :: more →
      world.Commits (world.lastAttached earlier) commit) ∧
      ∀ record, world.backend.tasks.get? task = some record →
        record.resume = if record.status.state = .loaded then none
          else world.lastAttached (world.commits task) := by
  have carries : world.Carries := by
    refine reached.scripted_invariant Carries TaskStore.isKeyed_empty
      (fun _ _ _ => movesOf_any) (carries_opening backend) ?_ ?_ ?_
    · intro world service operation sound _ carries
      exact carries.start sound service operation
    · intro world now carries
      refine ⟨carries.absent, carries.stored, fun task earlier commit more split => ?_⟩
      exact (carries.committed task earlier commit more split).of_steps rfl (fun _ => id) (fun _ => id)
    · exact fun _ _ _ _ _ _ sound scripted advances carries => carries.advance sound scripted advances
  exact ⟨carries.committed task, carries.stored task⟩

/-- The loader of a task leaves a state behind when it fails for now. The task is handled again after
a sweep, and the loader fails for good. -/
def resuming : List Move :=
  scheduling ++
  [.start .single (.handle ⟨default, "", default, 0⟩)] ++
  List.replicate 5 (.advance 1
    { Surroundings.calm with loaded := .failed (.transient "" (some (.string "half"))) }) ++
  [.setClock .latest, .start .single .sweep] ++ List.replicate 9 (.advance 2 .calm) ++
  [.start .single (.handle ⟨default, "", default, 2⟩)] ++
  List.replicate 6 (.advance 3 { Surroundings.calm with loaded := .failed (.permanent "") })

def resumed : World := (opening default).run resuming

theorem resume_carried_on :
    Reaches anyMove (opening { (default : Backend) with tasks := .empty }) resumed ∧
      (∀ record, resumed.backend.tasks.get? default = some record →
        record.resume = if record.status.state = .loaded then none
          else resumed.lastAttached (resumed.commits default)) ∧
      (resumed.backend.tasks.get? default).map (·.status.state) = some .failed ∧
      (resumed.commits default).map (·.1) = [1, 3] ∧
      (resumed.loads default).map (·.resume.bind Json.string?) = [none, some "half"] := by
  have reached : Reaches anyMove (opening { (default : Backend) with tasks := .empty }) resumed :=
    .run allFair_any
  exact ⟨reached, (resume_carried reached default).2, by decide +kernel, by decide +kernel,
    by decide +kernel⟩

end World

end CacheFill
