import CacheFill.Proofs.Concurrency.Interleaving
import Mathlib.Data.List.Chain

/-!
The life of a task while any calls go on side by side. What is written over a record was read from
it in the same version, so the writes of all calls together form one path, and a result is the last
write there is. Main statement: `lifecycle`.
-/

set_option autoImplicit false

namespace CacheFill

theorem Operation.Ends.not_transition {operation : Operation} {past : List Step}
    {failure : Failure} (ended : operation.Ends past (.error failure)) (error : TransitionError) :
    failure ≠ .transition error := by
  have told := ended.2
  cases operation <;> exact told error

/-- What a handler writes ends the execution that the record was scheduled for. -/
theorem Effect.outcome {service : Service} {operation : Operation} {past : List Step}
    {tasks later : TaskStore} {step : Step} {record : Record}
    (effect : Effect service operation past tasks step later)
    (handles : operation.isHandle = true) (written : step.written? = some record) :
    ∃ old scheduled, tasks.get? record.task = some old ∧ old.status = .scheduled scheduled ∧
      record.status.attempt = max scheduled.attempt 1 ∧ record.status.state ≠ .scheduled := by
  cases effect with
  | aside aside =>
      rw [(Step.quiet_of_aside aside).1] at written
      cases written
  | read _ | due _ _ | present _ _ | conflict _ _ _ _ _ _ | dispatch _ _ _ | announce _ _ _
  | announceAgain _ _ _ _ _ _ | announceAhead _ _ _ _ _ _ _ _ _ => cases written
  | insert _ _ schedules =>
      cases operation with
      | handle _ => cases schedules
      | read _ _ | save _ _ _ | remove _ _ | update _ _ | schedule _ _ _ | sweep => cases handles
  | retry _ _ _ sweeps => subst sweeps; cases handles
  | giveUp _ _ _ sweeps => subst sweeps; cases handles
  | commit _ old scheduled ended now _ _ status _ _ _ found next isNext =>
      cases written
      subst isNext
      refine ⟨old, scheduled, found, status, ?_⟩
      simp only [Record.next]
      rcases service.result_cases old (max scheduled.attempt 1) ended now with
        ⟨loaded, result, same⟩ | ⟨failed, result, same⟩ | ⟨waiting, result, same⟩
      · rw [result]; exact ⟨same, fun other => by cases other⟩
      · rw [result]; exact ⟨same, fun other => by cases other⟩
      · rw [result]; exact ⟨same, fun other => by cases other⟩

namespace World

variable {world later : World} {task : TaskId} {surroundings : Surroundings} {number : Nat}
  {call : Call} {step : Step} {services : Service → Prop}

/-- The records of a task as they were written, the oldest first. -/
def writes (world : World) (task : TaskId) : List Record :=
  (world.trace.filterMap Step.written?).filter fun record => record.task = task

/-- The records of a task as handlers of dispatches wrote them, the oldest first. -/
def outcomes (world : World) (task : TaskId) : List Record :=
  (world.history.filterMap fun event =>
    if (world.operation? event.call).any Operation.isHandle then event.step.written?
    else none).filter fun record => record.task = task

/-- The writes of a task start with the first attempt, follow each other as statuses may, and end
with what is stored. -/
structure IsPath (world : World) (task : TaskId) : Prop where
  first : ∀ record ∈ (world.writes task).head?, ∃ now, record.status = .initial now
  chain : (world.writes task).IsChain fun before after => before.status.Follows after.status
  last : (world.writes task).getLast? = world.backend.tasks.get? task

theorem Advances.writes_of_none (advances : world.Advances surroundings later number call step)
    (unwritten : step.written? = none) (task : TaskId) : later.writes task = world.writes task := by
  simp only [writes, advances.trace, List.filterMap_append, List.filterMap_cons, unwritten,
    List.filterMap_nil, List.append_nil]

theorem Advances.writes_of_some (advances : world.Advances surroundings later number call step)
    {record : Record} (written : step.written? = some record) (task : TaskId) :
    later.writes task =
      if record.task = task then world.writes task ++ [record] else world.writes task := by
  simp only [writes, advances.trace, List.filterMap_append, List.filterMap_cons, written,
    List.filterMap_nil, List.filter_append, List.filter_cons, List.filter_nil, decide_eq_true_eq]
  split <;> simp

theorem IsPath.advance (path : world.IsPath task)
    (advances : world.Advances surroundings later number call step) : later.IsPath task := by
  rcases advances.effect.writes with ⟨unwritten, same⟩ | ⟨record, written, stored, writes⟩
  · have noWrite := advances.writes_of_none unwritten task
    refine ⟨?_, ?_, ?_⟩
    · rw [noWrite]; exact path.first
    · rw [noWrite]; exact path.chain
    · rw [noWrite, same]; exact path.last
  by_cases other : record.task = task
  · have appended := advances.writes_of_some written task
    rw [if_pos other] at appended
    subst other
    have last : (later.writes record.task).getLast? = later.backend.tasks.get? record.task := by
      rw [appended, List.getLast?_concat, stored, TaskStore.get?_put, if_pos rfl]
    cases writes with
    | insert now new absent =>
        have empty : world.writes record.task = [] := by
          rw [← List.getLast?_eq_none_iff, path.last, absent]
        rw [empty, List.nil_append] at appended
        refine ⟨?_, ?_, last⟩
        · intro first isFirst
          rw [appended] at isFirst
          cases isFirst
          exact ⟨now, new⟩
        · rw [appended]
          exact .singleton record
    | rewrite old found rewrites =>
        refine ⟨?_, ?_, last⟩
        · intro first isFirst
          refine path.first first ?_
          rw [appended, List.head?_append] at isFirst
          cases head : (world.writes record.task).head? with
          | none =>
              rw [List.head?_eq_none_iff] at head
              rw [← path.last, head] at found
              cases found
          | some head' => simpa [head] using isFirst
        · rw [appended]
          refine path.chain.append (.singleton record) ?_
          intro before isLast after isHead
          rw [path.last, found] at isLast
          cases isLast
          cases isHead
          exact rewrites.follows
  · have noWrite := advances.writes_of_some written task
    rw [if_neg other] at noWrite
    have kept : later.backend.tasks.get? task = world.backend.tasks.get? task := by
      rw [stored, TaskStore.get?_put, if_neg fun same => other same.symm]
    refine ⟨?_, ?_, ?_⟩
    · rw [noWrite]; exact path.first
    · rw [noWrite]; exact path.chain
    · rw [noWrite, kept]; exact path.last

theorem Advances.terminal_stays (advances : world.Advances surroundings later number call step)
    {record : Record} (found : world.backend.tasks.get? task = some record)
    (terminal : record.status.isTerminal = true) :
    later.backend.tasks.get? task = some record ∧ later.writes task = world.writes task := by
  rcases advances.effect.writes with ⟨unwritten, same⟩ | ⟨written, isWritten, stored, writes⟩
  · exact ⟨same ▸ found, advances.writes_of_none unwritten task⟩
  have other : written.task ≠ task := by
    rintro rfl
    cases writes with
    | insert now new absent => rw [absent] at found; cases found
    | rewrite old isOld rewrites =>
        rw [found] at isOld
        cases isOld
        have pending := rewrites.follows.not_terminal
        rw [terminal] at pending
        cases pending
  refine ⟨?_, by rw [advances.writes_of_some isWritten, if_neg other]⟩
  rw [stored, TaskStore.get?_put, if_neg fun same => other same.symm, found]

theorem seen_of_mem_outcomes {record : Record} (member : record ∈ world.outcomes task) :
    Seen world.trace record ∧ record.task = task := by
  obtain ⟨written, same⟩ := List.mem_filter.mp member
  obtain ⟨event, inHistory, isWritten⟩ := List.mem_filterMap.mp written
  split at isWritten
  · exact ⟨⟨event.step, List.mem_map.mpr ⟨event, inHistory, rfl⟩, .of_written? isWritten⟩,
      of_decide_eq_true same⟩
  · cases isWritten

theorem Sound.outcomes_start (sound : world.Sound services) (service : Service)
    (operation : Operation) (task : TaskId) :
    (world.make (.start service operation)).outcomes task = world.outcomes task := by
  unfold outcomes
  refine congrArg (List.filter _) (List.filterMap_congr fun event member => ?_)
  rw [operation?_start (sound.numbered event member)]

theorem Advances.outcomes (advances : world.Advances surroundings later number call step)
    (task : TaskId) :
    later.outcomes task = world.outcomes task ++
      (if call.operation.isHandle then step.written? else none).toList.filter
        fun record => record.task = task := by
  simp only [World.outcomes, advances.history, advances.same_calls, List.filterMap_append,
    List.filter_append, List.filterMap_cons, advances.operation?, Option.any_some,
    List.filterMap_nil]
  cases (if call.operation.isHandle then step.written? else none) <;> rfl

/-- The outcomes of a task end its executions one after the other. -/
structure OutcomesRise (world : World) (task : TaskId) : Prop where
  rise : (world.outcomes task).Pairwise fun earlier later =>
    earlier.status.attempt < later.status.attempt
  ended : ∀ record ∈ world.outcomes task, record.status.state ≠ .scheduled

theorem OutcomesRise.advance (sound : world.Sound services) (outcomes : world.OutcomesRise task)
    (advances : world.Advances surroundings later number call step) : later.OutcomesRise task := by
  have whole := advances.outcomes task
  by_cases ends : ∃ record, (if call.operation.isHandle then step.written? else none) = some record ∧
      record.task = task
  · obtain ⟨record, written, rfl⟩ := ends
    rw [written, Option.toList_some, List.filter_singleton, decide_eq_true rfl, cond_true] at whole
    split at written
    · next handles =>
      obtain ⟨old, scheduled, found, status, attempt, ended⟩ := advances.effect.outcome handles written
      constructor
      · rw [whole, List.pairwise_append]
        refine ⟨outcomes.rise, List.pairwise_singleton _ _, ?_⟩
        intro earlier member last isLast
        rw [List.mem_singleton.mp isLast, attempt]
        obtain ⟨seen, task⟩ := seen_of_mem_outcomes member
        obtain ⟨current, isCurrent, becomes⟩ := sound.known earlier seen
        rw [task, found] at isCurrent
        cases isCurrent
        -- An outcome ranks past its attempt, and what is written over ranks no lower than it.
        have below := becomes.rank_le
        have above := Status.lt_rank (outcomes.ended earlier member)
        have rank : old.status.rank = 3 * max scheduled.attempt.toNat 1 := by rw [status]; rfl
        rw [UInt32.lt_iff_toNat_lt, Status.toNat_max_one]
        omega
      · intro other member
        rw [whole] at member
        rcases List.mem_append.mp member with earlier | now
        · exact outcomes.ended other earlier
        · rw [List.mem_singleton.mp now]
          exact ended
    · cases written
  · have nothing : (if call.operation.isHandle then step.written? else none).toList.filter
        (fun record => record.task = task) = [] := by
      refine List.filter_eq_nil_iff.mpr fun record member same => ends ⟨record, ?_, ?_⟩
      · exact Option.mem_toList.mp member
      · exact of_decide_eq_true same
    rw [nothing, List.append_nil] at whole
    exact ⟨whole ▸ outcomes.rise, whole ▸ outcomes.ended⟩

/-- Calls of any operations are made in any order, on services of any settings, and their accesses
interleave in any way. Then the writes to each task form one path from its first attempt on, and the
outcomes of its executions come in the order of their attempts, one for an attempt at most. A result
is never written again. No call is refused a transition; for sweeps, which only count what fails,
this shows in the count, which is that of the messages the buses refused. -/
theorem lifecycle {backend : Backend} {world : World}
    (reached : Reaches anyMove (opening { backend with tasks := .empty }) world) :
    (∀ task, world.IsPath task) ∧
      (∀ task, (world.outcomes task).Pairwise fun earlier later =>
        earlier.status.attempt < later.status.attempt) ∧
      (∀ task record later, world.backend.tasks.get? task = some record →
        record.status.isTerminal = true → Reaches anyMove world later →
        later.backend.tasks.get? task = some record ∧ later.writes task = world.writes task) ∧
      (∀ call ∈ world.calls, ∀ error, call.rest ≠ .fail (.transition error)) ∧
      ∀ number call report, world.calls[number]? = some call → call.operation = .sweep →
        call.rest = .done (.swept (some report)) →
        report.errors = (world.steps number).countP Step.isRefused := by
  have any : ∀ world move, anyMove world move → MovesOf (fun _ => True) world move :=
    fun _ _ _ => movesOf_any
  have soundFirst : (opening { backend with tasks := .empty }).Sound fun _ => True :=
    sound_opening _ _ TaskStore.isKeyed_empty
  have sound := reached.sound soundFirst any
  refine ⟨fun task => ?_, fun task => ?_, ?_, ?_, ?_⟩
  · refine reached.invariant (·.IsPath task) soundFirst any ⟨?_, .nil, rfl⟩ ?_ ?_ ?_
    · rintro record ⟨⟩
    · exact fun _ _ _ _ _ path => ⟨path.first, path.chain, path.last⟩
    · exact fun _ _ path => ⟨path.first, path.chain, path.last⟩
    · exact fun _ _ _ _ _ _ _ _ advances path => path.advance advances
  · have rises : world.OutcomesRise task := by
      refine reached.invariant (·.OutcomesRise task) soundFirst any ⟨.nil, ?_⟩ ?_ ?_ ?_
      · rintro record ⟨⟩
      · intro world service operation sound _ outcomes
        have same := sound.outcomes_start service operation task
        exact ⟨same ▸ outcomes.rise, same ▸ outcomes.ended⟩
      · exact fun _ _ outcomes => ⟨outcomes.rise, outcomes.ended⟩
      · exact fun _ _ _ _ _ _ sound _ advances outcomes => outcomes.advance sound advances
    exact rises.rise
  · intro task record later found terminal reachedLater
    refine reachedLater.invariant (fun later => later.backend.tasks.get? task = some record ∧
      later.writes task = world.writes task) sound any ⟨found, rfl⟩
      (fun _ _ _ _ _ stays => stays) (fun _ _ stays => stays) ?_
    intro _ _ _ _ _ _ _ _ advances stays
    have more := advances.terminal_stays stays.1 terminal
    exact ⟨more.1, more.2.trans stays.2⟩
  · intro call member error failed
    obtain ⟨number, called⟩ := List.mem_iff_getElem?.mp member
    have ended := sound.conduct number call called
    rw [failed] at ended
    exact ended.not_transition error rfl
  · intro number call report called sweeps finished
    have ended := sound.conduct number call called
    rw [finished, sweeps] at ended
    exact ended.2

theorem lifecycle_of_race :
    Reaches anyMove (opening { (default : Backend) with tasks := .empty }) raced ∧
      raced.IsPath default ∧
      (raced.writes default).map (·.status.state) = [.scheduled, .loaded] := by
  have reached : Reaches anyMove (opening { (default : Backend) with tasks := .empty }) raced :=
    .run allFair_any
  exact ⟨reached, (lifecycle reached).1 default, by decide⟩

end World

end CacheFill
