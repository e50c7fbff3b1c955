import CacheFill.Proofs.Cache.Ownership
import CacheFill.Proofs.Concurrency.Commits

/-!
What the answers to a reader go back to. While nobody removes a key, a value of it stays once one was
saved, so do its latest task and the records of tasks; and a record of it is loaded only after a value
was saved. So what a reader finds or misses is justified by the accesses before its own. Main
statement: `Stocked.advance`.
-/

set_option autoImplicit false

namespace CacheFill

open Script

/-- The type of a loader that finished without leaving a value. -/
def Step.finished? : Step → Option LoadType
  | ⟨.callLoader load, .finished⟩ => some load.type
  | _ => none

/-- A value was saved in the slot, or a loader of its type finished without leaving one. -/
def Filled (slot : Slot) (past : List Step) : Prop :=
  (∃ step ∈ past, ∃ value, step.access = .saveValue slot value) ∨
    ∃ step ∈ past, step.finished? = some slot.1

theorem Filled.mono {slot : Slot} {past more : List Step} (filled : Filled slot past)
    (fewer : ∀ step ∈ past, step ∈ more) : Filled slot more := by
  rcases filled with ⟨step, member, saves⟩ | ⟨step, member, finished⟩
  · exact .inl ⟨step, fewer step member, saves⟩
  · exact .inr ⟨step, fewer step member, finished⟩

/-- A loader that leaves its values to be saved has had one saved when its run ends well, unless it
finished without leaving one. -/
theorem Service.Runs.filled {service : Service} {load : LoadCall} {own : List Step}
    (runs : service.Runs load own (.ok ()))
    (caching : service.loaders.get? load.type ≠ some .storing) :
    Filled (load.type, load.key) own := by
  cases runs with
  | finished kind registered => exact .inr ⟨_, List.mem_singleton_self _, rfl⟩
  | stored data registered => exact absurd registered caching
  | saved data now kept registered =>
      have last : ∀ first second third : Step, third ∈ [first, second, third] := by simp
      exact .inl ⟨_, last _ _ _, _, rfl⟩

/-- How the steps before it justify what a step found or missed of a slot. -/
structure Explains (first : TaskStore) (slot : Slot) (past : List Step) (step : Step) : Prop where
  noValue : step = ⟨.readValue slot, .ok none⟩ →
    ∀ earlier ∈ past, ∀ value, earlier.access ≠ .saveValue slot value
  noTask : step = ⟨.readPointer slot, .ok none⟩ →
    ∀ earlier ∈ past, ∀ task, earlier.access ≠ .putPointer slot task
  latest : ∀ task, step = ⟨.readPointer slot, .ok (some task)⟩ →
    ∀ earlier ∈ past, ∀ other, earlier.access = .putPointer slot other →
      ∃ last ∈ past, last.access = .putPointer slot task
  noRecord : ∀ task, step = ⟨.readTask task, .ok none⟩ →
    ∀ earlier ∈ past, ∀ record, earlier.access = .insertTask record → record.task ≠ task
  keyed : ∀ task record, step = ⟨.readTask task, .ok (some record)⟩ → record.task = task
  loaded : ∀ task record loaded, step = ⟨.readTask task, .ok (some record)⟩ →
    record.status = .loaded loaded → (record.type, record.key) = slot → first.get? task = none →
      Filled slot past

namespace World

variable {first world later : World} {services : Service → Prop} {surroundings : Surroundings}
  {number : Nat} {call : Call} {step : Step} {slot : Slot}

def Unremoved (slot : Slot) (_ : World) : Move → Prop
  | .start _ (.remove type key) => (type, key) ≠ slot
  | _ => True

instance (slot : Slot) (world : World) (move : Move) : Decidable (world.Unremoved slot move) := by
  unfold Unremoved
  split <;> infer_instance

/-- What a run keeps up about a slot. -/
structure Stocked (first : World) (slot : Slot) (world : World) : Prop where
  kept : ∀ number, world.operation? number ≠ some (.remove slot.1 slot.2)
  value : ∀ step ∈ world.trace, ∀ value, step.access = .saveValue slot value →
    world.backend.values.get? slot ≠ none
  latest : ∀ step ∈ world.trace, ∀ task, step.access = .putPointer slot task →
    ∃ last ∈ world.trace, ∃ task', last.access = .putPointer slot task' ∧
      world.backend.pointers.get? slot = some task'
  record : ∀ step ∈ world.trace, ∀ record, step.access = .insertTask record →
    world.backend.tasks.get? record.task ≠ none
  loaded : ∀ task record loaded, world.backend.tasks.get? task = some record →
    record.status = .loaded loaded → (record.type, record.key) = slot →
      first.backend.tasks.get? task = none → Filled slot world.trace
  justified : Justified (Explains first.backend.tasks slot) world.trace

theorem stocked_opening (backend : Backend) (slot : Slot) :
    (opening backend).Stocked slot (opening backend) := by
  constructor
  · intro number called
    cases called
  · intro step member
    cases member
  · intro step member
    cases member
  · intro step member
    cases member
  · intro task record loaded found _ _ new
    rw [found] at new
    cases new
  · exact justified_nil _

theorem Stocked.start (stocked : first.Stocked slot world) {service : Service}
    {operation : Operation} (fair : world.Unremoved slot (.start service operation)) :
    first.Stocked slot (world.make (.start service operation)) := by
  refine ⟨?_, stocked.value, stocked.latest, stocked.record, stocked.loaded, stocked.justified⟩
  intro number called
  rcases operation_of_start called with old | rfl
  · exact stocked.kept number old
  · exact fair rfl

/-- No step removes anything of the slot. -/
theorem Stocked.not_removal (stocked : first.Stocked slot world) (scripted : world.Scripted)
    (advances : world.Advances surroundings later number call step) :
    step.access ≠ .removeValue slot ∧ step.access ≠ .removePointer slot := by
  have permitted := scripted.permitted advances
  have kept (removal : step.access = .removeValue slot ∨ step.access = .removePointer slot) : False := by
    have removes := Service.Script.removes removal permitted
    exact stocked.kept number (removes ▸ advances.operation?)
  exact ⟨fun same => kept (.inl same), fun same => kept (.inr same)⟩

theorem Advances.explains (advances : world.Advances surroundings later number call step)
    (sound : world.Sound services) (stocked : first.Stocked slot world) :
    Explains first.backend.tasks slot world.trace step := by
  have answered := advances.answered
  constructor
  · rintro rfl earlier member value saves
    have missing := Except.ok.inj answered
    exact stocked.value earlier member value saves missing.symm
  · rintro rfl earlier member task points
    have missing := Except.ok.inj answered
    obtain ⟨_, _, task', _, found⟩ := stocked.latest earlier member task points
    rw [← missing] at found
    cases found
  · rintro task rfl earlier member other points
    have found := Except.ok.inj answered
    obtain ⟨last, isLast, task', pointsLast, isTask⟩ := stocked.latest earlier member other points
    rw [← found] at isTask
    cases isTask
    exact ⟨last, isLast, pointsLast⟩
  · rintro task rfl earlier member record inserts rfl
    have missing := Except.ok.inj answered
    exact stocked.record earlier member record inserts missing.symm
  · rintro task record rfl
    have found := Except.ok.inj answered
    exact sound.keyed task record found.symm
  · rintro task record loaded rfl status isSlot new
    have found := Except.ok.inj answered
    exact stocked.loaded task record loaded found.symm status isSlot new

theorem Stocked.value_advance (stocked : first.Stocked slot world) (scripted : world.Scripted)
    (advances : world.Advances surroundings later number call step) :
    ∀ step ∈ later.trace, ∀ value, step.access = .saveValue slot value →
      later.backend.values.get? slot ≠ none := by
  have notRemoval := (stocked.not_removal scripted advances).1
  have turn := advances.value slot
  intro other member value saves
  rw [advances.trace] at member
  generalize later.backend.values.get? slot = next at turn ⊢
  cases turn with
  | saved value _ =>
      cases world.backend.values.get? slot with
      | none => simp [ValueStore.yieldsTo]
      | some current => split <;> exact Option.some_ne_none _
  | removed removes => exact absurd removes notRemoval
  | kept unsaved _ =>
      rcases List.mem_append.mp member with earlier | now
      · exact stocked.value other earlier value saves
      · rw [List.mem_singleton.mp now] at saves
        exact absurd saves (unsaved value)

theorem Stocked.latest_advance (stocked : first.Stocked slot world) (scripted : world.Scripted)
    (advances : world.Advances surroundings later number call step) :
    ∀ step ∈ later.trace, ∀ task, step.access = .putPointer slot task →
      ∃ last ∈ later.trace, ∃ task', last.access = .putPointer slot task' ∧
        later.backend.pointers.get? slot = some task' := by
  have notRemoval := (stocked.not_removal scripted advances).2
  have turn := advances.pointer slot
  intro other member task points
  rw [advances.trace] at member ⊢
  generalize later.backend.pointers.get? slot = next at turn ⊢
  cases turn with
  | pointed task' now => exact ⟨step, by simp, task', now, rfl⟩
  | removed removes => exact absurd removes notRemoval
  | kept unpointed _ =>
      rcases List.mem_append.mp member with earlier | now
      · obtain ⟨last, isLast, task', pointsLast, found⟩ := stocked.latest other earlier task points
        exact ⟨last, List.mem_append_left _ isLast, task', pointsLast, found⟩
      · rw [List.mem_singleton.mp now] at points
        exact absurd points (unpointed task)

/-- Records are never deleted. -/
theorem Advances.still_stored (advances : world.Advances surroundings later number call step)
    (sound : world.Sound services) {task : TaskId} (stored : world.backend.tasks.get? task ≠ none) :
    later.backend.tasks.get? task ≠ none := by
  obtain ⟨record, found⟩ := Option.ne_none_iff_exists'.mp stored
  obtain ⟨current, isCurrent, _⟩ :=
    advances.effect.becomes (sound.fits number call advances.called) found
  rw [isCurrent]
  exact Option.some_ne_none current

/-- Who inserts a record finds it stored, by this or another insertion. -/
theorem Advances.stored_of_insert (advances : world.Advances surroundings later number call step)
    (sound : world.Sound services) {record : Record} (inserts : step.access = .insertTask record) :
    later.backend.tasks.get? record.task ≠ none := by
  cases found : world.backend.tasks.get? record.task with
  | some stored => exact advances.still_stored sound (by rw [found]; exact Option.some_ne_none stored)
  | none =>
      have performed : surroundings.perform (.insertTask record) world.backend =
        world.backend.withTasks (world.backend.tasks.insert record) := rfl
      rw [advances.backend, inserts, performed, TaskStore.insert_of_get?_none found]
      simp [Backend.withTasks]

theorem Stocked.record_advance (stocked : first.Stocked slot world) (sound : world.Sound services)
    (advances : world.Advances surroundings later number call step) :
    ∀ step ∈ later.trace, ∀ record, step.access = .insertTask record →
      later.backend.tasks.get? record.task ≠ none := by
  intro other member record inserts
  rw [advances.trace] at member
  rcases List.mem_append.mp member with earlier | now
  · exact advances.still_stored sound (stocked.record other earlier record inserts)
  · rw [List.mem_singleton.mp now] at inserts
    exact advances.stored_of_insert sound inserts

theorem Stocked.loaded_advance (stocked : first.Stocked slot world)
    (sound : world.Sound (·.loaders.get? slot.1 ≠ some .storing)) (scripted : world.Scripted)
    (advances : world.Advances surroundings later number call step) {task : TaskId}
    {record : Record} {loaded : Loaded} (found : later.backend.tasks.get? task = some record)
    (status : record.status = .loaded loaded) (isSlot : (record.type, record.key) = slot)
    (new : first.backend.tasks.get? task = none) : Filled slot later.trace := by
  have earlier (filled : Filled slot world.trace) : Filled slot later.trace := by
    refine filled.mono fun step member => ?_
    rw [advances.trace]
    exact List.mem_append_left _ member
  rcases advances.effect.stored_or_written found with stored | written
  · exact earlier (stocked.loaded task record loaded stored status isSlot new)
  have isLoaded : record.status.state = .loaded := by rw [status]; rfl
  obtain ⟨message, handles⟩ := advances.handles_of_loaded written isLoaded
  obtain ⟨_, old, attempt, own, ended, now, lines, _, _, _, runs, _, steps, result⟩ :=
    scripted.commit sound advances handles written
  rw [result] at isLoaded
  rw [Service.ended_of_loaded isLoaded] at runs
  have same : (old.type, old.key) = slot := by
    rw [← isSlot, result]
    rfl
  subst same
  have filled := runs.filled (sound.fits number call advances.called)
  have inSteps : ∀ step ∈ own, step ∈ world.steps number := fun step member => by
    rw [steps]
    exact List.mem_cons_of_mem _ (List.mem_append_left _ member)
  exact earlier (filled.mono fun step member => mem_trace_of_mem_steps (inSteps step member))

theorem Stocked.advance (stocked : first.Stocked slot world)
    (sound : world.Sound (·.loaders.get? slot.1 ≠ some .storing)) (scripted : world.Scripted)
    (advances : world.Advances surroundings later number call step) :
    first.Stocked slot later := by
  refine ⟨?_, stocked.value_advance scripted advances, stocked.latest_advance scripted advances,
    stocked.record_advance sound advances, ?_, ?_⟩
  · intro other
    rw [(advances.same_calls other).1]
    exact stocked.kept other
  · intro task record loaded found status isSlot new
    exact stocked.loaded_advance sound scripted advances found status isSlot new
  · rw [advances.trace]
    exact stocked.justified.snoc (advances.explains sound stocked)

end World

end CacheFill
