import CacheFill.Proofs.Cache.Filling
import CacheFill.Proofs.Cache.Refinement
import CacheFill.Proofs.Concurrency.Finishing
import CacheFill.Proofs.Concurrency.Nesting

/-!
Values, latest tasks and records of one slot while calls take turns. They are kept apart, and a removal
clears two of them in two steps. They go together all the same: a task is made the latest before it has
a record, its record is loaded only after a value was saved, and no other call comes in between these
steps unless it comes from within the loader. Main statement: `Reaches.consistent`.
-/

set_option autoImplicit false

namespace CacheFill

open Script

/-- A loader that leaves its values to be saved has had one saved when its run ends well. -/
theorem Service.Runs.saves_value {service : Service} {load : LoadCall} {own : List Step}
    (runs : service.Runs load own (.ok ())) (caching : service.loaders.get? load.type ≠ some .storing)
    (gives : ∀ step ∈ own, step.finished? ≠ some load.type) :
    ∃ data now kept, own = [⟨.callLoader load, .value data⟩, ⟨.readClock, now⟩,
      ⟨.saveValue (load.type, load.key) ⟨data, now⟩, .ok kept⟩] := by
  cases runs with
  | finished kind registered => exact absurd rfl (gives _ (List.mem_singleton_self _))
  | stored data registered => exact absurd registered caching
  | saved data now kept registered => exact ⟨data, now, kept, rfl⟩

/-- A call saves what its loader gave at most once. -/
theorem Script.Handles.unsaved_after_save {service : Service} {message : Dispatch} {past : List Step}
    {access : Access} (handles : Handles service message past access) {save : Step} (member : save ∈ past)
    {slot : Slot} {value : CachedValue Json} (saves : save.access = .saveValue slot value)
    (other : Slot) (next : CachedValue Json) : access ≠ .saveValue other next := by
  rintro rfl
  cases handles with
  | save data now =>
      simp only [List.mem_cons, List.not_mem_nil, or_false] at member
      rcases member with rfl | rfl | rfl <;> cases saves
  | report _ report => cases report

namespace World

variable {first world later : World} {surroundings : Surroundings} {number : Nat} {call : Call}
  {step : Step} {slot : Slot}

/-- Keys are updated, saved, removed and read, tasks are handled and swept, one call after the other or
from within a loader, and the loader of a type leaves values to be saved. -/
def LoadsInTurn (type : LoadType) (world : World) (move : Move) : Prop :=
  world.ByUpdates move ∧ world.InTurn move ∧
    MovesOf (·.loaders.get? type ≠ some .storing) world move

instance (type : LoadType) (world : World) (move : Move) : Decidable (LoadsInTurn type world move) :=
  inferInstanceAs (Decidable (_ ∧ _ ∧ _))

/-- What holds of all calls and stores in a run in which calls take turns. -/
structure Orderly (first : World) (slot : Slot) (world : World) : Prop where
  sound : world.Sound (·.loaders.get? slot.1 ≠ some .storing)
  scripted : world.Scripted
  finishes : world.Finishes
  nested : world.Nested
  remembers : world.Remembers
  owned : first.Owned world
  noTasks : ∀ task, first.backend.tasks.get? task = none
  noPointers : first.backend.pointers.get? slot = none

/-- The call is running, or made the last step of all. -/
def IsRecent (world : World) (number : Nat) : Prop :=
  (∃ call, world.calls[number]? = some call ∧ call.IsRunning) ∨
    ∃ step, world.history.getLast? = some ⟨number, step⟩

/-- The value that a recent call has had saved is the last that was saved in its slot. -/
def Fresh (world : World) : Prop :=
  ∀ (number : Nat) (message : Dispatch) (slot : Slot) (value : CachedValue Json) (kept : Bool),
    world.operation? number = some (.handle message) →
      ⟨.saveValue slot value, .ok kept⟩ ∈ world.steps number → world.IsRecent number →
        ∃ earlier, world.saves slot = earlier ++ [value]

/-- A call that is at its loader has saved nothing. -/
theorem Scripted.unsaved_at_loader (scripted : world.Scripted)
    (called : world.calls[number]? = some call) (atLoader : call.AtLoader) {value : CachedValue Json}
    {kept : Bool} : ⟨.saveValue slot value, .ok kept⟩ ∉ world.steps number := by
  obtain ⟨message, record, _, steps⟩ := scripted.at_loader called atLoader
  rw [steps]
  intro member
  cases List.mem_singleton.mp member

theorem Fresh.start (fresh : world.Fresh) (orderly : first.Orderly slot world) {service : Service}
    {operation : Operation} (inTurn : world.InTurn (.start service operation)) :
    (world.make (.start service operation)).Fresh := by
  intro number message at_ value kept handles member recent
  have within := orderly.sound.numbered _ (mem_steps.mp member)
  rw [operation?_start within] at handles
  rcases recent with ⟨call, called, running⟩ | last
  · rcases call_of_start called with old | ⟨rfl, _⟩
    · have atLoader := inTurn call (List.mem_of_getElem? old) running
      exact absurd member (orderly.scripted.unsaved_at_loader old atLoader)
    · exact absurd within (Nat.lt_irrefl _)
  · exact fresh number message at_ value kept handles member (.inr last)

theorem Fresh.advance (fresh : world.Fresh) (orderly : first.Orderly slot world)
    (inTurn : world.InTurn (.advance number surroundings))
    (advances : world.Advances surroundings later number call step) : later.Fresh := by
  intro other message at_ value kept handles member recent
  rw [(advances.same_calls other).1] at handles
  rw [advances.steps] at member
  rw [advances.saves]
  by_cases own : number = other
  · subst own
    rw [if_pos rfl] at member
    have operation := Option.some.inj (advances.operation?.symm.trans handles)
    have permitted := orderly.scripted.permitted advances
    rcases List.mem_append.mp member with earlier | now
    · obtain ⟨before, saves⟩ := fresh number message at_ value kept handles earlier
        (.inl ⟨call, advances.called, advances.running⟩)
      refine ⟨before, ?_⟩
      rw [Step.trackSaves_of_kept ?_ ?_, saves]
      · rw [operation] at permitted
        exact Handles.unsaved_after_save permitted earlier rfl at_
      · intro removes
        have removal := Service.Script.removes (.inl removes) permitted
        rw [operation] at removal
        cases removal
    · obtain rfl := List.mem_singleton.mp now
      exact ⟨world.saves at_, if_pos rfl⟩
  · -- Another call makes a step, so the one that saved is neither running nor the last.
    rw [if_neg own] at member
    exfalso
    rcases recent with ⟨found, called, running⟩ | ⟨last, isLast⟩
    · rcases advances.call_of called with ⟨same, _⟩ | ⟨different, old⟩
      · exact own same.symm
      · have atLoader := orderly.nested.at_loader inTurn advances old different running
        exact orderly.scripted.unsaved_at_loader old atLoader member
    · rw [advances.history, List.getLast?_concat] at isLast
      cases isLast
      exact own rfl

/-- Records and latest tasks are there by accesses of the run. -/
structure Traced (slot : Slot) (world : World) : Prop where
  inserted : ∀ step ∈ world.trace, ∀ record, step.access = .insertTask record →
    world.backend.tasks.get? record.task ≠ none
  created : ∀ task, world.backend.tasks.get? task ≠ none →
    ∃ step ∈ world.trace, ∃ record, step.access = .insertTask record ∧ record.task = task
  pointed : ∀ task, world.backend.pointers.get? slot = some task →
    ∃ number, ⟨.putPointer slot task, .ok ()⟩ ∈ world.steps number

theorem Traced.created_advance (traced : world.Traced slot)
    (advances : world.Advances surroundings later number call step) {task : TaskId}
    (stored : later.backend.tasks.get? task ≠ none) :
    ∃ step ∈ later.trace, ∃ record, step.access = .insertTask record ∧ record.task = task := by
  rw [advances.trace]
  have earlier (stored : world.backend.tasks.get? task ≠ none) :
      ∃ other ∈ world.trace ++ [step], ∃ record,
        other.access = .insertTask record ∧ record.task = task := by
    obtain ⟨other, member, inserts⟩ := traced.created task stored
    exact ⟨other, List.mem_append_left _ member, inserts⟩
  have rewritten (old : Record) (found : world.backend.tasks.get? old.task = some old)
      (status : Status) (resume : Option Json)
      (put : (world.backend.tasks.put (old.next status resume)).get? task ≠ none) :
      ∃ other ∈ world.trace ++ [step], ∃ record,
        other.access = .insertTask record ∧ record.task = task := by
    refine earlier ?_
    rw [TaskStore.get?_put] at put
    split at put
    · next same =>
        rw [same, show (old.next status resume).task = old.task from rfl, found]
        exact Option.some_ne_none old
    · exact put
  have effect := advances.effect
  generalize later.backend.tasks = tasks at effect stored
  cases effect with
  | insert given now schedules new idle absent =>
      rw [TaskStore.get?_put] at stored
      split at stored
      · next same => exact ⟨_, List.mem_append_right _ List.mem_cons_self, given, rfl, same.symm⟩
      · exact earlier stored
  | commit _ old _ _ _ _ _ _ _ _ _ found next isNext =>
      subst isNext
      exact rewritten old found _ _ stored
  | retry old _ _ _ _ _ _ _ found next isNext =>
      subst isNext
      exact rewritten old found _ _ stored
  | giveUp old _ _ _ _ _ _ found next isNext _ _ =>
      subst isNext
      exact rewritten old found _ _ stored
  | _ => exact earlier stored

theorem Traced.advance (traced : world.Traced slot) {services : Service → Prop}
    (sound : world.Sound services)
    (advances : world.Advances surroundings later number call step) : later.Traced slot := by
  refine ⟨?_, fun task stored => traced.created_advance advances stored, ?_⟩
  · intro other member record inserts
    rw [advances.trace] at member
    rcases List.mem_append.mp member with earlier | now
    · exact advances.still_stored sound (traced.inserted other earlier record inserts)
    · rw [List.mem_singleton.mp now] at inserts
      exact advances.stored_of_insert sound inserts
  · intro task found
    have turn := advances.pointer slot
    have answered := advances.answered
    generalize later.backend.pointers.get? slot = pointer at turn found
    cases turn with
    | pointed _ points =>
        cases found
        obtain ⟨access, answer⟩ := step
        subst points
        have put : answer = .ok () := answered
        refine ⟨number, ?_⟩
        rw [advances.steps, if_pos rfl, put]
        exact List.mem_concat_self
    | removed _ => cases found
    | kept _ _ =>
        obtain ⟨other, member⟩ := traced.pointed task found
        refine ⟨other, ?_⟩
        rw [advances.steps]
        split
        · exact List.mem_append_left _ member
        · exact member

theorem Advances.mints (advances : world.Advances surroundings later number call step) :
    later.mints = world.mints ++ step.minted?.toList := by
  simp only [World.mints, advances.trace, List.filterMap_append]
  cases found : step.minted? <;> simp [found]

/-- A record is inserted by the update that minted its task. -/
theorem Orderly.isUpdate_of_insert (orderly : first.Orderly slot world) {event : Event}
    (member : event ∈ world.history) {record : Record}
    (inserts : event.step.access = .insertTask record) :
    world.IsUpdate event.call (record.type, record.key) record.task := by
  obtain ⟨call, before, after, called, split, permitted⟩ :=
    orderly.scripted.of_event orderly.sound member
  rw [inserts] at permitted
  have operation : world.operation? event.call = some call.operation := by
    rw [operation?, called, Option.map_some]
  cases isOperation : call.operation with
  | update type key =>
      rw [isOperation] at permitted operation
      obtain ⟨isType, isKey, minted⟩ := Updates.of_insert permitted
      constructor
      · rw [operation, isType, isKey]
      · rw [split]
        exact List.mem_append_left _ minted
  | schedule type key task =>
      rw [isOperation] at operation
      exact absurd operation (orderly.owned.updates event.call type key task)
  | handle _ =>
      rw [isOperation] at permitted
      cases permitted with
      | report _ report => cases report
  | read _ _ | save _ _ _ | remove _ _ | sweep =>
      rw [isOperation] at permitted
      cases permitted

/-- A task that is made the latest has no record yet. -/
theorem Orderly.unrecorded (orderly : first.Orderly slot world) (traced : world.Traced slot)
    (distinct : world.mints.Nodup) (advances : world.Advances surroundings later number call step)
    {task : TaskId} (points : step.access = .putPointer slot task) :
    world.backend.tasks.get? task = none := by
  by_contra stored
  obtain ⟨other, member, record, inserts, rfl⟩ := traced.created task stored
  obtain ⟨event, isEvent, rfl⟩ := List.mem_map.mp member
  have permitted := orderly.scripted.permitted advances
  rw [points] at permitted
  obtain ⟨operation, minted⟩ := Service.Script.updates_of_pointer permitted
  have isUpdate : world.IsUpdate number slot record.task := by
    refine ⟨operation ▸ advances.operation?, ?_⟩
    rw [minted]
    exact List.mem_singleton_self _
  -- Who inserted the record minted its task, so it is this update, and that has only minted it.
  obtain ⟨same, _⟩ := (orderly.isUpdate_of_insert isEvent inserts).unique distinct isUpdate
  have own := mem_steps.mpr isEvent
  rw [same, minted] at own
  rw [List.mem_singleton.mp own] at inserts
  cases inserts

/-- A call that removes the slot has removed the value, but not the latest task. -/
def Removing (slot : Slot) (world : World) : Prop :=
  ∃ (number : Nat) (call : Call), world.calls[number]? = some call ∧
    call.operation = .remove slot.1 slot.2 ∧ call.IsRunning ∧
      world.steps number = [⟨.removeValue slot, .ok ()⟩]

theorem Removing.start (removing : world.Removing slot) (service : Service) (operation : Operation) :
    (world.make (.start service operation)).Removing slot := by
  obtain ⟨number, call, called, rest⟩ := removing
  refine ⟨number, call, ?_, rest⟩
  rw [← called]
  exact List.getElem?_append_left (List.getElem?_eq_some_iff.mp called).1

/-- No other call comes in between the two steps of a removal. -/
theorem Removing.advance (removing : world.Removing slot) (orderly : first.Orderly slot world)
    (inTurn : world.InTurn (.advance number surroundings))
    (advances : world.Advances surroundings later number call step) :
    step.access = .removePointer slot := by
  obtain ⟨other, found, called, operation, running, steps⟩ := removing
  by_cases own : other = number
  · subst own
    cases called.symm.trans advances.called
    have permitted := orderly.scripted.permitted advances
    rw [operation, steps] at permitted
    generalize step.access = access at permitted
    cases permitted with
    | pointer => rfl
  · have atLoader := orderly.nested.at_loader inTurn advances called own running
    obtain ⟨message, record, handles, _⟩ := orderly.scripted.at_loader called atLoader
    rw [operation] at handles
    cases handles

/-- The removal of a value is half of what the call does. -/
theorem Orderly.removing (orderly : first.Orderly slot world)
    (advances : world.Advances surroundings later number call step)
    (removes : step.access = .removeValue slot) : later.Removing slot := by
  have permitted := orderly.scripted.permitted advances
  have operation := Service.Script.removes (.inl removes) permitted
  have nothing : world.steps number = [] := by
    rw [operation, removes] at permitted
    generalize world.steps number = past at permitted
    cases permitted with
    | value => rfl
  have steps : later.steps number = [⟨.removeValue slot, .ok ()⟩] := by
    have answered := advances.answered
    obtain ⟨access, answer⟩ := step
    subst removes
    have removed : answer = .ok () := answered
    rw [advances.steps, if_pos rfl, nothing, removed]
    rfl
  obtain ⟨next, _, calls⟩ := advances.performed
  have within := (List.getElem?_eq_some_iff.mp advances.called).1
  have called : later.calls[number]? = some { call with rest := next step.answer } := by
    rw [calls, List.getElem?_set_self within]
  refine ⟨number, _, called, operation, ?_, steps⟩
  by_contra ended
  obtain ⟨result, finishes⟩ := (orderly.finishes.advance advances).ended called ended
  simp only [operation, steps] at finishes
  obtain ⟨other, member, forgets⟩ := finishes (List.mem_singleton_self _)
  rw [List.mem_singleton.mp member] at forgets
  cases forgets

/-- If the latest task of the slot is loaded, then there is a value, or a removal is on its way. -/
def Backed (slot : Slot) (world : World) : Prop :=
  ∀ task record, world.backend.pointers.get? slot = some task →
    world.backend.tasks.get? task = some record → record.status.state = .loaded →
      world.backend.values.get? slot ≠ none ∨ world.Removing slot

theorem Orderly.value_stays (orderly : first.Orderly slot world)
    (advances : world.Advances surroundings later number call step)
    (value : world.backend.values.get? slot ≠ none) :
    later.backend.values.get? slot ≠ none ∨ later.Removing slot := by
  have turn := advances.value slot
  generalize later.backend.values.get? slot = next at turn ⊢
  cases turn with
  | saved other _ =>
      left
      split
      · exact Option.some_ne_none other
      · exact value
  | removed removes => exact .inr (orderly.removing advances removes)
  | kept _ _ => exact .inl value

/-- Who writes the latest task of the slot as loaded has had a value saved, and it is still there. -/
theorem Orderly.value_of_loaded (orderly : first.Orderly slot world) (fresh : world.Fresh)
    (distinct : world.mints.Nodup) (gives : ∀ step ∈ world.trace, step.finished? ≠ some slot.1)
    (advances : world.Advances surroundings later number call step) {record : Record}
    (latest : world.backend.pointers.get? slot = some record.task)
    (written : step.written? = some record) (loaded : record.status.state = .loaded) :
    later.backend.values.get? slot ≠ none := by
  obtain ⟨message, handles⟩ := advances.handles_of_loaded written loaded
  obtain ⟨_, old, attempt, own, ended, now, lines, stored, isWrite, admitted, runs, _, steps, result⟩ :=
    orderly.scripted.commit orderly.sound advances handles written
  rw [result] at loaded
  rw [Service.ended_of_loaded loaded] at runs
  have isSlot : (old.type, old.key) = slot := by
    rcases orderly.owned.latest slot record.task latest with ⟨other, isUpdate⟩ | old
    · exact orderly.owned.slot_of_update distinct isUpdate (orderly.noTasks _) stored
    · rw [orderly.noPointers] at old
      cases old
  subst isSlot
  have inSteps : ∀ step ∈ own, step ∈ world.steps number := fun step member => by
    rw [steps]
    exact List.mem_cons_of_mem _ (List.mem_append_left _ member)
  obtain ⟨data, savedAt, kept, rfl⟩ := runs.saves_value (orderly.sound.fits number call advances.called)
    fun step member => gives step (mem_trace_of_mem_steps (inSteps step member))
  obtain ⟨earlier, saves⟩ := fresh number message (old.type, old.key) ⟨data, savedAt⟩ kept
    (handles ▸ advances.operation?) (inSteps _ (by simp [Record.load]))
    (.inl ⟨call, advances.called, advances.running⟩)
  have newest := orderly.remembers.newest (old.type, old.key)
  have value : world.backend.values.get? (old.type, old.key) ≠ none := by
    refine newest.ne_none ?_
    rw [saves]
    simp
  have turn := advances.value (old.type, old.key)
  generalize later.backend.values.get? (old.type, old.key) = next at turn ⊢
  cases turn with
  | saved _ saves =>
      rw [isWrite] at saves
      cases saves
  | removed removes =>
      rw [isWrite] at removes
      cases removes
  | kept _ _ => exact value

theorem Backed.advance (backed : world.Backed slot) (orderly : first.Orderly slot world)
    (fresh : world.Fresh) (traced : world.Traced slot)
    (distinct : world.mints.Nodup) (gives : ∀ step ∈ world.trace, step.finished? ≠ some slot.1)
    (inTurn : world.InTurn (.advance number surroundings))
    (advances : world.Advances surroundings later number call step) : later.Backed slot := by
  intro task record latest found loaded
  have turn := advances.pointer slot
  generalize later.backend.pointers.get? slot = pointer at turn latest
  cases turn with
  | pointed _ points =>
      cases latest
      have absent := orderly.unrecorded traced distinct advances points
      rcases advances.effect.stored_or_written found with stored | written
      · rw [absent] at stored
        cases stored
      · obtain ⟨access, answer⟩ := step
        subst points
        cases written
  | removed _ => cases latest
  | kept _ unremoved =>
      rcases advances.effect.stored_or_written found with stored | written
      · rcases backed task record latest stored loaded with value | removing
        · exact orderly.value_stays advances value
        · exact absurd (removing.advance orderly inTurn advances) unremoved
      · have isTask : record.task = task := (orderly.sound.of_advances advances).keyed task record found
        subst isTask
        exact .inl (orderly.value_of_loaded fresh distinct gives advances latest written loaded)

theorem Backed.start (backed : world.Backed slot) (service : Service) (operation : Operation) :
    (world.make (.start service operation)).Backed slot := by
  intro task record latest found loaded
  rcases backed task record latest found loaded with value | removing
  · exact .inl value
  · exact .inr (removing.start service operation)

theorem Reaches.orderly {backend : Backend} (slot : Slot)
    (reached : Reaches (LoadsInTurn slot.1) (opening { backend with
      tasks := .empty, values := .empty, pointers := .empty }) world) :
    (opening { backend with tasks := .empty, values := .empty, pointers := .empty }).Orderly slot
      world where
  sound := reached.sound (sound_opening _ _ TaskStore.isKeyed_empty) fun _ _ fair => fair.2.2
  scripted := reached.scripted TaskStore.isKeyed_empty
  finishes := reached.finishes TaskStore.isKeyed_empty
  nested := reached.nested TaskStore.isKeyed_empty fun _ _ fair => fair.2.1
  remembers := reached.remembers TaskStore.isKeyed_empty rfl rfl
  owned := reached.owned TaskStore.isKeyed_empty fun _ _ fair => fair.1
  noTasks := fun _ => rfl
  noPointers := rfl

/-- What is kept up about a slot besides. -/
structure Consistent (slot : Slot) (world : World) : Prop where
  fresh : world.Fresh
  traced : world.Traced slot
  backed : world.mints.Nodup → (∀ step ∈ world.trace, step.finished? ≠ some slot.1) →
    world.Backed slot

theorem Consistent.advance (consistent : world.Consistent slot) (orderly : first.Orderly slot world)
    (inTurn : world.InTurn (.advance number surroundings))
    (advances : world.Advances surroundings later number call step) : later.Consistent slot := by
  refine ⟨consistent.fresh.advance orderly inTurn advances,
    consistent.traced.advance orderly.sound advances, ?_⟩
  intro distinct gives
  rw [advances.mints] at distinct
  have earlierMints : world.mints.Nodup := distinct.sublist (List.sublist_append_left _ _)
  have earlierGives : ∀ step ∈ world.trace, step.finished? ≠ some slot.1 := by
    intro other member
    refine gives other ?_
    rw [advances.trace]
    exact List.mem_append_left _ member
  exact (consistent.backed earlierMints earlierGives).advance orderly consistent.fresh consistent.traced
    earlierMints earlierGives inTurn advances

theorem consistent_opening (backend : Backend) (slot : Slot) :
    (opening { backend with tasks := .empty, values := .empty, pointers := .empty }).Consistent slot := by
  have traced : (opening { backend with tasks := .empty, values := .empty, pointers := .empty }).Traced
      slot := by
    constructor
    · intro step member
      cases member
    · intro task stored
      exact absurd rfl stored
    · intro task found
      cases found
  constructor
  · intro number message at_ value kept handles
    cases handles
  · exact traced
  · intro _ _ task record latest
    cases latest

theorem Reaches.consistent {backend : Backend} (slot : Slot)
    (reached : Reaches (LoadsInTurn slot.1) (opening { backend with
      tasks := .empty, values := .empty, pointers := .empty }) world) : world.Consistent slot := by
  apply reached.fair_invariant (Consistent slot) (sound_opening _ _ TaskStore.isKeyed_empty)
    (fun _ _ fair => fair.2.2) (consistent_opening backend slot)
  · intro world service operation earlier fair consistent
    refine ⟨consistent.fresh.start (earlier.orderly slot) fair.2.1, ⟨consistent.traced.inserted,
      consistent.traced.created, consistent.traced.pointed⟩, fun distinct gives => ?_⟩
    exact (consistent.backed distinct gives).start service operation
  · intro world now _ _ consistent
    exact ⟨consistent.fresh, ⟨consistent.traced.inserted, consistent.traced.created,
      consistent.traced.pointed⟩, consistent.backed⟩
  · intro world later number surroundings call step earlier fair advances consistent
    exact consistent.advance (earlier.orderly slot) fair.2.1 advances

end World

end CacheFill
