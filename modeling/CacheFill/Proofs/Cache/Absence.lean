import CacheFill.Proofs.Cache.Filling

/-!
When a reader finds nothing of a key that was updated. It looks at the value, the latest task and the
record of that task one after the other, and updates and executions go on meanwhile. Main statement:
`absent_iff_missed`.
-/

set_option autoImplicit false

namespace CacheFill

open Script

theorem CacheEntry.compose_eq_notAvailable {α : Type} {value : Option (CachedValue α)}
    {status : Option Status} :
    compose value status = .notAvailable ↔
      value = none ∧ ∀ current, status = some current → current.state = .loaded := by
  cases value with
  | some value =>
      refine iff_of_false ?_ fun both => Option.some_ne_none value both.1
      cases status with
      | none => exact fun same => by cases same
      | some status =>
          cases status with
          | failed status =>
              simp only [compose]
              split <;> exact fun same => by cases same
          | scheduled _ | waiting _ | loaded _ => exact fun same => by cases same
  | none =>
      rw [and_iff_right rfl]
      cases status with
      | none => exact iff_of_true rfl fun _ same => by cases same
      | some status =>
          simp only [Option.some.injEq, forall_eq']
          cases status with
          | loaded _ => exact iff_of_true rfl rfl
          | scheduled _ | waiting _ | failed _ =>
              exact iff_of_false (fun same => by cases same) fun same => by cases same

namespace World

variable {first world : World} {slot : Slot} {reader : Nat} {entry : CacheEntry Json}

/-- Keys are updated, saved and read, tasks are handled and swept, but nobody removes the slot, and
the loader of its type leaves values to be saved. -/
def Fills (slot : Slot) (world : World) (move : Move) : Prop :=
  world.ByUpdates move ∧ world.Unremoved slot move ∧
    MovesOf (·.loaders.get? slot.1 ≠ some .storing) world move

instance (slot : Slot) (world : World) (move : Move) : Decidable (Fills slot world move) :=
  inferInstanceAs (Decidable (_ ∧ _ ∧ _))

def HasUpdated (slot : Slot) (world : World) : Prop :=
  ∃ (number : Nat) (call : Call) (task : TaskId), world.calls[number]? = some call ∧
    call.operation = .update slot.1 slot.2 ∧ call.rest = .done (.started task)

/-- A reader of the slot started when an update of it had returned, and has ended with the entry. -/
def ReadAfterUpdate (slot : Slot) (first world : World) (reader : Nat) (entry : CacheEntry Json) :
    Prop :=
  ∃ (before : World) (service : Service) (call : Call), Reaches (Fills slot) first before ∧
    HasUpdated slot before ∧ before.calls.length = reader ∧
    Fills slot before (.start service (.read slot.1 slot.2)) ∧
    Reaches (Fills slot) (before.make (.start service (.read slot.1 slot.2))) world ∧
    world.calls[reader]? = some call ∧ call.rest = .done (.entry entry)

/-- A reader missed what there was of the slot. It saw no value, and then either the task of an update
that had not inserted its record, or a loaded task whose value was saved in between. -/
inductive Missed (world : World) (slot : Slot) (reader : Nat) : Prop where
  | uncreated (task : TaskId) (update : Nat) (earlier rest : List Event)
      (history : world.history = earlier ++ ⟨reader, .readTask task, .ok none⟩ :: rest)
      (nothing : ⟨reader, .readValue slot, .ok none⟩ ∈ earlier)
      (updates : world.IsUpdate update slot task)
      (pointed : ∃ event ∈ earlier, event.call = update ∧ event.step.access = .putPointer slot task)
      (uninserted : ∀ event ∈ earlier, ∀ record, event.step.access = .insertTask record →
        record.task ≠ task)
  | overtaken (task : TaskId) (record : Record) (earlier between rest : List Event)
      (history : world.history = earlier ++ ⟨reader, .readValue slot, .ok none⟩ :: (between ++
        ⟨reader, .readTask task, .ok (some record)⟩ :: rest))
      (loaded : record.status.state = .loaded)
      (unsaved : ∀ event ∈ earlier, ∀ value, event.step.access ≠ .saveValue slot value)
      (saved : ∃ event ∈ between, ∃ value, event.step.access = .saveValue slot value)

structure Read (first world : World) (slot : Slot) (reader : Nat) (entry : CacheEntry Json) : Prop where
  sound : world.Sound (·.loaders.get? slot.1 ≠ some .storing)
  scripted : world.Scripted
  owned : first.Owned world
  stocked : first.Stocked slot world
  updated : ∃ before more, world.history = before ++ more ∧ (∀ event ∈ before, event.call ≠ reader) ∧
    ∃ event ∈ before, ∃ task, event.step.access = .putPointer slot task
  ended : Script.Read slot (world.steps reader) entry

theorem first_of_filterMap {history : List Event} {number : Nat} {step : Step} {rest : List Step}
    (steps : (history.filterMap fun event => if event.call = number then some event.step else none) =
      step :: rest) :
    ∃ earlier later, history = earlier ++ ⟨number, step⟩ :: later ∧
      (later.filterMap fun event => if event.call = number then some event.step else none) = rest := by
  obtain ⟨earlier, event, later, split, _, isStep, isRest⟩ := List.filterMap_eq_cons_iff.mp steps
  split at isStep
  · next own =>
      cases isStep
      subst own
      exact ⟨earlier, later, split, isRest⟩
  · cases isStep

/-- Who makes a task the latest of a slot is an update that minted it. -/
theorem Scripted.isUpdate {services : Service → Prop} (scripted : world.Scripted)
    (sound : world.Sound services) {event : Event} (member : event ∈ world.history) {task : TaskId}
    (points : event.step.access = .putPointer slot task) : world.IsUpdate event.call slot task := by
  obtain ⟨call, before, after, called, split, permitted⟩ := scripted.of_event sound member
  rw [points] at permitted
  obtain ⟨operation, minted⟩ := Service.Script.updates_of_pointer permitted
  constructor
  · rw [operation?, called, Option.map_some, operation]
  · rw [split, minted]
    simp

theorem HasUpdated.pointed (updated : HasUpdated slot world) (scripted : world.Scripted) :
    ∃ event ∈ world.history, ∃ task, event.step.access = .putPointer slot task := by
  obtain ⟨number, call, task, called, operation, rest⟩ := updated
  have conduct := scripted.rest number call called
  rw [operation, rest] at conduct
  obtain ⟨task', now, stored, reports, _, steps, _⟩ := conduct
  have member : (⟨.putPointer slot task', .ok ()⟩ : Step) ∈ world.steps number := by
    rw [steps]
    simp [pointing]
  exact ⟨_, mem_steps.mp member, task', rfl⟩

theorem ReadAfterUpdate.read {backend : Backend} (keyed : backend.tasks.IsKeyed)
    (read : ReadAfterUpdate slot (opening backend) world reader entry) :
    Read (opening backend) world slot reader entry := by
  obtain ⟨before, service, call, reachedBefore, updated, rfl, fair, reachedAfter, called, rest⟩ := read
  have fits (world : World) (move : Move) (fair : Fills slot world move) :
      MovesOf (·.loaders.get? slot.1 ≠ some .storing) world move := fair.2.2
  have soundFirst : (opening backend).Sound (·.loaders.get? slot.1 ≠ some .storing) :=
    sound_opening _ _ keyed
  have reachedStart : Reaches (Fills slot) (opening backend)
      (before.make (.start service (.read slot.1 slot.2))) := .next reachedBefore _ fair
  have reached := reachedStart.trans reachedAfter
  have soundBefore := reachedBefore.sound soundFirst fits
  obtain ⟨⟨more, history⟩, operations⟩ := reachedAfter.goesOn (reachedStart.sound soundFirst fits) fits
  have scripted := reached.scripted keyed
  have kept : (opening backend).Owned world ∧ (opening backend).Stocked slot world := by
    refine reached.scripted_invariant (fun world => (opening backend).Owned world ∧
      (opening backend).Stocked slot world) keyed fits ⟨owned_opening _, stocked_opening _ _⟩ ?_ ?_ ?_
    · rintro world service operation sound fair ⟨owned, stocked⟩
      exact ⟨owned.start fair.1, stocked.start fair.2.1⟩
    · rintro world now ⟨owned, stocked⟩
      exact ⟨⟨owned.updates, owned.records, owned.latest⟩, ⟨stocked.kept, stocked.value,
        stocked.latest, stocked.record, stocked.loaded, stocked.justified⟩⟩
    · rintro world later number surroundings call step sound scripted advances ⟨owned, stocked⟩
      exact ⟨owned.advance scripted advances, stocked.advance sound scripted advances⟩
  obtain ⟨owned, stocked⟩ := kept
  refine ⟨reached.sound soundFirst fits, scripted, owned, stocked, ?_, ?_⟩
  · refine ⟨before.history, more, history, fun event member => ?_,
      updated.pointed (reachedBefore.scripted keyed)⟩
    exact Nat.ne_of_lt (soundBefore.numbered event member)
  · have operation : call.operation = .read slot.1 slot.2 := by
      have started : (before.make (.start service (.read slot.1 slot.2))).operation?
          before.calls.length = some (.read slot.1 slot.2) := by
        simp [operation?, make]
      have same := operations _ _ started
      rw [operation?, called, Option.map_some] at same
      exact Option.some.inj same
    have conduct := scripted.rest _ call called
    rw [operation, rest] at conduct
    obtain ⟨entry', same, ended⟩ := conduct
    cases same
    exact ended

theorem Read.explains (read : Read first world slot reader entry) {earlier later : List Event}
    {event : Event} (history : world.history = earlier ++ event :: later) :
    Explains first.backend.tasks slot (earlier.map (·.step)) event.step := by
  refine read.stocked.justified _ _ (later.map (·.step)) ?_
  rw [trace, history, List.map_append, List.map_cons]

/-- A reader sees a latest task, as one was there before it started. -/
theorem Read.points (read : Read first world slot reader entry) {earlier later : List Event}
    {pointer : Option TaskId}
    (history : world.history = earlier ++ ⟨reader, .readPointer slot, .ok pointer⟩ :: later) :
    ∃ task, pointer = some task ∧
      ∃ event ∈ earlier, event.step.access = .putPointer slot task := by
  obtain ⟨before, more, split, foreign, event, member, task, points⟩ := read.updated
  have isEarlier : event ∈ earlier := by
    rw [history] at split
    -- The update wrote before the reader started, so before any step of the reader.
    rcases List.append_eq_append_iff.mp split with ⟨rest, rfl, tail⟩ | ⟨rest, rfl, _⟩
    · cases rest with
      | nil => rwa [List.append_nil] at member
      | cons head rest =>
          obtain ⟨rfl, _⟩ := List.cons.inj tail
          exact absurd rfl (foreign _ (List.mem_append_right _ List.mem_cons_self))
    · exact List.mem_append_left _ member
  have explains := read.explains history
  have inPast : event.step ∈ earlier.map (·.step) := List.mem_map_of_mem isEarlier
  cases pointer with
  | none => exact absurd points (explains.noTask rfl event.step inPast task)
  | some latest =>
      obtain ⟨step, isStep, pointsLast⟩ := explains.latest latest rfl event.step inPast task points
      obtain ⟨last, isLast, rfl⟩ := List.mem_map.mp isStep
      exact ⟨latest, rfl, last, isLast, pointsLast⟩

/-- A reader that saw a record of the slot loaded, but no value, read it after one was saved. -/
theorem Read.overtaken (read : Read first world slot reader entry) (distinct : world.mints.Nodup)
    (new : ∀ task ∈ world.mints, first.backend.tasks.get? task = none)
    (gives : ∀ step ∈ world.trace, step.finished? ≠ some slot.1)
    {earlier between rest : List Event} {task : TaskId} {record : Record}
    (history : world.history = earlier ++ ⟨reader, .readValue slot, .ok none⟩ :: (between ++
      ⟨reader, .readTask task, .ok (some record)⟩ :: rest))
    (isUpdate : ∃ update, world.IsUpdate update slot task) (loaded : record.status.state = .loaded) :
    world.Missed slot reader := by
  obtain ⟨update, isUpdate⟩ := isUpdate
  have minted : task ∈ world.mints :=
    List.mem_filterMap.mpr ⟨_, mem_trace_of_mem_steps isUpdate.2, rfl⟩
  have atValue := read.explains history
  rw [← List.cons_append, ← List.append_assoc] at history
  have atTask := read.explains history
  have keyed := atTask.keyed task record rfl
  have isSlot : (record.type, record.key) = slot := by
    have seen : Seen world.trace record := by
      refine ⟨⟨.readTask task, .ok (some record)⟩, ?_, .read task⟩
      rw [trace, history]
      simp
    obtain ⟨current, found, becomes⟩ := read.sound.known record seen
    obtain ⟨_, type, key⟩ := becomes.frame
    rw [keyed] at found
    rw [← type, ← key]
    exact read.owned.slot_of_update distinct isUpdate (new task minted) found
  obtain ⟨finished, status⟩ : ∃ finished, record.status = .loaded finished := by
    cases status : record.status with
    | loaded finished => exact ⟨finished, rfl⟩
    | scheduled _ | waiting _ | failed _ => rw [status] at loaded; cases loaded
  have unsaved : ∀ event ∈ earlier, ∀ value, event.step.access ≠ .saveValue slot value :=
    fun event member => atValue.noValue rfl event.step (List.mem_map_of_mem member)
  have saved : ∃ event ∈ between, ∃ value, event.step.access = .saveValue slot value := by
    rcases atTask.loaded task record finished rfl status isSlot (new task minted) with
      ⟨step, member, value, saves⟩ | ⟨step, member, finished⟩
    · -- The value was saved when the task was read, but not yet when a value was looked for.
      obtain ⟨event, isEvent, rfl⟩ := List.mem_map.mp member
      rcases List.mem_append.mp isEvent with before | after
      · exact absurd saves (unsaved event before value)
      · rcases List.mem_cons.mp after with rfl | inBetween
        · cases saves
        · exact ⟨event, inBetween, value, saves⟩
    · refine absurd finished (gives step ?_)
      rw [trace, history, List.map_append]
      exact List.mem_append_left _ member
  rw [List.append_assoc, List.cons_append] at history
  exact .overtaken task record earlier between rest history loaded unsaved saved

theorem Read.missed (read : Read first world slot reader entry) (distinct : world.mints.Nodup)
    (new : ∀ task ∈ world.mints, first.backend.tasks.get? task = none)
    (gives : ∀ step ∈ world.trace, step.finished? ≠ some slot.1) {task : TaskId}
    {record : Option Record}
    (steps : world.steps reader = [⟨.readValue slot, .ok none⟩, ⟨.readPointer slot, .ok (some task)⟩,
      ⟨.readTask task, .ok record⟩])
    (loaded : ∀ current ∈ record, current.status.state = .loaded) : world.Missed slot reader := by
  obtain ⟨earlier, _, history, afterValue⟩ := first_of_filterMap steps
  obtain ⟨middle, _, rfl, afterPointer⟩ := first_of_filterMap afterValue
  obtain ⟨last, rest, rfl, _⟩ := first_of_filterMap afterPointer
  have atPointer := history
  rw [← List.cons_append, ← List.append_assoc] at atPointer
  obtain ⟨_, same, event, member, points⟩ := read.points atPointer
  cases same
  have isUpdate : world.IsUpdate event.call slot task := by
    refine read.scripted.isUpdate read.sound ?_ points
    rw [atPointer]
    exact List.mem_append_left _ member
  cases record with
  | some record =>
      have atTask : world.history = earlier ++ ⟨reader, .readValue slot, .ok none⟩ ::
          ((middle ++ ⟨reader, .readPointer slot, .ok (some task)⟩ :: last) ++
            ⟨reader, .readTask task, .ok (some record)⟩ :: rest) := by
        rw [history, List.append_assoc, List.cons_append]
      exact read.overtaken distinct new gives atTask ⟨_, isUpdate⟩ (loaded record rfl)
  | none =>
      have atTask : world.history = (earlier ++ ⟨reader, .readValue slot, .ok none⟩ :: (middle ++
          ⟨reader, .readPointer slot, .ok (some task)⟩ :: last)) ++
            ⟨reader, .readTask task, .ok none⟩ :: rest := by
        simp [history]
      refine .uncreated task event.call _ rest atTask (by simp) isUpdate ⟨event, ?_, rfl, points⟩ ?_
      · rw [← List.cons_append, ← List.append_assoc]
        exact List.mem_append_left _ member
      · intro other isOther record inserts
        exact (read.explains atTask).noRecord task rfl other.step (List.mem_map_of_mem isOther)
          record inserts

theorem Missed.shown (missed : world.Missed slot reader) :
    ⟨.readValue slot, .ok none⟩ ∈ world.steps reader ∧
      ∃ task record, ⟨.readTask task, .ok record⟩ ∈ world.steps reader ∧
        ∀ current ∈ record, current.status.state = .loaded := by
  simp only [mem_steps]
  cases missed with
  | uncreated task update earlier rest history nothing =>
      rw [history]
      exact ⟨List.mem_append_left _ nothing, task, none, by simp, by simp⟩
  | overtaken task record earlier between rest history loaded =>
      rw [history]
      refine ⟨by simp, task, some record, by simp, fun current same => ?_⟩
      cases same
      exact loaded

/-- A reader that started when an update of its key had returned finds nothing if and only if it missed
what there was: it saw no value, and then either the task of another update that had not inserted its
record, or a loaded task whose value was saved after it had looked for one. Otherwise it gets the
pending task, its failure, or a value. Accesses interleave in any way, and stores hold anything at
first; tasks are minted once, and loaders of the type leave a value when they end well. -/
theorem absent_iff_missed {backend : Backend} {records : List Record}
    (read : ReadAfterUpdate slot (opening { backend with tasks := .ofRecords records }) world reader
      entry)
    (distinct : world.mints.Nodup) (new : ∀ record ∈ records, record.task ∉ world.mints)
    (gives : ∀ step ∈ world.trace, step.finished? ≠ some slot.1) :
    entry = .notAvailable ↔ world.Missed slot reader := by
  have read := read.read (TaskStore.isKeyed_ofRecords records)
  have fresh : ∀ task ∈ world.mints, (TaskStore.ofRecords records).get? task = none := by
    intro task minted
    refine TaskStore.get?_ofRecords_eq_none fun record member same => new record member ?_
    rwa [same]
  have ended := read.ended
  generalize steps : world.steps reader = past at ended
  cases ended with
  | untracked value =>
      -- A reader that started after the update does find a latest task.
      obtain ⟨_, _, history, afterValue⟩ := first_of_filterMap steps
      obtain ⟨_, _, rfl, _⟩ := first_of_filterMap afterValue
      rw [← List.cons_append, ← List.append_assoc] at history
      obtain ⟨_, same, _⟩ := read.points history
      cases same
  | tracked value task record =>
      rw [CacheEntry.compose_eq_notAvailable]
      constructor
      · rintro ⟨rfl, loaded⟩
        exact read.missed distinct fresh gives steps fun current found =>
          loaded current.status (congrArg (Option.map (·.status)) found)
      · intro missed
        obtain ⟨noValue, task', record', shown, loaded⟩ := missed.shown
        simp only [steps, List.mem_cons, List.not_mem_nil, or_false] at noValue shown
        have isNone : value = none := by
          rcases noValue with same | same | same <;> cases same
          rfl
        have isRecord : record' = record := by
          rcases shown with same | same | same <;> cases same
          rfl
        subst isRecord
        refine ⟨isNone, fun status found => ?_⟩
        obtain ⟨current, isCurrent, rfl⟩ := Option.map_eq_some_iff.mp found
        exact loaded current isCurrent

end World

/-- A service whose one loader leaves its values to be saved. -/
def Service.filling : Service :=
  { (default : Service) with loaders := Table.empty.insert default .caching }

namespace World

def updated : World := (opening default).run
  ([.start .filling (.update default "")] ++ List.replicate 6 (.advance 0 .calm))

/-- A reader comes along when another update has put its task, but not inserted the record. -/
def behindUpdate : World := (updated.make (.start .filling (.read default ""))).run
  ([.start .filling (.update default ""), .advance 2 .calm, .advance 2 .calm] ++
    List.replicate 3 (.advance 1 .calm))

/-- A reader looks for a value just before the first one is saved, and for the task when it is loaded. -/
def behindSave : World := (updated.make (.start .filling (.read default ""))).run
  ([.advance 1 .calm, .start .filling (.handle ⟨default, "", .minted 0 1, 0⟩)] ++
    List.replicate 7 (.advance 2 { Surroundings.calm with loaded := .value .null }) ++
    List.replicate 2 (.advance 1 .calm))

theorem readAfterUpdate_behindUpdate :
    ReadAfterUpdate (default, "") (opening default) behindUpdate 1 .notAvailable :=
  ⟨updated, .filling, _, .run (by decide +kernel), ⟨0, _, .minted 0 1, rfl, rfl, rfl⟩, by decide +kernel,
    by decide +kernel, .run (by decide +kernel), rfl, rfl⟩

theorem readAfterUpdate_behindSave :
    ReadAfterUpdate (default, "") (opening default) behindSave 1 .notAvailable :=
  ⟨updated, .filling, _, .run (by decide +kernel), ⟨0, _, .minted 0 1, rfl, rfl, rfl⟩, by decide +kernel,
    by decide +kernel, .run (by decide +kernel), rfl, rfl⟩

theorem missed_behindUpdate :
    ReadAfterUpdate (default, "") (opening { (default : Backend) with tasks := .ofRecords [] })
        behindUpdate 1 .notAvailable ∧
      behindUpdate.mints.Nodup ∧ (∀ step ∈ behindUpdate.trace, step.finished? ≠ some default) ∧
      behindUpdate.Missed (default, "") 1 := by
  have read : ReadAfterUpdate (default, "")
      (opening { (default : Backend) with tasks := .ofRecords [] }) behindUpdate 1 .notAvailable :=
    readAfterUpdate_behindUpdate
  have distinct : behindUpdate.mints.Nodup := by decide +kernel
  have gives : ∀ step ∈ behindUpdate.trace, step.finished? ≠ some default := by decide +kernel
  exact ⟨read, distinct, gives, (absent_iff_missed read distinct (by simp) gives).mp rfl⟩

/-- A reader may find nothing of a key after an update of it has returned, in either way. -/
theorem absent_after_update :
    (ReadAfterUpdate (default, "") (opening default) behindUpdate 1 .notAvailable ∧
      behindUpdate.mints.Nodup ∧ ∀ step ∈ behindUpdate.trace, step.finished? ≠ some default) ∧
    ReadAfterUpdate (default, "") (opening default) behindSave 1 .notAvailable ∧
      behindSave.mints.Nodup ∧ ∀ step ∈ behindSave.trace, step.finished? ≠ some default :=
  ⟨⟨readAfterUpdate_behindUpdate, by decide +kernel, by decide +kernel⟩,
    readAfterUpdate_behindSave, by decide +kernel, by decide +kernel⟩

end World

end CacheFill
