import CacheFill.Proofs.Cache.Turns
import CacheFill.Proofs.Concurrency.Script
import Mathlib.Data.List.Pairwise

/-!
Who a task belongs to. In runs in which tasks are created by updates only, the latest task of a key
and the record of a task both go back to the update that minted the task, unless they were there at
first. So if no task is minted twice, the task that an update minted has a record of its key or none.
Main statement: `Owned.slot_of_update`.
-/

set_option autoImplicit false

namespace CacheFill

open Script

def Step.minted? : Step → Option TaskId
  | ⟨.mint, task⟩ => some task
  | _ => none

namespace Script

variable {type : LoadType} {key : String} {past : List Step}

/-- An update inserts the record of the task that it minted. -/
theorem Updates.of_insert {record : Record} (updates : Updates type key past (.insertTask record)) :
    record.type = type ∧ record.key = key ∧ ⟨.mint, record.task⟩ ∈ past := by
  cases updates with
  | schedule task schedules =>
      cases schedules with
      | insert now => exact ⟨rfl, rfl, by simp [pointing, Record.created]⟩
      | report _ report => cases report

/-- An update makes the task that it minted the latest of its key. -/
theorem Updates.of_pointer {slot : Slot} {task : TaskId}
    (updates : Updates type key past (.putPointer slot task)) :
    slot = (type, key) ∧ past = [⟨.mint, task⟩] := by
  cases updates with
  | point => exact ⟨rfl, rfl⟩
  | schedule task schedules =>
      cases schedules with
      | report _ report => cases report

end Script

/-- Nobody but an update makes a task the latest of a key. -/
theorem Service.Script.updates_of_pointer {service : Service} {operation : Operation}
    {past : List Step} {slot : Slot} {task : TaskId}
    (permitted : service.Script operation past (.putPointer slot task)) :
    operation = .update slot.1 slot.2 ∧ past = [⟨.mint, task⟩] := by
  cases operation with
  | update type key =>
      obtain ⟨rfl, first⟩ := Updates.of_pointer permitted
      exact ⟨rfl, first⟩
  | read _ _ | save _ _ _ | remove _ _ => cases permitted
  | sweep => cases permitted
  | schedule _ _ _ =>
      cases permitted with
      | report _ report => cases report
  | handle _ =>
      cases permitted with
      | report _ report => cases report

/-- Only a call that removes a key makes an access by which something of it is removed. -/
theorem Service.Script.removes {service : Service} {operation : Operation} {past : List Step}
    {slot : Slot} {access : Access} (removal : access = .removeValue slot ∨ access = .removePointer slot)
    (permitted : service.Script operation past access) : operation = .remove slot.1 slot.2 := by
  cases operation with
  | remove type key =>
      cases permitted with
      | value =>
          rcases removal with same | same
          · cases same
            rfl
          · cases same
      | pointer =>
          rcases removal with same | same
          · cases same
          · cases same
            rfl
  | read _ _ | save _ _ _ => rcases removal with rfl | rfl <;> cases permitted
  | sweep => rcases removal with rfl | rfl <;> cases permitted
  | schedule _ _ _ =>
      rcases removal with rfl | rfl <;> cases permitted <;> next report => cases report
  | handle _ => rcases removal with rfl | rfl <;> cases permitted <;> next report => cases report
  | update _ _ =>
      rcases removal with rfl | rfl <;> cases permitted <;>
        (next schedules => cases schedules; next report => cases report)

namespace World

variable {first world later : World} {surroundings : Surroundings} {number : Nat} {call : Call}
  {step : Step}

def mints (world : World) : List TaskId := world.trace.filterMap Step.minted?

/-- The call is an update of the key, and has minted the task. -/
def IsUpdate (world : World) (number : Nat) (slot : Slot) (task : TaskId) : Prop :=
  world.operation? number = some (.update slot.1 slot.2) ∧ ⟨.mint, task⟩ ∈ world.steps number

def ByUpdates (_ : World) : Move → Prop
  | .start _ (.schedule _ _ _) => False
  | _ => True

instance (world : World) (move : Move) : Decidable (world.ByUpdates move) := by
  unfold ByUpdates
  split <;> infer_instance

/-- If no task was minted twice, a task belongs to one update. -/
theorem IsUpdate.unique {one other : Nat} {first second : Slot} {task : TaskId}
    (distinct : world.mints.Nodup) (isOne : world.IsUpdate one first task)
    (isOther : world.IsUpdate other second task) : one = other ∧ first = second := by
  have apart : world.history.Pairwise fun earlier later =>
      earlier.step.minted? = some task → later.step.minted? ≠ some task := by
    have pairs := distinct
    rw [World.mints, World.trace, List.filterMap_map, List.Nodup, List.pairwise_filterMap] at pairs
    refine pairs.imp fun {earlier later} different isEarlier isLater => ?_
    exact different task isEarlier task isLater rfl
  have symmetric : Std.Symm fun earlier later : Event =>
      earlier.step.minted? = some task → later.step.minted? ≠ some task :=
    ⟨fun _ _ apart isLater isEarlier => apart isEarlier isLater⟩
  -- Two calls that minted the task would stand in the history as two events.
  have same : one = other := by
    by_contra different
    have events : (⟨one, .mint, task⟩ : Event) ≠ ⟨other, .mint, task⟩ := fun same =>
      different (congrArg Event.call same)
    exact apart.forall (mem_steps.mp isOne.2) (mem_steps.mp isOther.2) events rfl rfl
  subst same
  have operations := isOne.1.symm.trans isOther.1
  obtain ⟨types, keys⟩ := Operation.update.inj (Option.some.inj operations)
  exact ⟨rfl, Prod.ext types keys⟩

theorem Advances.isUpdate (advances : world.Advances surroundings later number call step)
    {other : Nat} {slot : Slot} {task : TaskId} (isUpdate : world.IsUpdate other slot task) :
    later.IsUpdate other slot task := by
  refine ⟨(advances.same_calls other).1.trans isUpdate.1, ?_⟩
  rw [advances.steps]
  split
  · exact List.mem_append_left _ isUpdate.2
  · exact isUpdate.2

structure Owned (first world : World) : Prop where
  updates : ∀ number type key task, world.operation? number ≠ some (.schedule type key task)
  records : ∀ task record, world.backend.tasks.get? task = some record →
    first.backend.tasks.get? task = none →
      ∃ number, world.IsUpdate number (record.type, record.key) task
  latest : ∀ slot task, world.backend.pointers.get? slot = some task →
    (∃ number, world.IsUpdate number slot task) ∨ first.backend.pointers.get? slot = some task

theorem owned_opening (backend : Backend) : (opening backend).Owned (opening backend) := by
  constructor
  · intro number type key task called
    cases called
  · intro task record found new
    rw [found] at new
    cases new
  · intro slot task found
    exact .inr found

theorem Owned.start (owned : first.Owned world) {service : Service} {operation : Operation}
    (fair : world.ByUpdates (.start service operation)) :
    first.Owned (world.make (.start service operation)) := by
  have isUpdate {number : Nat} {slot : Slot} {task : TaskId} (is : world.IsUpdate number slot task) :
      (world.make (.start service operation)).IsUpdate number slot task :=
    ⟨operation?_of_start is.1, is.2⟩
  constructor
  · intro number type key task called
    rcases operation_of_start called with old | rfl
    · exact owned.updates number type key task old
    · exact fair
  · intro task record found new
    obtain ⟨number, is⟩ := owned.records task record found new
    exact ⟨number, isUpdate is⟩
  · intro slot task found
    rcases owned.latest slot task found with ⟨number, is⟩ | old
    · exact .inl ⟨number, isUpdate is⟩
    · exact .inr old

/-- The record of a task is put there by the update that minted it, and rewritten in place. -/
theorem Owned.records_advance (owned : first.Owned world) (scripted : world.Scripted)
    (advances : world.Advances surroundings later number call step)
    {task : TaskId} {record : Record} (found : later.backend.tasks.get? task = some record)
    (new : first.backend.tasks.get? task = none) :
    ∃ other, world.IsUpdate other (record.type, record.key) task := by
  have rewritten (old : Record) (stored : world.backend.tasks.get? old.task = some old)
      (status : Status) (resume : Option Json)
      (put : (world.backend.tasks.put (old.next status resume)).get? task = some record) :
      ∃ other, world.IsUpdate other (record.type, record.key) task := by
    rw [TaskStore.get?_put] at put
    split at put
    · next same =>
        cases put
        rw [same] at new ⊢
        exact owned.records old.task old stored new
    · exact owned.records task record put new
  have permitted := scripted.permitted advances
  have effect := advances.effect
  generalize later.backend.tasks = tasks at effect found
  cases effect with
  | insert given now schedules _ idle absent =>
      rw [TaskStore.get?_put] at found
      split at found
      · next same =>
          cases found
          cases operation : call.operation with
          | update type key =>
              rw [operation] at permitted
              obtain ⟨isType, isKey, minted⟩ := Updates.of_insert permitted
              refine ⟨number, ?_, same ▸ minted⟩
              rw [advances.operation?, operation, ← isType, ← isKey]
          | schedule type key task' =>
              exact absurd (operation ▸ advances.operation?) (owned.updates number type key task')
          | _ =>
              rw [operation] at schedules
              cases schedules
      · exact owned.records task record found new
  | commit _ old _ _ _ _ _ _ _ _ _ stored next isNext =>
      subst isNext
      exact rewritten old stored _ _ found
  | retry old _ _ _ _ _ _ _ stored next isNext =>
      subst isNext
      exact rewritten old stored _ _ found
  | giveUp old _ _ _ _ _ _ stored next isNext _ _ =>
      subst isNext
      exact rewritten old stored _ _ found
  | _ => exact owned.records task record found new

theorem Owned.latest_advance (owned : first.Owned world) (scripted : world.Scripted)
    (advances : world.Advances surroundings later number call step) {slot : Slot} {task : TaskId}
    (found : later.backend.pointers.get? slot = some task) :
    (∃ other, world.IsUpdate other slot task) ∨ first.backend.pointers.get? slot = some task := by
  have permitted := scripted.permitted advances
  have turn := advances.pointer slot
  generalize later.backend.pointers.get? slot = pointer at turn found
  cases turn with
  | pointed task' points =>
      cases found
      rw [points] at permitted
      obtain ⟨updates, past⟩ := Service.Script.updates_of_pointer permitted
      exact .inl ⟨number, updates ▸ advances.operation?, by rw [past]; simp⟩
  | removed _ => cases found
  | kept _ _ => exact owned.latest slot task found

theorem Owned.advance (owned : first.Owned world) (scripted : world.Scripted)
    (advances : world.Advances surroundings later number call step) : first.Owned later := by
  constructor
  · intro other type key task
    rw [(advances.same_calls other).1]
    exact owned.updates other type key task
  · intro task record found new
    obtain ⟨other, is⟩ := owned.records_advance scripted advances found new
    exact ⟨other, advances.isUpdate is⟩
  · intro slot task found
    rcases owned.latest_advance scripted advances found with ⟨other, is⟩ | old
    · exact .inl ⟨other, advances.isUpdate is⟩
    · exact .inr old

theorem Reaches.owned {fair : World → Move → Prop} {backend : Backend}
    (reached : Reaches fair (opening backend) world) (keyed : backend.tasks.IsKeyed)
    (byUpdates : ∀ world move, fair world move → world.ByUpdates move) :
    (opening backend).Owned world := by
  have fits : ∀ world move, fair world move → MovesOf (fun _ => True) world move :=
    fun _ _ _ => movesOf_any
  apply reached.scripted_invariant (opening backend).Owned keyed fits (owned_opening backend)
  · exact fun _ _ _ _ isFair owned => owned.start (byUpdates _ _ isFair)
  · exact fun _ _ owned => ⟨owned.updates, owned.records, owned.latest⟩
  · exact fun _ _ _ _ _ _ _ scripted advances owned => owned.advance scripted advances

/-- The task that an update minted has a record of its key, if it has one. -/
theorem Owned.slot_of_update (owned : first.Owned world) (distinct : world.mints.Nodup) {slot : Slot}
    {task : TaskId} {record : Record} (isUpdate : world.IsUpdate number slot task)
    (new : first.backend.tasks.get? task = none)
    (found : world.backend.tasks.get? task = some record) : (record.type, record.key) = slot := by
  obtain ⟨one, isOne⟩ := owned.records task record found new
  exact (isOne.unique distinct isUpdate).2

end World

end CacheFill
