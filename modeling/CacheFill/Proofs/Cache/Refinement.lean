import CacheFill.Proofs.Cache.Ownership

/-!
The cache as a summary of what was done to it. A run leaves a history of saves, removals and latest
tasks; what a reader sees of a key is the newest save since the last removal together with the status
of the latest task, and nothing else in the history matters to it. Main statement:
`view_refines_history`.
-/

set_option autoImplicit false

namespace CacheFill

open Script Program

namespace Step

/-- Keeps account of the saves to a slot since it was last removed. -/
def trackSaves (slot : Slot) (saves : List (CachedValue Json)) (step : Step) :
    List (CachedValue Json) :=
  match step.access with
  | .saveValue at_ value => if at_ = slot then saves ++ [value] else saves
  | .removeValue at_ => if at_ = slot then [] else saves
  | _ => saves

/-- Keeps account of the latest task of a slot. -/
def trackTask (slot : Slot) (latest : Option TaskId) (step : Step) : Option TaskId :=
  match step.access with
  | .putPointer at_ task => if at_ = slot then some task else latest
  | .removePointer at_ => if at_ = slot then none else latest
  | _ => latest

variable {slot : Slot} {step : Step}

theorem trackSaves_of_kept {saves : List (CachedValue Json)}
    (unsaved : ∀ value, step.access ≠ .saveValue slot value)
    (unremoved : step.access ≠ .removeValue slot) : step.trackSaves slot saves = saves := by
  obtain ⟨access, answer⟩ := step
  cases access with
  | saveValue at_ value => exact if_neg fun same => unsaved value (by rw [same])
  | removeValue at_ => exact if_neg fun same => unremoved (by rw [same])
  | _ => rfl

theorem trackTask_of_kept {latest : Option TaskId}
    (unpointed : ∀ task, step.access ≠ .putPointer slot task)
    (unremoved : step.access ≠ .removePointer slot) : step.trackTask slot latest = latest := by
  obtain ⟨access, answer⟩ := step
  cases access with
  | putPointer at_ task => exact if_neg fun same => unpointed task (by rw [same])
  | removePointer at_ => exact if_neg fun same => unremoved (by rw [same])
  | _ => rfl

end Step

namespace World

/-- The saves to a slot since it was last removed, the oldest first. -/
def saves (world : World) (slot : Slot) : List (CachedValue Json) :=
  world.trace.foldl (Step.trackSaves slot) []

/-- The task of the last update of a slot since it was last removed. -/
def latest? (world : World) (slot : Slot) : Option TaskId :=
  world.trace.foldl (Step.trackTask slot) none

def latestStatus? (world : World) (slot : Slot) : Option Status :=
  ((world.latest? slot).bind world.backend.tasks.get?).map (·.status)

end World

namespace View

variable {α : Type}

/-- The stored value as a value of the view. -/
def decoded (view : View α) : Option (CachedValue Json) → Except Failure (Option (CachedValue α))
  | none => .ok none
  | some value =>
      match view.decode value.data with
      | some data => .ok (some ⟨data, value.cachedAt⟩)
      | none => .error .undecodable

/-- What a reader finds who is not interrupted. -/
def entry (view : View α) (key : String) (backend : Backend) : Except Failure (CacheEntry α) :=
  (view.decoded (backend.values.get? (view.slot key))).map fun value =>
    .compose value
      (((backend.pointers.get? (view.slot key)).bind backend.tasks.get?).map (·.status))

theorem run_get (view : View α) (key : String) (surroundings : Surroundings) (backend : Backend) :
    (view.get key).run surroundings.perform backend = (view.entry key backend, backend) := by
  have value : surroundings.perform (.readValue (view.slot key)) backend =
    (.ok (backend.values.get? (view.slot key)), backend) := rfl
  have pointer : surroundings.perform (.readPointer (view.slot key)) backend =
    (.ok (backend.pointers.get? (view.slot key)), backend) := rfl
  simp only [get, bind_eq, pure_eq, readValue, readPointer, perform_bind, run_perform, value, ofStore,
    done_bind, entry]
  cases stored : backend.values.get? (view.slot key) with
  | none =>
      simp only [decodeValue, decoded, done_bind, run_perform, pointer]
      cases backend.pointers.get? (view.slot key) <;> rfl
  | some value =>
      simp only [decodeValue, decoded]
      cases view.decode value.data with
      | none => rfl
      | some data =>
          simp only [done_bind, run_perform, pointer]
          cases backend.pointers.get? (view.slot key) <;> rfl

theorem decoded_encode {view : View α} (lawful : ∀ data, view.decode (view.encode data) = some data)
    (value : Option (CachedValue α)) :
    view.decoded (value.map (·.map view.encode)) = .ok value := by
  cases value with
  | none => rfl
  | some value => simp only [decoded, Option.map_some, CachedValue.map, lawful]

end View

namespace World

variable {first world later : World} {surroundings : Surroundings} {number : Nat} {call : Call}
  {step : Step}

theorem Advances.saves (advances : world.Advances surroundings later number call step)
    (slot : Slot) : later.saves slot = step.trackSaves slot (world.saves slot) := by
  simp only [World.saves, advances.trace, List.foldl_append, List.foldl_cons, List.foldl_nil]

theorem Advances.latest? (advances : world.Advances surroundings later number call step)
    (slot : Slot) : later.latest? slot = step.trackTask slot (world.latest? slot) := by
  simp only [World.latest?, advances.trace, List.foldl_append, List.foldl_cons, List.foldl_nil]

structure Remembers (world : World) : Prop where
  newest : ∀ slot, IsNewest (world.saves slot) (world.backend.values.get? slot)
  latest : ∀ slot, world.latest? slot = world.backend.pointers.get? slot

theorem remembers_opening (backend : Backend) (noValues : backend.values = .empty)
    (noPointers : backend.pointers = .empty) : (opening backend).Remembers := by
  constructor
  · intro slot
    rw [opening, noValues]
    exact .none rfl
  · intro slot
    rw [opening, noPointers]
    rfl

theorem Remembers.newest_advance (remembers : world.Remembers)
    (advances : world.Advances surroundings later number call step) (slot : Slot) :
    IsNewest (later.saves slot) (later.backend.values.get? slot) := by
  have newest := remembers.newest slot
  have turn := advances.value slot
  rw [advances.saves]
  generalize later.backend.values.get? slot = value at turn ⊢
  cases turn with
  | saved value saves =>
      rw [Step.trackSaves, saves]
      simp only [if_true]
      exact newest.save value
  | removed removes =>
      rw [Step.trackSaves, removes]
      simp only [if_true]
      exact .none rfl
  | kept unsaved unremoved =>
      rw [Step.trackSaves_of_kept unsaved unremoved]
      exact newest

theorem Remembers.latest_advance (remembers : world.Remembers)
    (advances : world.Advances surroundings later number call step) (slot : Slot) :
    later.latest? slot = later.backend.pointers.get? slot := by
  have latest := remembers.latest slot
  have turn := advances.pointer slot
  rw [advances.latest?]
  generalize later.backend.pointers.get? slot = pointer at turn ⊢
  cases turn with
  | pointed task points =>
      rw [Step.trackTask, points]
      simp only [if_true]
  | removed removes =>
      rw [Step.trackTask, removes]
      simp only [if_true]
  | kept unpointed unremoved =>
      rw [Step.trackTask_of_kept unpointed unremoved]
      exact latest

theorem Remembers.advance (remembers : world.Remembers)
    (advances : world.Advances surroundings later number call step) : later.Remembers :=
  ⟨remembers.newest_advance advances, remembers.latest_advance advances⟩

theorem Reaches.remembers {fair : World → Move → Prop} {backend : Backend}
    (reached : Reaches fair (opening backend) world) (keyed : backend.tasks.IsKeyed)
    (noValues : backend.values = .empty) (noPointers : backend.pointers = .empty) :
    world.Remembers := by
  apply reached.invariant Remembers (sound_opening (fun _ => True) backend keyed)
    (fun _ _ _ => movesOf_any) (remembers_opening backend noValues noPointers)
  · exact fun _ _ _ _ _ remembers => ⟨remembers.newest, remembers.latest⟩
  · exact fun _ _ remembers => ⟨remembers.newest, remembers.latest⟩
  · exact fun _ _ _ _ _ _ _ _ advances remembers => remembers.advance advances

/-- What a step may be that changes what is read of a slot: a save to it, a step of a call that
updates or removes it, or a write to the record of its latest task, which is a record of the slot. -/
inductive Concerns (world : World) (slot : Slot) (number : Nat) (step : Step) : Prop where
  | saves (value : CachedValue Json) (saves : step.access = .saveValue slot value)
  | updates (updates : world.operation? number = some (.update slot.1 slot.2))
  | removes (removes : world.operation? number = some (.remove slot.1 slot.2))
  | writes (record : Record) (written : step.written? = some record)
      (latest : world.latest? slot = some record.task) (same : (record.type, record.key) = slot)

theorem concerns_of_value (scripted : world.Scripted)
    (advances : world.Advances surroundings later number call step) {slot : Slot}
    (changed : later.backend.values.get? slot ≠ world.backend.values.get? slot) :
    world.Concerns slot number step := by
  have permitted := scripted.permitted advances
  have turn := advances.value slot
  generalize later.backend.values.get? slot = value at turn changed
  cases turn with
  | saved value saves => exact .saves value saves
  | removed removes =>
      have operation := Service.Script.removes (.inl removes) permitted
      exact .removes (operation ▸ advances.operation?)
  | kept _ _ => exact absurd rfl changed

theorem concerns_of_pointer (scripted : world.Scripted)
    (advances : world.Advances surroundings later number call step) {slot : Slot}
    (changed : later.backend.pointers.get? slot ≠ world.backend.pointers.get? slot) :
    world.Concerns slot number step := by
  have permitted := scripted.permitted advances
  have turn := advances.pointer slot
  generalize later.backend.pointers.get? slot = pointer at turn changed
  cases turn with
  | pointed task points =>
      rw [points] at permitted
      obtain ⟨operation, _⟩ := Service.Script.updates_of_pointer permitted
      exact .updates (operation ▸ advances.operation?)
  | removed removes =>
      have operation := Service.Script.removes (.inr removes) permitted
      exact .removes (operation ▸ advances.operation?)
  | kept _ _ => exact absurd rfl changed

theorem concerns_of_entry {α : Type} {services : Service → Prop} {view : View α} {key : String}
    (sound : world.Sound services) (scripted : world.Scripted) (remembers : world.Remembers)
    (owned : first.Owned later) (noTasks : first.backend.tasks = .empty)
    (noPointers : first.backend.pointers = .empty) (distinct : later.mints.Nodup)
    (advances : world.Advances surroundings later number call step)
    (changed : view.entry key later.backend ≠ view.entry key world.backend) :
    world.Concerns (view.slot key) number step := by
  by_cases values : later.backend.values.get? (view.slot key) =
      world.backend.values.get? (view.slot key)
  swap
  · exact concerns_of_value scripted advances values
  by_cases pointers : later.backend.pointers.get? (view.slot key) =
      world.backend.pointers.get? (view.slot key)
  swap
  · exact concerns_of_pointer scripted advances pointers
  have latest := remembers.latest (view.slot key)
  simp only [View.entry, values, pointers] at changed
  cases pointer : world.backend.pointers.get? (view.slot key) with
  | none =>
      rw [pointer] at changed
      exact absurd rfl changed
  | some task =>
      simp only [pointer, Option.bind_some] at changed
      cases found : later.backend.tasks.get? task with
      | none =>
          cases stored : world.backend.tasks.get? task with
          | none =>
              rw [found, stored] at changed
              exact absurd rfl changed
          | some old =>
              -- Records are never deleted.
              have fits := sound.fits number call advances.called
              obtain ⟨current, isCurrent, _⟩ := advances.effect.becomes fits stored
              rw [found] at isCurrent
              cases isCurrent
      | some record =>
          have ownSlot : (record.type, record.key) = view.slot key := by
            rcases owned.latest _ task (pointers.trans pointer) with ⟨other, is⟩ | old
            · exact owned.slot_of_update distinct is (noTasks ▸ rfl) found
            · rw [noPointers] at old
              cases old
          -- Value and latest task are as before, so it is the record of that task that changed.
          rcases advances.effect.stored_or_written found with stored | written
          · rw [found, stored] at changed
            exact absurd rfl changed
          · have keyed := (sound.of_advances advances).keyed task record found
            refine .writes record written ?_ ownSlot
            rw [latest, pointer, keyed]

/-- The cache goes by its history. Keys are updated, saved, removed and read, dispatches handled, and
tasks swept, on services of any settings, with accesses interleaved in any way; only updates create
tasks. If the saves to a key are of values that the view reads back as they were, then a reader gets
the newest of those since the last removal, together with the status of the task of the last update
since then. The accesses in the history are those of the calls: each call goes by the script of its
operation, to the end if it ends well. And unless a task is minted twice, what a reader gets is only
changed by steps that concern the key. -/
theorem view_refines_history {α : Type} {backend : Backend} {world : World} (view : View α)
    (lawful : ∀ data, view.decode (view.encode data) = some data)
    (reached : Reaches ByUpdates (opening { backend with
      tasks := .empty, values := .empty, pointers := .empty }) world)
    (key : String) (surroundings : Surroundings) :
    (∀ saves, world.saves (view.slot key) = saves.map (·.map view.encode) →
      ∃ value, IsNewest saves value ∧
        (view.get key).run surroundings.perform world.backend =
          (.ok (.compose value (world.latestStatus? (view.slot key))), world.backend)) ∧
      (∀ number call, world.calls[number]? = some call →
        Permitted (call.service.Script call.operation) (world.steps number) ∧
          ∀ reply, call.rest = .done reply →
            call.service.ScriptEnds call.operation (world.steps number) (.ok reply)) ∧
      ∀ move, (world.make move).mints.Nodup →
        ((view.get key).run surroundings.perform (world.make move).backend).1 ≠
          ((view.get key).run surroundings.perform world.backend).1 →
        ∃ number step, (world.make move).history = world.history ++ [⟨number, step⟩] ∧
          world.Concerns (view.slot key) number step := by
  let first := opening { backend with tasks := .empty, values := .empty, pointers := .empty }
  have soundFirst : first.Sound (fun _ => True) := sound_opening _ _ TaskStore.isKeyed_empty
  have sound := reached.sound soundFirst fun _ _ _ => movesOf_any
  have scripted := reached.scripted TaskStore.isKeyed_empty
  have kept : world.Remembers ∧ first.Owned world := by
    refine reached.scripted_invariant (fun world => world.Remembers ∧ first.Owned world)
      TaskStore.isKeyed_empty (fun _ _ _ => movesOf_any)
      ⟨remembers_opening _ rfl rfl, owned_opening _⟩ ?_ ?_ ?_
    · rintro world service operation sound fair ⟨remembers, owned⟩
      exact ⟨⟨remembers.newest, remembers.latest⟩, owned.start fair⟩
    · rintro world now ⟨remembers, owned⟩
      exact ⟨⟨remembers.newest, remembers.latest⟩, ⟨owned.updates, owned.records, owned.latest⟩⟩
    · rintro world later number surroundings call step _ scripted advances ⟨remembers, owned⟩
      exact ⟨remembers.advance advances, owned.advance scripted advances⟩
  obtain ⟨remembers, owned⟩ := kept
  refine ⟨?_, ?_, ?_⟩
  · intro saves typed
    have newest := remembers.newest (view.slot key)
    rw [typed] at newest
    obtain ⟨value, stored, isNewest⟩ := newest.of_map
    refine ⟨value, isNewest, ?_⟩
    rw [View.run_get, View.entry, stored, View.decoded_encode lawful, ← remembers.latest]
    rfl
  · intro number call called
    refine ⟨scripted.past number call called, fun reply ended => ?_⟩
    have conduct := scripted.rest number call called
    rw [ended] at conduct
    exact conduct
  · intro move distinct changed
    rw [View.run_get, View.run_get] at changed
    cases move with
    | start service operation => exact absurd rfl changed
    | setClock now => exact absurd rfl changed
    | advance number surroundings =>
        rcases sound.advance number surroundings with same | ⟨call, step, advances⟩
        · rw [same] at changed
          exact absurd rfl changed
        · generalize world.make (.advance number surroundings) = later at *
          exact ⟨number, step, advances.history, concerns_of_entry sound scripted remembers
            (owned.advance scripted advances) rfl rfl distinct advances changed⟩

/-- A key is updated after a value was saved, and another one with the clock set back. -/
def remembered : World := (opening default).run
  ([.setClock .latest, .start .single (.save default "" (.string "new")),
    .advance 0 .calm, .advance 0 .calm, .setClock .epoch,
    .start .single (.save default "" (.string "old")), .advance 1 .calm, .advance 1 .calm,
    .start .single (.update default "")] ++ List.replicate 6 (.advance 2 .calm))

theorem newest_remembered :
    Reaches ByUpdates (opening { (default : Backend) with
        tasks := .empty, values := .empty, pointers := .empty }) remembered ∧
      (∃ value, IsNewest (remembered.saves (default, "")) value ∧
        ((View.json default).get "").run Surroundings.calm.perform remembered.backend =
          (.ok (.compose value (remembered.latestStatus? (default, ""))), remembered.backend)) ∧
      (remembered.saves (default, "")).map (·.cachedAt) = [.latest, .epoch] ∧
      (remembered.backend.values.get? (default, "")).map (·.cachedAt) = some .latest ∧
      remembered.latestStatus? (default, "") = some (.initial .epoch) := by
  have reached : Reaches ByUpdates (opening { (default : Backend) with
      tasks := .empty, values := .empty, pointers := .empty }) remembered :=
    .run (by decide +kernel)
  have same : remembered.saves (default, "") =
      (remembered.saves (default, "")).map (·.map (View.json default).encode) := by
    simp [CachedValue.map, View.json]
  refine ⟨reached, ?_, by decide +kernel, by decide +kernel, by decide +kernel⟩
  exact (view_refines_history (View.json default) (fun _ => rfl) reached "" .calm).1 _ same

end World

end CacheFill
