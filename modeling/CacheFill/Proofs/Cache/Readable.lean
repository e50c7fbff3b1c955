import CacheFill.Proofs.Cache.Absence
import CacheFill.Proofs.Cache.Consistency

/-!
What a finished load leaves to be read: a loaded task that is still the latest of its key has a value,
and right after the load it is the one that the loader gave, or one that was cached later. Main
statement: `finished_loads_readable`.
-/

set_option autoImplicit false

namespace CacheFill

open Script

namespace CacheEntry

variable {α : Type}

theorem data?_compose (value : Option (CachedValue α)) (status : Option Status) :
    (compose value status).data? = value.map (·.data) := by
  cases value with
  | none => cases status with
    | none => rfl
    | some status => cases status <;> rfl
  | some value => cases status with
    | none => rfl
    | some status =>
        cases status with
        | failed status =>
            simp only [compose]
            split <;> rfl
        | scheduled _ | waiting _ | loaded _ => rfl

end CacheEntry

namespace View

open Program

variable {α : Type}

theorem run_getAvailable (view : View α) (key : String) (surroundings : Surroundings)
    (backend : Backend) :
    (view.getAvailable key).run surroundings.perform backend =
      ((view.entry key backend).map (·.data?), backend) := by
  simp only [getAvailable, bind_eq, pure_eq, run_bind, run_get]
  cases view.entry key backend <;> rfl

end View

namespace World

variable {first world later : World} {surroundings : Surroundings} {number : Nat} {call : Call}
  {step : Step} {slot : Slot}

theorem Backed.value (backed : world.Backed slot) (orderly : first.Orderly slot world)
    (quiet : world.Quiet) {task : TaskId} {record : Record}
    (latest : world.backend.pointers.get? slot = some task)
    (found : world.backend.tasks.get? task = some record) (loaded : record.status.state = .loaded) :
    world.backend.values.get? slot ≠ none := by
  rcases backed task record latest found loaded with value | ⟨number, call, called, operation, running, _⟩
  · exact value
  · exact absurd running (quiet.not_running orderly.scripted called (by rw [operation]; rfl))

/-- The update that made a task the latest is over, so the task has a record. -/
theorem Traced.recorded (traced : world.Traced slot) (orderly : first.Orderly slot world)
    (quiet : world.Quiet) {task : TaskId} (latest : world.backend.pointers.get? slot = some task) :
    world.backend.tasks.get? task ≠ none := by
  obtain ⟨number, member⟩ := traced.pointed task latest
  obtain ⟨call, before, after, called, _, permitted⟩ :=
    orderly.scripted.of_event orderly.sound (mem_steps.mp member)
  obtain ⟨operation, _⟩ := Service.Script.updates_of_pointer permitted
  have ended := quiet.not_running orderly.scripted called (by rw [operation]; rfl)
  obtain ⟨result, finishes⟩ := orderly.finishes.ended called ended
  rw [operation] at finishes
  obtain ⟨step, isStep, record, inserts, rfl⟩ := finishes task member
  exact traced.inserted step (mem_trace_of_mem_steps isStep) record inserts

/-- The call made the last step of all, and has ended: it handled a dispatch that found a record, and
the outcome is that it is loaded. -/
structure JustLoaded (world : World) (number : Nat) (record : Record) : Prop where
  last : ∃ step, world.history.getLast? = some ⟨number, step⟩
  ended : ∃ call message, world.calls[number]? = some call ∧ call.operation = .handle message ∧
    call.rest = .done (.handled .loaded)
  found : ∃ message, (world.steps number).head? = some (found message record)

/-- What the loader gave was saved, and nothing was saved in its slot since. -/
theorem JustLoaded.saved {record : Record} (just : world.JustLoaded number record)
    (orderly : first.Orderly slot world) (fresh : world.Fresh) (answered : Answered (world.steps number))
    (gives : ∀ step ∈ world.trace, step.finished? ≠ some slot.1)
    (isSlot : (record.type, record.key) = slot) :
    ∃ attempt data now earlier,
      ⟨.callLoader (record.load attempt), .value data⟩ ∈ world.steps number ∧
        world.saves slot = earlier ++ [⟨data, now⟩] := by
  obtain ⟨last, ⟨call, message, called, handles, rest⟩, other, isFirst⟩ := just
  have finishes := orderly.finishes.rest number call called
  have permitted := orderly.scripted.past number call called
  rw [handles, rest] at finishes
  rw [handles] at permitted
  obtain ⟨written, wrote, loaded⟩ := finishes rfl
  obtain ⟨old, attempt, own, more, _, runs, steps, _⟩ :=
    Handles.loaded_run permitted answered wrote loaded
  obtain rfl : old = record := by
    rw [steps, List.head?_cons] at isFirst
    have answers := eq_of_heq (Step.mk.inj (Option.some.inj isFirst)).2
    exact Option.some.inj (Except.ok.inj answers)
  subst isSlot
  have inSteps : ∀ step ∈ own, step ∈ world.steps number := fun step member => by
    rw [steps]
    exact List.mem_cons_of_mem _ (List.mem_append_left _ member)
  obtain ⟨data, now, kept, rfl⟩ := runs.saves_value (orderly.sound.fits number call called)
    fun step member => gives step (mem_trace_of_mem_steps (inSteps step member))
  have operation : world.operation? number = some (.handle message) := by
    rw [operation?, called, Option.map_some, handles]
  obtain ⟨earlier, saves⟩ := fresh number message (old.type, old.key) ⟨data, now⟩ kept operation
    (inSteps _ (by simp [Record.load])) (.inr last)
  exact ⟨attempt, data, now, earlier, inSteps _ List.mem_cons_self, saves⟩

/-- What a reader finds of a slot to which values of the view were saved. -/
theorem Remembers.entry {α : Type} {view : View α} {key : String} {saves : List (CachedValue α)}
    (remembers : world.Remembers) (lawful : ∀ data, view.decode (view.encode data) = some data)
    (typed : world.saves (view.slot key) = saves.map (·.map view.encode)) :
    ∃ value, IsNewest saves value ∧
      world.backend.values.get? (view.slot key) = value.map (·.map view.encode) ∧
      view.entry key world.backend =
        .ok (.compose value (world.latestStatus? (view.slot key))) := by
  have newest := remembers.newest (view.slot key)
  rw [typed] at newest
  obtain ⟨value, stored, isNewest⟩ := newest.of_map
  refine ⟨value, isNewest, stored, ?_⟩
  rw [View.entry, stored, View.decoded_encode lawful, ← remembers.latest]
  rfl

theorem typed_snoc {α : Type} {view : View α} {saves : List (CachedValue α)}
    {earlier : List (CachedValue Json)} {last : CachedValue Json}
    (typed : saves.map (·.map view.encode) = earlier ++ [last]) :
    ∃ value before, saves = before ++ [value] ∧ value.map view.encode = last := by
  obtain ⟨before, rest, rfl, _, isLast⟩ := List.map_eq_append_iff.mp typed
  obtain ⟨value, rfl, same⟩ := List.map_eq_singleton_iff.mp isLast
  exact ⟨value, before, rfl, same⟩

/-- Keys are updated, saved, removed and read, dispatches handled and tasks swept, each call after the
one before or from within a loader, while the loader of a type leaves its values to be saved. Whenever
nothing goes on but loaders, there is a value for each key of the type whose latest task is loaded, so
that a reader finds something of a key with a latest task. Right after a dispatch was handled as
loaded, what is available is the value that the loader gave, unless one that was cached later was there
before it. A dispatch whose value could not be saved is not handled as loaded, and leaves its task
unloaded. -/
theorem finished_loads_readable {α : Type} {backend : Backend} {world : World} (view : View α)
    (lawful : ∀ data, view.decode (view.encode data) = some data)
    (reached : Reaches (LoadsInTurn view.type) (opening { backend with
      tasks := .empty, values := .empty, pointers := .empty }) world)
    (distinct : world.mints.Nodup) (gives : ∀ step ∈ world.trace, step.finished? ≠ some view.type)
    (key : String) (surroundings : Surroundings) :
    (world.Quiet → ∀ task record, world.backend.pointers.get? (view.slot key) = some task →
      world.backend.tasks.get? task = some record → record.status.state = .loaded →
        world.backend.values.get? (view.slot key) ≠ none) ∧
      (∀ saves, world.saves (view.slot key) = saves.map (·.map view.encode) →
        (world.Quiet → world.backend.pointers.get? (view.slot key) ≠ none →
          ∃ entry, (view.get key).run surroundings.perform world.backend =
            (.ok entry, world.backend) ∧ entry ≠ .notAvailable) ∧
        ∀ number record, world.JustLoaded number record →
          (record.type, record.key) = view.slot key →
            ∃ attempt data now earlier,
              ⟨.callLoader (record.load attempt), .value (view.encode data)⟩ ∈ world.steps number ∧
              saves = earlier ++ [⟨data, now⟩] ∧
              ((view.getAvailable key).run surroundings.perform world.backend =
                  (.ok (some data), world.backend) ∨
                ∃ held, IsNewest earlier (some held) ∧ now < held.cachedAt ∧
                  (view.getAvailable key).run surroundings.perform world.backend =
                    (.ok (some held.data), world.backend))) ∧
      ∀ (service : Service) (message : Dispatch),
        ((Operation.handle message).program service).Ensures ⟨fun _ _ => True, Answers⟩
          (fun past result => (∃ step ∈ past, step.isUnsaved = true) →
            result ≠ .ok (.handled .loaded) ∧
              ∀ record, Wrote past record → record.status.state ≠ .loaded) [] := by
  have orderly := reached.orderly (view.slot key)
  have consistent := reached.consistent (view.slot key)
  have backed := consistent.backed distinct gives
  refine ⟨?_, ?_, Service.unloaded_of_unsaved⟩
  · exact fun quiet task record latest found loaded => backed.value orderly quiet latest found loaded
  · intro saves typed
    obtain ⟨value, newest, stored, entry⟩ := orderly.remembers.entry lawful typed
    refine ⟨fun quiet pointed => ?_, fun number record just isSlot => ?_⟩
    · refine ⟨_, by rw [View.run_get, entry], fun missing => ?_⟩
      obtain ⟨none, loaded⟩ := CacheEntry.compose_eq_notAvailable.mp missing
      obtain ⟨task, latest⟩ := Option.ne_none_iff_exists'.mp pointed
      obtain ⟨record, found⟩ :=
        Option.ne_none_iff_exists'.mp (consistent.traced.recorded orderly quiet latest)
      have status : world.latestStatus? (view.slot key) = some record.status := by
        rw [latestStatus?, orderly.remembers.latest, latest, Option.bind_some, found, Option.map_some]
      refine backed.value orderly quiet latest found (loaded _ status) ?_
      rw [stored, none, Option.map_none]
    · have answered := reached.answered TaskStore.isKeyed_empty number
      obtain ⟨attempt, data, now, earlier, gave, saved⟩ :=
        just.saved orderly consistent.fresh answered gives isSlot
      have available : (view.getAvailable key).run surroundings.perform world.backend =
          (.ok (value.map (·.data)), world.backend) := by
        rw [View.run_getAvailable, entry, Except.map, CacheEntry.data?_compose]
      obtain ⟨given, before, rfl, isGiven⟩ := typed_snoc (typed.symm.trans saved)
      cases isGiven
      refine ⟨attempt, given.data, given.cachedAt, before, gave, rfl, ?_⟩
      rcases newest.of_snoc with rfl | ⟨held, rfl, isHeld, later⟩
      · exact .inl available
      · exact .inr ⟨held, isHeld, later, available⟩

/-- While a loader runs, another value is saved for its key; then its own is. -/
def loadedInTurn : World := (opening default).run
  ([.start .filling (.update default "")] ++ List.replicate 6 (.advance 0 .calm) ++
    [.start .filling (.handle ⟨default, "", .minted 0 1, 0⟩), .advance 1 .calm,
      .start .filling (.save default "" (.string "old")), .advance 2 .calm, .advance 2 .calm] ++
    List.replicate 8 (.advance 1 { Surroundings.calm with loaded := .value (.string "new") }))

/-- The record that the dispatch found. -/
def loadedRecord : Record := { Record.created default "" (.minted 0 1) .epoch with version := 1 }

theorem readable_loadedInTurn :
    (Reaches (LoadsInTurn default) (opening { (default : Backend) with
        tasks := .empty, values := .empty, pointers := .empty }) loadedInTurn ∧
      loadedInTurn.mints.Nodup ∧ (∀ step ∈ loadedInTurn.trace, step.finished? ≠ some default) ∧
      loadedInTurn.Quiet ∧ loadedInTurn.JustLoaded 1 loadedRecord ∧
      (loadedInTurn.saves (default, "")).map (·.data) = [.string "old", .string "new"]) ∧
      (∃ entry, ((View.json default).get "").run Surroundings.calm.perform loadedInTurn.backend =
        (.ok entry, loadedInTurn.backend) ∧ entry ≠ .notAvailable) ∧
      ∃ data earlier, loadedInTurn.saves (default, "") = earlier ++ [⟨data, .epoch⟩] ∧
        ((View.json default).getAvailable "").run Surroundings.calm.perform loadedInTurn.backend =
          (.ok (some data), loadedInTurn.backend) := by
  have reached : Reaches (LoadsInTurn default) (opening { (default : Backend) with
      tasks := .empty, values := .empty, pointers := .empty }) loadedInTurn :=
    .run (by decide +kernel)
  have distinct : loadedInTurn.mints.Nodup := by decide +kernel
  have gives : ∀ step ∈ loadedInTurn.trace, step.finished? ≠ some default := by decide +kernel
  have quiet : loadedInTurn.Quiet := by decide +kernel
  have just : loadedInTurn.JustLoaded 1 loadedRecord :=
    ⟨⟨_, rfl⟩, ⟨_, _, rfl, rfl, rfl⟩, ⟨_, rfl⟩⟩
  have typed : loadedInTurn.saves (default, "") =
      (loadedInTurn.saves (default, "")).map (·.map (View.json default).encode) := by
    simp [CachedValue.map, View.json]
  obtain ⟨_, reads, _⟩ :=
    finished_loads_readable (View.json default) (fun _ => rfl) reached distinct gives "" .calm
  obtain ⟨found, available⟩ := reads _ typed
  refine ⟨⟨reached, distinct, gives, quiet, just, rfl⟩, found quiet (by decide +kernel), ?_⟩
  obtain ⟨attempt, data, now, earlier, _, saves, read⟩ := available 1 loadedRecord just rfl
  have times : (loadedInTurn.saves (default, "")).map (·.cachedAt) = [.epoch] ++ [.epoch] := by
    decide +kernel
  rw [saves, List.map_append] at times
  obtain ⟨before, last⟩ := List.append_inj' times rfl
  obtain rfl : now = .epoch := (List.cons.inj last).1
  refine ⟨data, earlier, saves, ?_⟩
  rcases read with isData | ⟨held, isHeld, later, _⟩
  · exact isData
  · have same : held.cachedAt = .epoch := by
      have member := List.mem_map_of_mem (f := (·.cachedAt)) isHeld.mem
      rw [before] at member
      exact List.mem_singleton.mp member
    rw [same] at later
    exact absurd later (by decide)

end World

end CacheFill
