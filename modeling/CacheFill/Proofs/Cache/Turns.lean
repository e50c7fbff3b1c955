import CacheFill.Proofs.Cache.Values
import CacheFill.Proofs.Concurrency.Interleaving

/-!
What a step of a run does to one slot of the cache. Its value and its latest task each change by two
accesses only. Main statements: `Advances.value` and `Advances.pointer`.
-/

set_option autoImplicit false

namespace CacheFill

def Access.changesCache : Access → Bool
  | .saveValue _ _ | .removeValue _ | .putPointer _ _ | .removePointer _ => true
  | _ => false

theorem Surroundings.cache_of_perform (surroundings : Surroundings) (backend : Backend)
    {access : Access} (elsewhere : access.changesCache = false) :
    (surroundings.perform access backend).2.values = backend.values ∧
      (surroundings.perform access backend).2.pointers = backend.pointers := by
  cases access with
  | saveValue _ _ | removeValue _ | putPointer _ _ | removePointer _ => cases elsewhere
  | publish topic message =>
      simp only [perform]
      split <;> exact ⟨rfl, rfl⟩
  | announce topic notification =>
      simp only [perform]
      split <;> exact ⟨rfl, rfl⟩
  | insertTask record =>
      have performed : (surroundings.perform (.insertTask record) backend).2 =
        (backend.withTasks (backend.tasks.insert record)).2 := rfl
      rw [performed]
      cases backend.tasks.insert record <;> exact ⟨rfl, rfl⟩
  | updateTask task expected status resume =>
      have performed : (surroundings.perform (.updateTask task expected status resume) backend).2 =
        (backend.withTasks (backend.tasks.update task expected status resume)).2 := rfl
      rw [performed]
      cases backend.tasks.update task expected status resume <;> exact ⟨rfl, rfl⟩
  | _ => exact ⟨rfl, rfl⟩

/-- What an access makes of the value of a slot. -/
inductive ValueTurn (slot : Slot) (current : Option (CachedValue Json)) (access : Access) :
    Option (CachedValue Json) → Prop where
  | saved (value : CachedValue Json) (saves : access = .saveValue slot value) :
      ValueTurn slot current access (if ValueStore.yieldsTo current value then some value else current)
  | removed (removes : access = .removeValue slot) : ValueTurn slot current access none
  | kept (unsaved : ∀ value, access ≠ .saveValue slot value) (unremoved : access ≠ .removeValue slot) :
      ValueTurn slot current access current

/-- What an access makes of the latest task of a slot. -/
inductive PointerTurn (slot : Slot) (current : Option TaskId) (access : Access) :
    Option TaskId → Prop where
  | pointed (task : TaskId) (points : access = .putPointer slot task) :
      PointerTurn slot current access (some task)
  | removed (removes : access = .removePointer slot) : PointerTurn slot current access none
  | kept (unpointed : ∀ task, access ≠ .putPointer slot task)
      (unremoved : access ≠ .removePointer slot) : PointerTurn slot current access current

theorem Surroundings.value_of_perform (surroundings : Surroundings) (backend : Backend)
    (access : Access) (slot : Slot) :
    ValueTurn slot (backend.values.get? slot) access
      ((surroundings.perform access backend).2.values.get? slot) := by
  cases access with
  | saveValue at_ value =>
      have values : (surroundings.perform (.saveValue at_ value) backend).2.values =
        (backend.values.save at_ value).2 := rfl
      rw [values, ValueStore.get?_save]
      by_cases same : slot = at_
      · subst same
        simp only [true_and]
        exact .saved value rfl
      · rw [if_neg fun both => same both.1]
        refine .kept (fun other saves => ?_) fun removes => by cases removes
        cases saves
        exact same rfl
  | removeValue at_ =>
      have values : (surroundings.perform (.removeValue at_) backend).2.values =
        backend.values.remove at_ := rfl
      rw [values, ValueStore.get?_remove]
      by_cases same : slot = at_
      · subst same
        rw [if_pos rfl]
        exact .removed rfl
      · rw [if_neg same]
        refine .kept (fun other saves => by cases saves) fun removes => ?_
        cases removes
        exact same rfl
  | putPointer _ _ | removePointer _ =>
      exact .kept (fun other saves => by cases saves) fun removes => by cases removes
  | _ =>
      rw [(surroundings.cache_of_perform backend rfl).1]
      exact .kept (fun other saves => by cases saves) fun removes => by cases removes

theorem Surroundings.pointer_of_perform (surroundings : Surroundings) (backend : Backend)
    (access : Access) (slot : Slot) :
    PointerTurn slot (backend.pointers.get? slot) access
      ((surroundings.perform access backend).2.pointers.get? slot) := by
  cases access with
  | putPointer at_ task =>
      have pointers : (surroundings.perform (.putPointer at_ task) backend).2.pointers =
        backend.pointers.put at_ task := rfl
      rw [pointers, TaskIndex.get?_put]
      by_cases same : slot = at_
      · subst same
        rw [if_pos rfl]
        exact .pointed task rfl
      · rw [if_neg same]
        refine .kept (fun other points => ?_) fun removes => by cases removes
        cases points
        exact same rfl
  | removePointer at_ =>
      have pointers : (surroundings.perform (.removePointer at_) backend).2.pointers =
        backend.pointers.remove at_ := rfl
      rw [pointers, TaskIndex.get?_remove]
      by_cases same : slot = at_
      · subst same
        rw [if_pos rfl]
        exact .removed rfl
      · rw [if_neg same]
        refine .kept (fun other points => by cases points) fun removes => ?_
        cases removes
        exact same rfl
  | saveValue _ _ | removeValue _ =>
      exact .kept (fun other points => by cases points) fun removes => by cases removes
  | _ =>
      rw [(surroundings.cache_of_perform backend rfl).2]
      exact .kept (fun other points => by cases points) fun removes => by cases removes

namespace World

variable {world later : World} {surroundings : Surroundings} {number : Nat} {call : Call}
  {step : Step}

theorem Advances.value (advances : world.Advances surroundings later number call step)
    (slot : Slot) :
    ValueTurn slot (world.backend.values.get? slot) step.access
      (later.backend.values.get? slot) := by
  rw [advances.backend]
  exact surroundings.value_of_perform world.backend step.access slot

theorem Advances.pointer (advances : world.Advances surroundings later number call step)
    (slot : Slot) :
    PointerTurn slot (world.backend.pointers.get? slot) step.access
      (later.backend.pointers.get? slot) := by
  rw [advances.backend]
  exact surroundings.pointer_of_perform world.backend step.access slot

end World

end CacheFill
