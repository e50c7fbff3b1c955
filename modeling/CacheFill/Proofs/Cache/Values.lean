import CacheFill.Proofs.Justified
import CacheFill.Store.Values

/-!
Laws of the store of cached values and of the index of latest tasks. A value gives way to one that
was cached at its time or later, so that the store keeps the newest of the saves it was given, in
whatever order they came. Main statements: `IsNewest.save` and `ValueStore.get?_save`.
-/

set_option autoImplicit false

namespace CacheFill

variable {α β : Type}

/-- Of the saves, in the order in which they came, the one with the greatest time; of several with
that time, the last. -/
inductive IsNewest (saves : List (CachedValue α)) : Option (CachedValue α) → Prop where
  | none (empty : saves = []) : IsNewest saves none
  | some (before : List (CachedValue α)) (value : CachedValue α) (after : List (CachedValue α))
      (split : saves = before ++ value :: after)
      (notLater : ∀ other ∈ before, other.cachedAt ≤ value.cachedAt)
      (earlier : ∀ other ∈ after, other.cachedAt < value.cachedAt) : IsNewest saves (some value)

theorem IsNewest.save {saves : List (CachedValue Json)} {current : Option (CachedValue Json)}
    (newest : IsNewest saves current) (value : CachedValue Json) :
    IsNewest (saves ++ [value])
      (if ValueStore.yieldsTo current value then Option.some value else current) := by
  cases newest with
  | none empty =>
      subst empty
      exact .some [] value [] rfl (by simp) (by simp)
  | some before old after split notLater earlier =>
      subst split
      simp only [ValueStore.yieldsTo, decide_eq_true_eq]
      by_cases gives : old.cachedAt ≤ value.cachedAt
      · rw [if_pos gives]
        refine .some (before ++ old :: after) value [] rfl ?_ (by simp)
        intro other member
        rcases List.mem_append.mp member with isBefore | rest
        · exact Instant.le_trans (notLater other isBefore) gives
        · rcases List.mem_cons.mp rest with rfl | isAfter
          · exact gives
          · exact Instant.le_trans (Instant.le_of_lt (earlier other isAfter)) gives
      · rw [if_neg gives]
        refine .some before old (after ++ [value]) (by simp) notLater ?_
        intro other member
        rcases List.mem_append.mp member with isAfter | last
        · exact earlier other isAfter
        · rw [List.mem_singleton.mp last]
          exact Instant.not_le.mp gives

theorem IsNewest.ne_none {saves : List (CachedValue α)} {value : Option (CachedValue α)}
    (newest : IsNewest saves value) (saved : saves ≠ []) : value ≠ Option.none := by
  cases newest with
  | none empty => exact absurd empty saved
  | some before old after => exact Option.some_ne_none old

theorem IsNewest.mem {saves : List (CachedValue α)} {value : CachedValue α}
    (newest : IsNewest saves (Option.some value)) : value ∈ saves := by
  cases newest with
  | some before _ after split =>
      rw [split]
      exact List.mem_append_right _ List.mem_cons_self

theorem IsNewest.le {saves : List (CachedValue α)} {value : CachedValue α}
    (newest : IsNewest saves (Option.some value)) :
    ∀ save ∈ saves, save.cachedAt ≤ value.cachedAt := by
  cases newest with
  | some before _ after split notLater earlier =>
      have notLaterToo : ∀ save ∈ value :: after, save.cachedAt ≤ value.cachedAt :=
        List.forall_mem_cons.mpr
          ⟨value.cachedAt.le_refl, fun save member => Instant.le_of_lt (earlier save member)⟩
      rw [split]
      exact List.forall_mem_append.mpr ⟨notLater, notLaterToo⟩

/-- The last save is the newest one, unless the newest before it is later. -/
theorem IsNewest.of_snoc {saves : List (CachedValue α)} {last : CachedValue α}
    {value : Option (CachedValue α)} (newest : IsNewest (saves ++ [last]) value) :
    value = Option.some last ∨
      ∃ held, value = Option.some held ∧ IsNewest saves (Option.some held) ∧
        last.cachedAt < held.cachedAt := by
  cases newest with
  | none empty => cases List.append_ne_nil_of_right_ne_nil _ (List.cons_ne_nil _ _) empty
  | some before held after split notLater earlier =>
      rcases split_snoc split with ⟨rfl, rfl, rfl⟩ | ⟨front, rfl, rfl⟩
      · exact .inl rfl
      · refine .inr ⟨held, rfl, .some before held front rfl notLater fun other member => ?_, ?_⟩
        · exact earlier other (List.mem_append_left _ member)
        · exact earlier last (List.mem_append_right _ List.mem_cons_self)

theorem IsNewest.of_map {change : α → β} {saves : List (CachedValue α)}
    {newest : Option (CachedValue β)} (isNewest : IsNewest (saves.map (·.map change)) newest) :
    ∃ value, newest = value.map (·.map change) ∧ IsNewest saves value := by
  cases isNewest with
  | none empty => exact ⟨Option.none, rfl, .none (List.map_eq_nil_iff.mp empty)⟩
  | some before value after split notLater earlier =>
      obtain ⟨first, rest, rfl, rfl, isRest⟩ := List.map_eq_append_iff.mp split
      obtain ⟨original, last, rfl, rfl, rfl⟩ := List.map_eq_cons_iff.mp isRest
      refine ⟨Option.some original, rfl, .some first original last rfl ?_ ?_⟩
      · intro other member
        exact notLater _ (List.mem_map_of_mem member)
      · intro other member
        exact earlier _ (List.mem_map_of_mem member)

namespace ValueStore

theorem get?_save (store : ValueStore) (slot : Slot) (value : CachedValue Json) (other : Slot) :
    (store.save slot value).2.get? other =
      if other = slot ∧ yieldsTo (store.get? slot) value = true then some value
      else store.get? other := by
  simp only [save]
  by_cases gives : yieldsTo (store.get? slot) value = true
  · simp only [gives, and_true]
    exact Table.get?_insert store.values slot other value
  · rw [if_neg gives, if_neg fun both => gives both.2]

@[simp] theorem get?_remove (store : ValueStore) (slot other : Slot) :
    (store.remove slot).get? other = if other = slot then none else store.get? other :=
  Table.get?_erase store.values slot other

end ValueStore

namespace TaskIndex

@[simp] theorem get?_put (index : TaskIndex) (slot : Slot) (task : TaskId) (other : Slot) :
    (index.put slot task).get? other = if other = slot then some task else index.get? other :=
  Table.get?_insert index.tasks slot other task

@[simp] theorem get?_remove (index : TaskIndex) (slot other : Slot) :
    (index.remove slot).get? other = if other = slot then none else index.get? other :=
  Table.get?_erase index.tasks slot other

end TaskIndex

end CacheFill
