import CacheFill.Proofs.Cache.Values
import Mathlib.Data.List.Induction
import Mathlib.Data.List.Nodup

/-!
Writers of cached values that race. Whatever the order in which their saves arrive, the newest value
prevails, and each writer is told whether its value came to be stored. Main statement:
`last_writer_wins`.
-/

set_option autoImplicit false

namespace CacheFill

variable {α : Type}

theorem IsNewest.initial (stored : Option (CachedValue α)) : IsNewest stored.toList stored := by
  cases stored with
  | none => exact .none rfl
  | some value => exact .some [] value [] rfl (by simp) (by simp)

/-- What saves leave behind where something or nothing was stored: the newest of them, unless what
was stored is newer than all of them. The order of the saves does not enter. -/
inductive Prevails (stored : Option (CachedValue α)) (saves : List (CachedValue α)) :
    Option (CachedValue α) → Prop where
  | stored (newer : ∀ save ∈ saves, ∃ old ∈ stored, save.cachedAt < old.cachedAt) :
      Prevails stored saves stored
  | saved (value : CachedValue α) (member : value ∈ saves)
      (newest : ∀ save ∈ saves, save.cachedAt ≤ value.cachedAt)
      (notOlder : ∀ old ∈ stored, old.cachedAt ≤ value.cachedAt) :
      Prevails stored saves (some value)

namespace Prevails

variable {stored current other : Option (CachedValue α)} {saves order : List (CachedValue α)}

theorem of_perm (prevails : Prevails stored order current) (perm : order.Perm saves) :
    Prevails stored saves current := by
  cases prevails with
  | stored newer => exact .stored fun save member => newer save (perm.mem_iff.mpr member)
  | saved value member newest notOlder =>
      exact .saved value (perm.mem_iff.mp member)
        (fun save member => newest save (perm.mem_iff.mpr member)) notOlder

/-- Among saves of different times one value prevails at most. -/
theorem unique (prevails : Prevails stored saves current) (prevailsToo : Prevails stored saves other)
    (distinct : (saves.map (·.cachedAt)).Nodup) : current = other := by
  -- a save is not both older than what was stored and not older
  have impossible {value : CachedValue α} (member : value ∈ saves)
      (newer : ∀ save ∈ saves, ∃ old ∈ stored, save.cachedAt < old.cachedAt)
      (notOlder : ∀ old ∈ stored, old.cachedAt ≤ value.cachedAt) : False := by
    obtain ⟨old, isOld, earlier⟩ := newer value member
    exact Instant.not_le.mpr earlier (notOlder old isOld)
  cases prevails with
  | stored newer =>
      cases prevailsToo with
      | stored => rfl
      | saved value member newest notOlder => exact (impossible member newer notOlder).elim
  | saved value member newest notOlder =>
      cases prevailsToo with
      | stored newer => exact (impossible member newer notOlder).elim
      | saved value' member' newest' notOlder' =>
          have same : value.cachedAt = value'.cachedAt :=
            Instant.eq_of_le (newest' value member) (newest value' member')
          exact congrArg some (List.inj_on_of_nodup_map distinct member member' same)

/-- What prevails is not older than what was stored. -/
theorem notOlder (prevails : Prevails stored saves current) :
    ∀ old ∈ stored, ∃ new ∈ current, old.cachedAt ≤ new.cachedAt := by
  intro old isOld
  cases prevails with
  | stored newer => exact ⟨old, isOld, old.cachedAt.le_refl⟩
  | saved value member newest notOlder => exact ⟨value, rfl, notOlder old isOld⟩

/-- If what was stored counts as the first save, then the newest of all prevails. -/
theorem of_isNewest (isNewest : IsNewest (stored.toList ++ saves) current) :
    Prevails stored saves current := by
  cases stored with
  | none =>
      rw [Option.toList_none, List.nil_append] at isNewest
      cases current with
      | none =>
          cases isNewest with
          | none empty => exact .stored fun save member => by simp [empty] at member
      | some value => exact .saved value isNewest.mem isNewest.le (by simp)
  | some old =>
      cases isNewest with
      | none empty => cases empty
      | some before value after split notLater earlier =>
          cases before with
          | nil =>
              obtain ⟨rfl, rfl⟩ := List.cons.inj split
              exact .stored fun save member => ⟨old, rfl, earlier save member⟩
          | cons first before =>
              obtain ⟨rfl, isSaves⟩ := List.cons.inj split
              have oldNotLater := notLater old List.mem_cons_self
              have newest : IsNewest saves (some value) :=
                .some before value after isSaves
                  (fun save member => notLater save (List.mem_cons_of_mem _ member)) earlier
              refine .saved value newest.mem newest.le fun other isOther => ?_
              rwa [← Option.some.inj isOther]

end Prevails

namespace ValueStore

variable {saves order : List (Slot × CachedValue Json)}

/-- The store after saves to any slots, the first call first. -/
def saveAll (store : ValueStore) (saves : List (Slot × CachedValue Json)) : ValueStore :=
  saves.foldl (fun store save => (store.save save.1 save.2).2) store

/-- The saves to one slot. -/
def savesTo (slot : Slot) (saves : List (Slot × CachedValue Json)) : List (CachedValue Json) :=
  (saves.filter (·.1 = slot)).map (·.2)

theorem saveAll_snoc (store : ValueStore) (saves : List (Slot × CachedValue Json))
    (save : Slot × CachedValue Json) :
    store.saveAll (saves ++ [save]) = ((store.saveAll saves).save save.1 save.2).2 :=
  List.foldl_concat ..

theorem isNewest_saveAll (store : ValueStore) (slot : Slot)
    (saves : List (Slot × CachedValue Json)) :
    IsNewest ((store.get? slot).toList ++ savesTo slot saves)
      ((store.saveAll saves).get? slot) := by
  induction saves using List.reverseRecOn with
  | nil =>
      change IsNewest ((store.get? slot).toList ++ []) (store.get? slot)
      rw [List.append_nil]
      exact .initial _
  | append_singleton saves save ih =>
      rw [saveAll_snoc, get?_save]
      by_cases same : save.1 = slot
      · subst same
        have grown : savesTo save.1 (saves ++ [save]) = savesTo save.1 saves ++ [save.2] := by
          simp [savesTo]
        simp only [grown, ← List.append_assoc, true_and]
        exact ih.save save.2
      · have unchanged : savesTo slot (saves ++ [save]) = savesTo slot saves := by
          simp [savesTo, same]
        rw [unchanged, if_neg fun both => same both.1.symm]
        exact ih

/-- After any saves a slot holds what prevails of them. -/
theorem prevails_saveAll (store : ValueStore) (slot : Slot)
    (saves : List (Slot × CachedValue Json)) :
    Prevails (store.get? slot) (savesTo slot saves) ((store.saveAll saves).get? slot) :=
  .of_isNewest (store.isNewest_saveAll slot saves)

theorem perm_savesTo (perm : order.Perm saves) (slot : Slot) :
    (savesTo slot order).Perm (savesTo slot saves) := (perm.filter _).map _

/-- A writer is told that its value was stored just when a lookup then finds it. -/
theorem save_fst_iff (store : ValueStore) (slot : Slot) (value : CachedValue Json) :
    (store.save slot value).1 = true ↔ (store.save slot value).2.get? slot = some value := by
  have told : (store.save slot value).1 = yieldsTo (store.get? slot) value := by
    rw [save]
    split
    next gives => exact gives.symm
    next stays => exact (Bool.eq_false_iff.mpr stays).symm
  rw [told, get?_save]
  by_cases gives : yieldsTo (store.get? slot) value = true
  · simp only [gives, and_self, if_true]
  · rw [if_neg fun both => gives both.2]
    refine iff_of_false gives fun found => gives ?_
    -- what is in the way of a value is newer, and so is not that value
    rw [found]
    exact decide_eq_true value.cachedAt.le_refl

/-- The last writer by time wins, in whatever order the saves arrive; a save is answered by whether
the value is there then; times of stored values never go back; and slots do not touch each other. -/
theorem last_writer_wins (store : ValueStore) :
    (∀ slot saves, ((savesTo slot saves).map (·.cachedAt)).Nodup →
      ∃ final, Prevails (store.get? slot) (savesTo slot saves) final ∧
        ∀ order : List (Slot × CachedValue Json), order.Perm saves →
          (store.saveAll order).get? slot = final) ∧
    (∀ earlier slot value, ((store.saveAll earlier).save slot value).1 = true ↔
      ((store.saveAll earlier).save slot value).2.get? slot = some value) ∧
    (∀ earlier more slot, ∀ old ∈ (store.saveAll earlier).get? slot,
      ∃ new ∈ (store.saveAll (earlier ++ more)).get? slot, old.cachedAt ≤ new.cachedAt) ∧
    ∀ slot other value, other ≠ slot →
      (store.save slot value).2.get? other = store.get? other ∧
        (store.remove slot).get? other = store.get? other := by
  refine ⟨?_, fun earlier => (store.saveAll earlier).save_fst_iff, ?_, ?_⟩
  · intro slot saves distinct
    have prevails := store.prevails_saveAll slot saves
    refine ⟨_, prevails, fun order perm => ?_⟩
    have prevailsToo := (store.prevails_saveAll slot order).of_perm (perm_savesTo perm slot)
    exact prevailsToo.unique prevails distinct
  · intro earlier more slot
    have later : store.saveAll (earlier ++ more) = (store.saveAll earlier).saveAll more :=
      List.foldl_append
    rw [later]
    exact ((store.saveAll earlier).prevails_saveAll slot more).notOlder
  · intro slot other value different
    rw [get?_save, if_neg fun both => different both.1, get?_remove, if_neg different]
    exact ⟨rfl, rfl⟩

/-- A save of the same time replaces what was stored, and an older one that comes before or after it
does nothing. -/
theorem tied_save_wins :
    let slot : Slot := (default, "k")
    let moment : Instant := ⟨1, 0, by decide, by decide⟩
    let store := (empty.save slot ⟨.null, moment⟩).2
    let saves : List (Slot × CachedValue Json) :=
      [(slot, ⟨.bool false, .epoch⟩), (slot, ⟨.bool true, moment⟩)]
    ((savesTo slot saves).map (·.cachedAt)).Nodup ∧
      (store.saveAll saves).get? slot = some ⟨.bool true, moment⟩ ∧
      (store.saveAll saves.reverse).get? slot = some ⟨.bool true, moment⟩ := by
  intro slot moment store saves
  have distinct : ((savesTo slot saves).map (·.cachedAt)).Nodup := by decide
  obtain ⟨final, -, reached⟩ := (last_writer_wins store).1 slot saves distinct
  have found : (store.saveAll saves).get? slot = some ⟨.bool true, moment⟩ := rfl
  refine ⟨distinct, found, ?_⟩
  rw [reached saves.reverse (List.reverse_perm saves), ← reached saves (.refl saves), found]

end ValueStore

end CacheFill
