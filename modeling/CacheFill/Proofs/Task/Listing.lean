import CacheFill.Proofs.Task.Store
import Mathlib.Data.List.Nodup

/-!
Listings of due records. Waiting records stand in one order, by the time of their retry and then by
task, so a record is listed if and only if it is due and fewer waiting records than asked for come
before it. Whatever makes the waiting records fewer keeps a due record listed, and a record that is
settled leaves the others in their order. Main statements: `backlog_put`, `mem_due_iff` and
`Relieves.mem_due`.
-/

set_option autoImplicit false

namespace CacheFill

/-- In a list in order, an element is among the first ones if and only if few enough come before
it. -/
theorem mem_take_iff_countP {α : Type} {le : α → α → Bool} {list : List α} {element : α}
    (reflexive : ∀ one, le one one = true) (sorted : list.Pairwise fun one other => le one other = true)
    (antisymmetric : ∀ one ∈ list, ∀ other ∈ list, le one other = true → le other one = true →
      one = other) (limit : Nat) :
    element ∈ list.take limit ↔
      element ∈ list ∧ list.countP (fun other => !le element other) < limit := by
  induction list generalizing limit with
  | nil => simp
  | cons head rest ih =>
      obtain ⟨headFirst, sorted⟩ := List.pairwise_cons.mp sorted
      have shorter := ih sorted fun one isOne other isOther =>
        antisymmetric one (List.mem_cons_of_mem _ isOne) other (List.mem_cons_of_mem _ isOther)
      cases limit with
      | zero => simp
      | succ limit =>
          rw [List.take_succ_cons, List.mem_cons, List.mem_cons]
          by_cases same : element = head
          · subst same
            have none : rest.countP (fun other => !le element other) = 0 := by
              rw [List.countP_eq_zero]
              intro other member
              simp [headFirst other member]
            simp [reflexive, none]
          · rw [or_iff_right same, or_iff_right same, shorter limit]
            refine and_congr_right fun member => ?_
            have behind : le element head = false := by
              refine Bool.eq_false_iff.mpr fun ahead => same ?_
              exact antisymmetric element (List.mem_cons_of_mem _ member) head List.mem_cons_self
                ahead (headFirst element member)
            simp [behind]

namespace TaskStore

variable {store later : TaskStore} {now : Instant} {limit : Nat} {record other : Record}

def waits (record : Record) : Bool := (retryAt? record).isSome

theorem waits_of_isDue (due : isDue now record = true) :
    ∃ retryAt, retryAt? record = some retryAt ∧ retryAt ≤ now := by
  simp only [isDue] at due
  split at due
  · next retryAt found => exact ⟨retryAt, found, of_decide_eq_true due⟩
  · cases due

/-- The order of waiting records as a test on numbers. -/
theorem dueBefore_iff {first second : Instant} (firstAt : retryAt? record = some first)
    (secondAt : retryAt? other = some second) :
    dueBefore record other = true ↔
      first.rank < second.rank ∨
        first.rank = second.rank ∧ record.task.value.toNat ≤ other.task.value.toNat := by
  have equal : first = second ↔ first.rank = second.rank :=
    ⟨congrArg Instant.rank, Instant.eq_of_rank_eq⟩
  simp only [dueBefore, firstAt, secondAt, Bool.or_eq_true, Bool.and_eq_true, decide_eq_true_eq, equal]
  rfl

theorem dueBefore_refl (record : Record) : dueBefore record record = true := by
  have self : record.task ≤ record.task := Nat.le_refl _
  cases found : retryAt? record <;> simp [dueBefore, found, self]

/-- Records of different tasks are never both before each other. -/
theorem task_eq_of_dueBefore (waitsFirst : waits record = true) (waitsSecond : waits other = true)
    (before : dueBefore record other = true) (after : dueBefore other record = true) :
    record.task = other.task := by
  obtain ⟨first, firstAt⟩ := Option.isSome_iff_exists.mp waitsFirst
  obtain ⟨second, secondAt⟩ := Option.isSome_iff_exists.mp waitsSecond
  rw [dueBefore_iff firstAt secondAt] at before
  rw [dueBefore_iff secondAt firstAt] at after
  have same : record.task.value.toNat = other.task.value.toNat := by omega
  exact congrArg TaskId.mk (BitVec.eq_of_toNat_eq same)

/-- The order of due records, extended to all records so that sorting by it is known to sort. -/
def placed (record other : Record) : Bool :=
  let rank (record : Record) : Int := ((retryAt? record).map Instant.rank).getD 0
  rank record < rank other ||
    (rank record = rank other && record.task.value.toNat ≤ other.task.value.toNat)

theorem dueBefore_eq_placed (waitsFirst : waits record = true) (waitsSecond : waits other = true) :
    dueBefore record other = placed record other := by
  obtain ⟨first, firstAt⟩ := Option.isSome_iff_exists.mp waitsFirst
  obtain ⟨second, secondAt⟩ := Option.isSome_iff_exists.mp waitsSecond
  rw [Bool.eq_iff_iff, dueBefore_iff firstAt secondAt]
  simp [placed, firstAt, secondAt]

theorem pairwise_mergeSort_dueBefore {records : List Record}
    (all : ∀ record ∈ records, waits record = true) :
    (records.mergeSort dueBefore).Pairwise fun one other => dueBefore one other = true := by
  have same : records.mergeSort dueBefore = records.mergeSort placed := by
    simpa using List.map_mergeSort (f := id) fun one isOne other isOther =>
      dueBefore_eq_placed (all one isOne) (all other isOther)
  have sorted : (records.mergeSort placed).Pairwise fun one other => placed one other = true := by
    apply List.pairwise_mergeSort
    · intro one other third before after
      simp only [placed, Bool.or_eq_true, Bool.and_eq_true, decide_eq_true_eq] at *
      omega
    · intro one other
      simp only [placed, Bool.or_eq_true, Bool.and_eq_true, decide_eq_true_eq]
      omega
  rw [same]
  refine sorted.imp_of_mem fun isOne isOther before => ?_
  rw [List.mem_mergeSort] at isOne isOther
  rw [dueBefore_eq_placed (all _ isOne) (all _ isOther)]
  exact before

/-- The other record waits and comes before this one. -/
def comesBefore (record other : Record) : Bool := !dueBefore record other && waits other

/-- What comes before a due record is due as well. -/
theorem isDue_of_comesBefore (due : isDue now record = true)
    (before : comesBefore record other = true) : isDue now other = true := by
  obtain ⟨first, firstAt, reached⟩ := waits_of_isDue due
  simp only [comesBefore, Bool.and_eq_true, Bool.not_eq_true'] at before
  obtain ⟨notAfter, waitsToo⟩ := before
  obtain ⟨second, secondAt⟩ := Option.isSome_iff_exists.mp waitsToo
  have earlier : second.rank ≤ first.rank := by
    by_contra later
    have ahead := (dueBefore_iff firstAt secondAt).mpr (.inl (Int.not_le.mp later))
    rw [ahead] at notAfter
    cases notAfter
  simp only [isDue, secondAt, decide_eq_true_eq]
  exact Int.le_trans earlier reached

/-- All waiting records whose retry time has come, the longest due first. -/
def backlog (store : TaskStore) (now : Instant) : List Record :=
  (store.records.values.filter (isDue now)).mergeSort dueBefore

theorem due_eq_take (store : TaskStore) (now : Instant) (limit : Nat) :
    store.due now limit = (store.backlog now).take limit := rfl

theorem mem_backlog (keyed : store.IsKeyed) :
    record ∈ store.backlog now ↔ store.get? record.task = some record ∧ isDue now record = true := by
  rw [backlog, List.mem_mergeSort, List.mem_filter, mem_values keyed]

theorem waits_of_mem_backlog (member : record ∈ store.backlog now) : waits record = true := by
  rw [backlog, List.mem_mergeSort] at member
  obtain ⟨retryAt, found, _⟩ := waits_of_isDue (List.mem_filter.mp member).2
  rw [waits, found]
  rfl

theorem pairwise_backlog (store : TaskStore) (now : Instant) :
    (store.backlog now).Pairwise fun one other => dueBefore one other = true := by
  refine pairwise_mergeSort_dueBefore fun record member => ?_
  have inBacklog : record ∈ store.backlog now := List.mem_mergeSort.mpr member
  exact waits_of_mem_backlog inBacklog

/-- No task is in the backlog twice. -/
theorem nodup_backlog (keyed : store.IsKeyed) (now : Instant) :
    ((store.backlog now).map Record.task).Nodup :=
  ((List.mergeSort_perm (store.records.values.filter (isDue now)) dueBefore).map
    Record.task).nodup_iff.mpr ((nodup_values keyed).sublist (List.filter_sublist.map _))

/-- Two records of the backlog that are before each other are one. -/
theorem eq_of_dueBefore (keyed : store.IsKeyed) (member : record ∈ store.backlog now)
    (memberToo : other ∈ store.backlog now) (before : dueBefore record other = true)
    (after : dueBefore other record = true) : record = other := by
  have task := task_eq_of_dueBefore (waits_of_mem_backlog member) (waits_of_mem_backlog memberToo)
    before after
  have first := ((mem_backlog keyed).mp member).1
  have second := ((mem_backlog keyed).mp memberToo).1
  rw [task, second] at first
  exact (Option.some.inj first).symm

/-- Writing the first record of the backlog so that it is not due any more takes it off the
backlog, and changes nothing else about it. -/
theorem backlog_put {rest : List Record} {written : Record} (keyed : store.IsKeyed)
    (first : store.backlog now = record :: rest) (same : written.task = record.task)
    (settled : isDue now written = false) : (store.put written).backlog now = rest := by
  have keyedToo := keyed.put written
  have distinct := nodup_backlog keyed now
  rw [first, List.map_cons, List.nodup_cons] at distinct
  have isRest (one : Record) : one ∈ (store.put written).backlog now ↔ one ∈ rest := by
    have stored : one ∈ store.backlog now ↔ _ := mem_backlog keyed
    rw [first, List.mem_cons] at stored
    rw [mem_backlog keyedToo, get?_put]
    by_cases task : one.task = written.task
    · have absent : one ∉ rest := fun member =>
        distinct.1 (same ▸ task ▸ List.mem_map_of_mem member)
      simp only [task, if_true, absent, iff_false, not_and, Bool.not_eq_true]
      intro isWritten
      rw [← Option.some.inj isWritten]
      exact settled
    · have different : one ≠ record := fun equal => task (equal ▸ same.symm)
      simp only [task, if_false]
      rw [← stored, or_iff_right different]
  have sorted := (List.pairwise_cons.mp (first ▸ pairwise_backlog store now)).2
  -- both are in order and have the same members, each once
  refine List.Perm.eq_of_pairwise ?_ (pairwise_backlog _ _) sorted ?_
  · intro one other isOne isOther
    exact eq_of_dueBefore keyedToo isOne ((isRest other).mpr isOther)
  · exact (List.perm_ext_iff_of_nodup (nodup_backlog keyedToo now).of_map distinct.2.of_map).mpr
      isRest

/-- Settling the first records of the backlog one after the other leaves the rest of it. -/
theorem backlog_foldl_put {records rest : List Record} {write : Record → Record}
    (keyed : store.IsKeyed) (first : store.backlog now = records ++ rest)
    (same : ∀ record, (write record).task = record.task)
    (settled : ∀ record ∈ records, isDue now (write record) = false) :
    ((records.map write).foldl put store).IsKeyed ∧
      ((records.map write).foldl put store).backlog now = rest := by
  induction records generalizing store with
  | nil => exact ⟨keyed, first⟩
  | cons record others ih =>
      refine ih (keyed.put (write record)) ?_ fun other member =>
        settled other (List.mem_cons_of_mem _ member)
      exact backlog_put keyed first (same record) (settled record List.mem_cons_self)

/-- A record is listed if and only if it is due and fewer waiting records come before it than are
asked for. -/
theorem mem_due_iff (keyed : store.IsKeyed) :
    record ∈ store.due now limit ↔
      (store.get? record.task = some record ∧ isDue now record = true) ∧
        store.records.values.countP (comesBefore record) < limit := by
  rw [due_eq_take, mem_take_iff_countP dueBefore_refl (pairwise_backlog store now)
    (fun _ isOne _ isOther => eq_of_dueBefore keyed isOne isOther), mem_backlog keyed]
  refine and_congr_right fun ⟨_, isDueNow⟩ => ?_
  rw [backlog, (List.mergeSort_perm _ _).countP_eq, List.countP_filter]
  have same : store.records.values.countP (fun other => !dueBefore record other && isDue now other) =
      store.records.values.countP (comesBefore record) := by
    refine List.countP_congr fun other _ => ⟨fun before => ?_, fun before => ?_⟩
    · obtain ⟨notAfter, dueToo⟩ := Bool.and_eq_true_iff.mp before
      obtain ⟨retryAt, found, _⟩ := waits_of_isDue dueToo
      simp [comesBefore, notAfter, waits, found]
    · have dueToo := isDue_of_comesBefore isDueNow before
      simp [(Bool.and_eq_true_iff.mp before).1, dueToo]
  rw [same]

/-- No task is listed twice. -/
theorem nodup_due (keyed : store.IsKeyed) (now : Instant) (limit : Nat) :
    ((store.due now limit).map Record.task).Nodup :=
  (nodup_backlog keyed now).sublist ((List.take_sublist _ _).map _)

/-- Of no kind of waiting records there are more than before. -/
def Relieves (store later : TaskStore) : Prop :=
  ∀ kind : Record → Bool, (∀ record, kind record = true → waits record = true) →
    later.records.values.countP kind ≤ store.records.values.countP kind

theorem Relieves.refl (store : TaskStore) : Relieves store store := fun _ _ => Nat.le_refl _

theorem Relieves.trans {last : TaskStore} (first : Relieves store later)
    (second : Relieves later last) : Relieves store last := fun kind waiting =>
  Nat.le_trans (second kind waiting) (first kind waiting)

/-- A stored record that comes to wait no longer. -/
theorem Relieves.put {old : Record} (present : store.get? record.task = some old)
    (settled : waits record = false) : Relieves store (store.put record) := by
  intro kind waiting
  have isKey : record.task ∈ store.records.entries.map (·.1) := mem_keys present
  have entries : (store.put record).records.entries =
      Table.replaceEntry record.task record store.records.entries := by
    rw [TaskStore.put, Table.insert, dif_pos isKey]
  simp only [Table.values, entries, Table.replaceEntry, List.map_map, List.countP_map]
  refine List.countP_mono_left fun entry _ isKind => ?_
  simp only [Function.comp_apply] at isKind ⊢
  split at isKind
  · rw [waiting _ isKind] at settled
    cases settled
  · exact isKind

/-- A listed record that stays as it is stays listed while the others that wait grow fewer. -/
theorem Relieves.mem_due (relieves : Relieves store later) (keyed : store.IsKeyed)
    (laterKeyed : later.IsKeyed) (listed : record ∈ store.due now limit)
    (still : later.get? record.task = some record) {moment : Instant} (after : now ≤ moment) :
    record ∈ later.due moment limit := by
  obtain ⟨⟨_, isDueNow⟩, few⟩ := (mem_due_iff keyed).mp listed
  have isDueThen : isDue moment record = true := by
    obtain ⟨retryAt, found, reached⟩ := waits_of_isDue isDueNow
    simp only [isDue, found, decide_eq_true_eq]
    exact Int.le_trans reached after
  have fewer := relieves (comesBefore record) fun other before => (Bool.and_eq_true_iff.mp before).2
  exact (mem_due_iff laterKeyed).mpr ⟨⟨still, isDueThen⟩, Nat.lt_of_le_of_lt fewer few⟩

end TaskStore

end CacheFill
