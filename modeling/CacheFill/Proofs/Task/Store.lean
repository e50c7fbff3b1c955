import CacheFill.Store.Tasks

/-!
Laws of the store of task records. Each record stands under its own task, so what a listing shows is
what a lookup finds. Main statements: what an insertion and a conditional write answer and leave
behind.
-/

set_option autoImplicit false

namespace CacheFill

theorem Table.get?_of_mem_entries {κ α : Type} [DecidableEq κ] {table : Table κ α} {key : κ}
    {value : α} (member : (key, value) ∈ table.entries) : table.get? key = some value := by
  obtain ⟨entries, distinct⟩ := table
  simp only [get?] at member ⊢
  induction entries with
  | nil => cases member
  | cons entry rest ih =>
      simp only [List.map_cons, List.nodup_cons] at distinct
      rcases List.mem_cons.mp member with rfl | later
      · simp
      · have different : entry.1 ≠ key := by
          intro same
          exact distinct.1 (same ▸ List.mem_map.mpr ⟨_, later, rfl⟩)
        simpa [different] using ih distinct.2 later

namespace TaskStore

/-- Every record stands under its own task. -/
def IsKeyed (store : TaskStore) : Prop :=
  ∀ task record, store.get? task = some record → record.task = task

variable {store : TaskStore}

@[simp] theorem get?_put (store : TaskStore) (record : Record) (task : TaskId) :
    (store.put record).get? task = if task = record.task then some record else store.get? task :=
  Table.get?_insert store.records record.task task record

theorem isKeyed_empty : TaskStore.empty.IsKeyed := by
  intro task record found
  cases found

theorem IsKeyed.put (keyed : store.IsKeyed) (record : Record) : (store.put record).IsKeyed := by
  intro task other found
  rw [get?_put] at found
  split at found
  · next same => cases found; exact same.symm
  · exact keyed task other found

/-- The store that holds certain records; of those of one task the last. -/
def ofRecords (records : List Record) : TaskStore := records.foldl put empty

theorem isKeyed_ofRecords (records : List Record) : (ofRecords records).IsKeyed := by
  have keeps (store : TaskStore) (keyed : store.IsKeyed) : (records.foldl put store).IsKeyed := by
    induction records generalizing store with
    | nil => exact keyed
    | cons record rest ih => exact ih (store.put record) (keyed.put record)
  exact keeps empty isKeyed_empty

theorem get?_foldl_put_of_ne {records : List Record} {task : TaskId}
    (other : ∀ record ∈ records, record.task ≠ task) (store : TaskStore) :
    (records.foldl put store).get? task = store.get? task := by
  induction records generalizing store with
  | nil => rfl
  | cons record rest ih =>
      have different : task ≠ record.task := fun same => other record List.mem_cons_self same.symm
      rw [List.foldl_cons, ih fun later member => other later (List.mem_cons_of_mem _ member),
        get?_put, if_neg different]

/-- Records of different tasks are all found after they were put. -/
theorem get?_foldl_put_of_mem {records : List Record} {record : Record}
    (distinct : (records.map Record.task).Nodup) (member : record ∈ records) (store : TaskStore) :
    (records.foldl put store).get? record.task = some record := by
  induction records generalizing store with
  | nil => cases member
  | cons first rest ih =>
      rw [List.map_cons, List.nodup_cons] at distinct
      rcases List.mem_cons.mp member with rfl | later
      · have absent (other : Record) (isOther : other ∈ rest) : other.task ≠ record.task :=
          fun same => distinct.1 (same ▸ List.mem_map_of_mem isOther)
        rw [List.foldl_cons, get?_foldl_put_of_ne absent, get?_put, if_pos rfl]
      · exact ih distinct.2 later (store.put first)

theorem get?_ofRecords_eq_none {records : List Record} {task : TaskId}
    (other : ∀ record ∈ records, record.task ≠ task) : (ofRecords records).get? task = none :=
  get?_foldl_put_of_ne other empty

theorem get?_of_mem_values (keyed : store.IsKeyed) {record : Record}
    (member : record ∈ store.records.values) : store.get? record.task = some record := by
  obtain ⟨entry, found, rfl⟩ := List.mem_map.mp member
  have stored : store.get? entry.1 = some entry.2 := Table.get?_of_mem_entries found
  rw [keyed _ _ stored, stored]

theorem mem_values (keyed : store.IsKeyed) {record : Record} :
    record ∈ store.records.values ↔ store.get? record.task = some record := by
  refine ⟨get?_of_mem_values keyed, fun found => ?_⟩
  obtain ⟨entry, here, same⟩ := Option.map_eq_some_iff.mp found
  exact List.mem_map.mpr ⟨entry, List.mem_of_find?_eq_some here, same⟩

/-- No task is stored twice. -/
theorem nodup_values (keyed : store.IsKeyed) : (store.records.values.map Record.task).Nodup := by
  have own : store.records.values.map Record.task = store.records.keys := by
    simp only [Table.values, Table.keys, List.map_map]
    refine List.map_congr_left fun entry member => ?_
    exact keyed _ _ (Table.get?_of_mem_entries member)
  exact own ▸ store.records.distinct

theorem mem_keys {task : TaskId} {record : Record} (present : store.get? task = some record) :
    task ∈ store.records.keys := by
  refine Decidable.not_not.mp fun absent => ?_
  rw [get?, Table.get?_eq_none_iff.mpr absent] at present
  cases present

/-- A listing of due records shows records as they are, and all of them wait. -/
theorem of_mem_due (keyed : store.IsKeyed) {now : Instant} {limit : Nat} {record : Record}
    (member : record ∈ store.due now limit) :
    store.get? record.task = some record ∧ isDue now record = true := by
  have listed := List.mem_of_mem_take member
  rw [List.mem_mergeSort, List.mem_filter] at listed
  exact ⟨get?_of_mem_values keyed listed.1, listed.2⟩

theorem waiting_of_isDue {now : Instant} {record : Record} (due : isDue now record = true) :
    ∃ waiting, record.status = .waiting waiting := by
  simp only [isDue, retryAt?] at due
  cases status : record.status with
  | waiting waiting => exact ⟨waiting, rfl⟩
  | scheduled _ => simp [status] at due
  | failed _ => simp [status] at due
  | loaded _ => simp [status] at due

theorem insert_of_get?_none {record : Record} (absent : store.get? record.task = none) :
    store.insert record =
      .ok ({ record with version := 1 }, store.put { record with version := 1 }) := by
  simp only [insert, absent]

theorem insert_of_get?_some {record found : Record}
    (present : store.get? record.task = some found) :
    store.insert record = .error (.alreadyExists record.task) := by
  simp only [insert, present]

/-- A write that expects the version of a stored record succeeds exactly on that version. -/
theorem update_exact {task : TaskId} {version : UInt64} {status : Status} {resume : Option Json}
    {current : Record} (found : store.get? task = some current) :
    store.update task (.exact version) status resume =
      if version = current.version then
        .ok (current.next status resume, store.put (current.next status resume))
      else .error (.conflict task (.exact version) current.version) := by
  simp only [update, found, Expected.isMet, beq_iff_eq]

/-- A record that is stored as it was read is written. -/
theorem update_found {record : Record} (found : store.get? record.task = some record)
    (status : Status) (resume : Option Json) :
    store.update record.task (.exact record.version) status resume =
      .ok (record.next status resume, store.put (record.next status resume)) :=
  (update_exact found).trans (if_pos rfl)

end TaskStore

end CacheFill
