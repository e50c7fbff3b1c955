import CacheFill.Proofs.Task.Listing

/-!
The scans of a store show one picture, whatever was written to it: counts are lengths of listings,
due records are waiting records, and a listing depends neither on the order in which the records are
kept nor, but for where it ends, on its limit. Main statement: `scans_agree`.
-/

set_option autoImplicit false

namespace CacheFill

theorem TaskId.lt_of_le_of_ne {one other : TaskId} (before : one ≤ other) (different : one ≠ other) :
    one < other :=
  Nat.lt_of_le_of_ne before fun same =>
    different (congrArg TaskId.mk (BitVec.eq_of_toNat_eq same))

namespace TaskStore

variable {store later : TaskStore} {record : Record} {order : List Record}

/-! Writes -/

/-- A call that writes: an insertion or a conditional write. -/
inductive Write where
  | insert (record : Record)
  | update (task : TaskId) (expected : Expected) (status : Status) (resume : Option Json)

def Write.run (store : TaskStore) : Write → Except StoreError (Record × TaskStore)
  | .insert record => store.insert record
  | .update task expected status resume => store.update task expected status resume

/-- The store after a write; a refused one leaves it alone. -/
def after (store : TaskStore) (write : Write) : TaskStore :=
  match write.run store with
  | .ok (_, later) => later
  | .error _ => store

/-- The store after writes, the oldest first. -/
def afterAll (store : TaskStore) (writes : List Write) : TaskStore := writes.foldl after store

/-- The write is an insertion, and it succeeds. -/
def Write.adds (store : TaskStore) : Write → Bool
  | .insert record => (store.insert record).toOption.isSome
  | .update _ _ _ _ => false

/-- How many insertions among the writes succeed. -/
def insertions (store : TaskStore) : List Write → Nat
  | [] => 0
  | write :: rest => (write.adds store).toNat + insertions (store.after write) rest

/-- What a write does: it changes nothing, adds a record or puts one in place of another. -/
inductive Changes (store : TaskStore) : Bool → TaskStore → Prop where
  | refused : Changes store false store
  | added (record : Record) (absent : store.get? record.task = none) :
      Changes store true (store.put record)
  | replaced (record found : Record) (present : store.get? record.task = some found) :
      Changes store false (store.put record)

theorem changes_after (keyed : store.IsKeyed) (write : Write) :
    Changes store (write.adds store) (store.after write) := by
  cases write with
  | insert record =>
      cases found : store.get? record.task with
      | none =>
          simp only [after, Write.run, Write.adds, insert_of_get?_none found]
          exact .added { record with version := 1 } found
      | some old =>
          simp only [after, Write.run, Write.adds, insert_of_get?_some found]
          exact .refused
  | update task expected status resume =>
      simp only [after, Write.run, Write.adds, update]
      cases found : store.get? task with
      | none => exact .refused
      | some current =>
          by_cases isMet : expected.isMet current.version = true
          · simp only [isMet, if_true]
            refine .replaced (current.next status resume) current ?_
            rw [Record.next, keyed task current found, found]
          · simp only [isMet]
            exact .refused

theorem size_put (store : TaskStore) (record : Record) :
    (store.put record).records.size =
      store.records.size + (store.get? record.task).isNone.toNat := by
  cases found : store.get? record.task with
  | none =>
      have absent : record.task ∉ store.records.entries.map (·.1) := Table.get?_eq_none_iff.mp found
      simp [put, Table.size, Table.insert, absent]
  | some old =>
      have present : record.task ∈ store.records.entries.map (·.1) := mem_keys found
      simp [put, Table.size, Table.insert, present, Table.replaceEntry]

theorem Changes.keeps {adds : Bool} (changes : Changes store adds later) (keyed : store.IsKeyed) :
    later.IsKeyed ∧ later.records.size = store.records.size + adds.toNat := by
  cases changes with
  | refused => exact ⟨keyed, rfl⟩
  | added record absent => exact ⟨keyed.put record, by rw [size_put, absent]; rfl⟩
  | replaced record found present => exact ⟨keyed.put record, by rw [size_put, present]; rfl⟩

/-- There are as many records more as there were insertions. -/
theorem afterAll_keeps (keyed : store.IsKeyed) (writes : List Write) :
    (store.afterAll writes).IsKeyed ∧
      (store.afterAll writes).records.size = store.records.size + store.insertions writes := by
  induction writes generalizing store with
  | nil => exact ⟨keyed, rfl⟩
  | cons write rest ih =>
      obtain ⟨keyedAfter, size⟩ := (changes_after keyed write).keeps keyed
      obtain ⟨keyedLater, sizeLater⟩ := ih keyedAfter
      refine ⟨keyedLater, ?_⟩
      rw [afterAll, List.foldl_cons, ← afterAll, sizeLater, size, insertions, Nat.add_assoc]

/-! Counts -/

theorem length_values (store : TaskStore) : store.records.values.length = store.records.size :=
  List.length_map ..

/-- Every record is counted in one state. -/
theorem sum_counts (store : TaskStore) :
    store.counts.scheduled + store.counts.waitsForRetry + store.counts.failed +
      store.counts.loaded = store.records.size := by
  rw [← length_values]
  simp only [counts, countIn]
  induction store.records.values with
  | nil => rfl
  | cons record rest ih =>
      simp only [List.countP_cons, List.length_cons, ← ih]
      cases record.status <;> simp only [Status.state] <;> simp <;> omega

/-! Listings by state -/

def taskBefore (record other : Record) : Bool := record.task ≤ other.task

theorem pairwise_mergeSort_taskBefore {records : List Record}
    (distinct : (records.map Record.task).Nodup) :
    (records.mergeSort taskBefore).Pairwise fun one other => one.task < other.task := by
  have sorted : (records.mergeSort taskBefore).Pairwise fun one other =>
      taskBefore one other = true := by
    apply List.pairwise_mergeSort
    · intro one other third before after
      simp only [taskBefore, decide_eq_true_eq] at *
      exact Nat.le_trans before after
    · intro one other
      simp only [taskBefore, Bool.or_eq_true, decide_eq_true_eq]
      exact Nat.le_total _ _
  have nodup := ((List.mergeSort_perm records taskBefore).map Record.task).nodup_iff.mpr distinct
  refine List.Pairwise.imp₂ ?_ sorted (List.pairwise_map.mp nodup)
  intro one other before different
  exact TaskId.lt_of_le_of_ne (of_decide_eq_true before) different

/-- The records of one kind, in whatever order they are found, are listed in one order. -/
theorem mergeSort_filter (keyed : store.IsKeyed) (found : order.Perm store.records.values)
    (kind : Record → Bool) :
    (order.filter kind).mergeSort taskBefore = store.sorted.filter kind := by
  have distinct := nodup_values keyed
  have distinctToo : ((order.filter kind).map Record.task).Nodup :=
    ((found.filter kind).map Record.task).nodup_iff.mpr
      (distinct.sublist (List.filter_sublist.map _))
  refine List.Perm.eq_of_pairwise ?_ (pairwise_mergeSort_taskBefore distinctToo)
    ((pairwise_mergeSort_taskBefore distinct).filter kind) ?_
  · intro one other _ _ before after
    exact absurd after (Nat.lt_asymm before)
  · have all := (found.trans (List.mergeSort_perm _ taskBefore).symm).filter kind
    exact (List.mergeSort_perm _ _).trans all

theorem inState_eq_take (store : TaskStore) (state : TaskState) (limit : Nat) :
    store.inState state limit =
      (store.sorted.filter fun record => record.status.state = state).take limit := rfl

theorem pairwise_inState (keyed : store.IsKeyed) (state : TaskState) (limit : Nat) :
    (store.inState state limit).Pairwise fun one other => one.task < other.task :=
  ((pairwise_mergeSort_taskBefore (nodup_values keyed)).filter _).sublist (List.take_sublist _ _)

theorem length_sorted (store : TaskStore) : store.sorted.length = store.records.size := by
  rw [sorted, List.length_mergeSort, length_values]

theorem inState_of_le {limit : Nat} (enough : store.records.size ≤ limit) (state : TaskState) :
    store.inState state limit =
      store.sorted.filter fun record => record.status.state = state := by
  refine List.take_of_length_le (Nat.le_trans ?_ enough)
  rw [← length_sorted]
  exact List.length_filter_le _ _

theorem mem_inState (keyed : store.IsKeyed) {limit : Nat} (enough : store.records.size ≤ limit)
    {state : TaskState} :
    record ∈ store.inState state limit ↔
      store.get? record.task = some record ∧ record.status.state = state := by
  rw [inState_of_le enough, List.mem_filter, sorted, List.mem_mergeSort, mem_values keyed,
    decide_eq_true_eq]

theorem length_inState {limit : Nat} (enough : store.records.size ≤ limit) (state : TaskState) :
    (store.inState state limit).length = store.countIn state := by
  rw [inState_of_le enough, ← List.countP_eq_length_filter, sorted,
    (List.mergeSort_perm _ _).countP_eq, countIn]

/-! Listings of due records -/

/-- The record waits for an earlier time than the other, or for the same time with a smaller task. -/
def IsEarlier (record other : Record) : Prop :=
  ∃ first second, record.status = .waiting first ∧ other.status = .waiting second ∧
    (first.retryAt < second.retryAt ∨
      first.retryAt = second.retryAt ∧ record.task < other.task)

theorem isDue_iff {now : Instant} :
    isDue now record = true ↔
      ∃ waiting, record.status = .waiting waiting ∧ waiting.retryAt ≤ now := by
  cases status : record.status <;> simp [isDue, retryAt?, status]

theorem retryAt?_of_waits (waits : waits record = true) :
    ∃ waiting, record.status = .waiting waiting ∧ retryAt? record = some waiting.retryAt := by
  cases status : record.status <;> simp [TaskStore.waits, retryAt?, status] at waits ⊢

theorem pairwise_isEarlier (keyed : store.IsKeyed) (now : Instant) :
    (store.backlog now).Pairwise IsEarlier := by
  have distinct := List.pairwise_map.mp (nodup_backlog keyed now)
  refine ((pairwise_backlog store now).and distinct).imp_of_mem ?_
  intro one other isOne isOther ⟨before, different⟩
  obtain ⟨first, isFirst, firstAt⟩ := retryAt?_of_waits (waits_of_mem_backlog isOne)
  obtain ⟨second, isSecond, secondAt⟩ := retryAt?_of_waits (waits_of_mem_backlog isOther)
  refine ⟨first, second, isFirst, isSecond, ?_⟩
  rcases (dueBefore_iff firstAt secondAt).mp before with earlier | ⟨same, task⟩
  · exact .inl earlier
  · exact .inr ⟨Instant.eq_of_rank_eq same, TaskId.lt_of_le_of_ne task different⟩

/-- The due records, in whatever order they are found, are listed in one order. -/
theorem mergeSort_isDue (keyed : store.IsKeyed) (found : order.Perm store.records.values)
    (now : Instant) : (order.filter (isDue now)).mergeSort dueBefore = store.backlog now := by
  have same : ((order.filter (isDue now)).mergeSort dueBefore).Perm (store.backlog now) :=
    ((List.mergeSort_perm _ _).trans (found.filter _)).trans (List.mergeSort_perm _ _).symm
  refine List.Perm.eq_of_pairwise ?_ ?_ (pairwise_backlog store now) same
  · intro one other isOne isOther
    exact eq_of_dueBefore keyed (same.mem_iff.mp isOne) isOther
  · refine pairwise_mergeSort_dueBefore fun record member => ?_
    exact waits_of_mem_backlog (same.mem_iff.mp (List.mem_mergeSort.mpr member))

theorem due_of_le {limit : Nat} (enough : store.records.size ≤ limit) (now : Instant) :
    store.due now limit = store.backlog now := by
  refine List.take_of_length_le (Nat.le_trans ?_ enough)
  rw [List.length_mergeSort, ← length_values]
  exact List.length_filter_le _ _

/-! The whole picture -/

/-- What the scans of a store show that holds so many records. A limit that is not smaller is
none. -/
structure ScansAgree (store : TaskStore) (size : Nat) : Prop where
  counted : ∀ limit, size ≤ limit → store.counts =
    ⟨(store.inState .scheduled limit).length, (store.inState .waitsForRetry limit).length,
      (store.inState .failed limit).length, (store.inState .loaded limit).length⟩
  total : store.counts.scheduled + store.counts.waitsForRetry + store.counts.failed +
    store.counts.loaded = size
  increasing : ∀ state limit,
    (store.inState state limit).Pairwise fun one other => one.task < other.task
  exact : ∀ state limit record, size ≤ limit →
    (record ∈ store.inState state limit ↔
      store.get? record.task = some record ∧ record.status.state = state)
  dueExact : ∀ now limit record, size ≤ limit →
    (record ∈ store.due now limit ↔ record ∈ store.inState .waitsForRetry limit ∧
      ∃ waiting, record.status = .waiting waiting ∧ waiting.retryAt ≤ now)
  dueIncreasing : ∀ now limit, (store.due now limit).Pairwise IsEarlier
  dueGrows : ∀ now moment limit, size ≤ limit → now ≤ moment →
    store.due now limit ⊆ store.due moment limit
  limited : ∀ small large, small ≤ large →
    (∀ state, store.inState state small <+: store.inState state large) ∧
      ∀ now, store.due now small <+: store.due now large
  /-- The order in which the records are found has no influence. -/
  unordered : ∀ order : List Record, order.Perm store.records.values →
    (∀ state, store.countIn state = order.countP fun record => record.status.state = state) ∧
      (∀ state limit, store.inState state limit =
        ((order.filter fun record => record.status.state = state).mergeSort taskBefore).take
          limit) ∧
      ∀ now limit, store.due now limit =
        ((order.filter (isDue now)).mergeSort dueBefore).take limit

theorem IsKeyed.mem_due {limit : Nat} (keyed : store.IsKeyed) (enough : store.records.size ≤ limit)
    (now : Instant) :
    record ∈ store.due now limit ↔ record ∈ store.inState .waitsForRetry limit ∧
      ∃ waiting, record.status = .waiting waiting ∧ waiting.retryAt ≤ now := by
  rw [due_of_le enough, mem_backlog keyed, mem_inState keyed enough, isDue_iff, and_assoc]
  refine and_congr_right fun _ => ⟨?_, And.right⟩
  rintro ⟨waiting, status, reached⟩
  exact ⟨by rw [status]; rfl, waiting, status, reached⟩

theorem IsKeyed.scansAgree (keyed : store.IsKeyed) : store.ScansAgree store.records.size where
  counted := by
    intro limit enough
    simp only [length_inState enough]
    rfl
  total := sum_counts store
  increasing := pairwise_inState keyed
  exact := fun _ _ _ enough => mem_inState keyed enough
  dueExact := fun now _ _ enough => keyed.mem_due enough now
  dueIncreasing := fun now _ => (pairwise_isEarlier keyed now).sublist (List.take_sublist _ _)
  dueGrows := by
    intro now moment limit enough later record member
    obtain ⟨listed, waiting, status, reached⟩ := (keyed.mem_due enough now).mp member
    exact (keyed.mem_due enough moment).mpr
      ⟨listed, waiting, status, Instant.le_trans reached later⟩
  limited := fun _ _ fewer =>
    ⟨fun _ => List.take_prefix_take_left fewer, fun _ => List.take_prefix_take_left fewer⟩
  unordered := by
    intro order found
    refine ⟨fun state => found.symm.countP_eq _, fun state limit => ?_, fun now limit => ?_⟩
    · rw [mergeSort_filter keyed found, inState_eq_take]
    · rw [mergeSort_isDue keyed found, due_eq_take]

/-- Whatever was written to a store, its scans agree, and they show as many records as were
inserted. -/
theorem scans_agree (writes : List Write) :
    (empty.afterAll writes).ScansAgree (empty.insertions writes) := by
  obtain ⟨keyed, size⟩ := afterAll_keeps isKeyed_empty writes
  have agree := keyed.scansAgree
  rwa [size, show (empty : TaskStore).records.size = 0 from rfl, Nat.zero_add] at agree

end TaskStore

end CacheFill
