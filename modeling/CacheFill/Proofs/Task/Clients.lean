import CacheFill.Proofs.Justified
import CacheFill.Proofs.Task.Store
import Mathlib.Data.List.Chain

/-!
Clients of one store of task records. Each reads records, and later writes over one of them on the
condition that its version is still the one that was read; the calls of all clients come in any
order. The history of the calls is kept with their answers, and the store is what they left behind.
Main statement: `no_lost_update`.
-/

set_option autoImplicit false

namespace CacheFill

/-- A write over the first record leaves the second one. -/
def Record.Precedes (record next : Record) : Prop :=
  ∃ status resume, next = record.next status resume

theorem Record.Precedes.alike {record next : Record} (precedes : record.Precedes next) :
    next.task = record.task ∧ next.type = record.type ∧ next.key = record.key := by
  obtain ⟨status, resume, rfl⟩ := precedes
  exact ⟨rfl, rfl, rfl⟩

theorem Record.alike_of_chain {first : Record} {rest : List Record}
    (chain : (first :: rest).IsChain Precedes) :
    ∀ record ∈ rest, record.task = first.task ∧ record.type = first.type ∧
      record.key = first.key := by
  induction rest generalizing first with
  | nil =>
      intro record member
      cases member
  | cons next rest ih =>
      obtain ⟨precedes, chain⟩ := List.isChain_cons_cons.mp chain
      obtain ⟨task, type, key⟩ := precedes.alike
      intro record member
      rcases List.mem_cons.mp member with rfl | later
      · exact ⟨task, type, key⟩
      · obtain ⟨sameTask, sameType, sameKey⟩ := ih chain record later
        exact ⟨sameTask.trans task, sameType.trans type, sameKey.trans key⟩

namespace TaskStore

inductive Request where
  | insert (record : Record)
  | get (task : TaskId)
  | due (now : Instant) (limit : Nat)
  | inState (state : TaskState) (limit : Nat)
  /-- Writes over a record, if it has still the version that it was read with. -/
  | update (read : Record) (status : Status) (resume : Option Json)

inductive Answer where
  | shown (records : List Record)
  | written (record : Record)
  | refused (error : StoreError)

def Answer.records : Answer → List Record
  | .shown records => records
  | .written record => [record]
  | .refused _ => []

/-- What a write answers; a refused one leaves the store alone. -/
def outcome (store : TaskStore) : Except StoreError (Record × TaskStore) → Answer × TaskStore
  | .ok (record, later) => (.written record, later)
  | .error error => (.refused error, store)

def serve (store : TaskStore) : Request → Answer × TaskStore
  | .insert record => store.outcome (store.insert record)
  | .get task => (.shown (store.get? task).toList, store)
  | .due now limit => (.shown (store.due now limit), store)
  | .inState state limit => (.shown (store.inState state limit), store)
  | .update read status resume =>
      store.outcome (store.update read.task (.exact read.version) status resume)

structure Turn where
  client : Nat
  request : Request
  answer : Answer

/-- The store that calls leave behind, the oldest call first. -/
def left (calls : List Turn) : TaskStore :=
  calls.foldl (fun store turn => (store.serve turn.request).2) empty

/-- A client has been shown a record. -/
def HasRead (calls : List Turn) (client : Nat) (record : Record) : Prop :=
  ∃ turn ∈ calls, turn.client = client ∧ record ∈ turn.answer.records

def Request.IsFounded (calls : List Turn) (client : Nat) : Request → Prop
  | .update read _ _ => HasRead calls client read
  | .insert _ | .get _ | .due _ _ | .inState _ _ => True

/-- Calls with their answers, in which clients write only over what they have read. -/
inductive IsHistory : List Turn → Prop where
  | nil : IsHistory []
  | call {calls : List Turn} (client : Nat) (request : Request) (earlier : IsHistory calls)
      (founded : request.IsFounded calls client) :
      IsHistory (calls ++ [⟨client, request, ((left calls).serve request).1⟩])

def Turn.written? (turn : Turn) : Option Record :=
  match turn.answer with
  | .written record => some record
  | .shown _ | .refused _ => none

/-- The records that were written for a task, the oldest first. -/
def writes (task : TaskId) (calls : List Turn) : List Record :=
  (calls.filterMap Turn.written?).filter (·.task = task)

variable {store : TaskStore} {calls before later : List Turn} {task : TaskId} {record : Record}

theorem left_snoc (calls : List Turn) (turn : Turn) :
    left (calls ++ [turn]) = ((left calls).serve turn.request).2 := by
  simp [left]

theorem writes_append (task : TaskId) (calls more : List Turn) :
    writes task (calls ++ more) = writes task calls ++ writes task more := by
  simp [writes]

/-- What one request does: it writes one record, or it changes nothing. -/
inductive Served (store : TaskStore) : Request → Answer → TaskStore → Prop where
  | shown (request : Request) (records : List Record)
      (stored : ∀ record ∈ records, store.get? record.task = some record) :
      Served store request (.shown records) store
  | inserted (record : Record) (absent : store.get? record.task = none) :
      Served store (.insert record) (.written { record with version := 1 })
        (store.put { record with version := 1 })
  | present (record found : Record) (present : store.get? record.task = some found) :
      Served store (.insert record) (.refused (.alreadyExists record.task)) store
  | updated (read found : Record) (status : Status) (resume : Option Json)
      (current : store.get? read.task = some found) (same : read.version = found.version) :
      Served store (.update read status resume) (.written (found.next status resume))
        (store.put (found.next status resume))
  | conflicting (read found : Record) (status : Status) (resume : Option Json)
      (current : store.get? read.task = some found) (different : read.version ≠ found.version) :
      Served store (.update read status resume)
        (.refused (.conflict read.task (.exact read.version) found.version)) store
  | missing (read : Record) (status : Status) (resume : Option Json)
      (absent : store.get? read.task = none) :
      Served store (.update read status resume) (.refused (.notFound read.task)) store

theorem of_mem_inState (keyed : store.IsKeyed) {state : TaskState} {limit : Nat}
    (member : record ∈ store.inState state limit) : store.get? record.task = some record := by
  have listed := List.mem_of_mem_take member
  rw [List.mem_filter, sorted, List.mem_mergeSort] at listed
  exact get?_of_mem_values keyed listed.1

theorem served_serve (keyed : store.IsKeyed) (request : Request) :
    Served store request (store.serve request).1 (store.serve request).2 := by
  cases request with
  | insert record =>
      cases found : store.get? record.task with
      | none =>
          rw [serve, insert_of_get?_none found]
          exact .inserted record found
      | some old =>
          rw [serve, insert_of_get?_some found]
          exact .present record old found
  | get task =>
      refine .shown _ _ fun record member => ?_
      rw [Option.mem_toList] at member
      rw [keyed task record member]
      exact member
  | due now limit => exact .shown _ _ fun record member => (of_mem_due keyed member).1
  | inState state limit => exact .shown _ _ fun record member => of_mem_inState keyed member
  | update read status resume =>
      cases found : store.get? read.task with
      | none =>
          have refused : store.update read.task (.exact read.version) status resume =
              .error (.notFound read.task) := by
            simp only [update, found]
          rw [serve, refused]
          exact .missing read status resume found
      | some current =>
          rw [serve, update_exact found]
          by_cases same : read.version = current.version
          · rw [if_pos same]
            exact .updated read current status resume found same
          · rw [if_neg same]
            exact .conflicting read current status resume found same

/-- What the store holds is told by the writes, and clients have read nothing else. -/
structure Accounts (calls : List Turn) : Prop where
  keyed : (left calls).IsKeyed
  last : ∀ task, (left calls).get? task = (writes task calls).getLast?
  counted : ∀ task n record, (writes task calls)[n]? = some record →
    record.version = UInt64.ofNat (n + 1)
  chained : ∀ task, (writes task calls).IsChain Record.Precedes
  read : ∀ turn ∈ calls, ∀ record ∈ turn.answer.records, record ∈ writes record.task calls

theorem accounts_nil : Accounts [] where
  keyed := isKeyed_empty
  last := fun _ => rfl
  counted := by intro task n record found; simp [writes] at found
  chained := fun _ => .nil
  read := by intro turn member; cases member

theorem writes_of_quiet {turn : Turn} (quiet : turn.written? = none) (task : TaskId)
    (calls : List Turn) : writes task (calls ++ [turn]) = writes task calls := by
  simp [writes, quiet]

theorem writes_of_written {turn : Turn} (written : turn.written? = some record) (task : TaskId)
    (calls : List Turn) :
    writes task (calls ++ [turn]) =
      if record.task = task then writes task calls ++ [record] else writes task calls := by
  by_cases same : record.task = task <;> simp [writes, written, same]

theorem Accounts.quiet (accounts : Accounts calls) {turn : Turn} (quiet : turn.written? = none)
    (same : left (calls ++ [turn]) = left calls)
    (stored : ∀ record ∈ turn.answer.records, (left calls).get? record.task = some record) :
    Accounts (calls ++ [turn]) where
  keyed := same ▸ accounts.keyed
  last := by
    intro task
    rw [same, writes_of_quiet quiet]
    exact accounts.last task
  counted := by
    intro task n record found
    rw [writes_of_quiet quiet] at found
    exact accounts.counted task n record found
  chained := by
    intro task
    rw [writes_of_quiet quiet]
    exact accounts.chained task
  read := by
    intro other member record shown
    rw [writes_of_quiet quiet]
    rcases List.mem_append.mp member with earlier | now
    · exact accounts.read other earlier record shown
    · obtain rfl := List.mem_singleton.mp now
      have last := accounts.last record.task
      rw [stored record shown] at last
      exact List.mem_of_getLast? last.symm

theorem Accounts.write (accounts : Accounts calls) {turn : Turn} {next : Record}
    (answer : turn.answer = .written next) (put : left (calls ++ [turn]) = (left calls).put next)
    (counted : next.version = UInt64.ofNat ((writes next.task calls).length + 1))
    (follows : ∀ last ∈ (writes next.task calls).getLast?, last.Precedes next) :
    Accounts (calls ++ [turn]) := by
  have written : turn.written? = some next := by rw [Turn.written?, answer]
  have grows := writes_of_written written
  refine ⟨put ▸ accounts.keyed.put next, ?_, ?_, ?_, ?_⟩
  · intro task
    rw [put, get?_put, grows]
    by_cases same : next.task = task
    · rw [if_pos same, if_pos same.symm, List.getLast?_concat]
    · rw [if_neg same, if_neg fun equal => same equal.symm]
      exact accounts.last task
  · intro task n record found
    rw [grows] at found
    split at found
    · next same =>
        subst same
        rcases Nat.lt_or_ge n (writes next.task calls).length with below | beyond
        · rw [List.getElem?_append_left below] at found
          exact accounts.counted _ n record found
        · rw [List.getElem?_append_right beyond] at found
          obtain ⟨here, rfl⟩ := List.getElem?_eq_some_iff.mp found
          have last : n = (writes next.task calls).length := by
            rw [List.length_singleton] at here
            omega
          rw [List.getElem_singleton, counted, last]
    · exact accounts.counted task n record found
  · intro task
    rw [grows]
    split
    · next same =>
        subst same
        refine List.isChain_append.mpr ⟨accounts.chained _, .singleton _, ?_⟩
        intro last isLast first isFirst
        obtain rfl : next = first := by simpa using isFirst
        exact follows last isLast
    · exact accounts.chained task
  · intro other member record shown
    rw [writes_append]
    rcases List.mem_append.mp member with earlier | now
    · exact List.mem_append_left _ (accounts.read other earlier record shown)
    · obtain rfl := List.mem_singleton.mp now
      have same : record = next := by simpa [answer, Answer.records] using shown
      subst same
      apply List.mem_append_right
      simp [writes, written]

theorem Accounts.last_counted (accounts : Accounts calls)
    (found : (writes task calls).getLast? = some record) :
    record.version = UInt64.ofNat (writes task calls).length := by
  rw [List.getLast?_eq_getElem?] at found
  have counted := accounts.counted task _ record found
  obtain ⟨below, -⟩ := List.getElem?_eq_some_iff.mp found
  rwa [Nat.sub_add_cancel (by omega)] at counted

theorem Accounts.call (accounts : Accounts calls) (client : Nat) (request : Request) :
    Accounts (calls ++ [⟨client, request, ((left calls).serve request).1⟩]) := by
  have served := served_serve accounts.keyed request
  have leaves := left_snoc calls ⟨client, request, ((left calls).serve request).1⟩
  generalize (left calls).serve request = result at served leaves
  obtain ⟨answer, store⟩ := result
  cases served with
  | shown request records stored => exact accounts.quiet rfl leaves stored
  | inserted record absent =>
      have nothing : writes record.task calls = [] := by
        rw [accounts.last, List.getLast?_eq_none_iff] at absent
        exact absent
      apply accounts.write rfl leaves
      · simp [nothing]
      · simp [nothing]
  | present record found present => exact accounts.quiet rfl leaves (by simp [Answer.records])
  | updated read found status resume current same =>
      have task : found.task = read.task := accounts.keyed _ _ current
      have last := accounts.last read.task
      rw [current] at last
      apply accounts.write rfl leaves
      · change found.version + 1 = UInt64.ofNat ((writes found.task calls).length + 1)
        rw [task, accounts.last_counted last.symm, UInt64.ofNat_add]
        rfl
      · intro other isLast
        rw [show (found.next status resume).task = read.task from task, ← last] at isLast
        obtain rfl := Option.some.inj isLast
        exact ⟨status, resume, rfl⟩
  | conflicting read found status resume current different =>
      exact accounts.quiet rfl leaves (by simp [Answer.records])
  | missing read status resume absent => exact accounts.quiet rfl leaves (by simp [Answer.records])

theorem IsHistory.accounts (history : IsHistory calls) : Accounts calls := by
  induction history with
  | nil => exact accounts_nil
  | call client request earlier founded ih => exact ih.call client request

/-- Each call was answered by the store that the calls before it had left. -/
theorem IsHistory.turn {turn : Turn} (history : IsHistory (before ++ turn :: later)) :
    IsHistory before ∧ turn.request.IsFounded before turn.client ∧
      turn.answer = ((left before).serve turn.request).1 := by
  generalize split : before ++ turn :: later = calls at history
  induction history generalizing later with
  | nil => simp at split
  | @call calls client request earlier founded ih =>
      rcases split_snoc split.symm with ⟨rfl, rfl, rfl⟩ | ⟨front, rfl, rfl⟩
      · exact ⟨earlier, founded, rfl⟩
      · exact ih rfl

theorem Accounts.toNat_version (accounts : Accounts calls) {n : Nat}
    (found : (writes task calls)[n]? = some record)
    (short : (writes task calls).length < UInt64.size) : record.version.toNat = n + 1 := by
  obtain ⟨below, -⟩ := List.getElem?_eq_some_iff.mp found
  rw [accounts.counted task n record found]
  exact Nat.mod_eq_of_lt (Nat.lt_of_le_of_lt below short)

/-- Versions do not come round, so a record that was read is the last one if its version is. -/
theorem Accounts.eq_last (accounts : Accounts calls) {read last : Record}
    (short : (writes task calls).length < UInt64.size) (member : read ∈ writes task calls)
    (isLast : (writes task calls).getLast? = some last) (same : read.version = last.version) :
    read = last := by
  obtain ⟨n, found⟩ := List.mem_iff_getElem?.mp member
  have version := accounts.toNat_version found short
  rw [List.getLast?_eq_getElem?] at isLast
  rw [same, accounts.toNat_version isLast short, Nat.add_right_cancel_iff] at version
  rw [version, found] at isLast
  exact Option.some.inj isLast

theorem length_writes_le (task : TaskId) (before later : List Turn) :
    (writes task before).length ≤ (writes task (before ++ later)).length := by
  rw [writes_append, List.length_append]
  exact Nat.le_add_right _ _

theorem IsHistory.hasRead {client : Nat} {read : Record} (history : IsHistory calls)
    (hasRead : HasRead calls client read) : read ∈ writes read.task calls := by
  obtain ⟨turn, member, -, shown⟩ := hasRead
  exact history.accounts.read turn member read shown

/-- An insertion succeeds once; it does not replace what is there. -/
theorem IsHistory.inserts {client : Nat} {answer : Answer}
    (history : IsHistory (before ++ ⟨client, .insert record, answer⟩ :: later)) :
    writes record.task before = [] ∧ answer = .written { record with version := 1 } ∨
      writes record.task before ≠ [] ∧ answer = .refused (.alreadyExists record.task) := by
  obtain ⟨earlier, -, answered⟩ := history.turn
  have last := earlier.accounts.last record.task
  have served := served_serve earlier.accounts.keyed (.insert record)
  rw [← answered] at served
  generalize ((left before).serve (.insert record)).2 = store at served
  cases served with
  | shown request records stored =>
      -- An insertion does not answer as a reading does.
      simp only [serve, outcome] at answered
      split at answered <;> cases answered
  | inserted record absent =>
      rw [absent] at last
      exact .inl ⟨List.getLast?_eq_none_iff.mp last.symm, rfl⟩
  | present record found present =>
      refine .inr ⟨?_, rfl⟩
      intro nothing
      rw [present, nothing] at last
      cases last

/-- A conditional write succeeds just when it is computed from the last record that was written. -/
theorem IsHistory.updates {client : Nat} {read : Record} {status : Status} {resume : Option Json}
    {answer : Answer}
    (history : IsHistory (before ++ ⟨client, .update read status resume, answer⟩ :: later))
    (short : (writes read.task before).length < UInt64.size) :
    ∃ last, (writes read.task before).getLast? = some last ∧
      (read = last ∧ answer = .written (last.next status resume) ∨
        read.version ≠ last.version ∧
          answer = .refused (.conflict read.task (.exact read.version) last.version)) := by
  obtain ⟨earlier, founded, answered⟩ := history.turn
  have accounts := earlier.accounts
  have member := earlier.hasRead founded
  have last := accounts.last read.task
  have served := served_serve accounts.keyed (.update read status resume)
  rw [← answered] at served
  generalize ((left before).serve (.update read status resume)).2 = store at served
  cases served with
  | shown request records stored =>
      simp only [serve, outcome] at answered
      split at answered <;> cases answered
  | updated read found status resume current same =>
      rw [current] at last
      exact ⟨found, last.symm, .inl ⟨accounts.eq_last short member last.symm same, rfl⟩⟩
  | conflicting read found status resume current different =>
      rw [current] at last
      exact ⟨found, last.symm, .inr ⟨different, rfl⟩⟩
  | missing read status resume absent =>
      rw [absent] at last
      rw [List.getLast?_eq_none_iff.mp last.symm] at member
      cases member

/-- A conditional write that succeeds finds as many records written as its version says, and adds
one. -/
theorem IsHistory.counts {client : Nat} {read next : Record} {status : Status}
    {resume : Option Json}
    (history : IsHistory (before ++ ⟨client, .update read status resume, .written next⟩ :: later))
    (short : (writes read.task before).length < UInt64.size) :
    read.version.toNat = (writes read.task before).length ∧
      (writes read.task (before ++ [⟨client, .update read status resume, .written next⟩])).length =
        (writes read.task before).length + 1 := by
  obtain ⟨last, isLast, ⟨rfl, answer⟩ | ⟨-, answer⟩⟩ := history.updates short
  · cases answer
    obtain ⟨earlier, -, -⟩ := history.turn
    constructor
    · rw [earlier.accounts.last_counted isLast]
      exact Nat.mod_eq_of_lt short
    · rw [writes_of_written rfl, if_pos (show (read.next status resume).task = read.task from rfl),
        List.length_append, List.length_singleton]
  · cases answer

/-- Of two conditional writes that succeed, the earlier one finds the smaller version. -/
theorem IsHistory.version_lt {middle : List Turn} {client other : Nat}
    {read next later latest : Record} {status status' : Status} {resume resume' : Option Json}
    {rest : List Turn}
    (history : IsHistory (before ++ ⟨client, .update read status resume, .written next⟩ :: middle ++
      ⟨other, .update later status' resume', .written latest⟩ :: rest))
    (same : later.task = read.task)
    (short : (writes read.task (before ++
      ⟨client, .update read status resume, .written next⟩ :: middle)).length < UInt64.size) :
    read.version.toNat < later.version.toNat := by
  have within := length_writes_le read.task before
    (⟨client, .update read status resume, .written next⟩ :: middle)
  obtain ⟨second, -⟩ := history.counts (same ▸ short)
  obtain ⟨first, grown⟩ := history.turn.1.counts (Nat.lt_of_le_of_lt within short)
  have kept := length_writes_le read.task
    (before ++ [⟨client, .update read status resume, .written next⟩]) middle
  rw [List.append_assoc, List.singleton_append] at kept
  rw [first, second, same]
  omega

/-- The records that were written for a task form a chain: it begins with an insertion, and each
conditional write that succeeds is computed from the record before it. -/
theorem no_lost_update (history : IsHistory calls)
    (short : (writes task calls).length < UInt64.size) :
    ((left calls).get? task = (writes task calls).getLast? ∧
      (∀ n record, (writes task calls)[n]? = some record → record.version.toNat = n + 1) ∧
      (writes task calls).IsChain Record.Precedes ∧
      ∀ first ∈ (writes task calls).head?, ∀ record ∈ writes task calls,
        record.task = first.task ∧ record.type = first.type ∧ record.key = first.key) ∧
    (∀ before client record answer later,
      calls = before ++ ⟨client, .insert record, answer⟩ :: later → record.task = task →
      writes task before = [] ∧ answer = .written { record with version := 1 } ∨
        writes task before ≠ [] ∧ answer = .refused (.alreadyExists task)) ∧
    (∀ before client read status resume answer later,
      calls = before ++ ⟨client, .update read status resume, answer⟩ :: later → read.task = task →
      ∃ last, (writes task before).getLast? = some last ∧
        (read = last ∧ answer = .written (last.next status resume) ∨
          read.version ≠ last.version ∧
            answer = .refused (.conflict task (.exact read.version) last.version))) ∧
    (∀ before client read status resume next middle client' read' status' resume' next' later,
      calls = before ++ ⟨client, .update read status resume, .written next⟩ :: middle ++
        ⟨client', .update read' status' resume', .written next'⟩ :: later →
      read.task = task → read'.task = task → read.version ≠ read'.version) ∧
    ∀ request error, ((left calls).serve request).1 = .refused error →
      ((left calls).serve request).2 = left calls := by
  have accounts := history.accounts
  refine ⟨⟨accounts.last task, fun n record found => accounts.toNat_version found short,
    accounts.chained task, ?_⟩, ?_, ?_, ?_, ?_⟩
  · have chain := accounts.chained task
    intro first isFirst record member
    cases written : writes task calls with
    | nil => simp [written] at member
    | cons oldest rest =>
        rw [written] at chain isFirst member
        obtain rfl : oldest = first := by simpa using isFirst
        rcases List.mem_cons.mp member with rfl | later
        · exact ⟨rfl, rfl, rfl⟩
        · exact Record.alike_of_chain chain record later
  · rintro before client record answer later rfl rfl
    exact history.inserts
  · rintro before client read status resume answer later rfl rfl
    exact history.updates (Nat.lt_of_le_of_lt (length_writes_le _ _ _) short)
  · rintro before client read status resume next middle client' read' status' resume' next' later
      rfl rfl same
    have within := length_writes_le read.task
      (before ++ ⟨client, .update read status resume, .written next⟩ :: middle)
      (⟨client', .update read' status' resume', .written next'⟩ :: later)
    have less := history.version_lt same (Nat.lt_of_le_of_lt within short)
    intro equal
    rw [equal] at less
    exact Nat.lt_irrefl _ less
  · intro request error refused
    have served := served_serve accounts.keyed request
    generalize (left calls).serve request = result at served refused
    obtain ⟨answer, store⟩ := result
    cases refused
    cases served <;> rfl

/-- Two clients read a new record and write over it; the one that comes too late reads again. -/
def raced : List Turn :=
  let read : Record := ⟨default, default, "k", .initial default, 1, none⟩
  let loaded : Status := .loaded ⟨default, 1⟩
  let failed : Status := .failed ⟨1, default, default⟩
  let written := read.next loaded none
  [⟨0, .insert { read with version := 7 }, .written read⟩,
    ⟨0, .get default, .shown [read]⟩,
    ⟨1, .get default, .shown [read]⟩,
    ⟨0, .update read loaded none, .written written⟩,
    ⟨1, .update read failed none, .refused (.conflict default (.exact 1) 2)⟩,
    ⟨1, .get default, .shown [written]⟩,
    ⟨1, .update written failed none, .written (written.next failed none)⟩]

theorem isHistory_raced : IsHistory raced := by
  have shown : IsHistory (raced.take 3) :=
    ((IsHistory.nil.call 0 (.insert ⟨default, default, "k", .initial default, 7, none⟩)
      trivial).call 0 (.get default) trivial).call 1 (.get default) trivial
  have written : IsHistory (raced.take 4) :=
    shown.call 0 (.update ⟨default, default, "k", .initial default, 1, none⟩
      (.loaded ⟨default, 1⟩) none) ⟨_, .tail _ (.head _), rfl, .head _⟩
  have refused : IsHistory (raced.take 5) :=
    written.call 1 (.update ⟨default, default, "k", .initial default, 1, none⟩
      (.failed ⟨1, default, default⟩) none) ⟨_, .tail _ (.tail _ (.head _)), rfl, .head _⟩
  have again : IsHistory (raced.take 6) := refused.call 1 (.get default) trivial
  exact again.call 1 (.update ⟨default, default, "k", .loaded ⟨default, 1⟩, 2, none⟩
    (.failed ⟨1, default, default⟩) none)
    ⟨_, .tail _ (.tail _ (.tail _ (.tail _ (.tail _ (.head _))))), rfl, .head _⟩

theorem raced_update_refused :
    IsHistory raced ∧ (writes default raced).length < UInt64.size ∧
      (writes default raced).map (·.version) = [1, 2, 3] ∧
      ∃ last, (writes default (raced.take 4)).getLast? = some last ∧ 1 ≠ last.version := by
  have short : (writes default raced).length < UInt64.size := by decide
  refine ⟨isHistory_raced, short, rfl, ?_⟩
  obtain ⟨last, isLast, ⟨-, written⟩ | ⟨different, -⟩⟩ :=
    (no_lost_update isHistory_raced short).2.2.1 (raced.take 4) 1 _ _ none _ (raced.drop 5) rfl rfl
  · cases written
  · exact ⟨last, isLast, different⟩

end TaskStore

end CacheFill
