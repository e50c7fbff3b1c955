import CacheFill.Service.Execution
import Mathlib.Logic.Relation

/-!
The life of a task. `Service.Rewrites` says all that the calls on a service may write over a record;
from it follow the path that statuses take and the versions along it. Every write raises the rank of
a status, and ranks are far below 2^64: so versions never come round, and a record that is read and
found again with its version has not been written in between.
-/

set_option autoImplicit false

namespace CacheFill

namespace Status

/-- A scheduled task gets one result, which carries the number of its execution; a waiting one is
scheduled for the next attempt or fails. Attempts are counted as numbers, so they do not wrap. -/
inductive Follows : Status → Status → Prop where
  | loaded {before after} : after.attempt = max before.attempt 1 →
      Follows (.scheduled before) (.loaded after)
  | failed {before after} : after.attempt = max before.attempt 1 →
      Follows (.scheduled before) (.failed after)
  | waits {before after} : after.attempt = max before.attempt 1 →
      Follows (.scheduled before) (.waiting after)
  | again {before after} : after.attempt.toNat = before.attempt.toNat + 1 →
      Follows (.waiting before) (.scheduled after)
  | givenUp {before after} : after.attempt = before.attempt →
      Follows (.waiting before) (.failed after)

/-- Where a status stands in the life of a task. -/
def rank : Status → Nat
  | .scheduled status => 3 * max status.attempt.toNat 1
  | .waiting status => 3 * status.attempt.toNat + 1
  | .failed status => 3 * status.attempt.toNat + 2
  | .loaded status => 3 * status.attempt.toNat + 2

theorem toNat_max_one (attempt : UInt32) : (max attempt 1).toNat = max attempt.toNat 1 := by
  have unfolded : max attempt 1 = if attempt ≤ 1 then 1 else attempt := rfl
  rw [unfolded]
  split
  · next small =>
      have below : attempt.toNat ≤ 1 := UInt32.le_iff_toNat_le.mp small
      change 1 = max attempt.toNat 1
      omega
  · next large =>
      have above : ¬ attempt.toNat ≤ 1 := fun below => large (UInt32.le_iff_toNat_le.mpr below)
      omega

theorem Follows.rank_lt {before after : Status} (follows : before.Follows after) :
    before.rank < after.rank := by
  cases follows with
  | loaded same => simp only [rank, same, toNat_max_one]; omega
  | failed same => simp only [rank, same, toNat_max_one]; omega
  | waits same => simp only [rank, same, toNat_max_one]; omega
  | again next => simp only [rank, next]; omega
  | givenUp same => simp only [rank, same]; omega

theorem rank_of_scheduled {status : Status} (scheduled : status.state = .scheduled) :
    status.rank = 3 * max status.attempt.toNat 1 := by
  cases status with
  | scheduled _ => rfl
  | waiting _ | failed _ | loaded _ => cases scheduled

theorem lt_rank {status : Status} (ended : status.state ≠ .scheduled) :
    3 * status.attempt.toNat < status.rank := by
  cases status with
  | scheduled _ => exact absurd rfl ended
  | waiting _ | failed _ | loaded _ => simp only [attempt, rank]; omega

theorem rank_lt_limit (status : Status) : status.rank < UInt64.size := by
  have below : status.attempt.toNat < UInt32.size := status.attempt.toNat_lt
  cases status <;> simp only [rank, attempt, UInt64.size, UInt32.size] at below ⊢ <;> omega

theorem Follows.not_terminal {before after : Status} (follows : before.Follows after) :
    before.isTerminal = false := by
  cases follows <;> rfl

theorem Follows.attempt_le {before after : Status} (follows : before.Follows after) :
    before.attempt ≤ after.attempt := by
  rw [UInt32.le_iff_toNat_le]
  cases follows with
  | loaded same | failed same | waits same => simp only [attempt, same, toNat_max_one]; omega
  | again next => simp only [attempt, next]; omega
  | givenUp same => exact Nat.le_of_eq (congrArg UInt32.toNat same.symm)

/-- A task waits after an execution, and executions count from 1. -/
theorem Follows.one_le_attempt {before after : Status} (follows : before.Follows after)
    (waits : after.state = .waitsForRetry) : 1 ≤ after.attempt := by
  rw [UInt32.le_iff_toNat_le]
  cases follows with
  | waits same =>
      simp only [attempt, same, toNat_max_one, UInt32.toNat_one]
      omega
  | loaded _ | failed _ | again _ | givenUp _ => cases waits

theorem Follows.attempt_lt {before after : Status} (follows : before.Follows after)
    (scheduled : after.state = .scheduled) : before.attempt < after.attempt := by
  rw [UInt32.lt_iff_toNat_lt]
  cases follows with
  | again next => simp only [attempt, next]; omega
  | loaded _ | failed _ | waits _ | givenUp _ => cases scheduled

theorem Follows.waits_before {before after : Status} (follows : before.Follows after)
    (scheduled : after.state = .scheduled) : before.state = .waitsForRetry := by
  cases follows with
  | again _ => rfl
  | loaded _ | failed _ | waits _ | givenUp _ => cases scheduled

theorem Follows.checkTransition {before after : Status} (follows : before.Follows after) :
    before.checkTransition after = .ok () := by
  have allowed : before.allows? after = some true := by
    cases follows with
    | loaded _ | failed _ | waits _ | givenUp _ => rfl
    | @again before after next =>
        rw [allows?, nextAttempt?_eq_some_iff.mpr next, Option.map_some, beq_self_eq_true]
  rw [Status.checkTransition, allowed]

end Status

def Waiting.givenUp (waiting : Waiting) (now : Instant) : Status :=
  .failed ⟨waiting.attempt, ⟨.retriesExhausted, waiting.lastError.message⟩, now⟩

/-- What the calls on a service may write over a record: the result of an execution, the next
attempt while the policy allows one, or a failure when it does not. -/
inductive Service.Rewrites (service : Service) (record : Record) : Record → Prop where
  | commit (scheduled : Scheduled) (ended : Except LoaderError Unit) (now : Instant)
      (status : record.status = .scheduled scheduled) :
      Rewrites service record
        (record.next (service.result record (max scheduled.attempt 1) ended now).1.1
          (service.result record (max scheduled.attempt 1) ended now).2)
  | retry (waiting : Waiting) (now : Instant) (status : record.status = .waiting waiting)
      (allowed : waiting.attempt < (service.policies.get record.type).maxAttempts) :
      Rewrites service record (record.next (.scheduled ⟨now, waiting.attempt + 1⟩) record.resume)
  | giveUp (waiting : Waiting) (now : Instant) (status : record.status = .waiting waiting)
      (exhausted : (service.policies.get record.type).maxAttempts ≤ waiting.attempt) :
      Rewrites service record (record.next (waiting.givenUp now) record.resume)

namespace Service

variable {service : Service} {record next : Record}

/-- An execution ends loaded, failed or waiting, and the status carries its number. -/
theorem result_cases (service : Service) (record : Record) (attempt : UInt32)
    (ended : Except LoaderError Unit) (now : Instant) :
    (∃ loaded : Loaded, (service.result record attempt ended now).1.1 = .loaded loaded ∧
        loaded.attempt = attempt) ∨
      (∃ failed : Failed, (service.result record attempt ended now).1.1 = .failed failed ∧
        failed.attempt = attempt) ∨
      ∃ waiting : Waiting, (service.result record attempt ended now).1.1 = .waiting waiting ∧
        waiting.attempt = attempt := by
  cases ended with
  | ok _ => exact .inl ⟨_, rfl, rfl⟩
  | error error =>
      simp only [result, failureStatus]
      split
      · split
        · exact .inr (.inr ⟨_, rfl, rfl⟩)
        · exact .inr (.inl ⟨_, rfl, rfl⟩)
      · exact .inr (.inl ⟨_, rfl, rfl⟩)

theorem result_follows (service : Service) (record : Record) (scheduled : Scheduled)
    (ended : Except LoaderError Unit) (now : Instant) :
    (Status.scheduled scheduled).Follows
      (service.result record (max scheduled.attempt 1) ended now).1.1 := by
  rcases service.result_cases record (max scheduled.attempt 1) ended now with
    ⟨loaded, status, attempt⟩ | ⟨failed, status, attempt⟩ | ⟨waiting, status, attempt⟩
  · rw [status]; exact .loaded attempt
  · rw [status]; exact .failed attempt
  · rw [status]; exact .waits attempt

theorem failureStatus_not_loaded (service : Service) (type : LoadType) (attempt : UInt32)
    (error : LoaderError) (now : Instant) :
    (service.failureStatus type attempt error now).1.state ≠ .loaded := by
  simp only [failureStatus]
  split
  · split <;> simp [Status.state]
  · simp [Status.state]

/-- Only an execution that ended well has its task loaded. -/
theorem ended_of_loaded {service : Service} {record : Record} {attempt : UInt32}
    {ended : Except LoaderError Unit} {now : Instant}
    (loaded : (service.result record attempt ended now).1.1.state = .loaded) : ended = .ok () := by
  cases ended with
  | ok _ => rfl
  | error error => exact absurd loaded (service.failureStatus_not_loaded _ _ _ _)

/-- A retry does not overflow its attempt number: it stays within the allowed executions. -/
theorem toNat_succ_of_lt {attempt limit : UInt32} (below : attempt < limit) :
    (attempt + 1).toNat = attempt.toNat + 1 := by
  have less : attempt.toNat < limit.toNat := UInt32.lt_iff_toNat_lt.mp below
  have bound : limit.toNat < 2 ^ 32 := limit.toNat_lt
  rw [UInt32.toNat_add]
  exact Nat.mod_eq_of_lt (by simp only [UInt32.toNat_one]; omega)

theorem Rewrites.follows (rewrites : service.Rewrites record next) :
    record.status.Follows next.status := by
  cases rewrites with
  | commit scheduled ended now status =>
      rw [status]
      exact service.result_follows record scheduled ended now
  | retry waiting now status allowed =>
      rw [status]
      exact .again (toNat_succ_of_lt allowed)
  | giveUp waiting now status exhausted =>
      rw [status]
      exact .givenUp rfl

/-- A write keeps what identifies the record, and counts its version up by one. -/
theorem Rewrites.frame (rewrites : service.Rewrites record next) :
    next.task = record.task ∧ next.type = record.type ∧ next.key = record.key ∧
      next.version = record.version + 1 := by
  cases rewrites <;> exact ⟨rfl, rfl, rfl, rfl⟩

end Service

/-- One record comes from another by writes of calls on certain services. -/
def Record.Becomes (services : Service → Prop) : Record → Record → Prop :=
  Relation.ReflTransGen fun before after => ∃ service, services service ∧
    service.Rewrites before after

namespace Record

variable {services : Service → Prop} {record current : Record}

theorem Becomes.refl (record : Record) : record.Becomes services record :=
  Relation.ReflTransGen.refl

theorem Becomes.trans {last : Record} (becomes : record.Becomes services current)
    (more : current.Becomes services last) : record.Becomes services last :=
  Relation.ReflTransGen.trans becomes more

theorem Becomes.write {service : Service} {next : Record}
    (becomes : record.Becomes services current) (fits : services service)
    (rewrites : service.Rewrites current next) : record.Becomes services next :=
  Relation.ReflTransGen.tail becomes ⟨service, fits, rewrites⟩

theorem Becomes.frame (becomes : record.Becomes services current) :
    current.task = record.task ∧ current.type = record.type ∧ current.key = record.key := by
  induction becomes with
  | refl => exact ⟨rfl, rfl, rfl⟩
  | tail _ last ih =>
      obtain ⟨service, _, rewrites⟩ := last
      obtain ⟨task, type, key, _⟩ := rewrites.frame
      exact ⟨task.trans ih.1, type.trans ih.2.1, key.trans ih.2.2⟩

/-- The version counts the writes, of which there are no more than the rank has risen by. -/
theorem Becomes.count (becomes : record.Becomes services current) :
    ∃ writes, current.version = record.version + UInt64.ofNat writes ∧
      record.status.rank + writes ≤ current.status.rank ∧ (writes = 0 → record = current) := by
  induction becomes with
  | refl => exact ⟨0, by simp, by simp, fun _ => rfl⟩
  | tail _ last ih =>
      obtain ⟨service, _, rewrites⟩ := last
      obtain ⟨writes, version, rank, _⟩ := ih
      have higher := rewrites.follows.rank_lt
      refine ⟨writes + 1, ?_, by omega, by omega⟩
      rw [rewrites.frame.2.2.2, version, UInt64.ofNat_add, UInt64.add_assoc]
      rfl

/-- A record that is found again with the version it had has not been written in between. -/
theorem Becomes.eq_of_version (becomes : record.Becomes services current)
    (same : current.version = record.version) : record = current := by
  obtain ⟨writes, version, rank, unchanged⟩ := becomes.count
  have bound := current.status.rank_lt_limit
  -- A rank is below 2^64, so the version comes round only after more writes than there can be.
  have counted := congrArg UInt64.toNat version
  rw [same, UInt64.toNat_add, UInt64.toNat_ofNat'] at counted
  have below : record.version.toNat < UInt64.size := record.version.toNat_lt
  simp only [UInt64.size] at bound below
  apply unchanged
  omega

theorem Becomes.rank_le (becomes : record.Becomes services current) :
    record.status.rank ≤ current.status.rank := by
  obtain ⟨writes, _, rank, _⟩ := becomes.count
  omega

theorem Becomes.attempt_le (becomes : record.Becomes services current) :
    record.status.attempt ≤ current.status.attempt := by
  induction becomes with
  | refl => exact UInt32.le_refl _
  | tail _ last ih =>
      obtain ⟨service, _, rewrites⟩ := last
      exact UInt32.le_trans ih rewrites.follows.attempt_le

theorem Becomes.eq_of_terminal (becomes : record.Becomes services current)
    (terminal : record.status.isTerminal = true) : record = current := by
  induction becomes with
  | refl => rfl
  | tail _ last ih =>
      obtain ⟨service, _, rewrites⟩ := last
      have pending := rewrites.follows.not_terminal
      rw [← ih, terminal] at pending
      cases pending

end Record

end CacheFill
