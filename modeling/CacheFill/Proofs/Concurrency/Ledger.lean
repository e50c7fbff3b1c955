import CacheFill.Proofs.Concurrency.Interleaving

/-!
The dispatches that calls owe. Whoever writes a scheduled status owes its dispatch until it comes to
publish it. A ledger holds the tasks, the dispatches published and those owed; it is balanced while
each attempt has one or the other. Main statements: `Balanced.write` and `Balanced.publish`, what
writing and publishing ask for to keep the balance.
-/

set_option autoImplicit false

namespace CacheFill

theorem Record.eq_dispatch {record : Record} {message : Dispatch} (type : message.type = record.type)
    (key : message.key = record.key) (task : message.task = record.task)
    (attempt : message.attempt = record.status.attempt) : message = record.dispatch := by
  obtain ⟨_, _, _, _⟩ := message
  simp only at type key task attempt
  rw [Record.dispatch, type, key, task, attempt]

def Stance.owed? : Stance → Option Dispatch
  | .dispatching message => some message
  | .idle | .announcing _ | .announced _ => none

theorem Stance.owed?_eq_some {stance : Stance} {message : Dispatch} :
    stance.owed? = some message ↔ stance = .dispatching message := by
  cases stance with
  | dispatching owed =>
      rw [Stance.owed?, Option.some.injEq, Stance.dispatching.injEq]
  | idle | announcing _ | announced _ =>
      constructor <;> intro same <;> cases same

theorem Stance.owed?_afterWrite (stance : Stance) (record : Record) :
    (stance.afterWrite record).owed? =
      if record.status.state = .scheduled then some record.dispatch else none := by
  cases status : record.status with
  | scheduled _ => simp only [afterWrite, status]; rfl
  | waiting _ => simp only [afterWrite, status]; rfl
  | failed _ | loaded _ => cases stance <;> simp only [afterWrite, status] <;> rfl

theorem Stance.owed?_of_settled {stance : Stance} (settled : stance.IsSettled) :
    stance.owed? = none := by
  cases stance with
  | idle | announced _ => rfl
  | dispatching _ | announcing _ => cases settled

theorem Stance.owed?_after_announce (stance : Stance) (topic : String)
    (notification : Notification) (answer : Except String Unit) :
    (stance.after ⟨.announce topic notification, answer⟩).owed? = none := by
  cases answer with
  | ok _ => cases stance <;> rfl
  | error reason => rfl

theorem awaitsPublish_of_owed {past : List Step} {message : Dispatch}
    (owed : (stance past).owed? = some message) :
    ∃ record, AwaitsPublish past record ∧ record.status.state = .scheduled ∧
      record.dispatch = message := by
  have unsettled : ¬ (stance past).IsSettled := by
    rw [Stance.owed?_eq_some.mp owed]
    exact id
  obtain ⟨record, awaits, same⟩ := awaitsPublish_of_unsettled unsettled
  rw [same, Stance.owed?_afterWrite] at owed
  split at owed
  · next scheduled => exact ⟨record, awaits, scheduled, Option.some.inj owed⟩
  · cases owed

/-- The tasks, the dispatches published, and the dispatch that each call owes. -/
structure Ledger where
  tasks : TaskStore
  published : List Dispatch
  owed? : Nat → Option Dispatch

namespace Ledger

/-- A call writes a record, and owes the dispatch of a scheduled one. -/
def write (ledger : Ledger) (number : Nat) (record : Record) : Ledger where
  tasks := ledger.tasks.put record
  published := ledger.published
  owed? := fun other =>
    if number = other then
      if record.status.state = .scheduled then some record.dispatch else none
    else ledger.owed? other

def publish (ledger : Ledger) (number : Nat) (message : Dispatch) : Ledger where
  tasks := ledger.tasks
  published := ledger.published ++ [message]
  owed? := fun other => if number = other then none else ledger.owed? other

/-- Each attempt that is scheduled was dispatched once, or one call owes its dispatch. -/
structure Balanced (ledger : Ledger) : Prop where
  owed : ∀ number message, ledger.owed? number = some message →
    message ∉ ledger.published ∧ ∃ record, ledger.tasks.get? message.task = some record ∧
      record.status.state = .scheduled ∧ record.dispatch = message
  sole : ∀ first second message other, ledger.owed? first = some message →
    ledger.owed? second = some other → message.task = other.task → first = second
  due : ∀ task record, ledger.tasks.get? task = some record → record.status.state = .scheduled →
    record.dispatch ∈ ledger.published ∨ ∃ number, ledger.owed? number = some record.dispatch
  sent : ∀ message ∈ ledger.published, ∃ record, ledger.tasks.get? message.task = some record ∧
    message.type = record.type ∧ message.key = record.key ∧
      message.attempt ≤ record.status.attempt
  rising : ledger.published.Pairwise fun earlier later =>
    earlier.task = later.task → earlier.attempt < later.attempt
  waits : ∀ task record, ledger.tasks.get? task = some record →
    record.status.state = .waitsForRetry → 1 ≤ record.status.attempt

variable {ledger : Ledger} {number : Nat} {record : Record} {message : Dispatch}

/-- A record may be written when nobody owes a dispatch of its task, and its own is a new one. -/
theorem Balanced.write (balanced : ledger.Balanced) (silent : ledger.owed? number = none)
    (clear : ∀ other message, ledger.owed? other = some message → message.task ≠ record.task)
    (sent : ∀ message ∈ ledger.published, message.task = record.task →
      message.type = record.type ∧ message.key = record.key ∧
        message.attempt ≤ record.status.attempt)
    (fresh : record.status.state = .scheduled → record.dispatch ∉ ledger.published)
    (waits : record.status.state = .waitsForRetry → 1 ≤ record.status.attempt) :
    (ledger.write number record).Balanced where
  owed := by
    intro other message owed
    simp only [Ledger.write] at owed ⊢
    split at owed
    · split at owed
      · next scheduled =>
          cases owed
          refine ⟨fresh scheduled, record, ?_, scheduled, rfl⟩
          exact (TaskStore.get?_put _ _ _).trans (if_pos rfl)
      · cases owed
    · obtain ⟨unpublished, stored, found, rest⟩ := balanced.owed other message owed
      refine ⟨unpublished, stored, ?_, rest⟩
      rw [TaskStore.get?_put, if_neg (clear other message owed), found]
  sole := by
    intro first second message other owedFirst owedSecond same
    simp only [Ledger.write] at owedFirst owedSecond
    split at owedFirst
    · split at owedSecond
      · next isFirst isSecond => exact isFirst.symm.trans isSecond
      · split at owedFirst
        · cases owedFirst
          exact absurd same.symm (clear second other owedSecond)
        · cases owedFirst
    · split at owedSecond
      · split at owedSecond
        · cases owedSecond
          exact absurd same (clear first message owedFirst)
        · cases owedSecond
      · exact balanced.sole first second message other owedFirst owedSecond same
  due := by
    intro task stored found scheduled
    simp only [Ledger.write, TaskStore.get?_put] at found ⊢
    split at found
    · cases found
      exact .inr ⟨number, by rw [if_pos rfl, if_pos scheduled]⟩
    · rcases balanced.due task stored found scheduled with published | ⟨other, owed⟩
      · exact .inl published
      · refine .inr ⟨other, ?_⟩
        rw [if_neg, owed]
        rintro rfl
        rw [silent] at owed
        cases owed
  sent := by
    intro message member
    simp only [Ledger.write, TaskStore.get?_put] at member ⊢
    split
    · next same => exact ⟨record, rfl, sent message member same⟩
    · exact balanced.sent message member
  rising := balanced.rising
  waits := by
    intro task stored found waiting
    simp only [Ledger.write, TaskStore.get?_put] at found
    split at found
    · cases found
      exact waits waiting
    · exact balanced.waits task stored found waiting

theorem Balanced.publish (balanced : ledger.Balanced) (keyed : ledger.tasks.IsKeyed)
    (owed : ledger.owed? number = some message) : (ledger.publish number message).Balanced := by
  obtain ⟨unpublished, record, found, scheduled, same⟩ := balanced.owed number message owed
  have others : ∀ other message', (ledger.publish number message).owed? other = some message' →
      other ≠ number ∧ ledger.owed? other = some message' := by
    intro other message' owes
    simp only [Ledger.publish] at owes
    split at owes
    · cases owes
    · next different => exact ⟨fun same => different same.symm, owes⟩
  refine ⟨?_, ?_, ?_, ?_, ?_, balanced.waits⟩
  · intro other message' owes
    obtain ⟨different, owes⟩ := others other message' owes
    obtain ⟨notSent, rest⟩ := balanced.owed other message' owes
    refine ⟨fun member => ?_, rest⟩
    rcases List.mem_append.mp member with earlier | now
    · exact notSent earlier
    · rw [List.mem_singleton.mp now] at owes
      exact different (balanced.sole other number message message owes owed rfl)
  · intro first second message' other owesFirst owesSecond
    exact balanced.sole first second message' other (others _ _ owesFirst).2
      (others _ _ owesSecond).2
  · intro task stored isStored isScheduled
    rcases balanced.due task stored isStored isScheduled with published | ⟨other, owes⟩
    · exact .inl (List.mem_append_left _ published)
    by_cases own : number = other
    · subst own
      rw [owed] at owes
      cases owes
      exact .inl (List.mem_append_right _ List.mem_cons_self)
    · exact .inr ⟨other, (if_neg own).trans owes⟩
  · intro other member
    rcases List.mem_append.mp member with earlier | now
    · exact balanced.sent other earlier
    · rw [List.mem_singleton.mp now]
      exact ⟨record, found, by rw [← same]; exact ⟨rfl, rfl, UInt32.le_refl _⟩⟩
  · simp only [Ledger.publish, List.pairwise_append]
    refine ⟨balanced.rising, List.pairwise_singleton _ _, ?_⟩
    intro earlier member last isLast sameTask
    rw [List.mem_singleton.mp isLast, ← same] at sameTask ⊢
    obtain ⟨stored, isStored, type, key, attempt⟩ := balanced.sent earlier member
    rw [sameTask, Record.dispatch, keyed _ _ found, found] at isStored
    cases isStored
    refine UInt32.lt_of_le_of_ne attempt fun equal => unpublished ?_
    rw [← same, ← Record.eq_dispatch type key sameTask equal]
    exact member

end Ledger

end CacheFill
