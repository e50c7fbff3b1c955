import CacheFill.Task.Transition
import Mathlib.Data.List.Chain

/-!
Statuses that come one after the other, each step checked. What the check lets through is the life
of a task. It has an answer to every pair of statuses but one kind: it adds one to an attempt number,
and that is a fault behind the last one.
Main statement: `orderly_iff_accepted`.
-/

set_option autoImplicit false

namespace CacheFill

namespace Status

/-- The check lets the step through. -/
def Accepts (current next : Status) : Prop := current.checkTransition next = .ok ()

/-- What the life of a task asks of two statuses that come one after the other. Attempts are counted
without an end. -/
structure LeadsTo (current next : Status) : Prop where
  goesOn : current.isTerminal = false
  waited : current.state = .waitsForRetry → next.state = .scheduled ∨ next.state = .failed
  executed : current.state = .scheduled → next.state ≠ .scheduled
  counted : next.state = .scheduled →
    current.state = .waitsForRetry ∧ next.attempt.toNat = current.attempt.toNat + 1

/-- A task that has waited after the last attempt there is a number for is scheduled again: the sum
that the check compares with is out of range. -/
def Overflows (current next : Status) : Prop :=
  current.state = .waitsForRetry ∧ next.state = .scheduled ∧
    current.attempt.toNat + 1 = UInt32.size

/-- What becomes of the check of a step. -/
inductive Checked (current next : Status) : Except TransitionError Unit → Prop where
  | accepted (leads : current.LeadsTo next) : Checked current next (.ok ())
  | refused (apart : ¬ current.LeadsTo next) (inRange : ¬ current.Overflows next) :
      Checked current next (.error (.notAllowed current next))
  | faulted (overflows : current.Overflows next) : Checked current next (.error .overflow)

/-- A chain of statuses as the life of a task asks for it. -/
structure Orderly (chain : List Status) : Prop where
  ends : ∀ before current after, chain = before ++ current :: after →
    current.isTerminal = true → after = []
  waits : ∀ before current next after, chain = before ++ current :: next :: after →
    current.state = .waitsForRetry → next.state = .scheduled ∨ next.state = .failed
  executes : ∀ before current next after, chain = before ++ current :: next :: after →
    current.state = .scheduled → next.state ≠ .scheduled
  counts : ∀ before current after, chain = before ++ current :: after →
    current.state = .scheduled → before = [] ∨
      ∃ earlier previous, before = earlier ++ [previous] ∧ previous.state = .waitsForRetry ∧
        current.attempt.toNat = previous.attempt.toNat + 1

variable {current next : Status} {chain : List Status}

theorem LeadsTo.not_overflows (leads : current.LeadsTo next) : ¬ current.Overflows next := by
  rintro ⟨_, scheduled, limit⟩
  have counted := (leads.counted scheduled).2
  rw [limit] at counted
  exact absurd counted (Nat.ne_of_lt next.attempt.toNat_lt)

theorem nextAttempt?_eq_none_iff {attempt : UInt32} :
    nextAttempt? attempt = none ↔ attempt.toNat + 1 = UInt32.size := by
  have below : attempt.toNat < UInt32.size := attempt.toNat_lt
  unfold nextAttempt?
  split
  next inRange => exact iff_of_false (fun none => by cases none) (Nat.ne_of_lt inRange)
  next outOfRange => exact iff_of_true rfl (Nat.le_antisymm below (Nat.not_lt.mp outOfRange))

/-- A waiting task is scheduled with the next number or not at all. -/
theorem checked_retry (before : Waiting) (after : Scheduled) :
    Checked (.waiting before) (.scheduled after)
      (checkTransition (.waiting before) (.scheduled after)) := by
  have answer : allows? (.waiting before) (.scheduled after) =
    (nextAttempt? before.attempt).map (after.attempt == ·) := rfl
  rw [checkTransition, answer]
  cases found : nextAttempt? before.attempt with
  | none =>
      have limit : (waiting before).attempt.toNat + 1 = UInt32.size :=
        nextAttempt?_eq_none_iff.mp found
      exact .faulted ⟨rfl, rfl, limit⟩
  | some number =>
      have counted := nextAttempt?_eq_some_iff.mp found
      rw [Option.map_some]
      by_cases same : after.attempt = number
      · rw [beq_iff_eq.mpr same]
        rw [← same] at counted
        exact .accepted ⟨rfl, fun _ => .inl rfl, nofun, fun _ => ⟨rfl, counted⟩⟩
      · rw [beq_false_of_ne same]
        refine .refused (fun leads => same ?_) fun overflows => ?_
        · exact UInt32.toNat_inj.mp ((leads.counted rfl).2.trans counted.symm)
        · have missing : nextAttempt? before.attempt = none :=
            nextAttempt?_eq_none_iff.mpr overflows.2.2
          rw [missing] at found
          cases found

theorem checked (current next : Status) :
    Checked current next (current.checkTransition next) := by
  cases current with
  | scheduled before =>
      cases next with
      | scheduled after =>
          exact .refused (fun leads => leads.executed rfl rfl) fun overflows => by cases overflows.1
      | waiting after | failed after | loaded after => exact .accepted ⟨rfl, nofun, nofun, nofun⟩
  | waiting before =>
      cases next with
      | scheduled after => exact checked_retry before after
      | failed after => exact .accepted ⟨rfl, fun _ => .inr rfl, nofun, nofun⟩
      | waiting after | loaded after =>
          refine .refused (fun leads => ?_) fun overflows => by cases overflows.2.1
          rcases leads.waited rfl with wrong | wrong <;> cases wrong
  | failed before | loaded before =>
      exact .refused (fun leads => by cases leads.goesOn) fun overflows => by cases overflows.1

/-- Just the steps in the life of a task are accepted. -/
theorem accepts_iff : current.Accepts next ↔ current.LeadsTo next := by
  have answer := checked current next
  unfold Accepts
  generalize current.checkTransition next = result at answer
  cases answer with
  | accepted leads => exact iff_of_true rfl leads
  | refused apart _ => exact iff_of_false (fun accepted => by cases accepted) apart
  | faulted overflows =>
      exact iff_of_false (fun accepted => by cases accepted)
        fun leads => leads.not_overflows overflows

theorem orderly_iff_isChain : Orderly chain ↔ chain.IsChain LeadsTo := by
  rw [List.isChain_iff_forall_rel_of_append_cons_cons]
  constructor
  · intro orderly current next before after split
    constructor
    · refine Bool.eq_false_iff.mpr fun ended => ?_
      cases orderly.ends _ _ _ split ended
    · exact orderly.waits _ _ _ _ split
    · exact orderly.executes _ _ _ _ split
    · intro scheduled
      have shifted : chain = (before ++ [current]) ++ next :: after := by simp [split]
      rcases orderly.counts _ _ _ shifted scheduled with empty | ⟨earlier, previous, same, counts⟩
      · cases (List.append_eq_nil_iff.mp empty).2
      · obtain ⟨-, last⟩ := List.append_inj' same rfl
        cases last
        exact counts
  · intro leads
    constructor
    · rintro before current (_ | ⟨next, after⟩) split ended
      · rfl
      · rw [(leads split).goesOn] at ended
        cases ended
    · exact fun before current next after split => (leads split).waited
    · exact fun before current next after split => (leads split).executed
    · intro before current after split scheduled
      rcases List.eq_nil_or_concat before with rfl | ⟨earlier, previous, rfl⟩
      · exact .inl rfl
      · rw [List.concat_eq_append, List.append_assoc, List.singleton_append] at split
        exact .inr ⟨earlier, previous, List.concat_eq_append, (leads split).counted scheduled⟩

/-- The check accepts the steps in the life of a task, faults where its sum is out of range, and
refuses the others. So a chain is as the life of a task asks for it if and only if each of its steps is
accepted. -/
theorem orderly_iff_accepted (chain : List Status) :
    (∀ current next : Status, Checked current next (current.checkTransition next)) ∧
      (Orderly chain ↔ chain.IsChain Accepts) := by
  refine ⟨checked, orderly_iff_isChain.trans ?_⟩
  exact ⟨fun leads => leads.imp fun _ _ => accepts_iff.mpr,
    fun accepted => accepted.imp fun _ _ => accepts_iff.mp⟩

/-- A task that is loaded on its second attempt. -/
def retried : List Status :=
  [.initial .epoch, .waiting ⟨1, .epoch, ⟨.transient, "timeout"⟩⟩, .scheduled ⟨.epoch, 2⟩,
    .loaded ⟨.epoch, 2⟩]

theorem orderly_retried : Orderly retried := by
  refine (orderly_iff_accepted retried).2.mpr ?_
  exact .cons_cons rfl (.cons_cons rfl (.cons_cons rfl (.singleton _)))

/-- A task that waits after the last attempt there is a number for. -/
def spent : Status := .waiting ⟨4294967295, .epoch, ⟨.transient, "timeout"⟩⟩

/-- Whether it may start over is neither accepted nor refused. -/
theorem spent_faults :
    spent.checkTransition (.scheduled ⟨.epoch, 0⟩) = .error .overflow ∧
      ¬ (spent.checkTransition (.scheduled ⟨.epoch, 0⟩) = .ok () ∨
        spent.checkTransition (.scheduled ⟨.epoch, 0⟩) =
          .error (.notAllowed spent (.scheduled ⟨.epoch, 0⟩))) := by
  have faults : spent.checkTransition (.scheduled ⟨.epoch, 0⟩) = .error .overflow := rfl
  refine ⟨faults, ?_⟩
  rw [faults]
  rintro (accepted | refused)
  · cases accepted
  · cases refused

end Status

end CacheFill
