import CacheFill.Proofs.Task.Store
import CacheFill.Retry.Policies

/-!
The policies that accepted settings come to. Each stays within the limits that the settings are held
to, whatever a load type sets and leaves to the common settings. The base of its delays may however be
longer than their cap: settings of load types are checked one by one, and never against each other.
Main statement: `Config.retryPolicies_bounded`.
-/

set_option autoImplicit false

namespace CacheFill

/-- Executions are allowed, and no delay is too long. -/
structure RetryPolicy.IsBounded (policy : RetryPolicy) : Prop where
  attempts : 1 ≤ policy.maxAttempts
  base : policy.baseDelay ≤ Config.backoffLimit
  cap : policy.maxDelay ≤ Config.backoffLimit

theorem Duration.le_of_not_lt {a b : Duration} (notLess : ¬ a < b) : b ≤ a := Nat.le_of_not_lt notLess

theorem one_le_of_ne_zero {count : UInt32} (some : count ≠ 0) : 1 ≤ count := by
  rw [UInt32.le_iff_toNat_le]
  exact Nat.pos_of_ne_zero fun zero => some (UInt32.toNat_inj.mp zero)

namespace RetryOverride

variable {override : RetryOverride} {policy : RetryPolicy} {type : LoadType}

/-- Together with a policy, the settings make the base of the delays longer than their cap. -/
inductive Inverts (override : RetryOverride) (policy : RetryPolicy) : Prop where
  | both (base cap : Duration) (setsBase : override.backoffBase = some base)
      (setsCap : override.backoffMax = some cap) (inverted : cap < base) : Inverts override policy
  | base (base : Duration) (setsBase : override.backoffBase = some base)
      (leavesCap : override.backoffMax = none) (inverted : policy.maxDelay < base) :
      Inverts override policy
  | cap (cap : Duration) (leavesBase : override.backoffBase = none)
      (setsCap : override.backoffMax = some cap) (inverted : cap < policy.baseDelay) :
      Inverts override policy

/-- A policy in order is inverted by just these settings. -/
theorem lt_apply_iff (override : RetryOverride) (ordered : policy.baseDelay ≤ policy.maxDelay) :
    (override.apply policy).maxDelay < (override.apply policy).baseDelay ↔
      override.Inverts policy := by
  constructor
  · intro inverted
    simp only [apply] at inverted
    cases setsBase : override.backoffBase with
    | none =>
        cases setsCap : override.backoffMax with
        | none =>
            rw [setsBase, setsCap] at inverted
            exact absurd ordered (Nat.not_le_of_lt inverted)
        | some cap =>
            rw [setsBase, setsCap] at inverted
            exact .cap cap setsBase setsCap inverted
    | some base =>
        cases setsCap : override.backoffMax with
        | none =>
            rw [setsBase, setsCap] at inverted
            exact .base base setsBase setsCap inverted
        | some cap =>
            rw [setsBase, setsCap] at inverted
            exact .both base cap setsBase setsCap inverted
  · intro inverts
    simp only [apply]
    cases inverts with
    | both base cap setsBase setsCap inverted => rwa [setsBase, setsCap]
    | base base setsBase leavesCap inverted => rwa [setsBase, leavesCap]
    | cap cap leavesBase setsCap inverted => rwa [leavesBase, setsCap]

/-- Settings without a fault are within the limits wherever they are set. -/
theorem bounds_of_fault?_eq_none (sound : override.fault? type = none) :
    override.maxAttempts ≠ some 0 ∧ (∀ base ∈ override.backoffBase, base ≤ Config.backoffLimit) ∧
      ∀ cap ∈ override.backoffMax, cap ≤ Config.backoffLimit := by
  unfold fault? at sound
  split at sound
  · cases sound
  · next attempts =>
      split at sound
      · cases sound
      · next within =>
          rw [List.any_eq_true] at within
          have bound (delay : Duration)
              (sets : delay ∈ override.backoffBase.toList ++ override.backoffMax.toList) :
              delay ≤ Config.backoffLimit :=
            Duration.le_of_not_lt fun beyond => within ⟨delay, sets, decide_eq_true beyond⟩
          refine ⟨attempts, fun base sets => bound base ?_, fun cap sets => bound cap ?_⟩
          · exact List.mem_append_left _ (Option.mem_toList.mpr sets)
          · exact List.mem_append_right _ (Option.mem_toList.mpr sets)

theorem isBounded_apply (bounded : policy.IsBounded) (sound : override.fault? type = none) :
    (override.apply policy).IsBounded := by
  obtain ⟨attempts, base, cap⟩ := bounds_of_fault?_eq_none sound
  constructor
  · cases sets : override.maxAttempts with
    | none =>
        simp only [apply, sets]
        exact bounded.attempts
    | some allowed =>
        simp only [apply, sets, Option.getD_some]
        have counted : allowed ≠ 0 := fun zero => attempts (zero ▸ sets)
        exact one_le_of_ne_zero counted
  · cases sets : override.backoffBase with
    | none =>
        simp only [apply, sets]
        exact bounded.base
    | some delay =>
        simp only [apply, sets]
        exact base delay sets
  · cases sets : override.backoffMax with
    | none =>
        simp only [apply, sets]
        exact bounded.cap
    | some delay =>
        simp only [apply, sets]
        exact cap delay sets

end RetryOverride

namespace Config

variable {config : Config}

/-- What passes a check does not have its fault, and passes the checks after it. -/
theorem of_check {fault : Prop} [Decidable fault] {error : ConfigError}
    {rest : Except ConfigError Unit} (passed : (if fault then .error error else rest) = .ok ()) :
    ¬ fault ∧ rest = .ok () := by
  split at passed
  · cases passed
  · next sound => exact ⟨sound, passed⟩

/-- Accepted settings bound the common policy, and no load type's settings have a fault. -/
theorem of_validate (accepted : config.validate = .ok ()) :
    config.retryPolicy.IsBounded ∧ config.retryPolicy.baseDelay ≤ config.retryPolicy.maxDelay ∧
      ∀ type override, config.retryOverrides.get? type = some override →
        override.fault? type = none := by
  obtain ⟨attempts, accepted⟩ := of_check accepted
  obtain ⟨_, accepted⟩ := of_check accepted
  obtain ⟨_, accepted⟩ := of_check accepted
  obtain ⟨_, accepted⟩ := of_check accepted
  obtain ⟨order, accepted⟩ := of_check accepted
  obtain ⟨limit, accepted⟩ := of_check accepted
  have ordered : config.backoffBase ≤ config.backoffMax := Duration.le_of_not_lt order
  have limited : config.backoffMax ≤ backoffLimit := Duration.le_of_not_lt limit
  refine ⟨⟨one_le_of_ne_zero attempts, Nat.le_trans ordered limited, limited⟩, ordered, ?_⟩
  intro type override found
  split at accepted
  · cases accepted
  · next sound =>
      obtain ⟨entry, isEntry, rfl⟩ := Option.map_eq_some_iff.mp found
      have faultless := List.findSome?_eq_none_iff.mp sound entry (List.mem_of_find?_eq_some isEntry)
      have key := List.find?_some isEntry
      rw [← of_decide_eq_true key]
      exact faultless

theorem retryPolicies_get (config : Config) (type : LoadType) :
    config.retryPolicies.get type =
      ((config.retryOverrides.get? type).map (·.apply config.retryPolicy)).getD
        config.retryPolicy := by
  rw [RetryPolicies.get, retryPolicies, Table.get?_mapValues]

/-- The policy of every load type under accepted settings allows executions and delays of at most 30
days, whatever the load type sets and leaves open. The base of its delays is at most their cap as
well, unless the load type has settings of its own that invert the two. -/
theorem retryPolicies_bounded (accepted : config.validate = .ok ()) (type : LoadType) :
    (config.retryPolicies.get type).IsBounded ∧
      ((config.retryPolicies.get type).baseDelay ≤ (config.retryPolicies.get type).maxDelay ↔
        ∀ override, config.retryOverrides.get? type = some override →
          ¬ override.Inverts config.retryPolicy) := by
  obtain ⟨bounded, ordered, sound⟩ := of_validate accepted
  rw [retryPolicies_get]
  cases found : config.retryOverrides.get? type with
  | none =>
      refine ⟨bounded, fun _ override sets => ?_, fun _ => ordered⟩
      cases sets
  | some override =>
      refine ⟨RetryOverride.isBounded_apply bounded (sound type override found), ?_⟩
      have inverts := override.lt_apply_iff ordered
      constructor
      · rintro inOrder _ ⟨⟩ inverted
        exact Nat.not_lt_of_le inOrder (inverts.mpr inverted)
      · intro never
        exact Duration.le_of_not_lt fun inverted => never override rfl (inverts.mp inverted)

/-- The standard settings, and settings of its own for one load type. -/
def overriding (override : RetryOverride) : Config :=
  { standard with
    backoffJitter := .ofNat 1
    retryOverrides := Table.empty.insert default override }

/-- A load type that sets a base and a cap, each longer than the common ones. -/
theorem bounded_with_both :
    let config := overriding ⟨none, some (.ofSeconds 600), some (.ofSeconds 900)⟩
    config.validate = .ok () ∧ (config.retryPolicies.get default).IsBounded ∧
      (config.retryPolicies.get default).baseDelay ≤ (config.retryPolicies.get default).maxDelay := by
  intro config
  have accepted : config.validate = .ok () := rfl
  obtain ⟨bounded, ordered⟩ := retryPolicies_bounded accepted default
  refine ⟨accepted, bounded, ordered.mpr ?_⟩
  rintro _ ⟨⟩ inverts
  cases inverts with
  | both base cap setsBase setsCap inverted =>
      cases setsBase
      cases setsCap
      exact absurd inverted (by decide)
  | base _ _ leavesCap => cases leavesCap
  | cap _ leavesBase => cases leavesBase

/-- A load type that sets a base and leaves the cap to the common settings is accepted with a cap
below its base. With jitter its delays then exceed the cap. -/
theorem inverted_override_accepted :
    let config := overriding ⟨none, some (.ofSeconds 600), none⟩
    let policy := config.retryPolicies.get default
    config.validate = .ok () ∧ policy.maxDelay < policy.baseDelay ∧
      policy.maxDelay < policy.delayAfter 3 := by
  refine ⟨rfl, ?_⟩
  decide +kernel

end Config

end CacheFill
