import CacheFill.Config.Basic

/-!
The retry policy of each load type: its own one, or else a common one.
-/

set_option autoImplicit false

namespace CacheFill

structure RetryPolicies where
  common : RetryPolicy
  perType : Table LoadType RetryPolicy

namespace RetryPolicies

def ofPolicy (common : RetryPolicy) : RetryPolicies := ⟨common, .empty⟩

instance : Inhabited RetryPolicies := ⟨ofPolicy .standard⟩

/-- Gives a load type a policy of its own. -/
def insert (policies : RetryPolicies) (type : LoadType) (policy : RetryPolicy) : RetryPolicies :=
  { policies with perType := policies.perType.insert type policy }

/-- The policy of a load type. -/
def get (policies : RetryPolicies) (type : LoadType) : RetryPolicy :=
  (policies.perType.get? type).getD policies.common

end RetryPolicies

/-- A policy with some settings exchanged. -/
def RetryOverride.apply (override : RetryOverride) (policy : RetryPolicy) : RetryPolicy :=
  { policy with
    maxAttempts := override.maxAttempts.getD policy.maxAttempts
    baseDelay := override.backoffBase.getD policy.baseDelay
    maxDelay := override.backoffMax.getD policy.maxDelay }

namespace Config

/-- The policy of load types without settings of their own. -/
def retryPolicy (config : Config) : RetryPolicy :=
  { maxAttempts := config.maxAttempts
    baseDelay := config.backoffBase
    maxDelay := config.backoffMax
    backoff := .exponential
    jitter := config.backoffJitter }

def retryPolicies (config : Config) : RetryPolicies :=
  ⟨config.retryPolicy,
    config.retryOverrides.mapValues fun override => override.apply config.retryPolicy⟩

end Config

end CacheFill
