import CacheFill.Config.Basic
import CacheFill.Proofs.Binary64.Whole

/-!
The delays of a retry policy without jitter. They are computed in doubles, with a growth that stops at
the 63rd attempt, but within the accepted settings none of this shows. Main statement:
`RetryPolicy.delayAfter_unjittered`.
-/

set_option autoImplicit false

namespace CacheFill

/-- The delay after an attempt in whole milliseconds, as an integer of any size. -/
def Backoff.delay (backoff : Backoff) (base cap attempt : Nat) : Nat :=
  match backoff with
  | .fixed => base
  | .exponential => min (base * 2 ^ (attempt - 1)) cap
  | .linear => min (base * attempt) cap

theorem Backoff.delay_le_max (backoff : Backoff) (base cap attempt : Nat) :
    backoff.delay base cap attempt ≤ max cap base := by
  cases backoff with
  | fixed => exact Nat.le_max_right _ _
  | exponential | linear => exact (Nat.min_le_right _ _).trans (Nat.le_max_left _ _)

theorem Backoff.delay_le_cap {backoff : Backoff} (grows : backoff ≠ .fixed) (base cap attempt : Nat) :
    backoff.delay base cap attempt ≤ cap := by
  cases backoff with
  | fixed => exact absurd rfl grows
  | exponential | linear => exact Nat.min_le_right _ _

theorem Backoff.delay_mono (backoff : Backoff) (base cap : Nat) {first later : Nat}
    (order : first ≤ later) : backoff.delay base cap first ≤ backoff.delay base cap later := by
  cases backoff with
  | fixed => exact Nat.le_refl _
  | exponential =>
      have grows : 2 ^ (first - 1) ≤ 2 ^ (later - 1) := Nat.pow_le_pow_right (by decide) (by omega)
      have times := Nat.mul_le_mul_left base grows
      simp only [delay]
      omega
  | linear =>
      have times := Nat.mul_le_mul_left base order
      simp only [delay]
      omega

namespace RetryPolicy

variable {policy : RetryPolicy} {base cap attempt : Nat}

theorem millis_le_of_le_backoffLimit {delay : Duration} (within : delay ≤ Config.backoffLimit) :
    delay.millis ≤ 2592000000 := Nat.div_le_div_right within

/-- Where the growth is cut off, the cap has been reached long since. -/
theorem min_cut (small : cap < 2 ^ 62) (exponent : Nat) :
    min (base * 2 ^ min exponent 62) cap = min (base * 2 ^ exponent) cap := by
  rcases Nat.le_total exponent 62 with below | above
  · rw [Nat.min_eq_left below]
  · rcases Nat.eq_zero_or_pos base with rfl | positive
    · rw [Nat.zero_mul, Nat.zero_mul]
    · have reached : 2 ^ 62 ≤ base * 2 ^ 62 := Nat.le_mul_of_pos_left _ positive
      have grown : base * 2 ^ 62 ≤ base * 2 ^ exponent :=
        Nat.mul_le_mul_left _ (Nat.pow_le_pow_right (by decide) above)
      rw [Nat.min_eq_right above]
      omega

theorem log2_mul_lt {factor : Nat} (base_lt : base < 2 ^ 32) (factor_lt : factor < 2 ^ 64) :
    (base * factor).log2 < 1023 := by
  have below : base * factor < 2 ^ 32 * 2 ^ 64 := Nat.mul_lt_mul'' base_lt factor_lt
  exact (Binary64.log2_lt_of_lt (k := 96) (by decide) below).trans (by decide)

/-- Before jitter, a delay is the double of its formula. -/
theorem isWhole_plainDelay (base : policy.baseDelay.millis < 2 ^ 32)
    (cap : policy.maxDelay.millis < 2 ^ 32) (attempt_lt : attempt < 2 ^ 32) :
    (policy.plainDelay attempt).IsWhole
      (policy.backoff.delay policy.baseDelay.millis policy.maxDelay.millis attempt) := by
  have baseWhole := Binary64.isWhole_ofNat (base.trans (by decide))
  have capBelow : policy.maxDelay.millis < 2 ^ 53 := cap.trans (by decide)
  have capWhole := Binary64.isWhole_ofNat capBelow
  cases backoff : policy.backoff with
  | fixed =>
      simp only [plainDelay, backoff]
      exact baseWhole
  | exponential =>
      have few : growthExponent attempt ≤ 62 := Nat.min_le_right _ _
      have factor : 2 ^ growthExponent attempt < 2 ^ 64 :=
        Nat.pow_lt_pow_right (by decide) (by omega)
      have growth := Binary64.isWhole_ofNat_two_pow (k := growthExponent attempt) (by omega)
      have product := Binary64.isNear_mul baseWhole growth (log2_mul_lt base factor)
      have capped := Binary64.isWhole_minimum product capWhole capBelow
      rw [growthExponent, min_cut (cap.trans (by decide))] at capped
      simp only [plainDelay, backoff, Nat.shiftLeft_eq, Nat.one_mul]
      exact capped
  | linear =>
      have growth := Binary64.isWhole_ofNat (attempt_lt.trans (by decide : 2 ^ 32 < 2 ^ 53))
      have product := Binary64.isNear_mul baseWhole growth
        (log2_mul_lt base (attempt_lt.trans (by decide)))
      simp only [plainDelay, backoff]
      exact Binary64.isWhole_minimum product capWhole capBelow

/-- Jitter is a zero of either sign. -/
theorem jitterFor_of_zero {delay : Binary64} {whole : Nat} (isWhole : delay.IsWhole whole)
    (still : policy.jitter = .zero ∨ policy.jitter = -.zero) (attempt : Nat) :
    policy.jitterFor delay attempt = .zero := by
  obtain ⟨mantissa, exponent, rfl, _⟩ := isWhole
  have nothing (negative : Bool) :
      Binary64.zero.lt (.finite false mantissa exponent *
        Binary64.finite negative 0 Binary64.leastExponent) = false := by
    have product : Binary64.finite false mantissa exponent *
        Binary64.finite negative 0 Binary64.leastExponent =
          .finite (false != negative) 0 Binary64.leastExponent := by
      change Binary64.roundScaled _ (mantissa * 0) _ = _
      rw [Nat.mul_zero, Binary64.roundScaled, Nat.zero_shiftLeft, Binary64.round, if_pos rfl]
    rw [product]
    cases negative <;> decide
  rcases still with still | still
  · have clamped : policy.jitter.clamp .zero (.ofNat 1) = .finite false 0 Binary64.leastExponent := by
      rw [still]
      decide
    simp only [jitterFor, clamped, nothing, Bool.false_eq_true, if_false]
  · have clamped : policy.jitter.clamp .zero (.ofNat 1) = .finite true 0 Binary64.leastExponent := by
      rw [still]
      decide
    simp only [jitterFor, clamped, nothing, Bool.false_eq_true, if_false]

theorem delayAfter_eq_delay (still : policy.jitter = .zero ∨ policy.jitter = -.zero)
    (base : policy.baseDelay ≤ Config.backoffLimit) (cap : policy.maxDelay ≤ Config.backoffLimit)
    {attempt : UInt32} (counted : attempt ≠ 0) :
    policy.delayAfter attempt = .ofMillis (policy.backoff.delay policy.baseDelay.millis
      policy.maxDelay.millis attempt.toNat) := by
  have base_le := millis_le_of_le_backoffLimit base
  have cap_le := millis_le_of_le_backoffLimit cap
  have plain : (policy.plainDelay attempt.toNat).IsWhole (policy.backoff.delay
      policy.baseDelay.millis policy.maxDelay.millis attempt.toNat) :=
    isWhole_plainDelay (by omega) (by omega) attempt.toNat_lt
  have within := policy.backoff.delay_le_max policy.baseDelay.millis policy.maxDelay.millis
    attempt.toNat
  have limit := Binary64.isWhole_maximum
    (Binary64.isWhole_ofNat (n := policy.maxDelay.millis) (by omega))
    (Binary64.isWhole_ofNat (n := policy.baseDelay.millis) (by omega))
  generalize policy.backoff.delay policy.baseDelay.millis policy.maxDelay.millis attempt.toNat = millis
    at plain within ⊢
  have sum := Binary64.isWhole_add_zero plain (by omega)
  have fits : millis ≤ UInt64.size - 1 := by
    rw [UInt64.size]
    omega
  simp only [delayAfter, if_neg counted, jitterFor_of_zero plain still,
    Binary64.clamp_of_isWhole sum limit within, Binary64.truncate_of_isWhole sum,
    Nat.min_eq_right fits]

/-- Delays without jitter, for a base and a cap of up to 30 days: they are what their formula says,
for every attempt there is; so they never shrink, and those that grow stay within the cap. The
growth that stops at the 63rd attempt cannot be told from one that goes on. -/
theorem delayAfter_unjittered (policy : RetryPolicy)
    (still : policy.jitter = .zero ∨ policy.jitter = -.zero)
    (base : policy.baseDelay ≤ Config.backoffLimit) (cap : policy.maxDelay ≤ Config.backoffLimit) :
    (∀ attempt, 1 ≤ attempt → policy.delayAfter attempt = .ofMillis (policy.backoff.delay
      policy.baseDelay.millis policy.maxDelay.millis attempt.toNat)) ∧
    (∀ first later, first ≤ later → policy.delayAfter first ≤ policy.delayAfter later) ∧
    (policy.backoff ≠ .fixed → ∀ attempt, policy.delayAfter attempt ≤ policy.maxDelay) ∧
    ∀ attempt, min (policy.baseDelay.millis * 2 ^ growthExponent attempt) policy.maxDelay.millis =
      min (policy.baseDelay.millis * 2 ^ (attempt - 1)) policy.maxDelay.millis := by
  have none : policy.delayAfter 0 = ⟨0⟩ := rfl
  refine ⟨fun attempt counted => ?_, fun first later order => ?_, fun grows attempt => ?_,
    fun attempt => ?_⟩
  · refine delayAfter_eq_delay still base cap fun zero => ?_
    rw [zero] at counted
    exact absurd counted (by decide)
  · by_cases start : first = 0
    · rw [start, none]
      exact Nat.zero_le _
    · have counted : later ≠ 0 := by
        intro zero
        rw [zero] at order
        exact start (UInt32.le_zero_iff.mp order)
      rw [delayAfter_eq_delay still base cap start, delayAfter_eq_delay still base cap counted]
      exact Nat.mul_le_mul_right _ (policy.backoff.delay_mono _ _ (UInt32.le_iff_toNat_le.mp order))
  · by_cases start : attempt = 0
    · rw [start, none]
      exact Nat.zero_le _
    · rw [delayAfter_eq_delay still base cap start]
      refine (Nat.mul_le_mul_right _ (Backoff.delay_le_cap grows _ _ _)).trans ?_
      exact Nat.div_mul_le_self _ _
  · have cap_le := millis_le_of_le_backoffLimit cap
    exact min_cut (by omega) _

/-- A policy whose delays double from 1 ms to 30 days, with a jitter of -0: the last delay below the
cap, and the one after the last attempt that there is. -/
theorem unjittered_up_to_limit :
    let policy : RetryPolicy := ⟨5, .ofMillis 1, Config.backoffLimit, .exponential, -.zero⟩
    (policy.jitter = .zero ∨ policy.jitter = -.zero) ∧ policy.baseDelay ≤ Config.backoffLimit ∧
      policy.maxDelay ≤ Config.backoffLimit ∧ policy.delayAfter 32 = .ofMillis (2 ^ 31) ∧
      policy.delayAfter 4294967295 = Config.backoffLimit := by
  intro policy
  have still : policy.jitter = .zero ∨ policy.jitter = -.zero := .inr rfl
  have base : policy.baseDelay ≤ Config.backoffLimit := by decide
  have cap : policy.maxDelay ≤ Config.backoffLimit := Nat.le_refl _
  obtain ⟨formula, _, _, same⟩ := delayAfter_unjittered policy still base cap
  have grown (attempt : UInt32) (counted : 1 ≤ attempt) : policy.delayAfter attempt =
      .ofMillis (min (policy.baseDelay.millis * 2 ^ growthExponent attempt.toNat)
        policy.maxDelay.millis) :=
    (formula attempt counted).trans (congrArg Duration.ofMillis (same attempt.toNat).symm)
  refine ⟨still, base, cap, (grown 32 (by decide)).trans ?_, (grown 4294967295 (by decide)).trans ?_⟩
  · decide +kernel
  · decide +kernel

end RetryPolicy

end CacheFill
