import CacheFill.Binary64.Basic
import CacheFill.Task.Status
import CacheFill.Time.Duration

/-!
When a failed execution is tried again. A policy bounds the number of executions and gives the delay
before each retry; delays are computed in double precision milliseconds.
-/

set_option autoImplicit false

namespace CacheFill

/-- How delays grow from one attempt to the next. -/
inductive Backoff where
  | fixed
  | exponential
  | linear
  deriving DecidableEq, Repr, Inhabited

def Backoff.name : Backoff → String
  | .fixed => "fixed"
  | .exponential => "exponential"
  | .linear => "linear"

def Backoff.all : List Backoff := [.fixed, .exponential, .linear]

structure RetryPolicy where
  /-- Executions allowed before a task fails. -/
  maxAttempts : UInt32
  /-- The delay before the first retry. -/
  baseDelay : Duration
  /-- The delay that growth stops at. -/
  maxDelay : Duration
  backoff : Backoff
  /-- The part of a delay that varies with the attempt, from 0 to 1. -/
  jitter : Binary64
  deriving DecidableEq, Repr

/-- What follows a failed execution. -/
inductive RetryDecision where
  | retryAfter (delay : Duration)
  | giveUp (kind : ErrorClass)
  deriving DecidableEq, Repr

namespace RetryPolicy

/-- Five executions, and delays of 1 s that double up to 300 s. -/
def standard : RetryPolicy :=
  { maxAttempts := 5
    baseDelay := .ofSeconds 1
    maxDelay := .ofSeconds 300
    backoff := .exponential
    jitter := .zero }

instance : Inhabited RetryPolicy := ⟨standard⟩

/-- A single execution. -/
def noRetry : RetryPolicy := { standard with maxAttempts := 1 }

def fixed (maxAttempts : UInt32) (delay : Duration) : RetryPolicy :=
  ⟨maxAttempts, delay, delay, .fixed, .zero⟩

def exponential (maxAttempts : UInt32) (baseDelay maxDelay : Duration) : RetryPolicy :=
  ⟨maxAttempts, baseDelay, maxDelay, .exponential, .zero⟩

/-- The exponent of the growth factor, which stays at 62 from attempt 63 on. -/
def growthExponent (attempt : Nat) : Nat := min (attempt - 1) 62

/-- The delay in milliseconds before jitter. -/
def plainDelay (policy : RetryPolicy) (attempt : Nat) : Binary64 :=
  let base := Binary64.ofNat policy.baseDelay.millis
  let cap := Binary64.ofNat policy.maxDelay.millis
  match policy.backoff with
  | .fixed => base
  | .exponential => (base * Binary64.ofNat (1 <<< growthExponent attempt)).minimum cap
  | .linear => (base * Binary64.ofNat attempt).minimum cap

/-- A fraction between 0 and 1 that looks random but is fixed by the attempt. -/
def spread (attempt : Nat) : Binary64 :=
  Binary64.ofNat (attempt * 17 % 100) / Binary64.ofNat 100

/-- The double nearest to one half. -/
def half : Binary64 := Binary64.round false 1 2

/-- What jitter adds to a delay; negative for spreads below one half. -/
def jitterFor (policy : RetryPolicy) (delay : Binary64) (attempt : Nat) : Binary64 :=
  let range := delay * policy.jitter.clamp .zero (.ofNat 1)
  if Binary64.zero.lt range then range * (spread attempt - half) * Binary64.ofNat 2 else .zero

/-- The delay after a failed attempt, in whole milliseconds. Attempts count from 1; there is none
before the first. -/
def delayAfter (policy : RetryPolicy) (attempt : UInt32) : Duration :=
  if attempt = 0 then ⟨0⟩
  else
    let delay := policy.plainDelay attempt.toNat
    let cap := (Binary64.ofNat policy.maxDelay.millis).maximum
      (Binary64.ofNat policy.baseDelay.millis)
    .ofMillis (((delay + policy.jitterFor delay attempt.toNat).clamp .zero cap).truncate
      (UInt64.size - 1))

/-- Whether another execution may follow this many. -/
def allowsRetry (policy : RetryPolicy) (attempt : UInt32) : Bool := attempt < policy.maxAttempts

/-- What follows a failed attempt: a transient error is retried while the policy allows it. -/
def decide (policy : RetryPolicy) (attempt : UInt32) : ErrorClass → RetryDecision
  | .transient =>
      if policy.allowsRetry attempt then .retryAfter (policy.delayAfter attempt)
      else .giveUp .retriesExhausted
  | .retriesExhausted => .giveUp .retriesExhausted
  | .permanent => .giveUp .permanent

end RetryPolicy

end CacheFill
