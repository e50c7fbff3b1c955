import CacheFill.Json.Fields

/-!
Lengths of time in whole nanoseconds.
-/

set_option autoImplicit false

namespace CacheFill

structure Duration where
  nanos : Nat
  deriving DecidableEq, Repr, Inhabited

namespace Duration

def nanosPerSecond : Nat := 1000000000

def ofSeconds (seconds : Nat) : Duration := ⟨seconds * nanosPerSecond⟩

def ofMillis (millis : Nat) : Duration := ⟨millis * 1000000⟩

/-- The whole milliseconds in a duration. -/
def millis (duration : Duration) : Nat := duration.nanos / 1000000

def seconds (duration : Duration) : Nat := duration.nanos / nanosPerSecond

def isZero (duration : Duration) : Bool := duration.nanos = 0

instance : LE Duration := ⟨fun a b => a.nanos ≤ b.nanos⟩
instance : LT Duration := ⟨fun a b => a.nanos < b.nanos⟩
instance (a b : Duration) : Decidable (a ≤ b) := inferInstanceAs (Decidable (a.nanos ≤ b.nanos))
instance (a b : Duration) : Decidable (a < b) := inferInstanceAs (Decidable (a.nanos < b.nanos))

def toJson (duration : Duration) : Json :=
  .object [("secs", .nat duration.seconds), ("nanos", .nat (duration.nanos % nanosPerSecond))]

/-- A duration is written as seconds and nanoseconds and nothing else; a second or more of
nanoseconds is carried, as long as the seconds stay below 2^64. -/
def ofJson? (value : Json) : Option Duration := do
  let fields ← Json.onlyFields? ["secs", "nanos"] value
  let seconds ← fields.required Json.uint64? "secs"
  let nanos ← fields.required Json.uint32? "nanos"
  let duration : Duration := ⟨seconds.toNat * nanosPerSecond + nanos.toNat⟩
  if duration.seconds < UInt64.size then some duration else none

end Duration

end CacheFill
