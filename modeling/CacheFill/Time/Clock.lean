import CacheFill.Time.Instant

/-!
A clock that moves only when told to.
-/

set_option autoImplicit false

namespace CacheFill.Clock

/-- The longest step a clock takes at once: 2^63 - 1 milliseconds. -/
def longestStep : Duration := .ofMillis ((1 <<< 63) - 1)

/-- The step taken instead of one that is too long: 5200 weeks. -/
def replacementStep : Duration := .ofSeconds (5200 * 7 * 86400)

/-- The reading after a clock has been moved on; it stops at the latest point in time. -/
def advance (now : Instant) (duration : Duration) : Instant :=
  (now.add? (if duration ≤ longestStep then duration else replacementStep)).getD Instant.latest

end CacheFill.Clock
