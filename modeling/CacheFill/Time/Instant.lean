import CacheFill.Time.Calendar
import CacheFill.Time.Duration

/-!
Points in time between the years -262143 and 262142. They are counted in UTC, with leap seconds: a
leap second goes with the second before it, and its nanoseconds run on.
-/

set_option autoImplicit false

namespace CacheFill

namespace Instant

def secondsPerDay : Int := 86400

/-- The first second of the calendar in use. -/
def earliestSecond : Int := Date.dayNumber ⟨-262143, 1, 1⟩ * secondsPerDay

/-- The last second of the calendar in use. -/
def latestSecond : Int := (Date.dayNumber ⟨262142, 12, 31⟩ + 1) * secondsPerDay - 1

end Instant

/-- A second, counted from the start of 1970, and the nanoseconds since it began: fewer than 10^9 of
them in the second itself, and from there on in a leap second behind it. -/
structure Instant where
  second : Int
  nanos : Nat
  second_mem : Instant.earliestSecond ≤ second ∧ second ≤ Instant.latestSecond
  nanos_lt : nanos < 2 * Duration.nanosPerSecond
  deriving DecidableEq, Repr

namespace Instant

def isLeap (instant : Instant) : Bool := Duration.nanosPerSecond ≤ instant.nanos

/-- Numbers the points in time in their order. -/
def rank (instant : Instant) : Int :=
  instant.second * (2 * Duration.nanosPerSecond) + instant.nanos

instance : LE Instant := ⟨fun a b => a.rank ≤ b.rank⟩
instance : LT Instant := ⟨fun a b => a.rank < b.rank⟩
instance (a b : Instant) : Decidable (a ≤ b) := inferInstanceAs (Decidable (a.rank ≤ b.rank))
instance (a b : Instant) : Decidable (a < b) := inferInstanceAs (Decidable (a.rank < b.rank))

/-- The latest point in time that is not in a leap second. -/
def latest : Instant := ⟨latestSecond, Duration.nanosPerSecond - 1, by decide, by decide⟩

def ofParts? (second : Int) (nanos : Nat) : Option Instant :=
  if valid : (earliestSecond ≤ second ∧ second ≤ latestSecond) ∧
      nanos < 2 * Duration.nanosPerSecond then
    some ⟨second, nanos, valid.1, valid.2⟩
  else none

/-- The start of 1970. -/
def epoch : Instant := ⟨0, 0, by decide, by decide⟩

instance : Inhabited Instant := ⟨epoch⟩

/-- The point in time that lies a duration later, unless that is out of range. Within a leap second
time just goes on; whoever leaves it has not been in it, but in the second that it goes with. -/
def add? (instant : Instant) (duration : Duration) : Option Instant :=
  if instant.isLeap ∧ instant.nanos + duration.nanos < 2 * Duration.nanosPerSecond then
    ofParts? instant.second (instant.nanos + duration.nanos)
  else
    let nanos := instant.nanos % Duration.nanosPerSecond + duration.nanos
    ofParts? (instant.second + (nanos / Duration.nanosPerSecond : Nat))
      (nanos % Duration.nanosPerSecond)

theorem eq_of_rank_eq {first second : Instant} (same : first.rank = second.rank) :
    first = second := by
  have below := first.nanos_lt
  have belowToo := second.nanos_lt
  obtain ⟨firstSecond, firstNanos, _, _⟩ := first
  obtain ⟨secondSecond, secondNanos, _, _⟩ := second
  simp only [rank, Duration.nanosPerSecond] at same below belowToo
  obtain ⟨rfl, rfl⟩ : firstSecond = secondSecond ∧ firstNanos = secondNanos := by omega
  rfl

theorem le_refl (instant : Instant) : instant ≤ instant := Int.le_refl _

theorem le_trans {first second third : Instant} (before : first ≤ second)
    (after : second ≤ third) : first ≤ third := Int.le_trans before after

theorem eq_of_le {first second : Instant} (before : first ≤ second) (after : second ≤ first) :
    first = second := eq_of_rank_eq (Int.le_antisymm before after)

theorem not_le {first second : Instant} : ¬ first ≤ second ↔ second < first := Int.not_le

theorem le_of_lt {first second : Instant} (before : first < second) : first ≤ second :=
  Int.le_of_lt before

theorem rank_of_ofParts? {second : Int} {nanos : Nat} {instant : Instant}
    (found : ofParts? second nanos = some instant) :
    instant.rank = second * (2 * Duration.nanosPerSecond) + nanos := by
  simp only [ofParts?] at found
  split at found
  · cases found; rfl
  · cases found

/-- Time does not run backwards, not even out of a leap second. -/
theorem le_of_add? {instant later : Instant} {duration : Duration}
    (found : instant.add? duration = some later) : instant ≤ later := by
  have bound := instant.nanos_lt
  change instant.rank ≤ later.rank
  simp only [add?, isLeap, decide_eq_true_eq] at found
  split at found <;> rw [rank_of_ofParts? found] <;>
    simp only [rank, Duration.nanosPerSecond] at * <;> omega

end Instant

end CacheFill
