/-!
Dates of the proleptic Gregorian calendar and their day numbers; day 0 is 1970-01-01. The years run
from March, so that a leap day is the last day of its year, and the calendar repeats after 400
years.
-/

set_option autoImplicit false

namespace CacheFill

structure Date where
  year : Int
  month : Nat
  day : Nat
  deriving DecidableEq, Repr

namespace Date

def isLeapYear (year : Int) : Bool :=
  year % 4 = 0 && (year % 100 ≠ 0 || year % 400 = 0)

def daysInMonth (year : Int) (month : Nat) : Nat :=
  if month = 2 then if isLeapYear year then 29 else 28
  else if month = 4 ∨ month = 6 ∨ month = 9 ∨ month = 11 then 30
  else 31

/-- The date exists in the calendar. -/
def IsValid (date : Date) : Prop :=
  1 ≤ date.month ∧ date.month ≤ 12 ∧ 1 ≤ date.day ∧ date.day ≤ daysInMonth date.year date.month

instance (date : Date) : Decidable date.IsValid := by unfold IsValid; infer_instance

/-- Days in 400 years. -/
def daysPerCycle : Int := 146097

/-- Days from the start of a cycle, 1 March of a year divisible by 400, to 1 March of its year
number `year`. -/
def daysBeforeYear (year : Int) : Int := year * 365 + year / 4 - year / 100

/-- Days from 1 March to the first day of month number `month`, counted from March as 0. -/
def daysBeforeMonth (month : Int) : Int := (153 * month + 2) / 5

/-- Days from 1 March of year 0 to 1 January 1970. -/
def epochOffset : Int := 719468

/-- The day number of a date. -/
def dayNumber (date : Date) : Int :=
  let year := if date.month ≤ 2 then date.year - 1 else date.year
  let month : Int := if date.month ≤ 2 then date.month + 9 else date.month - 3
  (year / 400) * daysPerCycle + daysBeforeYear (year % 400) + daysBeforeMonth month +
    (date.day - 1) - epochOffset

/-- The date with a given day number. -/
def ofDayNumber (number : Int) : Date :=
  let shifted := number + epochOffset
  let cycle := shifted / daysPerCycle
  let dayOfCycle := shifted % daysPerCycle
  let year := (dayOfCycle - dayOfCycle / 1460 + dayOfCycle / 36524 - dayOfCycle / 146096) / 365
  let dayOfYear := dayOfCycle - daysBeforeYear year
  let month := (5 * dayOfYear + 2) / 153
  let day := dayOfYear - daysBeforeMonth month + 1
  if month < 10 then ⟨cycle * 400 + year, (month + 3).toNat, day.toNat⟩
  else ⟨cycle * 400 + year + 1, (month - 9).toNat, day.toNat⟩

end Date

end CacheFill
