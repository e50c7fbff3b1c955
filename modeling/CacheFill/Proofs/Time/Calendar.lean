import CacheFill.Time.Calendar
import Mathlib.Tactic.Common
import Mathlib.Tactic.IntervalCases

/-!
Every day number belongs to a date of the calendar, and that date has this day number.
-/

set_option autoImplicit false

namespace CacheFill.Date

/-- The place of a day in a cycle: the century, the four years in it, the year in those, and the day
in that year. Only the last of four years has a day 365, and the last four years of a century only
if it is the last one. -/
structure Place where
  century : Int
  quad : Int
  year : Int
  day : Int
  century_mem : 0 ≤ century ∧ century ≤ 3
  quad_mem : 0 ≤ quad ∧ quad ≤ 24
  year_mem : 0 ≤ year ∧ year ≤ 3
  day_mem : 0 ≤ day ∧ day ≤ 365
  leap : day = 365 → year = 3 ∧ (quad = 24 → century = 3)

namespace Place

variable (place : Place)

def dayOfCycle : Int := 36524 * place.century + 1461 * place.quad + 365 * place.year + place.day

def yearOfCycle : Int := 100 * place.century + 4 * place.quad + place.year

theorem exists_place {day : Int} (low : 0 ≤ day) (high : day < daysPerCycle) :
    ∃ place : Place, place.dayOfCycle = day := by
  unfold daysPerCycle at high
  obtain ⟨century, century_mem, low, high⟩ : ∃ century : Int, (0 ≤ century ∧ century ≤ 3) ∧
      0 ≤ day - 36524 * century ∧ (day - 36524 * century < 36524 ∨
        day - 36524 * century = 36524 ∧ century = 3) := by
    by_cases last : day = 146096
    · exact ⟨3, by omega⟩
    · exact ⟨day / 36524, by omega⟩
  obtain ⟨inCentury, same⟩ : ∃ inCentury, inCentury = day - 36524 * century := ⟨_, rfl⟩
  rw [← same] at low high
  obtain ⟨quad, quad_mem, inQuad, split, low, high⟩ : ∃ quad : Int, (0 ≤ quad ∧ quad ≤ 24) ∧
      ∃ inQuad, inCentury = 1461 * quad + inQuad ∧ 0 ≤ inQuad ∧ inQuad < 1461 :=
    ⟨inCentury / 1461, by omega, inCentury % 1461, by omega, by omega, by omega⟩
  obtain ⟨year, year_mem, inYear, parts, inYear_mem, leap⟩ : ∃ year : Int, (0 ≤ year ∧ year ≤ 3) ∧
      ∃ inYear, inQuad = 365 * year + inYear ∧ (0 ≤ inYear ∧ inYear ≤ 365) ∧
        (inYear = 365 → year = 3) := by
    by_cases last : inQuad = 1460
    · exact ⟨3, by omega, 365, by omega, by omega, by omega⟩
    · exact ⟨inQuad / 365, by omega, inQuad % 365, by omega, by omega, by omega⟩
  refine ⟨⟨century, quad, year, inYear, century_mem, quad_mem, year_mem, inYear_mem, ?_⟩, ?_⟩
  · intro full
    exact ⟨leap full, by omega⟩
  · unfold dayOfCycle
    dsimp only
    omega

variable (place : Place)

theorem yearOfCycle_mem : 0 ≤ place.yearOfCycle ∧ place.yearOfCycle < 400 := by
  have century := place.century_mem
  have quad := place.quad_mem
  have year := place.year_mem
  unfold yearOfCycle
  omega

theorem daysBeforeYear_yearOfCycle :
    daysBeforeYear place.yearOfCycle = place.dayOfCycle - place.day := by
  have quad := place.quad_mem
  have year := place.year_mem
  have quarters : place.yearOfCycle / 4 = 25 * place.century + place.quad := by
    unfold yearOfCycle
    omega
  have centuries : place.yearOfCycle / 100 = place.century := by
    unfold yearOfCycle
    omega
  unfold daysBeforeYear
  rw [quarters, centuries]
  unfold yearOfCycle dayOfCycle
  omega

/-- The year of a day comes from its number alone. -/
theorem yearOfCycle_eq :
    (place.dayOfCycle - place.dayOfCycle / 1460 + place.dayOfCycle / 36524 -
      place.dayOfCycle / 146096) / 365 = place.yearOfCycle := by
  have century := place.century_mem
  have quad := place.quad_mem
  have year := place.year_mem
  have day := place.day_mem
  have leap := place.leap
  unfold dayOfCycle yearOfCycle
  generalize place.century = c at *
  generalize place.quad = q at *
  generalize place.year = y at *
  generalize place.day = d at *
  -- Between them the corrections take off a day for each leap year that has ended.
  have last : (36524 * c + 1461 * q + 365 * y + d) / 36524 -
      (36524 * c + 1461 * q + 365 * y + d) / 146096 = c := by
    obtain ⟨inside, isInside⟩ : ∃ inside, inside = 1461 * q + 365 * y + d := ⟨_, rfl⟩
    have whole : 36524 * c + 1461 * q + 365 * y + d = 36524 * c + inside := by omega
    have bounds : 0 ≤ inside ∧ (inside ≤ 36523 ∨ c = 3 ∧ inside = 36524) := by omega
    rw [whole]
    clear isInside whole
    omega
  have quarters : (36524 * c + 1461 * q + 365 * y + d) / 1460 =
      25 * c + q + if 1460 ≤ 24 * c + q + 365 * y + d then 1 else 0 := by
    split_ifs <;> omega
  split_ifs at quarters <;> omega

end Place

/-- The date with a place in a cycle. The months count from March. -/
theorem ofDayNumber_eq (number : Int) :
    ∃ (cycle : Int) (place : Place),
      number + epochOffset = cycle * daysPerCycle + place.dayOfCycle ∧
      ofDayNumber number =
        if (5 * place.day + 2) / 153 < 10 then
          ⟨cycle * 400 + place.yearOfCycle, ((5 * place.day + 2) / 153 + 3).toNat,
            (place.day - daysBeforeMonth ((5 * place.day + 2) / 153) + 1).toNat⟩
        else
          ⟨cycle * 400 + place.yearOfCycle + 1, ((5 * place.day + 2) / 153 - 9).toNat,
            (place.day - daysBeforeMonth ((5 * place.day + 2) / 153) + 1).toNat⟩ := by
  have low : 0 ≤ (number + epochOffset) % daysPerCycle := Int.emod_nonneg _ (by decide)
  have high : (number + epochOffset) % daysPerCycle < daysPerCycle :=
    Int.emod_lt_of_pos _ (by decide)
  obtain ⟨place, same⟩ := Place.exists_place low high
  refine ⟨(number + epochOffset) / daysPerCycle, place, ?_, ?_⟩
  · rw [same, Int.mul_comm, Int.mul_ediv_add_emod]
  · have day : place.dayOfCycle - daysBeforeYear place.yearOfCycle = place.day := by
      rw [place.daysBeforeYear_yearOfCycle]
      omega
    unfold ofDayNumber
    simp only [← same, place.yearOfCycle_eq, day]

/-- A year ends with a leap day only if the next one, whose day it is, is a leap year. -/
theorem isLeapYear_of_full {place : Place} (full : place.day = 365) (cycle : Int) :
    isLeapYear (cycle * 400 + place.yearOfCycle + 1) = true := by
  obtain ⟨year, last⟩ := place.leap full
  have century := place.century_mem
  have quad := place.quad_mem
  simp only [isLeapYear, Place.yearOfCycle, year, Bool.and_eq_true, Bool.or_eq_true,
    decide_eq_true_eq, ne_eq]
  omega

theorem isValid_ofDayNumber (number : Int) : (ofDayNumber number).IsValid := by
  obtain ⟨cycle, place, -, date⟩ := ofDayNumber_eq number
  rw [date]
  have day := place.day_mem
  obtain ⟨month, isMonth⟩ : ∃ month, month = (5 * place.day + 2) / 153 := ⟨_, rfl⟩
  rw [← isMonth]
  have low : 0 ≤ month := by omega
  have high : month ≤ 11 := by omega
  by_cases february : month = 11
  · subst february
    have length : (place.day - daysBeforeMonth 11 + 1).toNat ≤
        daysInMonth (cycle * 400 + place.yearOfCycle + 1) 2 := by
      unfold daysInMonth daysBeforeMonth
      by_cases full : place.day = 365
      · rw [isLeapYear_of_full full]
        simp [full]
      · split_ifs <;> omega
    refine ⟨by simp, by simp, ?_, by simpa using length⟩
    simp [daysBeforeMonth]
    omega
  · unfold IsValid
    interval_cases month <;> simp [daysInMonth, daysBeforeMonth] <;> omega

theorem dayNumber_ofDayNumber (number : Int) : (ofDayNumber number).dayNumber = number := by
  obtain ⟨cycle, place, split, date⟩ := ofDayNumber_eq number
  rw [date]
  have year := place.yearOfCycle_mem
  have start := place.daysBeforeYear_yearOfCycle
  have day := place.day_mem
  obtain ⟨month, isMonth⟩ : ∃ month, month = (5 * place.day + 2) / 153 := ⟨_, rfl⟩
  rw [← isMonth]
  have cycles : (cycle * 400 + place.yearOfCycle) / 400 = cycle := by omega
  have inCycle : (cycle * 400 + place.yearOfCycle) % 400 = place.yearOfCycle := by omega
  have counted : ((place.day - daysBeforeMonth month + 1).toNat : Int) =
      place.day - daysBeforeMonth month + 1 := by
    unfold daysBeforeMonth
    omega
  unfold dayNumber
  by_cases early : month < 10
  · have later : ¬ (month + 3).toNat ≤ 2 := by omega
    have same : ((month + 3).toNat : Int) - 3 = month := by omega
    simp only [early, if_true, later, if_false, cycles, inCycle, same, counted, start]
    omega
  · have earlier : (month - 9).toNat ≤ 2 := by omega
    have same : ((month - 9).toNat : Int) + 9 = month := by omega
    simp only [early, if_false, earlier, if_true, Int.add_sub_cancel, cycles, inCycle, same,
      counted, start]
    omega

end CacheFill.Date
