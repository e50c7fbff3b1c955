import CacheFill.Time.Clock

/-!
How a clock moves on. It adds up what it is told and stops at the latest point in time, but it takes
5200 weeks for every step that is too long for it, and so such a step may be the shorter one. Main
statement: `Clock.advance_saturates`.
-/

set_option autoImplicit false

namespace CacheFill

namespace Instant

variable {instant later sum other : Instant} {duration more : Duration}

/-- The nanoseconds since the start of 1970. In a leap second those of the second that it goes with
come once more. -/
def elapsed (instant : Instant) : Int :=
  instant.second * Duration.nanosPerSecond + (instant.nanos % Duration.nanosPerSecond : Nat)

/-- A point in time lies a duration after another. It is in a leap second only if the other one is
in the same. -/
structure LiesAfter (later instant : Instant) (duration : Duration) : Prop where
  elapsed : later.elapsed = instant.elapsed + duration.nanos
  leap : later.isLeap = true ↔ instant.isLeap = true ∧ later.second = instant.second

theorem isLeap_iff : instant.isLeap = true ↔ Duration.nanosPerSecond ≤ instant.nanos :=
  decide_eq_true_iff

theorem liesAfter_iff : later.LiesAfter instant duration ↔
    later.elapsed = instant.elapsed + duration.nanos ∧
      (Duration.nanosPerSecond ≤ later.nanos ↔
        Duration.nanosPerSecond ≤ instant.nanos ∧ later.second = instant.second) := by
  rw [← isLeap_iff, ← isLeap_iff]
  exact ⟨fun lies => ⟨lies.elapsed, lies.leap⟩, fun lies => ⟨lies.1, lies.2⟩⟩

theorem ofParts?_eq_some_iff {second : Int} {nanos : Nat} :
    ofParts? second nanos = some instant ↔ instant.second = second ∧ instant.nanos = nanos := by
  obtain ⟨_, _, inRange, below⟩ := instant
  unfold ofParts?
  split
  next => rw [Option.some.injEq, Instant.mk.injEq]; exact and_congr eq_comm eq_comm
  next outside =>
    refine iff_of_false (fun found => by cases found) fun same => ?_
    obtain ⟨rfl, rfl⟩ := same
    exact outside ⟨inRange, below⟩

theorem ofParts?_eq_none_iff {second : Int} {nanos : Nat} :
    ofParts? second nanos = none ↔
      ¬ ((earliestSecond ≤ second ∧ second ≤ latestSecond) ∧
        nanos < 2 * Duration.nanosPerSecond) := by
  unfold ofParts?
  split
  next inside => exact iff_of_false (fun found => by cases found) (not_not_intro inside)
  next outside => exact iff_of_true rfl outside

theorem add?_eq_some_iff :
    instant.add? duration = some later ↔ later.LiesAfter instant duration := by
  have bound := instant.nanos_lt
  have boundToo := later.nanos_lt
  simp only [liesAfter_iff, add?, isLeap_iff, elapsed, Duration.nanosPerSecond] at *
  split
  · rw [ofParts?_eq_some_iff]
    omega
  · rw [ofParts?_eq_some_iff]
    omega

theorem elapsed_le_latest (instant : Instant) : instant.elapsed ≤ latest.elapsed := by
  have inRange := instant.second_mem
  simp only [elapsed, latest, Duration.nanosPerSecond] at *
  omega

theorem add?_eq_none_iff :
    instant.add? duration = none ↔ latest.elapsed < instant.elapsed + duration.nanos := by
  have bound := instant.nanos_lt
  have inRange := instant.second_mem
  simp only [add?, isLeap_iff, elapsed, latest, Duration.nanosPerSecond] at *
  split
  · rw [ofParts?_eq_none_iff, Duration.nanosPerSecond]
    omega
  · rw [ofParts?_eq_none_iff, Duration.nanosPerSecond]
    omega

theorem LiesAfter.inRange (lies : later.LiesAfter instant duration) :
    instant.elapsed + duration.nanos ≤ latest.elapsed :=
  lies.elapsed ▸ later.elapsed_le_latest

theorem LiesAfter.unique (lies : later.LiesAfter instant duration)
    (liesToo : other.LiesAfter instant duration) : later = other :=
  Option.some.inj ((add?_eq_some_iff.mpr lies).symm.trans (add?_eq_some_iff.mpr liesToo))

theorem LiesAfter.le (lies : later.LiesAfter instant duration) : instant ≤ later :=
  le_of_add? (add?_eq_some_iff.mpr lies)

/-- Of two points in time the one that lies further after a third is the later one. -/
theorem LiesAfter.mono (lies : later.LiesAfter instant duration)
    (liesToo : other.LiesAfter instant more) (longer : duration ≤ more) : later ≤ other := by
  have bound := later.nanos_lt
  have boundToo := other.nanos_lt
  have order : duration.nanos ≤ more.nanos := longer
  change later.rank ≤ other.rank
  simp only [liesAfter_iff, Instant.elapsed, rank, Duration.nanosPerSecond] at *
  omega

theorem LiesAfter.trans (lies : later.LiesAfter instant duration)
    (liesToo : other.LiesAfter later more) :
    other.LiesAfter instant ⟨duration.nanos + more.nanos⟩ := by
  have bound := later.nanos_lt
  have boundToo := other.nanos_lt
  simp only [liesAfter_iff, Instant.elapsed, Duration.nanosPerSecond] at *
  omega

theorem liesAfter_zero (instant : Instant) : instant.LiesAfter instant ⟨0⟩ :=
  ⟨(Int.add_zero _).symm, (and_iff_left rfl).symm⟩

theorem LiesAfter.le_latest (lies : later.LiesAfter instant duration) (inTime : instant ≤ latest) :
    later ≤ latest := by
  have inRange := later.second_mem
  have bound := later.nanos_lt
  change instant.rank ≤ latest.rank at inTime
  change later.rank ≤ latest.rank
  simp only [liesAfter_iff, rank, latest, Duration.nanosPerSecond] at *
  omega

/-- Only in the leap second behind the last second of the calendar it is later than ever. -/
theorem elapsed_of_latest_lt (late : latest < instant) :
    latestSecond * Duration.nanosPerSecond ≤ instant.elapsed := by
  have inRange := instant.second_mem
  have bound := instant.nanos_lt
  change latest.rank < instant.rank at late
  simp only [elapsed, rank, latest, Duration.nanosPerSecond] at *
  omega

end Instant

namespace Clock

open Instant

variable {now later last : Instant} {step longer more : Duration}

/-- A clock has moved on by a duration, or to the latest point in time if the calendar ends
before. -/
def Saturates (now : Instant) (step : Duration) (later : Instant) : Prop :=
  later.LiesAfter now step ∨
    later = .latest ∧ Instant.latest.elapsed < now.elapsed + step.nanos

theorem saturates_getD (now : Instant) (step : Duration) :
    Saturates now step ((now.add? step).getD .latest) := by
  cases added : now.add? step with
  | some later => exact .inl (add?_eq_some_iff.mp added)
  | none => exact .inr ⟨rfl, add?_eq_none_iff.mp added⟩

theorem saturates_advance (now : Instant) (inRange : step ≤ longestStep) :
    Saturates now step (advance now step) := by
  rw [advance, if_pos inRange]
  exact saturates_getD now step

theorem advance_of_lt (tooLong : longestStep < step) :
    advance now step = (now.add? replacementStep).getD .latest := by
  rw [advance, if_neg (show ¬ step ≤ longestStep from Nat.not_le.mpr tooLong)]

/-- The longest step leads out of the calendar from anywhere in it. -/
theorem beyond_of_lt (now : Instant) (tooLong : longestStep < step) :
    Instant.latest.elapsed < now.elapsed + step.nanos := by
  have calendar : Instant.latest.elapsed ≤
    earliestSecond * Duration.nanosPerSecond + longestStep.nanos := by decide
  have inRange := now.second_mem
  change longestStep.nanos < step.nanos at tooLong
  simp only [elapsed, Duration.nanosPerSecond] at calendar ⊢
  omega

theorem Saturates.le_latest (saturates : Saturates now step later) (inTime : now ≤ .latest) :
    later ≤ .latest := by
  cases saturates with
  | inl lies => exact lies.le_latest inTime
  | inr ended => exact ended.1 ▸ Instant.le_refl _

theorem Saturates.le (saturates : Saturates now step later) (inTime : now ≤ .latest) :
    now ≤ later := by
  cases saturates with
  | inl lies => exact lies.le
  | inr ended => exact ended.1 ▸ inTime

theorem Saturates.mono (saturates : Saturates now step later)
    (saturatesToo : Saturates now longer last) (order : step ≤ longer) (inTime : now ≤ .latest) :
    later ≤ last := by
  cases saturatesToo with
  | inr ended => exact ended.1 ▸ saturates.le_latest inTime
  | inl liesToo =>
      cases saturates with
      | inl lies => exact lies.mono liesToo order
      | inr ended =>
          have inRange := liesToo.inRange
          have short : step.nanos ≤ longer.nanos := order
          have beyond := ended.2
          omega

theorem Saturates.unique (saturates : Saturates now step later)
    (saturatesToo : Saturates now step last) : later = last := by
  cases saturates with
  | inl lies =>
      cases saturatesToo with
      | inl liesToo => exact lies.unique liesToo
      | inr ended => exact absurd lies.inRange (Int.not_le.mpr ended.2)
  | inr ended =>
      cases saturatesToo with
      | inl lies => exact absurd lies.inRange (Int.not_le.mpr ended.2)
      | inr endedToo => exact ended.1.trans endedToo.1.symm

/-- Two durations lead to the same point in time only at the end of the calendar. -/
theorem Saturates.eq_latest (saturates : Saturates now step later)
    (saturatesToo : Saturates now longer later) (order : step < longer) : later = .latest := by
  cases saturates with
  | inr ended => exact ended.1
  | inl lies =>
      cases saturatesToo with
      | inr ended => exact ended.1
      | inl liesToo =>
          have same := lies.elapsed.symm.trans liesToo.elapsed
          change step.nanos < longer.nanos at order
          omega

/-- Moving on twice is moving on by both durations. -/
theorem Saturates.trans (saturates : Saturates now step later)
    (saturatesToo : Saturates later more last) :
    Saturates now ⟨step.nanos + more.nanos⟩ last := by
  cases saturates with
  | inl lies =>
      cases saturatesToo with
      | inl liesToo => exact .inl (lies.trans liesToo)
      | inr ended =>
          refine .inr ⟨ended.1, ?_⟩
          have beyond := ended.2
          rw [lies.elapsed] at beyond
          simp only
          omega
  | inr ended =>
      obtain ⟨rfl, beyond⟩ := ended
      refine .inr ⟨?_, by simp only; omega⟩
      cases saturatesToo with
      | inr ended => exact ended.1
      | inl lies =>
          have stays : more.nanos = 0 := by
            have inRange := lies.inRange
            omega
          obtain rfl : more = ⟨0⟩ := by cases more; cases stays; rfl
          exact lies.unique (liesAfter_zero _)

/-- The step that is taken instead of a longer one reaches the end of the calendar. -/
theorem saturates_latest_iff :
    Saturates now replacementStep .latest ↔
      Instant.latest.elapsed ≤ now.elapsed + replacementStep.nanos := by
  constructor
  · intro saturates
    cases saturates with
    | inl lies => exact Int.le_of_eq lies.elapsed
    | inr ended => exact Int.le_of_lt ended.2
  · intro reached
    rcases Int.lt_or_eq_of_le reached with before | exact
    · exact .inr ⟨rfl, before⟩
    · have bound := now.nanos_lt
      refine .inl (liesAfter_iff.mpr ⟨exact, ?_⟩)
      simp only [elapsed, Instant.latest, replacementStep, Duration.ofSeconds,
        Duration.nanosPerSecond] at *
      omega

/-- A clock that is moved on by one duration after the other. -/
def run (start : Instant) (steps : List Duration) : Instant := steps.foldl advance start

def total (steps : List Duration) : Duration :=
  ⟨steps.foldr (fun step sum => step.nanos + sum) 0⟩

theorem le_latest_advance (now : Instant) (step : Duration) (inTime : now ≤ .latest) :
    advance now step ≤ .latest :=
  (saturates_getD now _).le_latest inTime

theorem le_latest_run (start : Instant) (steps : List Duration) (inTime : start ≤ .latest) :
    run start steps ≤ .latest := by
  induction steps generalizing start with
  | nil => exact inTime
  | cons step rest ih => exact ih _ (le_latest_advance start step inTime)

theorem saturates_run (start : Instant) (steps : List Duration)
    (inRange : ∀ step ∈ steps, step ≤ longestStep) :
    Saturates start (total steps) (run start steps) := by
  induction steps generalizing start with
  | nil => exact .inl (liesAfter_zero start)
  | cons step rest ih =>
      have first := saturates_advance start (inRange step List.mem_cons_self)
      exact first.trans (ih _ fun other member => inRange other (List.mem_cons_of_mem _ member))

theorem saturates_of_lt_iff (tooLong : longestStep < step) :
    Saturates now step (advance now step) ↔
      Instant.latest.elapsed ≤ now.elapsed + replacementStep.nanos := by
  have beyond := beyond_of_lt now tooLong
  have replaced := saturates_getD now replacementStep
  rw [advance_of_lt tooLong, ← saturates_latest_iff]
  constructor
  · intro saturates
    cases saturates with
    | inl lies => exact absurd lies.inRange (Int.not_le.mpr beyond)
    | inr ended => exact ended.1 ▸ replaced
  · intro reached
    rw [replaced.unique reached]
    exact .inr ⟨rfl, beyond⟩

/-- The clock goes back only from the leap second behind the last second of the calendar, when it
leaves it. -/
theorem le_advance_iff (now : Instant) (step : Duration) :
    now ≤ advance now step ↔
      now ≤ .latest ∨ now.elapsed + step.nanos ≤ Instant.latest.elapsed := by
  constructor
  · intro ahead
    by_cases inTime : now ≤ .latest
    · exact .inl inTime
    have late := Instant.not_le.mp inTime
    refine .inr ?_
    by_cases inRange : step ≤ longestStep
    · cases saturates_advance now inRange with
      | inl lies => exact lies.inRange
      | inr ended => exact absurd (ended.1 ▸ ahead) inTime
    · rw [advance_of_lt (Nat.not_le.mp inRange)] at ahead
      cases saturates_getD now replacementStep with
      | inr ended => exact absurd (ended.1 ▸ ahead) inTime
      | inl lies =>
          have inCalendar := lies.inRange
          have atEnd := elapsed_of_latest_lt late
          simp only [elapsed, Instant.latest, replacementStep, Duration.ofSeconds,
            Duration.nanosPerSecond] at inCalendar atEnd
          omega
  · intro kept
    rcases kept with inTime | inCalendar
    · exact (saturates_getD now _).le inTime
    · have inRange : step ≤ longestStep := by
        refine Nat.le_of_not_lt fun tooLong => ?_
        exact absurd inCalendar (Int.not_le.mpr (beyond_of_lt now tooLong))
      cases saturates_advance now inRange with
      | inl lies => exact lies.le
      | inr ended => exact absurd inCalendar (Int.not_le.mpr ended.2)

/-- A longer step leads at least as far, unless it is too long and the one taken instead of it is
shorter. -/
theorem advance_le_advance_iff (inTime : now ≤ .latest) (order : step ≤ longer) :
    advance now step ≤ advance now longer ↔
      longer ≤ longestStep ∨ longestStep < step ∨ step ≤ replacementStep ∨
        Instant.latest.elapsed ≤ now.elapsed + replacementStep.nanos := by
  by_cases inRange : longer ≤ longestStep
  · have first := saturates_advance now (Nat.le_trans order inRange)
    exact iff_of_true (first.mono (saturates_advance now inRange) order inTime) (.inl inRange)
  by_cases tooLong : longestStep < step
  · rw [advance_of_lt tooLong, advance_of_lt (Nat.lt_of_lt_of_le tooLong order)]
    exact iff_of_true (Instant.le_refl _) (.inr (.inl tooLong))
  have first := saturates_advance now (Nat.not_lt.mp tooLong)
  have replaced := saturates_getD now replacementStep
  rw [advance_of_lt (Nat.not_le.mp inRange)]
  constructor
  · intro ahead
    refine .inr (.inr ?_)
    by_cases short : step ≤ replacementStep
    · exact .inl short
    · have reversed := replaced.mono first (Nat.le_of_not_le short) inTime
      rw [Instant.eq_of_le ahead reversed] at first
      refine .inr (saturates_latest_iff.mp ?_)
      exact replaced.eq_latest first (Nat.not_le.mp short) ▸ replaced
  · intro reached
    rcases reached with impossible | impossible | short | reached
    · exact absurd impossible inRange
    · exact absurd impossible tooLong
    · exact first.mono replaced short inTime
    · rw [replaced.unique (saturates_latest_iff.mpr reached)]
      exact first.le_latest inTime

/-- Moving on by durations that are not too long is moving on by all of them together, up to the
latest point in time. A duration that is too long comes to the same if and only if 5200 weeks reach
the end of the calendar, and otherwise the clock stays behind where a shorter one would take it. -/
theorem advance_saturates (start : Instant) (steps : List Duration) :
    ((∀ step ∈ steps, step ≤ longestStep) → Saturates start (total steps) (run start steps)) ∧
    (start ≤ .latest → run start steps ≤ .latest) ∧
    ∀ step,
      (Saturates (run start steps) step (run start (steps ++ [step])) ↔
        step ≤ longestStep ∨
          Instant.latest.elapsed ≤ (run start steps).elapsed + replacementStep.nanos) ∧
      (run start steps ≤ run start (steps ++ [step]) ↔
        run start steps ≤ .latest ∨
          (run start steps).elapsed + step.nanos ≤ Instant.latest.elapsed) ∧
      ∀ longer, start ≤ .latest → step ≤ longer →
        (run start (steps ++ [step]) ≤ run start (steps ++ [longer]) ↔
          longer ≤ longestStep ∨ longestStep < step ∨ step ≤ replacementStep ∨
            Instant.latest.elapsed ≤ (run start steps).elapsed + replacementStep.nanos) := by
  refine ⟨saturates_run start steps, le_latest_run start steps, fun step => ?_⟩
  have snoc (last : Duration) : run start (steps ++ [last]) = advance (run start steps) last := by
    rw [run, List.foldl_append]
    rfl
  simp only [snoc]
  refine ⟨?_, le_advance_iff _ _, fun longer inTime => ?_⟩
  · by_cases inRange : step ≤ longestStep
    · exact iff_of_true (saturates_advance _ inRange) (.inl inRange)
    · rw [saturates_of_lt_iff (Nat.not_le.mp inRange), or_iff_right inRange]
  · exact advance_le_advance_iff (le_latest_run start steps inTime)

/-- As long a step as 64-bit seconds can say. -/
def wholeRange : Duration := .ofSeconds (UInt64.size - 1)

/-- A quarter of a leap second is over. -/
def inLeapSecond : Instant := ⟨1483228799, 1250000000, by decide, by decide⟩

/-- The second of these steps leaves the leap second. -/
def fractions : List Duration := [⟨600000000⟩, ⟨200000000⟩]

theorem run_inLeapSecond :
    ((∀ step ∈ fractions, step ≤ longestStep) ∧ inLeapSecond ≤ .latest ∧
      .ofSeconds (5201 * 7 * 86400) ≤ wholeRange) ∧
    Saturates inLeapSecond ⟨800000000⟩ (run inLeapSecond fractions) ∧
      run inLeapSecond fractions ≤ .latest ∧
      ¬ run inLeapSecond (fractions ++ [.ofSeconds (5201 * 7 * 86400)]) ≤
        run inLeapSecond (fractions ++ [wholeRange]) := by
  have steps : (∀ step ∈ fractions, step ≤ longestStep) ∧ inLeapSecond ≤ .latest ∧
    .ofSeconds (5201 * 7 * 86400) ≤ wholeRange := by decide
  obtain ⟨inRange, inTime, order⟩ := steps
  obtain ⟨saturates, kept, advances⟩ := advance_saturates inLeapSecond fractions
  refine ⟨⟨inRange, inTime, order⟩, saturates inRange, kept inTime, ?_⟩
  rw [(advances _).2.2 _ inTime order]
  decide

theorem advance_wholeRange :
    ¬ Saturates .epoch wholeRange (advance .epoch wholeRange) ∧
      longestStep < wholeRange ∧ advance .epoch wholeRange < advance .epoch longestStep := by
  have tooLong : longestStep < wholeRange := by decide
  refine ⟨?_, tooLong, by decide⟩
  rw [saturates_of_lt_iff tooLong]
  decide

end Clock

end CacheFill
