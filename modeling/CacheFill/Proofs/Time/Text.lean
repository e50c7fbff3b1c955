import CacheFill.Proofs.Text.Numerals
import CacheFill.Proofs.Time.Calendar
import CacheFill.Time.Text

/-!
The text of a point in time is read back as that point in time, in whatever year it lies and however
many digits its fraction has.
-/

set_option autoImplicit false

namespace CacheFill

namespace Instant

theorem trimStart_of_solid {c : Char} (solid : Text.isBlank c = false) (rest : List Char) :
    Text.trimStart (c :: rest) = c :: rest := by
  rw [Text.trimStart, List.dropWhile_cons, solid]
  rfl

theorem mark?_cons {mark : Char} (solid : Text.isBlank mark = false) (rest : List Char) :
    mark? mark (mark :: rest) = some rest := by
  rw [mark?, trimStart_of_solid solid]
  exact if_pos rfl

/-- A number is read up to its width or up to what is no digit. -/
theorem number?_digits {digits : List Nat} (small : ∀ digit ∈ digits, digit < 10)
    (nonempty : digits ≠ []) {width : Nat} (fits : digits.length ≤ width) {rest : List Char}
    (ends : digits.length = width ∨ Digits.Stops rest) :
    number? width (digits.map Nat.digitChar ++ rest) = some (Digits.value 10 digits, rest) := by
  have stops : Digits.Stops (rest.take (width - digits.length)) := by
    intro c mem
    rcases ends with full | stops
    · rw [full, Nat.sub_self, List.take_zero] at mem
      cases mem
    · apply stops
      cases rest with
      | nil => simp at mem
      | cons first rest =>
          cases left : width - digits.length with
          | zero =>
              rw [left] at mem
              cases mem
          | succ left' =>
              rw [left] at mem
              exact mem
  have taken : (digits.map Nat.digitChar ++ rest).take width =
      digits.map Nat.digitChar ++ rest.take (width - digits.length) := by
    rw [List.take_append, List.length_map, List.take_of_length_le (by simpa using fits)]
  obtain ⟨first, more, rfl⟩ := List.exists_cons_of_ne_nil nonempty
  rw [number?, taken, Digits.span_map small stops]
  dsimp only
  rw [← List.length_map (f := Nat.digitChar), List.drop_left]

theorem number?_render (width : Nat) {number : Nat} (positive : 0 < width) (small : number < 10 ^ width)
    (rest : List Char) :
    number? width (Digits.render 10 width number ++ rest) = some (number, rest) := by
  have length := Digits.length_fixed 10 width number
  have nonempty : Digits.fixed 10 width number ≠ [] := by
    intro empty
    rw [empty] at length
    exact absurd length positive.ne
  rw [Digits.render, number?_digits (Digits.fixed_small width number) nonempty length.le
    (.inl length), Digits.value_fixed, Nat.mod_eq_of_lt small]

theorem render_head (width number : Nat) :
    ∃ first more, Digits.render 10 (width + 1) number = Nat.digitChar first :: more ∧ first < 10 := by
  cases digits : Digits.fixed 10 (width + 1) number with
  | nil =>
      have length := Digits.length_fixed 10 (width + 1) number
      rw [digits] at length
      cases length
  | cons first more =>
      have small : first < 10 := Digits.fixed_small (width + 1) number first (by simp [digits])
      exact ⟨first, more.map Nat.digitChar, by rw [Digits.render, digits, List.map_cons], small⟩

theorem two?_render {number : Nat} (small : number < 100) (rest : List Char) :
    two? (Digits.render 10 2 number ++ rest) = some (number, rest) := by
  have read := number?_render 2 (by decide) small rest
  obtain ⟨first, more, starts, digit⟩ := render_head 1 number
  rw [starts, List.cons_append] at read ⊢
  rw [two?, trimStart_of_solid (Digits.isBlank_digitChar digit), read]

theorem value_zeros (count : Nat) (digits : List Nat) :
    Digits.value 10 (List.replicate count 0 ++ digits) = Digits.value 10 digits := by
  unfold Digits.value
  rw [List.foldl_append]
  congr 1
  induction count with
  | zero => rfl
  | succ count ih => rw [List.replicate_succ, List.foldl_cons, Nat.zero_mul, ih]

/-- A year beyond four digits is read behind its sign up to the next mark. -/
theorem number?_padded {number : Nat} {rest : List Char} :
    let written := List.replicate (4 - (Nat.toDigits 10 number).length) '0' ++
      Nat.toDigits 10 number
    number? (written ++ '-' :: rest).length (written ++ '-' :: rest) = some (number, '-' :: rest) := by
  obtain ⟨digits, numeral⟩ := Digits.exists_isNumeral number
  have zeros (count : Nat) :
      List.replicate count '0' = (List.replicate count 0).map Nat.digitChar := by
    rw [List.map_replicate]
    rfl
  simp only [numeral.written, zeros, ← List.map_append]
  rw [number?_digits, value_zeros, numeral.value]
  · intro digit mem
    rcases List.mem_append.mp mem with zero | digit
    · rw [List.eq_of_mem_replicate zero]
      decide
    · exact numeral.small _ digit
  · simp [numeral.nonempty]
  · simp
  · exact .inr (Digits.stops_cons rfl rest)

theorem year?_yearText (year : Int) (rest : List Char) :
    year? (yearText year ++ '-' :: rest) = some (year, '-' :: rest) := by
  unfold yearText
  split_ifs with four negative
  · have read := number?_render 4 (by decide) (show year.toNat < 10 ^ 4 by omega) ('-' :: rest)
    obtain ⟨first, more, starts, digit⟩ := render_head 3 year.toNat
    have same : (year.toNat : Int) = year := by omega
    rw [starts, List.cons_append] at read ⊢
    rw [year?, trimStart_of_solid (Digits.isBlank_digitChar digit)]
    split
    next minus => exact absurd (List.cons.inj minus).1 (Digits.digitChar_ne digit rfl)
    next plus => exact absurd (List.cons.inj plus).1 (Digits.digitChar_ne digit rfl)
    next =>
      rw [read]
      exact congrArg (fun year => some (year, '-' :: rest)) same
  · have same : -(year.natAbs : Int) = year := by omega
    dsimp only
    rw [List.cons_append, List.cons_append, year?, trimStart_of_solid rfl]
    change (number? _ _).map (fun found => (-(found.1 : Int), found.2)) = _
    rw [number?_padded]
    exact congrArg (fun year => some (year, '-' :: rest)) same
  · have same : (year.natAbs : Int) = year := by omega
    dsimp only
    rw [List.cons_append, List.cons_append, year?, trimStart_of_solid rfl]
    change (number? _ _).map (fun found => ((found.1 : Int), found.2)) = _
    rw [number?_padded]
    exact congrArg (fun year => some (year, '-' :: rest)) same

theorem fraction?_render {width number : Nat} (positive : 0 < width) (short : width ≤ 9)
    (small : number < 10 ^ width) (rest : List Char) :
    fraction? ('.' :: (Digits.render 10 width number ++ 'Z' :: rest)) =
      some (number * 10 ^ (9 - width), 'Z' :: rest) := by
  have length := Digits.length_fixed 10 width number
  have value := Digits.value_fixed 10 width number
  rw [Nat.mod_eq_of_lt small] at value
  rw [fraction?.eq_1, Digits.span_render width number (Digits.stops_cons rfl rest)]
  generalize Digits.fixed 10 width number = digits at *
  cases digits with
  | nil => exact absurd length positive.ne
  | cons first more =>
      have kept : (first :: more).take 9 = first :: more := List.take_of_length_le (length ▸ short)
      dsimp only
      rw [kept, value, length]
      rfl

theorem fraction?_fractionText {nanos : Nat} (small : nanos < Duration.nanosPerSecond)
    (rest : List Char) :
    fraction? (fractionText nanos ++ 'Z' :: rest) = some (nanos, 'Z' :: rest) := by
  unfold Duration.nanosPerSecond at small
  unfold fractionText
  split_ifs with zero millis micros
  · rw [zero]
    rfl
  · rw [List.cons_append, fraction?_render (by decide) (by decide) (by omega)]
    congr 2
    omega
  · rw [List.cons_append, fraction?_render (by decide) (by decide) (by omega)]
    congr 2
    omega
  · rw [List.cons_append, fraction?_render (by decide) (by decide) (by omega), Nat.sub_self,
      Nat.pow_zero, Nat.mul_one]

/-- A leap second stands at the end of a minute. -/
def IsPlaced (instant : Instant) : Prop := instant.isLeap = true → instant.second % 60 = 59

theorem ofParts?_self (instant : Instant) :
    ofParts? instant.second instant.nanos = some instant :=
  dif_pos ⟨instant.second_mem, instant.nanos_lt⟩

theorem bind_of_some {α β : Type} {found : Option α} {value : α} {next : α → Option β}
    (same : found = some value) : (found >>= next) = next value := by
  rw [same]
  rfl

/-- What is read from the parts of a time of day in a day. -/
theorem parseChars?_written {date : Date} (valid : date.IsValid) {hour minute second nanos : Nat}
    (hours : hour < 24) (minutes : minute < 60) (seconds : second ≤ 60)
    (fraction : nanos < Duration.nanosPerSecond) :
    parseChars? (dateText date ++ 'T' :: (Digits.render 10 2 hour ++ ':' ::
        (Digits.render 10 2 minute ++ ':' :: (Digits.render 10 2 second ++
          (fractionText nanos ++ ['Z']))))) =
      (ofParts? (date.dayNumber * secondsPerDay +
          (hour * 3600 + minute * 60 + if second = 60 then 59 else second : Nat))
        (if second = 60 then Duration.nanosPerSecond + nanos else nanos)).bind
          fun written => ofParts? (written.second - 0) written.nanos := by
  obtain ⟨month, months, day, days⟩ := id valid
  have lengths : Date.daysInMonth date.year date.month ≤ 31 := by
    unfold Date.daysInMonth
    split_ifs <;> decide
  have written (rest : List Char) : dateText date ++ 'T' :: rest =
      yearText date.year ++ '-' :: (Digits.render 10 2 date.month ++ '-' ::
        (Digits.render 10 2 date.day ++ 'T' :: rest)) := by
    simp [dateText]
  rw [written, parseChars?]
  -- One step for each part of the text: what its reader finds, and what it leaves.
  refine (bind_of_some (year?_yearText ..)).trans ?_
  refine (bind_of_some (mark?_cons rfl _)).trans ?_
  refine (bind_of_some (two?_render (by omega) _)).trans ?_
  refine (bind_of_some (mark?_cons rfl _)).trans ?_
  refine (bind_of_some (two?_render (by omega) _)).trans ?_
  refine (if_pos ⟨rfl, valid⟩).trans ?_
  refine (bind_of_some (two?_render (by omega) _)).trans ?_
  refine (bind_of_some (mark?_cons rfl _)).trans ?_
  refine (bind_of_some (two?_render (by omega) _)).trans ?_
  refine (bind_of_some (mark?_cons rfl _)).trans ?_
  refine (bind_of_some (two?_render (by omega) _)).trans ?_
  refine (bind_of_some (fraction?_fractionText fraction _)).trans ?_
  refine (bind_of_some rfl).trans ?_
  exact if_pos ⟨hours, minutes, seconds, rfl⟩

theorem parseChars?_renderChars {instant : Instant} (placed : instant.IsPlaced) :
    parseChars? instant.renderChars = some instant := by
  have bound := instant.nanos_lt
  have fits := instant.ofParts?_self
  have ofDay : (instant.secondOfDay : Int) = instant.second % 86400 := by
    unfold secondOfDay secondsPerDay
    omega
  have day : instant.date.dayNumber = instant.second / 86400 := by
    rw [date, Date.dayNumber_ofDayNumber]
    rfl
  have leap : instant.secondOfDay % 60 + instant.nanos / 1000000000 = 60 ↔
      1000000000 ≤ instant.nanos := by
    have placed : 1000000000 ≤ instant.nanos → instant.second % 60 = 59 := fun leap =>
      placed (decide_eq_true leap)
    unfold Duration.nanosPerSecond at bound
    omega
  have shape : instant.renderChars = dateText instant.date ++ 'T' ::
      (Digits.render 10 2 (instant.secondOfDay / 3600) ++ ':' ::
        (Digits.render 10 2 (instant.secondOfDay / 60 % 60) ++ ':' ::
          (Digits.render 10 2 (instant.secondOfDay % 60 + instant.nanos / Duration.nanosPerSecond) ++
            (fractionText (instant.nanos % Duration.nanosPerSecond) ++ ['Z'])))) := by
    simp [renderChars, timeOfDayText, timeText]
  have valid : instant.date.IsValid := Date.isValid_ofDayNumber _
  have second : instant.date.dayNumber * secondsPerDay + ((instant.secondOfDay / 3600 * 3600 +
      instant.secondOfDay / 60 % 60 * 60 +
      if instant.secondOfDay % 60 + instant.nanos / Duration.nanosPerSecond = 60 then 59
        else instant.secondOfDay % 60 + instant.nanos / Duration.nanosPerSecond : Nat) : Int) =
      instant.second := by
    unfold secondsPerDay Duration.nanosPerSecond at *
    split_ifs <;> omega
  have nanos : (if instant.secondOfDay % 60 + instant.nanos / Duration.nanosPerSecond = 60 then
      Duration.nanosPerSecond + instant.nanos % Duration.nanosPerSecond
        else instant.nanos % Duration.nanosPerSecond) = instant.nanos := by
    unfold Duration.nanosPerSecond at *
    split_ifs <;> omega
  rw [shape, parseChars?_written valid (by omega) (by omega)
    (by unfold Duration.nanosPerSecond at *; omega) (Nat.mod_lt _ (by decide)), second, nanos, fits,
    Option.bind_some, Int.sub_zero, fits]

theorem parse?_render {instant : Instant} (placed : instant.IsPlaced) :
    parse? instant.render = some instant := by
  rw [parse?, render, String.toList_ofList, parseChars?_renderChars placed]

end Instant

end CacheFill
