import CacheFill.Text.Blank
import CacheFill.Text.DigitsProperties
import Mathlib.Data.Nat.Digits.Defs
import Mathlib.Tactic.Common

/-!
Numerals that are written are read back: those of a fixed width and those without leading zeros, in
front of anything that is no digit.
-/

set_option autoImplicit false

namespace CacheFill.Digits

theorem decimal?_digitChar {digit : Nat} (small : digit < 10) :
    decimal? digit.digitChar = some digit := by
  revert digit
  decide

theorem digitChar_ne {digit : Nat} (small : digit < 10) {c : Char} (nondigit : decimal? c = none) :
    digit.digitChar ≠ c := by
  rintro rfl
  rw [decimal?_digitChar small] at nondigit
  cases nondigit

theorem digitChar_ne_zero {digit : Nat} (small : digit < 10) (nonzero : digit ≠ 0) :
    digit.digitChar ≠ '0' := by
  revert digit
  decide

theorem isBlank_digitChar {digit : Nat} (small : digit < 10) :
    Text.isBlank digit.digitChar = false := by
  revert digit
  decide

theorem hexadecimal?_digitChar {digit : Nat} (small : digit < 16) :
    hexadecimal? digit.digitChar = some digit := by
  revert digit
  decide

theorem lt_of_mem_fixed {base width number digit : Nat} (positive : 0 < base)
    (mem : digit ∈ fixed base width number) : digit < base := by
  induction width generalizing number with
  | zero => cases mem
  | succ width ih =>
      rcases List.mem_append.mp mem with higher | lowest
      · exact ih higher
      · rw [List.mem_singleton.mp lowest]
        exact Nat.mod_lt _ positive

theorem fixed_small (width number : Nat) : ∀ digit ∈ fixed 10 width number, digit < 10 :=
  fun _ => lt_of_mem_fixed (by decide)

theorem fixed_append (base high low number : Nat) :
    fixed base (high + low) number = fixed base high (number / base ^ low) ++ fixed base low number := by
  induction low generalizing number with
  | zero => simp [fixed]
  | succ low ih =>
      rw [← Nat.add_assoc, fixed, ih, fixed, ← List.append_assoc, Nat.div_div_eq_div_mul,
        Nat.pow_succ, Nat.mul_comm base]

theorem length_render (base width number : Nat) : (render base width number).length = width := by
  rw [render, List.length_map, length_fixed]

/-- What may follow a numeral: nothing, or a character that is no digit. -/
def Stops (rest : List Char) : Prop := ∀ c ∈ rest.head?, decimal? c = none

theorem stops_cons {c : Char} (nondigit : decimal? c = none) (rest : List Char) :
    Stops (c :: rest) := by
  intro other mem
  obtain rfl := Option.mem_some.mp mem
  exact nondigit

theorem span_stops {rest : List Char} (stops : Stops rest) : span rest = ([], rest) := by
  cases rest with
  | nil => rfl
  | cons c rest =>
      unfold span
      rw [stops c rfl]

/-- Reading digits takes those in front and stops where no digit follows. -/
theorem span_map {digits : List Nat} (small : ∀ digit ∈ digits, digit < 10) {rest : List Char}
    (stops : Stops rest) : span (digits.map Nat.digitChar ++ rest) = (digits, rest) := by
  induction digits with
  | nil => exact span_stops stops
  | cons digit digits ih =>
      rw [List.map_cons, List.cons_append, span, decimal?_digitChar (small _ List.mem_cons_self)]
      simp only [ih fun other mem => small other (List.mem_cons_of_mem _ mem)]

theorem span_render (width number : Nat) {rest : List Char} (stops : Stops rest) :
    span (render 10 width number ++ rest) = (fixed 10 width number, rest) :=
  span_map (fixed_small width number) stops

theorem mapM_hexadecimal? {digits : List Nat} (small : ∀ digit ∈ digits, digit < 16) :
    (digits.map Nat.digitChar).mapM hexadecimal? = some digits := by
  induction digits with
  | nil => rfl
  | cons digit digits ih =>
      rw [List.map_cons, List.mapM_cons, hexadecimal?_digitChar (small _ List.mem_cons_self),
        ih fun other mem => small other (List.mem_cons_of_mem _ mem)]
      rfl

theorem value_append (base : Nat) (digits : List Nat) (digit : Nat) :
    value base (digits ++ [digit]) = value base digits * base + digit := by
  simp [value]

/-- The digits of a number without leading zeros. -/
structure IsNumeral (number : Nat) (digits : List Nat) : Prop where
  written : Nat.toDigits 10 number = digits.map Nat.digitChar
  small : ∀ digit ∈ digits, digit < 10
  value : value 10 digits = number
  nonempty : digits ≠ []
  leading : digits.head? = some 0 → number = 0

theorem exists_isNumeral (number : Nat) : ∃ digits, IsNumeral number digits := by
  induction number using Nat.strong_induction_on with
  | _ number ih =>
      by_cases small : number < 10
      · refine ⟨[number], Nat.toDigits_of_lt_base small, ?_, ?_, by simp, ?_⟩
        · simpa using small
        · simp [Digits.value]
        · exact Option.some.inj
      · obtain ⟨digits, numeral⟩ := ih (number / 10) (by omega)
        refine ⟨digits ++ [number % 10], ?_, ?_, ?_, by simp, ?_⟩
        · rw [Nat.toDigits_of_base_le (by decide) (by omega), numeral.written, List.map_append]
          rfl
        · intro digit mem
          rcases List.mem_append.mp mem with higher | lowest
          · exact numeral.small digit higher
          · rw [List.mem_singleton.mp lowest]
            exact Nat.mod_lt _ (by decide)
        · rw [value_append, numeral.value]
          omega
        · intro zero
          obtain ⟨first, more, rfl⟩ := List.exists_cons_of_ne_nil numeral.nonempty
          have := numeral.leading zero
          omega

end CacheFill.Digits
