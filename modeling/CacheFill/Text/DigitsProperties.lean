import CacheFill.Text.Digits
import Mathlib.Algebra.Ring.Nat

/-!
Runs of digits of a fixed width, read back.
-/

set_option autoImplicit false

namespace CacheFill.Digits

/-- Reading back a number written at a fixed width gives its residue, hence the number itself
whenever the width suffices. -/
theorem value_fixed (base width number : Nat) :
    value base (fixed base width number) = number % base ^ width := by
  induction width generalizing number with
  | zero => simp [fixed, value, Nat.mod_one]
  | succ width ih =>
      have step : value base (fixed base (width + 1) number) =
          value base (fixed base width (number / base)) * base + number % base := by
        simp [value, fixed]
      rw [step, ih, Nat.pow_succ, Nat.mul_comm (base ^ width) base, Nat.mod_mul]
      rw [Nat.mul_comm base, Nat.add_comm]

end CacheFill.Digits
