import CacheFill.Binary64.Basic
import Mathlib.Tactic.Common
import Mathlib.Tactic.Ring

/-!
Whole numbers as doubles. Below 2^53 they are exact, and so are sums, products and comparisons of
them; whatever is 2^53 or more stays that large. Main statements: `exists_isWhole_round`, which says
what rounding makes of a whole number, and `isWhole_mul`.
-/

set_option autoImplicit false

namespace CacheFill.Binary64

variable {a b : Binary64} {m n k num den : Nat}

/-- The number is this whole number. -/
def IsWhole (number : Binary64) (whole : Nat) : Prop :=
  ∃ mantissa exponent, number = .finite false mantissa exponent ∧
    mantissa * 2 ^ exponent.toNat = whole * 2 ^ (-exponent).toNat

theorem isWhole_zero : zero.IsWhole 0 :=
  ⟨0, leastExponent, rfl, (Nat.zero_mul _).trans (Nat.zero_mul _).symm⟩

theorem nearest_of_dvd (positive : 0 < den) (divides : den ∣ num) : nearest num den = num / den := by
  rw [nearest, Nat.mod_eq_zero_of_dvd divides, if_neg (by omega)]

theorem nearest_cases (num den : Nat) :
    nearest num den = num / den ∨ nearest num den = num / den + 1 := by
  unfold nearest
  split
  · exact .inr rfl
  · exact .inl rfl

theorem log2_mul_two_pow (positive : 0 < n) (k : Nat) : (n * 2 ^ k).log2 = n.log2 + k := by
  have whole : n ≠ 0 := Nat.ne_of_gt positive
  rw [Nat.log2_eq_iff (Nat.mul_ne_zero whole (Nat.two_pow_pos k).ne'), Nat.pow_add,
    Nat.add_right_comm, Nat.pow_add]
  constructor
  · exact Nat.mul_le_mul_right _ (Nat.log2_self_le whole)
  · exact Nat.mul_lt_mul_of_pos_right Nat.lt_log2_self (Nat.two_pow_pos k)

theorem leadingExponent_whole (positive : 0 < n) (k : Nat) :
    leadingExponent (n * 2 ^ k) (2 ^ k) = n.log2 := by
  have guess : ((n * 2 ^ k).log2 : Int) - (2 ^ k).log2 = n.log2 := by
    rw [log2_mul_two_pow positive, Nat.log2_two_pow]
    omega
  have small : 2 ^ k * 2 ^ n.log2 ≤ n * 2 ^ k := by
    rw [Nat.mul_comm]
    exact Nat.mul_le_mul_right _ (Nat.log2_self_le (Nat.ne_of_gt positive))
  have noShift : (-(n.log2 : Int)).toNat = 0 := by omega
  simp only [leadingExponent, guess, unscale, noShift, Nat.shiftLeft_eq, Int.toNat_natCast, Nat.pow_zero,
    Nat.mul_one, if_pos small]

/-- A whole number of at most 53 bits is exact. -/
theorem isWhole_round_of_fits (positive : 0 < n) (fits : n.log2 ≤ 52) (k : Nat) :
    (round false (n * 2 ^ k) (2 ^ k)).IsWhole n := by
  have some : n * 2 ^ k ≠ 0 := Nat.mul_ne_zero (Nat.ne_of_gt positive) (Nat.two_pow_pos k).ne'
  obtain ⟨room, isRoom⟩ : ∃ room, n.log2 + 1 + room = 53 := ⟨52 - n.log2, by omega⟩
  have exponent : max leastExponent ((n.log2 : Int) - 52) = -room := by
    rw [leastExponent]
    omega
  -- the number is shifted up to fill the mantissa
  have mantissa : nearest (n * 2 ^ k * 2 ^ room) (2 ^ k) = n * 2 ^ room := by
    rw [Nat.mul_right_comm, nearest_of_dvd (Nat.two_pow_pos k) (Nat.dvd_mul_left _ _),
      Nat.mul_div_cancel _ (Nat.two_pow_pos k)]
  have below : n * 2 ^ room < 2 ^ 53 := by
    rw [← isRoom, Nat.pow_add]
    exact Nat.mul_lt_mul_of_pos_right Nat.lt_log2_self (Nat.two_pow_pos room)
  have finite : ¬ greatestExponent < -(room : Int) := by
    rw [greatestExponent]
    omega
  simp only [round, if_neg some, leadingExponent_whole positive, exponent, unscale, Nat.shiftLeft_eq,
    Int.neg_neg, Int.toNat_natCast, Int.toNat_neg_natCast, Nat.pow_zero, Nat.mul_one, Nat.one_mul,
    mantissa, if_neg (Nat.ne_of_lt below), if_neg finite]
  refine ⟨_, _, rfl, ?_⟩
  rw [Int.neg_neg, Int.toNat_natCast, Int.toNat_neg_natCast, Nat.pow_zero, Nat.mul_one]

/-- Rounding keeps a longer whole number if its bits beyond the first 53 are zero, and keeps its
leading bit in any case. -/
theorem exists_isWhole_round_of_long (long : 52 ≤ n.log2) (below : n.log2 < 1023) (k : Nat) :
    ∃ exact, (round false (n * 2 ^ k) (2 ^ k)).IsWhole exact ∧ 2 ^ n.log2 ≤ exact ∧
      (2 ^ (n.log2 - 52) ∣ n → exact = n) := by
  have positive : 0 < n := by
    refine Nat.pos_of_ne_zero fun none => ?_
    rw [none] at long
    cases long
  have some : n * 2 ^ k ≠ 0 := Nat.mul_ne_zero (Nat.ne_of_gt positive) (Nat.two_pow_pos k).ne'
  obtain ⟨lost, isLost⟩ : ∃ lost, n.log2 = 52 + lost := ⟨n.log2 - 52, by omega⟩
  have exponent : max leastExponent ((n.log2 : Int) - 52) = lost := by
    rw [leastExponent]
    omega
  have denominator : 0 < 2 ^ k * 2 ^ lost := Nat.mul_pos (Nat.two_pow_pos k) (Nat.two_pow_pos lost)
  have quotient : n * 2 ^ k / (2 ^ k * 2 ^ lost) = n / 2 ^ lost := by
    rw [Nat.mul_comm n, Nat.mul_div_mul_left _ _ (Nat.two_pow_pos k)]
  have large : 2 ^ 52 ≤ n / 2 ^ lost := by
    rw [Nat.le_div_iff_mul_le (Nat.two_pow_pos lost), ← Nat.pow_add, ← isLost]
    exact Nat.log2_self_le (Nat.ne_of_gt positive)
  have small : n / 2 ^ lost < 2 ^ 53 := by
    rw [Nat.div_lt_iff_lt_mul (Nat.two_pow_pos lost), ← Nat.pow_add,
      show 53 + lost = n.log2 + 1 by omega]
    exact Nat.lt_log2_self
  have near := nearest_cases (n * 2 ^ k) (2 ^ k * 2 ^ lost)
  have kept (divides : 2 ^ lost ∣ n) : nearest (n * 2 ^ k) (2 ^ k * 2 ^ lost) = n / 2 ^ lost := by
    rw [nearest_of_dvd denominator, quotient]
    rw [Nat.mul_comm n]
    exact Nat.mul_dvd_mul_left _ divides
  rw [quotient] at near
  simp only [round, if_neg some, leadingExponent_whole positive, exponent, unscale, Nat.shiftLeft_eq,
    Int.toNat_natCast, Int.toNat_neg_natCast, Nat.pow_zero, Nat.mul_one, Nat.one_mul]
  rw [show n.log2 - 52 = lost by omega, isLost]
  generalize nearest (n * 2 ^ k) (2 ^ k * 2 ^ lost) = mantissa at near kept
  by_cases full : mantissa = 2 ^ 53
  · -- rounding up made the number longer by a bit
    have finite : ¬ greatestExponent < (lost : Int) + 1 := by
      rw [greatestExponent]
      omega
    have noShift : (-((lost : Int) + 1)).toNat = 0 := by omega
    have shift : ((lost : Int) + 1).toNat = lost + 1 := by omega
    rw [if_pos full, if_neg finite]
    refine ⟨2 ^ (52 + (lost + 1)), ⟨_, _, rfl, ?_⟩, ?_, fun divides => ?_⟩
    · rw [noShift, shift, Nat.pow_zero, Nat.mul_one, ← Nat.pow_add]
    · exact Nat.pow_le_pow_right (by decide) (by omega)
    · exact absurd ((kept divides).symm.trans full) (Nat.ne_of_lt small)
  · have finite : ¬ greatestExponent < (lost : Int) := by
      rw [greatestExponent]
      omega
    rw [if_neg full, if_neg finite]
    refine ⟨mantissa * 2 ^ lost, ⟨_, _, rfl, ?_⟩, ?_, fun divides => ?_⟩
    · rw [Int.toNat_natCast, Int.toNat_neg_natCast, Nat.pow_zero, Nat.mul_one]
    · rw [Nat.pow_add]
      exact Nat.mul_le_mul_right _ (by omega)
    · rw [kept divides, Nat.div_mul_cancel divides]

/-- Both sides are the same number, whose exponent is shifted. -/
theorem mul_two_pow_shift {p q p' q' : Nat} (same : m * 2 ^ p = n * 2 ^ q)
    (shifted : p + q' = p' + q) : m * 2 ^ p' = n * 2 ^ q' := by
  refine Nat.eq_of_mul_eq_mul_right (Nat.two_pow_pos q) ?_
  calc m * 2 ^ p' * 2 ^ q
      = m * 2 ^ (p + q') := by rw [Nat.mul_assoc, ← Nat.pow_add, shifted]
    _ = n * 2 ^ q * 2 ^ q' := by rw [Nat.pow_add, ← Nat.mul_assoc, same]
    _ = n * 2 ^ q' * 2 ^ q := Nat.mul_right_comm _ _ _

/-- The number is whole and right if it is below 2^53; otherwise it is 2^53 or more, as is right. -/
def IsNear (number : Binary64) (whole : Nat) : Prop :=
  ∃ exact, number.IsWhole exact ∧ min exact (2 ^ 53) = min whole (2 ^ 53)

theorem IsNear.isWhole (near : a.IsNear n) (below : n < 2 ^ 53) : a.IsWhole n := by
  obtain ⟨exact, isExact, same⟩ := near
  obtain rfl : exact = n := by omega
  exact isExact

theorem log2_lt_of_lt (some : 0 < k) (below : n < 2 ^ k) : n.log2 < k := by
  rcases Nat.eq_zero_or_pos n with rfl | positive
  · exact some
  · exact (Nat.log2_lt (Nat.ne_of_gt positive)).mpr below

theorem isNear_roundScaled {mantissa : Nat} {exponent : Int}
    (same : mantissa * 2 ^ exponent.toNat = n * 2 ^ (-exponent).toNat) (below : n.log2 < 1023) :
    (roundScaled false mantissa exponent).IsNear n := by
  rw [roundScaled, Nat.shiftLeft_eq, Nat.shiftLeft_eq, Nat.one_mul, same]
  rcases Nat.eq_zero_or_pos n with rfl | positive
  · refine ⟨0, ?_, rfl⟩
    rw [Nat.zero_mul]
    exact isWhole_zero
  · have whole : n ≠ 0 := Nat.ne_of_gt positive
    rcases Nat.le_total n.log2 52 with fits | long
    · exact ⟨n, isWhole_round_of_fits positive fits _, rfl⟩
    · obtain ⟨exact, isExact, leads, divides⟩ :=
        exists_isWhole_round_of_long long below (-exponent).toNat
      refine ⟨exact, isExact, ?_⟩
      rcases Nat.eq_or_lt_of_le long with just | longer
      · rw [divides (just ▸ Nat.one_dvd n)]
      · have leading : 2 ^ 53 ≤ 2 ^ n.log2 := Nat.pow_le_pow_right (by decide) longer
        have large : 2 ^ n.log2 ≤ n := Nat.log2_self_le whole
        rw [Nat.min_eq_right (leading.trans leads), Nat.min_eq_right (leading.trans large)]

theorem isWhole_ofNat (below : n < 2 ^ 53) : (ofNat n).IsWhole n := by
  have near : (roundScaled false n 0).IsNear n :=
    isNear_roundScaled rfl ((log2_lt_of_lt (by decide) below).trans (by decide))
  exact near.isWhole below

/-- Powers of two are exact as well. -/
theorem isWhole_ofNat_two_pow (below : k < 1023) : (ofNat (2 ^ k)).IsWhole (2 ^ k) := by
  rcases Nat.lt_or_ge k 53 with small | large
  · exact isWhole_ofNat (Nat.pow_lt_pow_right (by decide) small)
  · have log : (2 ^ k).log2 = k := Nat.log2_two_pow
    obtain ⟨exact, isExact, _, divides⟩ :=
      exists_isWhole_round_of_long (n := 2 ^ k) (by omega) (by omega) 0
    rw [divides (Nat.pow_dvd_pow 2 (by omega)), Nat.pow_zero, Nat.mul_one] at isExact
    exact isExact

/-- Products of whole numbers are exact below 2^53. -/
theorem isNear_mul (first : a.IsWhole m) (second : b.IsWhole n) (below : (m * n).log2 < 1023) :
    (a * b).IsNear (m * n) := by
  obtain ⟨m₁, e₁, rfl, same₁⟩ := first
  obtain ⟨m₂, e₂, rfl, same₂⟩ := second
  refine isNear_roundScaled (mul_two_pow_shift (p := e₁.toNat + e₂.toNat)
    (q := (-e₁).toNat + (-e₂).toNat) ?_ (by omega)) below
  calc m₁ * m₂ * 2 ^ (e₁.toNat + e₂.toNat)
      = m₁ * 2 ^ e₁.toNat * (m₂ * 2 ^ e₂.toNat) := by rw [Nat.pow_add, Nat.mul_mul_mul_comm]
    _ = m * n * 2 ^ ((-e₁).toNat + (-e₂).toNat) := by
      rw [same₁, same₂, Nat.pow_add, Nat.mul_mul_mul_comm]

theorem isWhole_add_zero (whole : a.IsWhole n) (below : n < 2 ^ 53) : (a + zero).IsWhole n := by
  obtain ⟨mantissa, exponent, rfl, same⟩ := whole
  have aligned : mantissa * 2 ^ (exponent - min exponent leastExponent).toNat *
      2 ^ (min exponent leastExponent).toNat = n * 2 ^ (-min exponent leastExponent).toNat := by
    rw [Nat.mul_assoc, ← Nat.pow_add]
    exact mul_two_pow_shift same (by omega)
  change (add (.finite false mantissa exponent) (.finite false 0 leastExponent)).IsWhole n
  simp only [add, Binary64.aligned, signed, Nat.shiftLeft_eq, Nat.zero_mul, Bool.false_eq_true,
    if_false, Int.natCast_zero, Int.add_zero, Bool.and_false]
  generalize min exponent leastExponent = unit at aligned
  generalize mantissa * 2 ^ (exponent - unit).toNat = raised at aligned
  split
  · next none =>
      obtain rfl : raised = 0 := by omega
      have nothing : n = 0 := by
        rw [Nat.zero_mul] at aligned
        exact (Nat.mul_eq_zero.mp aligned.symm).resolve_right (Nat.two_pow_pos _).ne'
      rw [nothing]
      exact isWhole_zero
  · have sign : decide ((raised : Int) < 0) = false := by
      rw [decide_eq_false_iff_not]
      omega
    rw [sign, Int.natAbs_natCast]
    have limit : n.log2 < 1023 := (log2_lt_of_lt (by decide) below).trans (by decide)
    exact (isNear_roundScaled aligned limit).isWhole below

/-- Whole numbers are compared as such. -/
theorem lt_of_isWhole (first : a.IsWhole m) (second : b.IsWhole n) : a.lt b = decide (m < n) := by
  obtain ⟨m₁, e₁, rfl, same₁⟩ := first
  obtain ⟨m₂, e₂, rfl, same₂⟩ := second
  simp only [lt, aligned, signed, Nat.shiftLeft_eq, Bool.false_eq_true, if_false, Int.ofNat_lt]
  generalize isUnit : min e₁ e₂ = unit
  have raised₁ : m₁ * 2 ^ (e₁ - unit).toNat * 2 ^ unit.toNat = m * 2 ^ (-unit).toNat := by
    rw [Nat.mul_assoc, ← Nat.pow_add]
    exact mul_two_pow_shift same₁ (by omega)
  have raised₂ : m₂ * 2 ^ (e₂ - unit).toNat * 2 ^ unit.toNat = n * 2 ^ (-unit).toNat := by
    rw [Nat.mul_assoc, ← Nat.pow_add]
    exact mul_two_pow_shift same₂ (by omega)
  rw [decide_eq_decide, ← Nat.mul_lt_mul_right (Nat.two_pow_pos unit.toNat), raised₁, raised₂,
    Nat.mul_lt_mul_right (Nat.two_pow_pos _)]

theorem IsWhole.isNaN (whole : a.IsWhole n) : a.isNaN = false := by
  obtain ⟨_, _, rfl, _⟩ := whole
  rfl

/-- A cap below 2^53 hides whatever was rounded. -/
theorem isWhole_minimum (near : a.IsNear m) (whole : b.IsWhole n) (below : n < 2 ^ 53) :
    (a.minimum b).IsWhole (min m n) := by
  obtain ⟨exact, isExact, same⟩ := near
  rw [minimum, isExact.isNaN, whole.isNaN, if_neg Bool.false_ne_true, if_neg Bool.false_ne_true,
    lt_of_isWhole whole isExact]
  by_cases less : n < exact
  · rw [if_pos (decide_eq_true less), show min m n = n by omega]
    exact whole
  · rw [if_neg (by simpa using less), show min m n = exact by omega]
    exact isExact

theorem isWhole_maximum (first : a.IsWhole m) (second : b.IsWhole n) :
    (a.maximum b).IsWhole (max m n) := by
  rw [maximum, first.isNaN, second.isNaN, if_neg Bool.false_ne_true, if_neg Bool.false_ne_true,
    lt_of_isWhole first second]
  by_cases less : m < n
  · rw [if_pos (decide_eq_true less), show max m n = n by omega]
    exact second
  · rw [if_neg (by simpa using less), show max m n = m by omega]
    exact first

theorem clamp_of_isWhole (whole : a.IsWhole m) (cap : b.IsWhole n) (within : m ≤ n) :
    a.clamp zero b = a := by
  rw [clamp, lt_of_isWhole whole isWhole_zero, lt_of_isWhole cap whole,
    if_neg (by simp), if_neg (by simpa using within)]

theorem truncate_of_isWhole (whole : a.IsWhole n) (limit : Nat) : a.truncate limit = min limit n := by
  obtain ⟨mantissa, exponent, rfl, same⟩ := whole
  rw [truncate, if_neg Bool.false_ne_true, Nat.shiftLeft_eq, same, Nat.shiftRight_eq_div_pow,
    Nat.mul_div_cancel _ (Nat.two_pow_pos _)]

end CacheFill.Binary64
