/-!
IEEE 754 double precision numbers as exact values: a finite number is an integer times a power of
two, and every operation computes exactly and rounds once, to nearest with ties to even.
-/

set_option autoImplicit false

namespace CacheFill

/-- A finite number stands for `mantissa * 2 ^ exponent`, negated if `negative`. Results of `round`
are canonical: the mantissa has 53 bits unless the exponent is the least one. -/
inductive Binary64 where
  | nan
  | infinite (negative : Bool)
  | finite (negative : Bool) (mantissa : Nat) (exponent : Int)
  deriving DecidableEq, Repr, Inhabited

namespace Binary64

def leastExponent : Int := -1074

def greatestExponent : Int := 971

def zero : Binary64 := .finite false 0 leastExponent

/-- The integer nearest to a quotient; a tie goes to the even neighbour. -/
def nearest (num den : Nat) : Nat :=
  if den < 2 * (num % den) ∨ (den = 2 * (num % den) ∧ num / den % 2 = 1) then num / den + 1
  else num / den

/-- The fraction `num / den` divided by `2 ^ exponent`, as numerator and denominator. -/
def unscale (num den : Nat) (exponent : Int) : Nat × Nat :=
  (num <<< (-exponent).toNat, den <<< exponent.toNat)

/-- The exponent of the greatest power of two not above a positive fraction. The difference of the
two logarithms is that exponent or one more. -/
def leadingExponent (num den : Nat) : Int :=
  let guess : Int := (Nat.log2 num : Int) - Nat.log2 den
  let scaled := unscale num den guess
  if scaled.2 ≤ scaled.1 then guess else guess - 1

/-- The number nearest to a fraction with positive denominator; fractions beyond the greatest finite
number become infinite. -/
def round (negative : Bool) (num den : Nat) : Binary64 :=
  if num = 0 then .finite negative 0 leastExponent
  else
    let exponent := max leastExponent (leadingExponent num den - 52)
    let scaled := unscale num den exponent
    let mantissa := nearest scaled.1 scaled.2
    if mantissa = 1 <<< 53 then
      if greatestExponent < exponent + 1 then .infinite negative
      else .finite negative (1 <<< 52) (exponent + 1)
    else if greatestExponent < exponent then .infinite negative
    else .finite negative mantissa exponent

/-- The number nearest to `mantissa * 2 ^ exponent`. -/
def roundScaled (negative : Bool) (mantissa : Nat) (exponent : Int) : Binary64 :=
  round negative (mantissa <<< exponent.toNat) (1 <<< (-exponent).toNat)

def ofNat (n : Nat) : Binary64 := round false n 1

def ofInt (n : Int) : Binary64 := round (n < 0) n.natAbs 1

def isNaN : Binary64 → Bool
  | .nan => true
  | _ => false

def neg : Binary64 → Binary64
  | .nan => .nan
  | .infinite negative => .infinite !negative
  | .finite negative mantissa exponent => .finite (!negative) mantissa exponent

def signed (negative : Bool) (magnitude : Nat) : Int :=
  if negative then -(magnitude : Int) else magnitude

/-- Two finite numbers as integers in one unit, the smaller of their units. -/
def aligned (negative₁ : Bool) (mantissa₁ : Nat) (exponent₁ : Int)
    (negative₂ : Bool) (mantissa₂ : Nat) (exponent₂ : Int) : Int × Int :=
  let unit := min exponent₁ exponent₂
  (signed negative₁ (mantissa₁ <<< (exponent₁ - unit).toNat),
    signed negative₂ (mantissa₂ <<< (exponent₂ - unit).toNat))

/-- A sum that is exactly zero is positive unless both operands are negative. -/
def add : Binary64 → Binary64 → Binary64
  | .nan, _ => .nan
  | _, .nan => .nan
  | .infinite a, .infinite b => if a = b then .infinite a else .nan
  | .infinite a, .finite .. => .infinite a
  | .finite .., .infinite b => .infinite b
  | .finite s₁ m₁ e₁, .finite s₂ m₂ e₂ =>
      let (a, b) := aligned s₁ m₁ e₁ s₂ m₂ e₂
      if a + b = 0 then .finite (s₁ && s₂) 0 leastExponent
      else roundScaled (a + b < 0) (a + b).natAbs (min e₁ e₂)

def sub (a b : Binary64) : Binary64 := add a b.neg

def mul : Binary64 → Binary64 → Binary64
  | .nan, _ => .nan
  | _, .nan => .nan
  | .infinite a, .infinite b => .infinite (a != b)
  | .infinite a, .finite b m _ => if m = 0 then .nan else .infinite (a != b)
  | .finite a m _, .infinite b => if m = 0 then .nan else .infinite (a != b)
  | .finite s₁ m₁ e₁, .finite s₂ m₂ e₂ => roundScaled (s₁ != s₂) (m₁ * m₂) (e₁ + e₂)

def div : Binary64 → Binary64 → Binary64
  | .nan, _ => .nan
  | _, .nan => .nan
  | .infinite _, .infinite _ => .nan
  | .infinite a, .finite b _ _ => .infinite (a != b)
  | .finite a _ _, .infinite b => .finite (a != b) 0 leastExponent
  | .finite s₁ m₁ e₁, .finite s₂ m₂ e₂ =>
      if m₂ = 0 then
        if m₁ = 0 then .nan else .infinite (s₁ != s₂)
      else
        let unit := e₁ - e₂
        round (s₁ != s₂) (m₁ <<< unit.toNat) (m₂ <<< (-unit).toNat)

instance : Neg Binary64 := ⟨neg⟩
instance : Add Binary64 := ⟨add⟩
instance : Sub Binary64 := ⟨sub⟩
instance : Mul Binary64 := ⟨mul⟩
instance : Div Binary64 := ⟨div⟩

/-- Strictly less; false if either number is not a number. -/
def lt : Binary64 → Binary64 → Bool
  | .nan, _ => false
  | _, .nan => false
  | .infinite a, .infinite b => a && !b
  | .infinite a, .finite .. => a
  | .finite .., .infinite b => !b
  | .finite s₁ m₁ e₁, .finite s₂ m₂ e₂ =>
      let (a, b) := aligned s₁ m₁ e₁ s₂ m₂ e₂
      a < b

/-- The smaller of two numbers; the other one if one is not a number. -/
def minimum (a b : Binary64) : Binary64 :=
  if a.isNaN then b else if b.isNaN then a else if b.lt a then b else a

/-- The larger of two numbers; the other one if one is not a number. -/
def maximum (a b : Binary64) : Binary64 :=
  if a.isNaN then b else if b.isNaN then a else if a.lt b then b else a

/-- The number moved into a closed interval; what is not a number stays as it is. -/
def clamp (a low high : Binary64) : Binary64 :=
  if a.lt low then low else if high.lt a then high else a

/-- The integer part of a number, moved into the range from 0 to `limit`; 0 for what is not a
number. -/
def truncate (limit : Nat) : Binary64 → Nat
  | .nan => 0
  | .infinite negative => if negative then 0 else limit
  | .finite negative mantissa exponent =>
      if negative then 0
      else min limit ((mantissa <<< exponent.toNat) >>> (-exponent).toNat)

/-- The interchange encoding: sign, biased exponent, fraction. -/
def toBits : Binary64 → Nat
  | .nan => 0x7ff8000000000000
  | .infinite negative => (if negative then 1 <<< 63 else 0) + 0x7ff0000000000000
  | .finite negative mantissa exponent =>
      (if negative then 1 <<< 63 else 0) +
        (if mantissa < 1 <<< 52 then mantissa
        else ((exponent + 1075).toNat <<< 52) + (mantissa - (1 <<< 52)))

end Binary64

end CacheFill
