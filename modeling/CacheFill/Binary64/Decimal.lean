import CacheFill.Binary64.Basic
import CacheFill.Text.Digits

/-!
Doubles and decimal text: the double nearest to a decimal number, and the shortest decimal number
that a double is nearest to.
-/

set_option autoImplicit false

namespace CacheFill.Binary64

def decimalLength (n : Nat) : Nat := (Nat.toDigits 10 n).length

/-- The double nearest to `digits * 10 ^ exponent`. Numbers far outside the range of doubles are
settled by their length, so no large power is computed for them. -/
def ofDecimal (negative : Bool) (digits : Nat) (exponent : Int) : Binary64 :=
  if digits = 0 then .finite negative 0 leastExponent
  else if 310 < exponent + decimalLength digits then .infinite negative
  else if exponent + decimalLength digits < -330 then .finite negative 0 leastExponent
  else round negative (digits * Nat.pow 10 exponent.toNat) (Nat.pow 10 (-exponent).toNat)

/-- The exponent part of a decimal text: a sign and digits after the letter. -/
def exponent? : List Char → Option Int
  | [] => some 0
  | mark :: rest =>
      if mark = 'e' ∨ mark = 'E' then
        match rest with
        | '-' :: digits => (Digits.number? digits).map fun n => -(n : Int)
        | '+' :: digits => (Digits.number? digits).map Int.ofNat
        | digits => (Digits.number? digits).map Int.ofNat
      else none

/-- A decimal text without its sign: digits with at most one point and at least one digit, then an
exponent part. -/
def unsigned? (negative : Bool) (text : List Char) : Option Binary64 :=
  let (whole, rest) := Digits.span text
  let (fraction, rest) :=
    match rest with
    | '.' :: after => Digits.span after
    | other => ([], other)
  if whole.isEmpty && fraction.isEmpty then none
  else
    (exponent? rest).map fun exponent =>
      ofDecimal negative (Digits.value 10 (whole ++ fraction)) (exponent - fraction.length)

/-- Reads a number in decimal notation, or one of the words for the infinities and for what is not
a number, in any letter case. -/
def parse? (text : List Char) : Option Binary64 :=
  let (negative, body) :=
    match text with
    | '-' :: rest => (true, rest)
    | '+' :: rest => (false, rest)
    | _ => (false, text)
  let word := body.map Char.toLower
  if word = "inf".toList ∨ word = "infinity".toList then some (.infinite negative)
  else if word = "nan".toList then some .nan
  else unsigned? negative body

/-- The number of digits before the point of a positive finite number; negative if zeros follow the
point. -/
def pointPosition (mantissa : Nat) (exponent : Int) : Int :=
  let estimate := ((Nat.log2 mantissa : Int) + exponent) * 30103 / 100000
  let below (position : Int) : Bool :=
    (mantissa <<< exponent.toNat) * Nat.pow 10 (-position).toNat <
      Nat.pow 10 position.toNat <<< (-exponent).toNat
  ([estimate - 1, estimate, estimate + 1].find? below).getD (estimate + 2)

/-- The neighbours of a positive finite number on the decimal grid `10 ^ unit`, the nearer one
first. -/
def gridNeighbours (mantissa : Nat) (exponent unit : Int) : List Nat :=
  let num := (mantissa <<< exponent.toNat) * Nat.pow 10 (-unit).toNat
  let den := Nat.pow 10 unit.toNat <<< (-exponent).toNat
  let below := num / den
  if nearest num den = below then [below, below + 1] else [below + 1, below]

/-- The decimal number with fewest digits that reads back as the given positive finite number, as
digits and power of ten; of several such numbers the nearest. Seventeen digits always suffice. -/
def shortest (mantissa : Nat) (exponent : Int) : Nat × Int :=
  let position := pointPosition mantissa exponent
  let attempt (length : Nat) : Option (Nat × Int) :=
    let unit := position - length
    ((gridNeighbours mantissa exponent unit).find? fun digits =>
        ofDecimal false digits unit = .finite false mantissa exponent).map
      fun digits => (digits, unit)
  (((List.range 17).map (· + 1)).findSome? attempt).getD (0, 0)

end CacheFill.Binary64
