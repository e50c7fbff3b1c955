import CacheFill.Binary64.Decimal
import CacheFill.Json.Basic

/-!
Numbers in JSON text. Reading keeps as many leading digits as fit in 64 bits and scales them by a
power of ten; writing a double gives the fewest digits that read back.
-/

set_option autoImplicit false

namespace CacheFill.Json.Number

/-- The parts of a number as written; `fraction` and `exponent` are absent, not empty or zero, if
the text has no point or no exponent. -/
structure Written where
  negative : Bool
  whole : List Nat
  fraction : Option (List Nat)
  exponent : Option Int

/-- Leading digits accumulated into a number below 2^64, and the power of ten it stands for. -/
structure Accumulated where
  significand : Nat
  exponent : Int
  full : Bool

def Accumulated.append? (acc : Accumulated) (digit : Nat) : Option Nat :=
  let next := acc.significand * 10 + digit
  if next < UInt64.size then some next else none

/-- A digit before the point: once the significand is full, each further digit only counts as a
power of ten. -/
def Accumulated.whole (acc : Accumulated) (digit : Nat) : Accumulated :=
  match acc.full, acc.append? digit with
  | false, some next => { acc with significand := next }
  | _, _ => { acc with exponent := acc.exponent + 1, full := true }

/-- A digit after the point: once the significand is full, further digits are dropped. -/
def Accumulated.fraction (acc : Accumulated) (digit : Nat) : Accumulated :=
  match acc.full, acc.append? digit with
  | false, some next => { acc with significand := next, exponent := acc.exponent - 1 }
  | _, _ => { acc with full := true }

def powerOfTen (n : Nat) : Binary64 := Binary64.ofNat (Nat.pow 10 n)

/-- Scales a double by a power of ten, in factors of at most 10^308; none if the result is too
large. -/
def scale? : (steps : Nat) → Binary64 → Int → Option Binary64
  | 0, value, _ => some value
  | steps + 1, value, exponent =>
      if exponent.natAbs ≤ 308 then
        if 0 ≤ exponent then
          match value * powerOfTen exponent.natAbs with
          | .infinite _ => none
          | scaled => some scaled
        else some (value / powerOfTen exponent.natAbs)
      else
        match value with
        | .finite _ 0 _ => some value
        | _ => if 0 ≤ exponent then none
          else scale? steps (value / powerOfTen 308) (exponent + 308)

/-- The double for accumulated digits. A double reaches zero after three divisions by 10^308, so
four steps suffice. -/
def real? (negative : Bool) (significand : Nat) (exponent : Int) : Option Number :=
  (scale? 5 (Binary64.ofNat significand) exponent).map fun value =>
    .real (if negative then -value else value)

/-- An integer that fits is kept exactly; a negative zero is a double. -/
def integer? (negative : Bool) (n : Nat) : Option Number :=
  if negative then
    if n = 0 then some (.real (-(Binary64.ofNat 0)))
    else if n ≤ 1 <<< 63 then some (.integer (-(n : Int)))
    else none
  else if n < UInt64.size then some (.integer n) else none

/-- The number that a written form stands for; none if it is beyond the range of doubles. -/
def ofWritten? (written : Written) : Option Number :=
  let exact := integer? written.negative (Digits.value 10 written.whole)
  match written.fraction, written.exponent, exact with
  | none, none, some fits => some fits
  | _, _, _ =>
      let whole := written.whole.foldl Accumulated.whole ⟨0, 0, false⟩
      let all := (written.fraction.getD []).foldl Accumulated.fraction { whole with full := false }
      real? written.negative all.significand (all.exponent + written.exponent.getD 0)

def digitText (n : Nat) : List Char := Nat.toDigits 10 n

def zeros (n : Nat) : List Char := List.replicate n '0'

/-- A positive decimal number: positional with at most sixteen digits before the point and at most
five zeros after it, otherwise with one digit before the point and an exponent. -/
def decimalText (digits : Nat) (exponent : Int) : List Char :=
  let text := digitText digits
  let position : Int := text.length + exponent
  if 0 ≤ exponent ∧ position ≤ 16 then text ++ zeros exponent.toNat ++ ['.', '0']
  else if 0 < position ∧ position ≤ 16 then
    text.take position.toNat ++ '.' :: text.drop position.toNat
  else if -5 < position ∧ position ≤ 0 then
    ['0', '.'] ++ zeros (-position).toNat ++ text
  else
    let power : Int := position - 1
    let tail := 'e' :: (if power < 0 then ['-'] else []) ++ digitText power.natAbs
    match text with
    | [] => []
    | [digit] => digit :: tail
    | digit :: more => digit :: '.' :: more ++ tail

/-- The text of a number. JSON has no form for infinities and for what is not a number. -/
def render : Number → List Char
  | .integer value => (if value < 0 then ['-'] else []) ++ digitText value.natAbs
  | .real (.finite negative mantissa exponent) =>
      (if negative then ['-'] else []) ++
        if mantissa = 0 then ['0', '.', '0']
        else
          let (digits, unit) := Binary64.shortest mantissa exponent
          decimalText digits unit
  | .real _ => "null".toList

end CacheFill.Json.Number
