/-!
Digits in a positional system: the value of a run of digits, and the digits of a value at a fixed
width. Every numeric text of the library is read and written through these.
-/

set_option autoImplicit false

namespace CacheFill.Digits

/-- The number that the digits stand for, most significant digit first. -/
def value (base : Nat) (digits : List Nat) : Nat :=
  digits.foldl (fun number digit => number * base + digit) 0

/-- The lowest `width` digits of a number, most significant digit first. -/
def fixed (base : Nat) : (width : Nat) → (number : Nat) → List Nat
  | 0, _ => []
  | width + 1, number => fixed base width (number / base) ++ [number % base]

theorem length_fixed (base width number : Nat) : (fixed base width number).length = width := by
  induction width generalizing number with
  | zero => rfl
  | succ width ih => simp [fixed, ih]

/-- The text of a number at a fixed width, padded with zeros; letters are lower case. -/
def render (base width number : Nat) : List Char :=
  (fixed base width number).map Nat.digitChar

/-- The value of a decimal digit. -/
def decimal? (c : Char) : Option Nat :=
  if 48 ≤ c.toNat ∧ c.toNat ≤ 57 then some (c.toNat - 48) else none

/-- The value of a hexadecimal digit of either case. -/
def hexadecimal? (c : Char) : Option Nat :=
  if 48 ≤ c.toNat ∧ c.toNat ≤ 57 then some (c.toNat - 48)
  else if 97 ≤ c.toNat ∧ c.toNat ≤ 102 then some (c.toNat - 87)
  else if 65 ≤ c.toNat ∧ c.toNat ≤ 70 then some (c.toNat - 55)
  else none

/-- The decimal digits at the head of a text, and what follows them. -/
def span : List Char → List Nat × List Char
  | [] => ([], [])
  | c :: rest =>
      match decimal? c with
      | some digit => (digit :: (span rest).1, (span rest).2)
      | none => ([], c :: rest)

/-- The number that a text of decimal digits stands for; the text has at least one digit. -/
def number? (text : List Char) : Option Nat :=
  match span text with
  | ([], _) => none
  | (digits, []) => some (value 10 digits)
  | (_, _) => none

/-- The number below a limit that a text of decimal digits, possibly after a plus sign, stands
for. -/
def below? (limit : Nat) (text : List Char) : Option Nat :=
  let digits := match text with
    | '+' :: rest => rest
    | _ => text
  (number? digits).bind fun n => if n < limit then some n else none

end CacheFill.Digits
