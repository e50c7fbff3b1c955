import CacheFill.Json.Number

/-!
Reading JSON text. Main entry: `Json.parse?`, which refuses a text that does not follow the grammar
or goes on after its value with anything but blanks. What follows the grammar but cannot be
represented is unreadable.
-/

set_option autoImplicit false

namespace CacheFill.Json.Parser

/-- A reader takes a value off the front of a text and leaves the rest. -/
abbrev Reader (α : Type) := List Char → Option (α × List Char)

def isBlank (c : Char) : Bool :=
  c = ' ' || c = '\n' || c = '\t' || c = '\r'

def skip (text : List Char) : List Char := text.dropWhile isBlank

/-- Takes a fixed text off the front. -/
def take? : List Char → List Char → Option (List Char)
  | [], text => some text
  | _ :: _, [] => none
  | c :: word, d :: text => if c = d then take? word text else none

def hex4? (a b c d : Char) : Option Nat := do
  let a ← Digits.hexadecimal? a
  let b ← Digits.hexadecimal? b
  let c ← Digits.hexadecimal? c
  let d ← Digits.hexadecimal? d
  return Digits.value 16 [a, b, c, d]

/-- The character that a backslash and a letter stand for. -/
def unescape? (c : Char) : Option Char :=
  if c = '\"' ∨ c = '\\' ∨ c = '/' then some c
  else if c = 'b' then some '\x08'
  else if c = 'f' then some '\x0c'
  else if c = 'n' then some '\n'
  else if c = 'r' then some '\r'
  else if c = 't' then some '\t'
  else none

def isHighSurrogate (unit : Nat) : Bool := 0xd800 ≤ unit && unit < 0xdc00

def isLowSurrogate (unit : Nat) : Bool := 0xdc00 ≤ unit && unit < 0xe000

/-- Reads the code units of a string after its opening quote, up to and with the closing one.
Control characters are written as escapes only. -/
def units : Reader (List Nat)
  | [] => none
  | '\"' :: rest => some ([], rest)
  | '\\' :: 'u' :: a :: b :: c :: d :: rest =>
      match hex4? a b c d, units rest with
      | some unit, some (tail, rest) => some (unit :: tail, rest)
      | _, _ => none
  | '\\' :: c :: rest =>
      match unescape? c, units rest with
      | some c, some (tail, rest) => some (c.toNat :: tail, rest)
      | _, _ => none
  | c :: rest =>
      if c = '\\' ∨ c.toNat < 0x20 then none
      else (units rest).map fun (tail, rest) => (c.toNat :: tail, rest)

/-- The characters that code units stand for. Surrogates have to come in pairs. -/
def charactersOf? : List Nat → Option (List Char)
  | [] => some []
  | unit :: rest =>
      if isHighSurrogate unit then
        match rest with
        | low :: rest =>
            if isLowSurrogate low then
              (charactersOf? rest).map
                (Char.ofNat (0x10000 + (unit - 0xd800) * 0x400 + (low - 0xdc00)) :: ·)
            else none
        | [] => none
      else if isLowSurrogate unit then none
      else (charactersOf? rest).map (Char.ofNat unit :: ·)

/-- A string; none if its text is not well-formed. -/
def string : Reader (Option String)
  | '\"' :: rest =>
      (units rest).map fun (units, rest) => ((charactersOf? units).map String.ofList, rest)
  | _ => none

/-- At least one digit. -/
def digits : Reader (List Nat) := fun text =>
  match Digits.span text with
  | ([], _) => none
  | (digits, rest) => some (digits, rest)

/-- The digits before the point: no zero in front of another digit. -/
def whole : Reader (List Nat)
  | '0' :: rest => some ([0], rest)
  | text => digits text

def fraction : Reader (Option (List Nat))
  | '.' :: rest => (digits rest).map fun (digits, rest) => (some digits, rest)
  | text => some (none, text)

def exponent : Reader (Option Int)
  | [] => some (none, [])
  | c :: rest =>
      if c = 'e' ∨ c = 'E' then
        match rest with
        | '-' :: rest =>
            (digits rest).map fun (digits, rest) => (some (-(Digits.value 10 digits : Int)), rest)
        | '+' :: rest =>
            (digits rest).map fun (digits, rest) => (some (Digits.value 10 digits : Int), rest)
        | rest =>
            (digits rest).map fun (digits, rest) => (some (Digits.value 10 digits : Int), rest)
      else some (none, c :: rest)

def sign : List Char → Bool × List Char
  | '-' :: rest => (true, rest)
  | text => (false, text)

/-- A number; none if it is out of range. -/
def number : Reader (Option Number) := fun text => do
  let (negative, text) := sign text
  let (whole, text) ← whole text
  let (fraction, text) ← fraction text
  let (exponent, text) ← exponent text
  return (Number.ofWritten? ⟨negative, whole, fraction, exponent⟩, text)

/-- The value of a token that may have none. -/
def valueOf {α : Type} (make : α → Json) : Option α → Json
  | some content => make content
  | none => .unreadable

/-- A value that holds no other values. -/
def scalar : Reader Json := fun text =>
  match text with
  | 'n' :: _ => (take? "null".toList text).map fun rest => (.null, rest)
  | 't' :: _ => (take? "true".toList text).map fun rest => (.bool true, rest)
  | 'f' :: _ => (take? "false".toList text).map fun rest => (.bool false, rest)
  | '\"' :: _ => (string text).map fun (value, rest) => (valueOf .string value, rest)
  | _ => (number text).map fun (value, rest) => (valueOf .number value, rest)

/-- One or more items between commas, up to and with the closing character, but not more of them
than a bound. -/
def items {α : Type} (item : Reader α) (close : Char) : (bound : Nat) → Reader (List α)
  | 0, _ => none
  | bound + 1, text =>
      match item text with
      | none => none
      | some (first, rest) =>
          match skip rest with
          | [] => none
          | c :: rest =>
              if c = close then some ([first], rest)
              else if c = ',' then
                (items item close bound rest).map fun (more, rest) => (first :: more, rest)
              else none

/-- A possibly empty sequence after its opening character. -/
def sequence {α : Type} (item : Reader α) (close : Char) (bound : Nat) : Reader (List α) :=
  fun text =>
    match skip text with
    | [] => none
    | c :: rest => if c = close then some ([], rest) else items item close bound (c :: rest)

/-- A member of an object whose values are read by `value`. -/
def member (value : Reader Json) : Reader (Option String × Json) := fun text => do
  let (name, rest) ← string (skip text)
  match skip rest with
  | ':' :: rest =>
      let (value, rest) ← value rest
      return ((name, value), rest)
  | _ => none

/-- The object with given members, if all names are well-formed. -/
def objectOf (members : List (Option String × Json)) : Json :=
  valueOf .object (members.mapM fun (name, value) => name.map fun name => (name, value))

/-- A value in which arrays and objects nest at most `depth` deep; below that they are unreadable.
Each item and each nesting takes a character at least, so a bound of the length of the text is never
reached. -/
def value : (bound depth : Nat) → Reader Json
  | 0, _, text => scalar (skip text)
  | bound + 1, depth, text => match skip text with
    | '[' :: rest =>
        (sequence (value bound (depth - 1)) ']' (bound + 1) rest).map fun (items, rest) =>
          (if depth = 0 then .unreadable else .array items, rest)
    | '\x7b' :: rest =>
        (sequence (member (value bound (depth - 1))) '\x7d' (bound + 1) rest).map
          fun (members, rest) => (if depth = 0 then .unreadable else objectOf members, rest)
    | text => scalar text

end CacheFill.Json.Parser

namespace CacheFill.Json

/-- The deepest nesting of a value. -/
def depthLimit : Nat := 127

/-- The value of a JSON text. -/
def parse? (text : String) : Option Json :=
  match Parser.value text.length depthLimit text.toList with
  | some (value, rest) => if (Parser.skip rest).isEmpty then some value else none
  | none => none

end CacheFill.Json
