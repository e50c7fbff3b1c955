/-!
Bytes read as UTF-8. Every byte sequence has a reading: each maximal ill-formed piece becomes one
replacement character.
-/

set_option autoImplicit false

namespace CacheFill.Utf8

/-- The first byte of a multi-byte character: how many bytes follow it, the bits it contributes,
and the range its first follower must lie in. -/
structure Lead where
  followers : Nat
  bits : Nat
  low : Nat := 0x80
  high : Nat := 0xbf

/-- The lead bytes of well-formed characters. The narrowed ranges exclude overlong forms, surrogates
and numbers beyond the last code point. -/
def lead? (byte : Nat) : Option Lead :=
  if 0xc2 ≤ byte ∧ byte ≤ 0xdf then some { followers := 1, bits := byte - 0xc0 }
  else if byte = 0xe0 then some { followers := 2, bits := 0, low := 0xa0 }
  else if byte = 0xed then some { followers := 2, bits := 0xd, high := 0x9f }
  else if 0xe1 ≤ byte ∧ byte ≤ 0xef then some { followers := 2, bits := byte - 0xe0 }
  else if byte = 0xf0 then some { followers := 3, bits := 0, low := 0x90 }
  else if 0xf1 ≤ byte ∧ byte ≤ 0xf3 then some { followers := 3, bits := byte - 0xf0 }
  else if byte = 0xf4 then some { followers := 3, bits := 4, high := 0x8f }
  else none

/-- A character whose lead byte has been read. -/
structure Pending where
  left : Nat
  bits : Nat
  low : Nat
  high : Nat

def replacement : Char := Char.ofNat 0xfffd

/-- Reads a byte that starts a character. -/
def start (byte : Nat) : List Char × Option Pending :=
  if byte < 0x80 then ([Char.ofNat byte], none)
  else
    match lead? byte with
    | some lead => ([], some ⟨lead.followers, lead.bits, lead.low, lead.high⟩)
    | none => ([replacement], none)

/-- Reads one byte: the characters it completes and the character left open. A byte that cannot
continue an open character ends that character as ill-formed and starts another. -/
def step (pending : Option Pending) (byte : Nat) : List Char × Option Pending :=
  match pending with
  | none => start byte
  | some open_ =>
      if open_.low ≤ byte ∧ byte ≤ open_.high then
        let bits := open_.bits * 64 + (byte - 0x80)
        if open_.left ≤ 1 then ([Char.ofNat bits], none)
        else ([], some ⟨open_.left - 1, bits, 0x80, 0xbf⟩)
      else
        let (completed, next) := start byte
        (replacement :: completed, next)

def decodeFrom (pending : Option Pending) : List Nat → List Char
  | [] => if pending.isSome then [replacement] else []
  | byte :: rest =>
      let (completed, next) := step pending byte
      completed ++ decodeFrom next rest

/-- The text that a sequence of bytes stands for. -/
def decode (bytes : List UInt8) : String :=
  String.ofList (decodeFrom none (bytes.map UInt8.toNat))

/-- The text that well-formed bytes stand for: these are the bytes it is encoded as. -/
def wellFormed? (bytes : List UInt8) : Option String :=
  let text := decode bytes
  if text.toUTF8.toList = bytes then some text else none

end CacheFill.Utf8
