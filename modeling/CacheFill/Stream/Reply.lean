import CacheFill.Text.Digits
import CacheFill.Text.Utf8

/-!
Replies of a stream server. Data is bytes; texts in it are read as UTF-8. A status is a short text,
and the status OK is known by itself.
-/

set_option autoImplicit false

namespace CacheFill.Stream

inductive Reply where
  | nil
  | number (value : Int)
  | data (bytes : List UInt8)
  | items (values : List Reply)
  | status (text : String)
  | okay
  deriving Repr, Inhabited

/-- A reply, or the text of an error. -/
abbrev Response := Except String Reply

namespace Reply

/-- How deep lists nest in a reply. -/
def depthLimit : Nat := 100

mutual

/-- A reply that a client can take in: its numbers fit in 64 bits, and lists nest at most `depth`
deep. -/
def isSound (depth : Nat) : Reply → Bool
  | .number value => -(1 <<< 63) ≤ value && value < 1 <<< 63
  | .items values => 0 < depth && areSound (depth - 1) values
  | _ => true

def areSound (depth : Nat) : List Reply → Bool
  | [] => true
  | value :: rest => isSound depth value && areSound depth rest

end

/-- The text of some bytes; what is not UTF-8 in them is replaced. -/
def textOf (bytes : List UInt8) : String := Utf8.decode bytes

def ofText (text : String) : Reply := .data text.toUTF8.toList

/-- A reply that has to be text, and well-formed. -/
def text? : Reply → Option String
  | .data bytes => Utf8.wellFormed? bytes
  | .status text => some text
  | .okay => some "OK"
  | _ => none

/-- A reply that has to be a count, as a number or as digits. -/
def count? : Reply → Option Nat
  | .number value => some (value % UInt64.size).toNat
  | .data bytes => (text? (.data bytes)).bind fun text => Digits.below? UInt64.size text.toList
  | .status text => Digits.below? UInt64.size text.toList
  | _ => none

/-- A reply that has to be a list. No list is the empty one, and data is its own list. -/
def list? : Reply → Option (List Reply)
  | .nil => some []
  | .data bytes => some [.data bytes]
  | .items values => some values
  | .number _ | .status _ | .okay => none

end Reply

end CacheFill.Stream
