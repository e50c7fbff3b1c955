import CacheFill.Text.Digits
import CacheFill.Text.Shown

/-!
Quoted texts and characters, as error messages show them: in delimiters, with every character that
would be invisible or ambiguous written as an escape.
-/

set_option autoImplicit false

namespace CacheFill.Text

/-- The digits of a code point in hexadecimal, without leading zeros. -/
def codePoint (c : Char) : List Char :=
  Nat.toDigits 16 c.toNat

/-- How a character is written between two delimiters. -/
def escape (delimiter c : Char) : List Char :=
  if c = '\x00' then ['\\', '0']
  else if c = '\t' then ['\\', 't']
  else if c = '\r' then ['\\', 'r']
  else if c = '\n' then ['\\', 'n']
  else if c = '\\' ∨ c = delimiter then ['\\', c]
  else if isShown c then [c]
  else ['\\', 'u', '\x7b'] ++ codePoint c ++ ['\x7d']

def quoteWith (delimiter : Char) (text : List Char) : String :=
  String.ofList (delimiter :: text.flatMap (escape delimiter) ++ [delimiter])

/-- A text in double quotes. -/
def quote (text : String) : String :=
  quoteWith '\"' text.toList

/-- A character in single quotes. -/
def quoteChar (c : Char) : String :=
  quoteWith '\'' [c]

end CacheFill.Text
