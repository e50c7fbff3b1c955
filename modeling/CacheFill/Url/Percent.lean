import CacheFill.Text.Digits
import CacheFill.Text.Utf8

/-!
Percent-encoding, in which a percent sign and two hexadecimal digits stand for a byte, and forms:
names with values, where a plus sign is a blank.
-/

set_option autoImplicit false

namespace CacheFill.Url

/-- The bytes of a percent-encoded text. A percent sign without two digits stands for itself. -/
def percentDecode : List Char → List UInt8
  | [] => []
  | '%' :: high :: low :: rest =>
      match Digits.hexadecimal? high, Digits.hexadecimal? low with
      | some highDigit, some lowDigit =>
          UInt8.ofNat (highDigit * 16 + lowDigit) :: percentDecode rest
      | _, _ => 0x25 :: percentDecode (high :: low :: rest)
  | c :: rest => (String.singleton c).toUTF8.toList ++ percentDecode rest

/-- The pieces of a text between the signs of a kind; there is one more of them than signs. -/
def pieces (sign : Char) (text : List Char) : List (List Char) :=
  text.foldr (fun c pieces =>
    match pieces with
    | first :: rest => if c = sign then [] :: first :: rest else (c :: first) :: rest
    | [] => []) [[]]

/-- The text of a name or a value in a form; bytes that are not UTF-8 are replaced. -/
def formText (text : List Char) : String :=
  Utf8.decode (percentDecode (text.map fun c => if c = '+' then ' ' else c))

/-- A name and its value, which is behind the first equals sign. -/
def formPair (text : List Char) : String × String :=
  (formText (text.takeWhile (· ≠ '=')), formText ((text.dropWhile (· ≠ '=')).drop 1))

/-- The names and values of a form. -/
def formPairs (text : List Char) : List (String × String) :=
  ((pieces '&' text).filter (!·.isEmpty)).map formPair

end CacheFill.Url
