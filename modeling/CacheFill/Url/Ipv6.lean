import CacheFill.Text.Digits
import CacheFill.Url.Percent

/-!
The written form of IPv6 addresses: eight groups of up to four hexadecimal digits with colons
between them. One run of groups may be left out, and the last two may have the form of an IPv4
address.
-/

set_option autoImplicit false

namespace CacheFill.Url

/-- A number up to 255, without zeros in front. -/
def isOctet (text : List Char) : Bool :=
  match text with
  | '0' :: _ :: _ => false
  | digits => (Digits.number? digits).any fun n => n ≤ 255

/-- Four numbers with dots between them. -/
def isIpv4 (text : List Char) : Bool :=
  let octets := pieces '.' text
  octets.length = 4 && octets.all isOctet

/-- A group of up to four hexadecimal digits, and what follows it. -/
def ipv6Group (text : List Char) : List Char × List Char :=
  let digits := (text.take 4).takeWhile fun c => (Digits.hexadecimal? c).isSome
  (digits, text.drop digits.length)

/-- The groups of an address from some place on, where there is room for `room` of them. The mark
for groups left out takes the place of one, and so there is at most one of it. -/
def isIpv6Tail (room : Nat) (isShortened : Bool) (text : List Char) : Bool :=
  match room, text with
  | room, [] => isShortened || room = 0
  | 0, _ :: _ => false
  | room + 1, ':' :: rest => !isShortened && isIpv6Tail room true rest
  | room + 1, text =>
      match ipv6Group text with
      | (_, []) => isIpv6Tail room isShortened []
      | (_, ':' :: next :: rest) => isIpv6Tail room isShortened (next :: rest)
      | (_ :: _, '.' :: _) => isIpv4 text && (room = 1 || (isShortened && 1 ≤ room))
      | _ => false

/-- Whether a text is an IPv6 address. -/
def isIpv6 (text : List Char) : Bool :=
  match text with
  | ':' :: ':' :: rest => isIpv6Tail 7 true rest
  | ':' :: _ => false
  | text => isIpv6Tail 8 false text

end CacheFill.Url
