import CacheFill.Url.Ipv6
import CacheFill.Url.Path

/-!
URLs and how they are read, for schemes that have no rules of their own: a scheme, perhaps a host
with a port and credentials, a path and a query. What is behind a number sign is dropped.
-/

set_option autoImplicit false

namespace CacheFill

namespace Url

inductive Host where
  | name (text : List Char)
  | ipv6 (text : List Char)
  deriving DecidableEq, Repr

/-- What stands between the two slashes and the path. A password is there if it is not empty. -/
structure Authority where
  username : List Char
  password : Option (List Char)
  host : Option Host
  port : Option Nat
  deriving DecidableEq, Repr

end Url

/-- The texts in a URL are percent-encoded. Without two slashes it has no authority; a path that
does not start with a slash has no segments. -/
structure Url where
  scheme : String
  authority : Option Url.Authority
  segments : List (List Char)
  query : List Char
  deriving DecidableEq, Repr

namespace Url

/-- Blanks and control characters around a URL, and line breaks and tabs inside, do not count. -/
def clean (text : List Char) : List Char :=
  let isEdge (c : Char) : Bool := c.toNat ≤ 0x20
  let inner := ((text.dropWhile isEdge).reverse.dropWhile isEdge).reverse
  inner.filter fun c => !(c = '\t' || c = '\n' || c = '\r')

/-- The part of a text before the first of some characters, and the rest from there on. -/
def spanUntil (stops : List Char) (text : List Char) : List Char × List Char :=
  text.span fun c => !stops.contains c

/-- The scheme of a URL in lower case, and what follows its colon. -/
def scheme? (text : List Char) : Option (String × List Char) :=
  match spanUntil [':'] text with
  | (first :: rest, _ :: after) =>
      if first.isAlpha ∧ rest.all fun c => c.isAlphanum || c = '+' || c = '-' || c = '.' then
        some (String.ofList ((first :: rest).map Char.toLower), after)
      else none
  | _ => none

/-- What stands before and behind the last at sign of a text, if there is one. -/
def splitCredentials (text : List Char) : Option (List Char) × List Char :=
  match spanUntil ['@'] text.reverse with
  | (host, _ :: credentials) => (some credentials.reverse, host.reverse)
  | (_, []) => (none, text)

/-- A character that a host name does not have. -/
def isForbidden (c : Char) : Bool :=
  ['\x00', '\t', '\n', '\r', ' ', '#', '/', ':', '<', '>', '?', '@', '[', '\\', ']', '^',
    '|'].contains c

/-- The part of a text before its first colon outside brackets, and the rest from there on. -/
def spanHost (inBrackets : Bool) : List Char → List Char × List Char
  | [] => ([], [])
  | c :: rest =>
      if c = ':' ∧ !inBrackets then ([], c :: rest)
      else
        let (host, after) := spanHost (if c = '[' then true else if c = ']' then false
          else inBrackets) rest
        (c :: host, after)

/-- A host: nothing, an address in brackets or a name. -/
def host? (text : List Char) : Option (Option Host) :=
  match text with
  | [] => some none
  | '[' :: rest =>
      if rest.getLast? = some ']' ∧ isIpv6 rest.dropLast then some (some (.ipv6 rest.dropLast))
      else none
  | name => if name.any isForbidden then none else some (some (.name name))

/-- A port behind its colon, both of which may be missing, and what follows it: the end, or a
backslash, with which the path begins. -/
def port? (text : List Char) : Option (Option Nat × List Char) :=
  match text with
  | ':' :: rest =>
      let (digits, after) := Digits.span rest
      let port := Digits.value 10 digits
      if port < UInt16.size ∧ (after.isEmpty ∨ after.head? = some '\\') then
        some (if digits.isEmpty then none else some port, after)
      else none
  | _ => some (none, [])

/-- An authority and the beginning of the path behind it. A host is needed by a port or
credentials; credentials that are empty are none, but then the authority does not end there. -/
def authority? (text : List Char) (isLast : Bool) : Option (Authority × List Char) := do
  let (credentials, rest) := splitCredentials text
  let (username, password) := spanUntil [':'] (credentials.getD [])
  let (hostText, after) := spanHost false rest
  let host ← host? hostText
  let (port, after) ← port? after
  let password := if password.length ≤ 1 then none else some (password.drop 1)
  let needsHost := rest.head? = some ':' || !username.isEmpty || password.isSome ||
    (credentials = some [] && rest.isEmpty && !isLast)
  if host.isNone ∧ needsHost then none else some (⟨username, password, host, port⟩, after)

/-- Reads the URL in a text. -/
def parse? (text : String) : Option Url := do
  let (scheme, rest) ← scheme? (clean text.toList)
  let (authority, rest) ←
    match rest with
    | '/' :: '/' :: rest =>
        let (text, rest) := spanUntil ['/', '?', '#'] rest
        let (authority, start) ← authority? text rest.isEmpty
        some (some authority, if start.isEmpty then rest else '/' :: start ++ rest)
    | rest => some (none, rest)
  let (path, rest) := spanUntil ['?', '#'] rest
  let segments := if path.head? = some '/' then segmentsOf path else []
  let query := if rest.head? = some '?' then (spanUntil ['#'] rest).1.drop 1 else []
  return ⟨scheme, authority, segments, query⟩

end Url

end CacheFill
