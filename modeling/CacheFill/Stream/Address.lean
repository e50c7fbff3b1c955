import CacheFill.Url.Basic

/-!
Addresses of stream servers. An address is a URL: a network address with a host, and perhaps
credentials and the number of a database, or the path of a socket on this machine. Connections are
not encrypted, so addresses that ask for that are none.
-/

set_option autoImplicit false

namespace CacheFill.Stream.Address

/-- The number of a database: a 64-bit number that may carry a sign. -/
def isDatabase (text : List Char) : Bool :=
  match text with
  | '-' :: digits => (Digits.number? digits).any fun n => n ≤ 1 <<< 63
  | digits => (Digits.below? (1 <<< 63) digits).isSome

/-- The path of a network address is the number of a database, with any slashes around it, or
nothing else than slashes. -/
def namesDatabase (segments : List (List Char)) : Bool :=
  let isSlash (c : Char) : Bool := c = '/'
  let text := (((Url.pathText segments).dropWhile isSlash).reverse.dropWhile isSlash).reverse
  text.isEmpty || isDatabase text

/-- Credentials are text. -/
def isText (encoded : List Char) : Bool := (Utf8.wellFormed? (Url.percentDecode encoded)).isSome

/-- A host, and perhaps credentials and the number of a database. -/
def isNetwork (url : Url) : Bool :=
  url.authority.any fun authority =>
    authority.host.isSome && isText authority.username && authority.password.all isText &&
      namesDatabase url.segments

/-- The path of a socket on this machine. The last `db` of the query is the number of the
database. -/
def isSocket (url : Url) : Bool :=
  let host := url.authority.bind (·.host)
  !url.segments.isEmpty && host.all (· = .name "localhost".toList) &&
    ((Url.formPairs url.query).reverse.lookup "db").all fun number => isDatabase number.toList

/-- Whether a text is the address of a stream server. -/
def isValid (text : String) : Bool :=
  (Url.parse? text).any fun url =>
    if url.scheme = "redis" then isNetwork url
    else (url.scheme = "unix" || url.scheme = "redis+unix") && isSocket url

end CacheFill.Stream.Address
