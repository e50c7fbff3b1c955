import CacheFill.Binary64.Basic

/-!
JSON values. An object keeps the members in the order in which they were written, repeated names
included; `canonical` gives the form that compares by content. What a text may hold and a value
cannot be is `unreadable`; nothing can be made of it, but it does no harm where nobody reads it.
-/

set_option autoImplicit false

namespace CacheFill

/-- A number without fraction or exponent that fits in 64 bits, signed or unsigned, is an integer;
all others are doubles. -/
inductive Json.Number where
  | integer (value : Int)
  | real (value : Binary64)
  deriving DecidableEq, Repr, Inhabited

inductive Json where
  | null
  | bool (value : Bool)
  | number (value : Json.Number)
  | string (value : String)
  | array (items : List Json)
  | object (members : List (String × Json))
  /-- A number out of range, a string with half a surrogate pair, or what is nested too deep. -/
  | unreadable
  deriving Repr, Inhabited

namespace Json

def int (value : Int) : Json := .number (.integer value)

def nat (value : Nat) : Json := int value

/-- Inserts a member into a list of members sorted by name, replacing one of the same name. -/
def insertMember (name : String) (value : Json) : List (String × Json) → List (String × Json)
  | [] => [(name, value)]
  | (other, old) :: rest =>
      if name < other then (name, value) :: (other, old) :: rest
      else if name = other then (name, value) :: rest
      else (other, old) :: insertMember name value rest

mutual

/-- A value that can be read to the bottom. -/
def isReadable : Json → Bool
  | .array items => areReadable items
  | .object members => haveReadable members
  | .unreadable => false
  | _ => true

def areReadable : List Json → Bool
  | [] => true
  | item :: rest => isReadable item && areReadable rest

/-- The members of an object have values that can be read. -/
def haveReadable : List (String × Json) → Bool
  | [] => true
  | (_, value) :: rest => isReadable value && haveReadable rest

end

mutual

/-- The value with the members of every object sorted by name; of members with the same name the
last one stays. -/
def canonical : Json → Json
  | .array items => .array (canonicalItems items)
  | .object members => .object (canonicalMembers members [])
  | value => value

def canonicalItems : List Json → List Json
  | [] => []
  | item :: rest => canonical item :: canonicalItems rest

/-- Adds members one after the other to a sorted list. -/
def canonicalMembers : List (String × Json) → List (String × Json) → List (String × Json)
  | [], sorted => sorted
  | (name, value) :: rest, sorted =>
      canonicalMembers rest (insertMember name (canonical value) sorted)

end

end Json

end CacheFill
