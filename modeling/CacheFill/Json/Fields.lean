import CacheFill.Json.Basic

/-!
Reading records, tagged records, words and integers out of JSON values.

A record is an object with named fields, or an array of its fields in their fixed order. A named
field may stand in any place but only once, and fields that the record does not have are ignored.
-/

set_option autoImplicit false

namespace CacheFill.Json

/-- The fields of a record by name. -/
abbrev Fields := String → Option Json

def occurrences (members : List (String × Json)) (name : String) : Nat :=
  members.countP fun (other, _) => other = name

/-- The fields of a record that has the given names. -/
def fields? (names : List String) : Json → Option Fields
  | .object members =>
      if names.all fun name => occurrences members name ≤ 1 then
        some fun name => members.lookup name
      else none
  | .array items =>
      if items.length = names.length then some fun name => (names.zip items).lookup name
      else none
  | _ => none

/-- The fields of a record whose fields have defaults: an array may end early. -/
def leadingFields? (names : List String) (value : Json) : Option Fields :=
  match value with
  | .array items =>
      if items.length ≤ names.length then some fun name => (names.zip items).lookup name else none
  | value => fields? names value

/-- The fields of a record that has no other fields than the given names. -/
def onlyFields? (names : List String) (value : Json) : Option Fields :=
  match value with
  | .object members =>
      if members.all fun (name, _) => names.contains name then fields? names value else none
  | value => fields? names value

/-- A record that says in one of its fields, its tag, which kind it is: the tag, and the record
without that field. In an array the tag comes first. As its fields are read twice, none of them may
be unreadable. -/
def tagged? (tag : String) (value : Json) : Option (Json × Json) :=
  if value.isReadable then
    match value with
    | .object members =>
        match occurrences members tag, members.lookup tag with
        | 1, some kind => some (kind, .object (members.filter fun (name, _) => name ≠ tag))
        | _, _ => none
    | .array (kind :: items) => some (kind, .array items)
    | _ => none
  else none

/-- The value of a field that has to be there. -/
def Fields.required {α : Type} (fields : Fields) (read : Json → Option α) (name : String) :
    Option α :=
  (fields name).bind read

/-- The value of a field that may be missing or null. -/
def Fields.optional {α : Type} (fields : Fields) (read : Json → Option α) (name : String) :
    Option (Option α) :=
  match fields name with
  | none => some none
  | some .null => some none
  | some value => (read value).map some

/-- The value of a field that takes a default if it is missing. -/
def Fields.default {α : Type} (fields : Fields) (read : Json → Option α) (name : String)
    (otherwise : α) : Option α :=
  match fields name with
  | none => some otherwise
  | some value => read value

def string? : Json → Option String
  | .string value => some value
  | _ => none

def bool? : Json → Option Bool
  | .bool value => some value
  | _ => none

/-- One of a fixed set of words; also accepted as an object with the word as its only name and a
null. In a part of a tagged record the object may hold an empty object instead. -/
def word? (isPart : Bool) : Json → Option String
  | .string value => some value
  | .object [(name, .null)] => some name
  | .object [(name, .object [])] => if isPart then some name else none
  | _ => none

/-- A natural number below a limit. -/
def below? (limit : Nat) : Json → Option Nat
  | .number (.integer (.ofNat n)) => if n < limit then some n else none
  | _ => none

def uint32? (value : Json) : Option UInt32 := (below? UInt32.size value).map UInt32.ofNat

/-- A natural number that fits in 64 bits. -/
def natural? (value : Json) : Option Nat := below? UInt64.size value

def uint64? (value : Json) : Option UInt64 := (natural? value).map UInt64.ofNat

/-- A number as a double. -/
def double? : Json → Option Binary64
  | .number (.integer n) => some (Binary64.ofInt n)
  | .number (.real value) => some value
  | _ => none

/-- Any value that can be read, in its canonical form. -/
def any? (value : Json) : Option Json := if value.isReadable then some (canonical value) else none

/-! Members of objects that are read one by one -/

/-- The items of a list. -/
def items? : Json → Option (List Json)
  | .array items => some items
  | _ => none

/-- The member of an object with a name, null included. -/
def member? (json : Json) (name : String) : Option Json :=
  match json with
  | .object members => members.lookup name
  | _ => none

/-- The member of an object with a name; null stands for none. -/
def field? (json : Json) (name : String) : Option Json :=
  match json.member? name with
  | some .null => none
  | value => value

/-- A member with a value of any form. -/
def opaque? (json : Json) (name : String) : Option Json := (json.member? name).map canonical

def get? {α : Type} (json : Json) (read : Json → Option α) (name : String) : Option α :=
  (json.member? name).bind read

def getD? {α : Type} (json : Json) (read : Json → Option α) (name : String) (otherwise : α) :
    Option α :=
  match json.field? name with
  | none => some otherwise
  | some value => read value

end CacheFill.Json
