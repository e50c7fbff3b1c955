import CacheFill.Json.Fields
import CacheFill.Text.Digits

/-!
Identifiers of load tasks: UUIDs, ordered as numbers, with their text forms. Minted identifiers are
of version 7 and increase with their serial number.
-/

set_option autoImplicit false

namespace CacheFill

structure TaskId where
  value : BitVec 128
  deriving DecidableEq, Repr, Inhabited

namespace TaskId

instance : LE TaskId := ⟨fun a b => a.value.toNat ≤ b.value.toNat⟩
instance : LT TaskId := ⟨fun a b => a.value.toNat < b.value.toNat⟩
instance (a b : TaskId) : Decidable (a ≤ b) :=
  inferInstanceAs (Decidable (a.value.toNat ≤ b.value.toNat))
instance (a b : TaskId) : Decidable (a < b) :=
  inferInstanceAs (Decidable (a.value.toNat < b.value.toNat))

/-- The groups of the hyphenated form: how many digits, and how many bits stand to the right. -/
def groups : List (Nat × Nat) := [(8, 96), (4, 80), (4, 64), (4, 48), (12, 0)]

def renderChars (id : TaskId) : List Char :=
  List.intercalate ['-'] (groups.map fun (width, shift) =>
    Digits.render 16 width (id.value.toNat >>> shift))

/-- The hyphenated form in lower case. -/
def render (id : TaskId) : String := String.ofList id.renderChars

/-- The identifier with the given 32 hexadecimal digits. -/
def ofHex? (text : List Char) : Option TaskId :=
  if text.length = 32 then
    (text.mapM Digits.hexadecimal?).map fun digits => ⟨BitVec.ofNat 128 (Digits.value 16 digits)⟩
  else none

/-- The hyphenated form: hyphens after 8, 12, 16 and 20 digits. -/
def ofHyphenated? (text : List Char) : Option TaskId :=
  if text.length = 36 ∧ text[8]? = some '-' ∧ text[13]? = some '-' ∧ text[18]? = some '-' ∧
      text[23]? = some '-' then
    ofHex? (text.take 8 ++ (text.drop 9).take 4 ++ (text.drop 14).take 4 ++
      (text.drop 19).take 4 ++ text.drop 24)
  else none

def urnMark : List Char := "urn:uuid:".toList

/-- Reads 32 digits, the hyphenated form, that form in braces, or that form as a URN, in any letter
case. -/
def parseChars? (text : List Char) : Option TaskId :=
  if text.length = 32 then ofHex? text
  else if text.length = 38 then
    if text.head? = some '\x7b' ∧ text.getLast? = some '\x7d' then
      ofHyphenated? (text.tail.dropLast)
    else none
  else if (text.take 9).map Char.toLower = urnMark then ofHyphenated? (text.drop 9)
  else ofHyphenated? text

def parse? (text : String) : Option TaskId := parseChars? text.toList

/-- The identifier with the given bytes, the highest first. -/
def ofBytes (bytes : List Nat) : TaskId := ⟨BitVec.ofNat 128 (Digits.value 256 bytes)⟩

/-- The sixteen bytes, the highest first. -/
def bytes (id : TaskId) : List Nat := Digits.fixed 256 16 id.value.toNat

def version (id : TaskId) : Nat := (id.value.toNat >>> 76) % 16

/-- The layout of RFC 4122: the two bits 10 in front of the last 62. -/
def hasRfcLayout (id : TaskId) : Bool := (id.value.toNat >>> 62) % 4 = 2

/-- The time field before the first minted identifier, in milliseconds. -/
def firstTime : Nat := 0x01a000000000

/-- The identifier minted as number `serial`: its time field counts the mints. The seed fills the
bits that are random in this version, and tells the identifiers of one source from all others. -/
def minted (seed serial : Nat) : TaskId :=
  ⟨BitVec.ofNat 128
    (((firstTime + serial) <<< 80) + (7 <<< 76) + (2 <<< 62) + seed % (1 <<< 62))⟩

/-- The serial number of an identifier that was minted with a seed. -/
def serial? (seed : Nat) (id : TaskId) : Option Nat :=
  let serial := (id.value.toNat >>> 80) - firstTime
  if minted seed serial = id then some serial else none

def toJson (id : TaskId) : Json := .string id.render

def ofJson? (value : Json) : Option TaskId := value.string?.bind parse?

end TaskId

end CacheFill
