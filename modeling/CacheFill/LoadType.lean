import CacheFill.Json.Fields
import CacheFill.Text.Quoted

/-!
Load types: names for the kinds of values a cache holds. They become parts of topic names, so they
are made of a few safe characters.
-/

set_option autoImplicit false

namespace CacheFill

namespace LoadType

/-- An ASCII letter or digit, a hyphen, an underscore or a point. -/
def isAllowed (c : Char) : Bool :=
  c.isAlphanum || c = '-' || c = '_' || c = '.'

/-- A name is not empty and has allowed characters only. -/
def IsName (name : String) : Prop := name ≠ "" ∧ name.toList.all isAllowed = true

end LoadType

structure LoadType where
  name : String
  isName : LoadType.IsName name
  deriving DecidableEq

/-- Why a text is no load type. -/
inductive LoadType.Error where
  | empty
  | unsupported (name : String) (character : Char)
  deriving DecidableEq, Repr

def LoadType.Error.message : LoadType.Error → String
  | .empty => "validation failed: load type must not be empty"
  | .unsupported name character =>
      "validation failed: load type " ++ Text.quote name ++ " contains unsupported character " ++
        Text.quoteChar character

namespace LoadType

instance : Inhabited LoadType := ⟨⟨"a", by decide, by decide⟩⟩

instance : LE LoadType := ⟨fun a b => a.name ≤ b.name⟩
instance : LT LoadType := ⟨fun a b => a.name < b.name⟩
instance (a b : LoadType) : Decidable (a ≤ b) := inferInstanceAs (Decidable (a.name ≤ b.name))
instance (a b : LoadType) : Decidable (a < b) := inferInstanceAs (Decidable (a.name < b.name))

/-- The load type with a given name; otherwise the first character that is not allowed. -/
def ofName (name : String) : Except LoadType.Error LoadType :=
  if nonempty : name = "" then .error .empty
  else
    match found : name.toList.find? fun c => !isAllowed c with
    | some c => .error (.unsupported name c)
    | none => .ok ⟨name, nonempty, by
        simpa [List.find?_eq_none, List.all_eq_true] using found⟩

def toJson (type : LoadType) : Json := .string type.name

def ofJson? (value : Json) : Option LoadType :=
  value.string?.bind fun name => (ofName name).toOption

end LoadType

end CacheFill
