/-!
Log lines as data. Fields hold numbers, flags and text.
-/

set_option autoImplicit false

namespace CacheFill.Log

inductive Level where
  | info
  | warn
  | error
  deriving DecidableEq, Repr, Inhabited

def Level.name : Level → String
  | .info => "INFO"
  | .warn => "WARN"
  | .error => "ERROR"

inductive Value where
  | text (value : String)
  | number (value : Nat)
  | flag (value : Bool)
  deriving DecidableEq, Repr, Inhabited

structure Line where
  level : Level
  message : String
  fields : List (String × Value)
  deriving DecidableEq, Repr, Inhabited

def info (message : String) (fields : List (String × Value)) : Line := ⟨.info, message, fields⟩

def warn (message : String) (fields : List (String × Value)) : Line := ⟨.warn, message, fields⟩

def error (message : String) (fields : List (String × Value)) : Line := ⟨.error, message, fields⟩

end CacheFill.Log
