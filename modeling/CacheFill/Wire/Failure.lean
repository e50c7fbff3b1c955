import CacheFill.Json.Basic
import CacheFill.Service.Failure

/-!
The JSON forms of errors: what kind of error it is and its text. Errors that are about the form of
some data have no text, nor have faults.
-/

set_option autoImplicit false

namespace CacheFill

/-- An error of which only the kind is told. -/
def Json.errorKind (kind : String) : Json := .object [("error", .string kind)]

/-- An error with its text. -/
def Json.error (kind message : String) : Json :=
  .object [("error", .string kind), ("message", .string message)]

def StoreError.kind : StoreError → String
  | .notFound _ => "NotFound"
  | .alreadyExists _ => "AlreadyExists"
  | .conflict _ _ _ => "Conflict"
  | .unavailable _ => "Storage"

def StoreError.toJson (error : StoreError) : Json := .error error.kind error.message

def TransitionError.toJson (error : TransitionError) : Json :=
  match error with
  | .notAllowed _ _ | .notWaiting _ => .error "InvalidTransition" error.message
  | .overflow => .errorKind "Panic"

def LoadType.Error.toJson (error : LoadType.Error) : Json := .error "Validation" error.message

def Failure.toJson (failure : Failure) : Json :=
  match failure with
  | .store error => error.toJson
  | .transition error => error.toJson
  | .publish _ => .error "Publish" failure.message
  | .undecodable => .errorKind "Serialization"
  | .unknownLoadType _ => .error "UnknownLoadType" failure.message
  | .config _ => .error "Config" failure.message

end CacheFill
