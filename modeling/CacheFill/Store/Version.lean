/-!
Versions of stored records, and what a conditional write expects of them.
-/

set_option autoImplicit false

namespace CacheFill

/-- The version a write expects to find. -/
inductive Expected where
  | any
  | exact (version : UInt64)
  deriving DecidableEq, Repr, Inhabited

namespace Expected

def isMet (expected : Expected) (actual : UInt64) : Bool :=
  match expected with
  | .any => true
  | .exact version => version == actual

def describe : Expected → String
  | .any => "any"
  | .exact version => toString version.toNat

end Expected

end CacheFill
