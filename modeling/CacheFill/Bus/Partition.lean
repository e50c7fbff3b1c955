/-!
Which partition of a topic a key belongs to: the FNV-1a hash of its bytes modulo the number of
partitions, so that independent publishers agree.
-/

set_option autoImplicit false

namespace CacheFill.Partition

def offsetBasis : UInt32 := 0x811c9dc5

def prime : UInt32 := 0x01000193

/-- The 32-bit FNV-1a hash of a sequence of bytes. -/
def hash (bytes : List UInt8) : UInt32 :=
  bytes.foldl (fun hash byte => (hash ^^^ byte.toUInt32) * prime) offsetBasis

/-- The partition of a key; a topic has one partition at least. -/
def ofKey (key : String) (count : UInt32) : UInt32 :=
  if count ≤ 1 then 0 else hash key.toUTF8.toList % count

end CacheFill.Partition
