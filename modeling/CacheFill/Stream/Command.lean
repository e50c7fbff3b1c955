import CacheFill.Json.Printer
import CacheFill.Text.Digits

/-!
Commands to a stream server, and their written form. A partition of a topic is a stream of its own;
its consumer groups read from the start of what the stream still holds.
-/

set_option autoImplicit false

namespace CacheFill.Stream

/-- The name in front of all stream names unless another one is given. -/
def defaultSpace : String := "loadcache"

/-- The stream of a partition of a topic. -/
def streamName (space topic : String) (partition : UInt32) : String :=
  space ++ ":" ++ topic ++ ":" ++ toString partition.toNat

inductive Command where
  /-- Creates a group, and the stream if it is missing. -/
  | create (stream group : String)
  | add (stream key payload : String)
  /-- Lists entries that were delivered to the group and not acknowledged for a while. -/
  | pending (stream group : String)
  /-- Takes such entries over. -/
  | claim (stream group consumer : String) (ids : List String)
  /-- Reads entries that were not delivered to the group yet, after waiting for some. -/
  | read (stream group consumer : String)
  | acknowledge (stream group : String) (ids : List String)
  deriving DecidableEq, Repr

/-- How many entries are read or listed at once. -/
def batchSize : Nat := 10

/-- How long a read waits for entries, in milliseconds. -/
def blockMillis : Nat := 100

/-- How long an entry stays with its consumer, in milliseconds. -/
def idleMillis : Nat := 30000

/-- How often an entry is delivered before it is given up. -/
def deliveryLimit : Nat := 5

/-- The words of a command. -/
def Command.words : Command → List String
  | .create stream group => ["XGROUP", "CREATE", stream, group, "0", "MKSTREAM"]
  | .add stream key payload => ["XADD", stream, "*", "key", key, "payload", payload]
  | .pending stream group =>
      ["XPENDING", stream, group, "IDLE", toString idleMillis, "-", "+", toString batchSize]
  | .claim stream group consumer ids =>
      ["XCLAIM", stream, group, consumer, toString idleMillis] ++ ids
  | .read stream group consumer =>
      ["XREADGROUP", "GROUP", group, consumer, "COUNT", toString batchSize, "BLOCK",
        toString blockMillis, "STREAMS", stream, ">"]
  | .acknowledge stream group ids => ["XACK", stream, group] ++ ids

end CacheFill.Stream
