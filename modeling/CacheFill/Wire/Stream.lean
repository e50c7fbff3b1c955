import CacheFill.Json.Fields
import CacheFill.Rehearsal.Broker
import CacheFill.Wire.Failure

/-!
The replies of a scripted stream server written in JSON, and the JSON forms of what is seen of it.
-/

set_option autoImplicit false

namespace CacheFill.Stream

namespace Reply

mutual

/-- Text stands for its bytes; an object lists them one by one. -/
def ofJson? : Json → Option Reply
  | .null => some .nil
  | .number (.integer value) => some (.number value)
  | .string text => some (.ofText text)
  | .array values => (listOfJson? values).map .items
  | .object [("bytes", .array bytes)] =>
      (bytes.mapM (Json.below? 256)).map fun bytes => .data (bytes.map UInt8.ofNat)
  | _ => none

def listOfJson? : List Json → Option (List Reply)
  | [] => some []
  | value :: rest => do return (← ofJson? value) :: (← listOfJson? rest)

end

end Reply

/-- A reply or an error with its text. -/
def responseOfJson? : Json → Option Response
  | .object [("err", .string error)] => some (.error error)
  | value => (Reply.ofJson? value).map .ok

/-- The entry of a list of pending entries: how often which entry was delivered. -/
def pendingOfJson? : Json → Option (List Reply)
  | .array [id, deliveries] => do
      return [← Reply.ofJson? id, .ofText "consumer", .number 60000, ← Reply.ofJson? deliveries]
  | _ => none

/-- A list of pending entries as the server writes it, or another reply. -/
def pendingListOfJson? : Json → Option Response
  | .array entries =>
      (entries.mapM pendingOfJson?).map fun flat => .ok (.items flat.flatten)
  | value => responseOfJson? value

end Stream

def PartitionError.toJson (error : PartitionError) : Json := .error "InvalidPartition" error.message

def Stream.Error.toJson : Stream.Error → Json
  | .connection => .errorKind "Connection"
  | .command => .errorKind "Command"
  | .partition error => error.toJson

def Broker.Event.toJson : Broker.Event → Json
  | .command sent => .array (sent.words.map .string)
  | .delivered message isAcknowledged =>
      .object [("delivered", message.toJson), ("acked", .bool isAcknowledged)]
  | .disconnected => .string "disconnected"

end CacheFill
