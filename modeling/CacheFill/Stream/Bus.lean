import CacheFill.Bus.Partition
import CacheFill.Bus.Memory
import CacheFill.Json.Parser
import CacheFill.Stream.Poller
import CacheFill.Wire.Message

/-!
A bus on a stream server for messages of one kind. Publishing adds an entry to the stream of the partition;
subscribing creates the group and starts a poller.
-/

set_option autoImplicit false

namespace CacheFill

namespace Stream

inductive Error where
  | connection
  | command
  | partition (error : PartitionError)
  deriving DecidableEq, Repr

/-- Messages for a bus on a stream server: they have a key and a JSON form. -/
class Message (M : Type) where
  key : M → String
  toJson : M → Json
  ofJson? : Json → Option M

instance : Message Dispatch := ⟨Dispatch.key, Dispatch.toJson, Dispatch.ofJson?⟩

instance : Message Notification := ⟨Notification.key, Notification.toJson, Notification.ofJson?⟩

end Stream

structure StreamBus where
  space : String
  partitionCount : UInt32
  deriving DecidableEq, Repr

namespace StreamBus

open CacheFill.Stream

/-- A bus in a namespace of its own; a topic has one partition at least. -/
def create (space : Option String) (partitionCount : UInt32) : StreamBus :=
  ⟨space.getD defaultSpace, max partitionCount 1⟩

def streamOf (bus : StreamBus) (topic : String) (partition : UInt32) : String :=
  streamName bus.space topic partition

variable {M : Type}

/-- The payload of a message. -/
def encode [Message M] (message : M) : String := (Message.toJson message).render

/-- The message in a payload. -/
def decode? [Message M] (payload : String) : Option M := (Json.parse? payload).bind Message.ofJson?

/-- How messages and flat lists of pending entries are read. -/
def reader [Message M] : Reader M := ⟨decode?, PendingRow.ofFlat?⟩

/-- Sends one command on a new connection and passes on a good reply. -/
def request {α : Type} (command : Command) (read : Response → Option α) :
    Session M (Except Error α) :=
  .connect fun isConnected =>
    if isConnected then
      .send command fun response =>
        match read response with
        | some value => .done (.ok value)
        | none => .done (.error .command)
    else .done (.error .connection)

/-- A reply that has to be text. -/
def textReply? (response : Response) : Option Unit :=
  (response.toOption.bind Reply.text?).map fun _ => ()

/-- Publishes a message to the partition of its key. -/
def publish [Message M] (bus : StreamBus) (topic : String) (message : M) :
    Session M (Except Error Unit) :=
  let key := Message.key message
  let partition := Partition.ofKey key bus.partitionCount
  request (.add (bus.streamOf topic partition) key (encode message)) textReply?

/-- The code of an error: its first word. -/
def errorCode (error : String) : String := String.ofList (error.toList.takeWhile (· ≠ ' '))

/-- A group exists after a good reply and after the error that says it existed before. -/
def groupExists? : Response → Option Unit
  | .error error => if errorCode error = "BUSYGROUP" then some () else none
  | response => textReply? response

/-- Subscribes a group to a partition of a topic; gives the poller of the subscription. `name` tells
its consumer from the others of the group. -/
def subscribe (bus : StreamBus) (topic group : String) (partition : UInt32) (name : String) :
    Session M (Except Error Poller) :=
  if bus.partitionCount ≤ partition then
    .done (.error (.partition ⟨partition, bus.partitionCount⟩))
  else
    let stream := bus.streamOf topic partition
    Functor.map (Except.map fun _ => ⟨stream, group, group ++ "-" ++ name⟩)
      (request (.create stream group) groupExists?)

end StreamBus

end CacheFill
