import CacheFill.Bus.Memory

/-!
The receiving end of a subscription. A message comes with an acknowledgement, which most ways of
receiving give at once and one leaves to the receiver.
-/

set_option autoImplicit false

namespace CacheFill

/-- A message, and whether acknowledging it has an effect. -/
structure Delivery (M : Type) where
  message : M
  settles : Bool
  deriving DecidableEq, Repr

structure Channel (M : Type) where
  queue : List (Delivery M)
  isOpen : Bool
  /-- The messages acknowledged so far. -/
  acknowledged : List M
  deriving DecidableEq, Repr

namespace Channel

variable {M : Type}

def create : Channel M := ⟨[], true, []⟩

instance : Inhabited (Channel M) := ⟨create⟩

/-- Sends unless the channel is closed; says whether it did. -/
def send (channel : Channel M) (delivery : Delivery M) : Bool × Channel M :=
  if channel.isOpen then (true, { channel with queue := channel.queue ++ [delivery] })
  else (false, channel)

def close (channel : Channel M) : Channel M := { channel with isOpen := false }

def acknowledge (channel : Channel M) (delivery : Delivery M) : Channel M :=
  if delivery.settles then
    { channel with acknowledged := channel.acknowledged ++ [delivery.message] }
  else channel

/-- Why there is nothing to receive. `idle` is the error while more may come. -/
def nothing (channel : Channel M) (idle : ReceiveError) : ReceiveError :=
  if channel.isOpen then idle else .disconnected

/-- Takes the next delivery and leaves acknowledging it to the receiver. -/
def receiveDelivery (channel : Channel M) (idle : ReceiveError) :
    Except ReceiveError (Delivery M × Channel M) :=
  match channel.queue with
  | [] => .error (channel.nothing idle)
  | delivery :: rest => .ok (delivery, { channel with queue := rest })

/-- Takes and acknowledges the next message. -/
def receive (channel : Channel M) (idle : ReceiveError) :
    Except ReceiveError (M × Channel M) :=
  match channel.receiveDelivery idle with
  | .error error => .error error
  | .ok (delivery, channel) => .ok (delivery.message, channel.acknowledge delivery)

/-- Takes and acknowledges everything that waits. -/
def drain (channel : Channel M) : List M × Channel M :=
  (channel.queue.map (·.message),
    channel.queue.foldl acknowledge { channel with queue := [] })

end Channel

end CacheFill
