import CacheFill.Bus.Partition
import CacheFill.Table

/-!
A bus in memory. Each topic is split into partitions; a subscription gets what is published to its
partition from then on. The first subscription of a group to a partition also gets the messages that
the partition retained.
-/

set_option autoImplicit false

namespace CacheFill

/-- One partition of a topic. -/
structure Partition (M : Type) where
  retained : List M
  published : Nat
  /-- The groups that have subscribed so far. -/
  groups : List String

structure BusSubscription (M : Type) where
  topic : String
  partition : UInt32
  /-- Messages delivered and not yet taken. -/
  pending : List M

/-- A partition number beyond the partitions of a topic. -/
structure PartitionError where
  partition : UInt32
  count : UInt32
  deriving DecidableEq, Repr

def PartitionError.message (error : PartitionError) : String :=
  "partition " ++ toString error.partition.toNat ++ " out of range (topic has " ++
    toString error.count.toNat ++ ")"

/-- What a receiver that finds no message learns. -/
inductive ReceiveError where
  | empty
  | timeout
  | disconnected
  deriving DecidableEq, Repr

structure Bus (M : Type) where
  partitionCount : UInt32
  retention : Nat
  /-- The partitions in use; all others are empty. -/
  partitions : Table (String × UInt32) (Partition M)
  subscriptions : Table Nat (BusSubscription M)
  nextSubscription : Nat

namespace Bus

variable {M : Type}

def defaultRetention : Nat := 10000

/-- A bus without messages; a topic has one partition at least. -/
def create (partitionCount : UInt32) (retention : Nat) : Bus M :=
  ⟨max partitionCount 1, retention, .empty, .empty, 0⟩

instance : Inhabited (Bus M) := ⟨create 1 defaultRetention⟩

def partitionNumbers (bus : Bus M) : List UInt32 :=
  (List.range bus.partitionCount.toNat).map UInt32.ofNat

def partition (bus : Bus M) (topic : String) (number : UInt32) : Partition M :=
  (bus.partitions.get? (topic, number)).getD ⟨[], 0, []⟩

/-- The last messages of a list, as many as are retained. -/
def retain (limit : Nat) (messages : List M) : List M := messages.drop (messages.length - limit)

/-- Hands a message to a subscription to its topic and partition. -/
def BusSubscription.offer (subscription : BusSubscription M) (topic : String) (number : UInt32)
    (message : M) : BusSubscription M :=
  if subscription.topic = topic ∧ subscription.partition = number then
    { subscription with pending := subscription.pending ++ [message] }
  else subscription

/-- Publishes a message to the partition of its key. -/
def publish (bus : Bus M) (topic key : String) (message : M) : Bus M :=
  let number := Partition.ofKey key bus.partitionCount
  let partition := bus.partition topic number
  { bus with
    partitions := bus.partitions.insert (topic, number)
      { partition with
        retained := retain bus.retention (partition.retained ++ [message])
        published := partition.published + 1 }
    subscriptions := bus.subscriptions.mapValues fun subscription =>
      BusSubscription.offer subscription topic number message }

/-- Subscribes a group to a partition of a topic; gives the number of the subscription. -/
def subscribe (bus : Bus M) (topic group : String) (number : UInt32) :
    Except PartitionError (Nat × Bus M) :=
  if bus.partitionCount ≤ number then .error ⟨number, bus.partitionCount⟩
  else
    let partition := bus.partition topic number
    let isNew := !partition.groups.contains group
    .ok (bus.nextSubscription,
      { bus with
        partitions := bus.partitions.insert (topic, number)
          { partition with
            groups := if isNew then partition.groups ++ [group] else partition.groups }
        subscriptions := bus.subscriptions.insert bus.nextSubscription
          ⟨topic, number, if isNew then partition.retained else []⟩
        nextSubscription := bus.nextSubscription + 1 })

/-- Ends a subscription; what it has not taken is lost. A subscriber that is gone stays on the books
of the bus until the next message to its partition finds it gone. Here it is struck off at once: in
between nobody can take anything from it, so the two cannot be told apart. -/
def unsubscribe (bus : Bus M) (subscription : Nat) : Bus M :=
  { bus with subscriptions := bus.subscriptions.erase subscription }

def pending (bus : Bus M) (subscription : Nat) : List M :=
  ((bus.subscriptions.get? subscription).map (·.pending)).getD []

/-- Exchanges what a subscription has still to take. -/
def setPending (bus : Bus M) (subscription : Nat) (messages : List M) : Bus M :=
  match bus.subscriptions.get? subscription with
  | none => bus
  | some found =>
      { bus with
        subscriptions := bus.subscriptions.insert subscription { found with pending := messages } }

/-- Takes the next message of a subscription. -/
def take? (bus : Bus M) (subscription : Nat) : Option (M × Bus M) :=
  match bus.pending subscription with
  | [] => none
  | message :: rest => some (message, bus.setPending subscription rest)

/-- Takes all messages that wait for a subscription. -/
def drain (bus : Bus M) (subscription : Nat) : List M × Bus M :=
  (bus.pending subscription, bus.setPending subscription [])

/-- How many messages were published to a topic. -/
def publishedCount (bus : Bus M) (topic : String) : Nat :=
  bus.partitions.entries.foldl
    (fun count (place, partition) =>
      if place.1 = topic then count + partition.published else count) 0

end Bus

end CacheFill
