import CacheFill.Stream.Entry
import CacheFill.Stream.Session

/-!
The poller behind a subscription to a stream. It goes round after round: it acknowledges what the
subscriber has acknowledged, takes over idle entries or reads new ones, and delivers their messages.
Entries that were delivered too often and entries without a message are acknowledged undelivered. A
round that fails ends the connection.
-/

set_option autoImplicit false

namespace CacheFill.Stream

/-- Who polls which stream for which group. -/
structure Poller where
  stream : String
  group : String
  consumer : String
  deriving DecidableEq, Repr

/-- An entry that was delivered but not acknowledged, as a server lists it. -/
structure PendingRow where
  id : String
  consumer : String
  /-- Milliseconds since it was delivered last. -/
  idle : Nat
  deliveries : Nat
  deriving DecidableEq, Repr

/-- What a poller keeps of such an entry. -/
structure PendingEntry where
  id : String
  deliveries : Nat
  deriving DecidableEq, Repr

def PendingEntry.isExhausted (entry : PendingEntry) : Bool := deliveryLimit < entry.deliveries

namespace PendingRow

def entry (row : PendingRow) : PendingEntry := ⟨row.id, row.deliveries⟩

/-- Rows that come without a list of their own: the parts of each, one after the other. -/
def ofParts? : List Reply → Option (List PendingRow)
  | id :: consumer :: idle :: deliveries :: rest => do
      let id ← id.text?
      let consumer ← consumer.text?
      let idle ← idle.count?
      let deliveries ← deliveries.count?
      return ⟨id, consumer, idle, deliveries⟩ :: (← ofParts? rest)
  | _ => some []

/-- The rows in a flat list. -/
def ofFlat? : Reply → Option (List PendingRow)
  | .nil => some []
  | .items values => ofParts? values
  | _ => none

end PendingRow

/-- What a poller relies on to read what it is sent. -/
structure Reader (M : Type) where
  /-- The message in a payload. -/
  decode : String → Option M
  /-- The rows of a list of pending entries. The client library reads them, and each has its own way
  to do so: servers send a list for each row, and some libraries want a flat one. -/
  rows? : Reply → Option (List PendingRow)

/-- The entries in a list of pending ones. -/
def Reader.pending? {M : Type} (reader : Reader M) (reply : Reply) : Option (List PendingEntry) :=
  (reader.rows? reply).map fun rows => rows.map PendingRow.entry

/-- How a round ends. -/
inductive RoundEnd where
  | again
  | failed
  | subscriberGone
  deriving DecidableEq, Repr

namespace Poller

variable {M : Type} (poller : Poller) (reader : Reader M)

/-- Acknowledges entries, if there are any; says whether that succeeded. -/
def acknowledge (ids : List String) : Session M Bool :=
  if ids.isEmpty then .done true
  else
    .send (.acknowledge poller.stream poller.group ids) fun response =>
      .done (response.toOption.bind Reply.count?).isSome

/-- The entries of a stream in the reply to a read; they come with its name. -/
def streamEntries? : Reply → Option (List Reply)
  | .items [_, .items entries] => some entries
  | _ => none

/-- The entries in the reply to a read: those of all streams in it. -/
def readEntries? : Reply → Option (List Reply)
  | .nil => some []
  | .items streams => (streams.mapM streamEntries?).map List.flatten
  | _ => none

/-- Reads new entries; none if that fails. -/
def read : Session M (Option (List Reply)) :=
  .send (.read poller.stream poller.group poller.consumer) fun response =>
    .done (response.toOption.bind readEntries?)

/-- Takes over entries. -/
def claim (ids : List String) : Session M (Option (List Reply)) :=
  if ids.isEmpty then .done (some [])
  else
    .send (.claim poller.stream poller.group poller.consumer ids) fun response =>
      .done (response.toOption.bind Reply.list?)

/-- Takes over idle entries and gives up those that were delivered too often; none if something
fails. -/
def claimIdle : Session M (Option (List Reply)) :=
  .send (.pending poller.stream poller.group) fun response =>
    match response.toOption.bind reader.pending? with
    | none => .done none
    | some pending => do
        let (exhausted, claimable) := pending.partition PendingEntry.isExhausted
        if ← poller.acknowledge (exhausted.map (·.id)) then
          poller.claim (claimable.map (·.id))
        else return none

/-- Delivers messages until the subscriber is gone; what it acknowledged before is passed on. -/
def deliverAll : List (String × M) → Session M RoundEnd
  | [] => .done .again
  | (id, message) :: rest =>
      .deliver id message fun isAlive =>
        if isAlive then deliverAll rest
        else .collect fun ids => do
          let _ ← poller.acknowledge ids
          return .subscriberGone

/-- One round; it claims idle entries instead of reading if that is due. -/
def round (isClaimDue : Bool) : Session M RoundEnd :=
  .collect fun ids => do
    let _ ← poller.acknowledge ids
    match ← if isClaimDue then poller.claimIdle reader else poller.read with
    | none => return .failed
    | some entries =>
        let batch := Batch.decode reader.decode entries
        let _ ← poller.acknowledge batch.rejected
        poller.deliverAll batch.messages

end Poller

end CacheFill.Stream
