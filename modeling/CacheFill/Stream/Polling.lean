import CacheFill.Stream.Poller

/-!
A poller at work. It connects, and then goes round after round until one of them fails or finds the
subscriber gone. The server answers as it likes. The subscriber acknowledges or drops its deliveries
in any order and at any time, and leaves when it likes; what it has acknowledged waits until the
poller collects it.
-/

set_option autoImplicit false

namespace CacheFill.Stream

/-- How often a poller looks for idle entries, in milliseconds. -/
def claimMillis : Nat := 5000

namespace Polling

inductive Event (M : Type) where
  | connected (isReachable : Bool)
  | began (isClaimDue : Bool)
  | answered (command : Command) (response : Response)
  | collected (ids : List String)
  | delivered (id : String) (message : M) (isTaken : Bool)
  /-- The subscriber acknowledges a delivery. -/
  | acknowledged (id : String)
  | left

/-- What may come next: a step of the poller with what it meets, or an act of the subscriber. -/
inductive Move where
  | connect (isReachable : Bool)
  /-- The next round begins, so many milliseconds after some point in time. -/
  | begin (now : Nat)
  | answer (response : Response)
  | collect
  | deliver
  | acknowledge (place : Nat)
  | drop (place : Nat)
  | leave

end Polling

structure Polling (M : Type) where
  /-- What is left of the round. -/
  rest : Session M RoundEnd
  claimedAt : Option Nat
  /-- The entries of the deliveries that the subscriber has in hand. -/
  held : List String
  /-- What the subscriber has acknowledged and the poller not collected. -/
  acknowledged : List String
  isSubscribed : Bool
  /-- What happened, the oldest first. -/
  history : List (Polling.Event M)

namespace Polling

variable {M : Type}

/-- A poller connects before its first round. -/
def opening : Session M RoundEnd :=
  .connect fun isReachable => .done (if isReachable then .again else .failed)

def start : Polling M := ⟨opening, none, [], [], true, []⟩

def record (polling : Polling M) (event : Event M) : Polling M :=
  { polling with history := polling.history ++ [event] }

/-- Makes a move; one that cannot be made changes nothing. -/
def make (poller : Poller) (reader : Reader M) (polling : Polling M) : Move → Polling M
  | .connect isReachable =>
      match polling.rest with
      | .connect next => { polling with rest := next isReachable }.record (.connected isReachable)
      | _ => polling
  | .begin now =>
      match polling.rest with
      | .done .again =>
          let isDue := polling.claimedAt.all fun before => before + claimMillis ≤ now
          { polling with
            rest := poller.round reader isDue
            claimedAt := if isDue then some now else polling.claimedAt }.record (.began isDue)
      | _ => polling
  | .answer response =>
      match polling.rest with
      | .send command next =>
          { polling with rest := next response }.record (.answered command response)
      | _ => polling
  | .collect =>
      match polling.rest with
      | .collect next =>
          { polling with rest := next polling.acknowledged, acknowledged := [] }.record
            (.collected polling.acknowledged)
      | _ => polling
  | .deliver =>
      match polling.rest with
      | .deliver id message next =>
          { polling with
            rest := next polling.isSubscribed
            held := if polling.isSubscribed then polling.held ++ [id] else polling.held }.record
              (.delivered id message polling.isSubscribed)
      | _ => polling
  | .acknowledge place =>
      match polling.held[place]? with
      | some id =>
          { polling with
            held := polling.held.eraseIdx place
            acknowledged := polling.acknowledged ++ [id] }.record (.acknowledged id)
      | none => polling
  | .drop place => { polling with held := polling.held.eraseIdx place }
  | .leave => { polling with isSubscribed := false }.record .left

/-- A poller at work after so many moves. -/
def run (poller : Poller) (reader : Reader M) (moves : List Move) : Polling M :=
  moves.foldl (make poller reader) start

end Polling

end CacheFill.Stream
