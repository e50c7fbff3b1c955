import CacheFill.Stream.Bus

/-!
A rehearsal of a bus on a stream server: a scripted server answers the commands, and a subscriber
takes the messages. While the server holds back the reply to a read, the subscriber looks at what
was delivered before and acknowledges it, or not. A reply that cannot be taken in blocks its
connection: it and all that come after it are errors.
-/

set_option autoImplicit false

namespace CacheFill

open CacheFill.Stream

/-- The replies of a scripted server. -/
structure Broker where
  isReachable : Bool
  onAdd : Response
  onCreate : Response
  onPending : Response
  onClaim : Response
  /-- The replies to reads, one after the other; all further reads find nothing. -/
  onRead : List Response
  /-- The reply to acknowledgements, if it is not their number. -/
  onAcknowledge : Option Response

namespace Broker

/-- What can be seen of a rehearsal. -/
inductive Event where
  | command (command : Command)
  | delivered (message : Dispatch) (isAcknowledged : Bool)
  | disconnected
  deriving DecidableEq

structure Course where
  broker : Broker
  /-- Whether the next messages are acknowledged; all further ones are. -/
  decisions : List Bool
  /-- Messages that the subscriber has not looked at. -/
  unseen : List (String × Dispatch)
  /-- What the subscriber has acknowledged and the poller not collected. -/
  acknowledged : List String
  events : List Event
  /-- A reply blocks the connection. -/
  isBlocked : Bool

namespace Course

def start (broker : Broker) (decisions : List Bool) : Course :=
  ⟨broker, decisions, [], [], [], false⟩

/-- Lets the subscriber look at a message. -/
def look (course : Course) (entry : String × Dispatch) : Course :=
  let decision := course.decisions.head?.getD true
  { course with
    decisions := course.decisions.tail
    acknowledged :=
      if decision then course.acknowledged ++ [entry.1] else course.acknowledged
    events := course.events ++ [.delivered entry.2 decision] }

def lookAll (course : Course) : Course :=
  { course.unseen.foldl look course with unseen := [] }

/-- Answers a command. -/
def respond (course : Course) (command : Command) : Response × Course :=
  let course := match command with
    | .read _ _ _ => course.lookAll
    | _ => course
  let course := { course with events := course.events ++ [.command command] }
  let broker := course.broker
  match command with
  | .add _ _ _ => (broker.onAdd, course)
  | .create _ _ => (broker.onCreate, course)
  | .pending _ _ => (broker.onPending, course)
  | .claim _ _ _ _ => (broker.onClaim, course)
  | .acknowledge _ _ ids => (broker.onAcknowledge.getD (.ok (.number ids.length)), course)
  | .read _ _ _ =>
      (broker.onRead.head?.getD (.ok .nil),
        { course with broker := { broker with onRead := broker.onRead.tail } })

/-- What arrives of a response. -/
def receive (course : Course) (response : Response) : Response × Course :=
  let isSound := match response with
    | .ok reply => reply.isSound Reply.depthLimit
    | .error _ => true
  if isSound && !course.isBlocked then (response, course)
  else (.error "invalid reply", { course with isBlocked := true })

/-- Runs a session. The subscriber stays until the end. -/
def run {α : Type} (course : Course) : Session Dispatch α → α × Course
  | .done result => (result, course)
  | .connect next => run { course with isBlocked := false } (next course.broker.isReachable)
  | .send command next =>
      let (response, course) := course.respond command
      let (response, course) := course.receive response
      run course (next response)
  | .collect next => run { course with acknowledged := [] } (next course.acknowledged)
  | .deliver id message next =>
      run { course with unseen := course.unseen ++ [(id, message)] } (next true)

/-- Goes so many rounds, or up to the first that fails; says whether none did. -/
def reads (poller : Poller) : Nat → Course → Bool × Course
  | 0, course => (true, course)
  | rounds + 1, course =>
      match course.run (poller.round StreamBus.reader false) with
      | (.again, course) => reads poller rounds course
      | (_, course) => (false, { course with events := course.events ++ [.disconnected] })

/-- A first round, which claims idle entries, and a round for each scripted read and for two reads
that find nothing. -/
def consume (poller : Poller) (course : Course) : Bool × Course :=
  match course.run (poller.round StreamBus.reader true) with
  | (.again, course) => course.reads poller (course.broker.onRead.length + 2)
  | (_, course) => (false, { course with events := course.events ++ [.disconnected] })

end Course

end Broker

end CacheFill
