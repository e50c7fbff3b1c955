import CacheFill.Stream.Command
import CacheFill.Stream.Reply

/-!
What a client does with a stream server and a subscriber, as data: commands with their replies, and
messages with what becomes of them. A session can be run against any server and any subscriber.
-/

set_option autoImplicit false

namespace CacheFill.Stream

/-- What is done, one step after the other, each with what follows from the answer. -/
inductive Session (M α : Type) where
  | done (result : α)
  /-- Connects to the server; the answer is false if it cannot be reached. -/
  | connect (next : Bool → Session M α)
  | send (command : Command) (next : Response → Session M α)
  /-- Collects the identifiers that the subscriber has acknowledged since the last time. -/
  | collect (next : List String → Session M α)
  /-- Delivers a message; the answer is false if the subscriber is gone. -/
  | deliver (id : String) (message : M) (next : Bool → Session M α)

namespace Session

variable {M α β : Type}

/-- Goes on with a result. -/
protected def bind : Session M α → (α → Session M β) → Session M β
  | .done result, next => next result
  | .connect rest, next => .connect fun isConnected => (rest isConnected).bind next
  | .send command rest, next => .send command fun response => (rest response).bind next
  | .collect rest, next => .collect fun ids => (rest ids).bind next
  | .deliver id message rest, next =>
      .deliver id message fun isAlive => (rest isAlive).bind next

instance : Monad (Session M) where
  pure := .done
  bind := Session.bind

end Session

end CacheFill.Stream
