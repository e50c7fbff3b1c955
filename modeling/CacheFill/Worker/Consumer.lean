import CacheFill.Bus.Channel
import CacheFill.Log
import CacheFill.Time.Duration

/-!
Consumers take the messages of a subscription one after the other. A message is acknowledged after
its handler succeeded; a failing handler is called again a few times, with a growing pause in
between. A consumer ends when it sees a request to stop or when no message can come any more.

A consumer looks for a request to stop before it waits for a message and in each pause. A run is
given by what arrives in each wait and by the looks that find a request.
-/

set_option autoImplicit false

namespace CacheFill.Consumer

/-- How often the handler is called for a message at most. -/
def callLimit : Nat := 3

/-- The pause after a failed call. -/
def pause (call : Nat) : Duration := .ofMillis (50 * call)

/-- A handler with a state: the text of its error, or none if it succeeds. -/
abbrev Handler (σ M : Type) := M → σ → Option String × σ

/-- What a consumer does with a message. -/
inductive Event (M : Type) where
  /-- A call of the handler, with the text of its error if it fails. -/
  | called (message : M) (error : Option String)
  | acknowledged (message : M)
  deriving DecidableEq, Repr

/-- What a consumer has done so far. -/
structure Progress (σ M : Type) where
  state : σ
  /-- How often it looked for a request to stop. -/
  looks : Nat
  /-- The oldest first. -/
  events : List (Event M)
  log : List Log.Line

/-- How handling a message ends. -/
inductive Ending where
  | done
  | gaveUp
  | stopped
  deriving DecidableEq, Repr

variable {σ M : Type}

namespace Event

/-- The message that the handler is called for. -/
def called? : Event M → Option M
  | .called message _ => some message
  | .acknowledged _ => none

def acknowledged? : Event M → Option M
  | .called _ _ => none
  | .acknowledged message => some message

end Event

namespace Progress

def start (state : σ) : Progress σ M := ⟨state, 0, [], []⟩

/-- The message of each call of the handler. -/
def calls (progress : Progress σ M) : List M := progress.events.filterMap Event.called?

def acknowledged (progress : Progress σ M) : List M :=
  progress.events.filterMap Event.acknowledged?

def addLine (progress : Progress σ M) (line : Log.Line) : Progress σ M :=
  { progress with log := progress.log ++ [line] }

/-- Looks for a request to stop. -/
def look (progress : Progress σ M) (stop : Nat → Bool) : Bool × Progress σ M :=
  (stop progress.looks, { progress with looks := progress.looks + 1 })

/-- Calls the handler. -/
def call (progress : Progress σ M) (handler : Handler σ M) (message : M) :
    Option String × Progress σ M :=
  let (error, state) := handler message progress.state
  (error, { progress with state, events := progress.events ++ [.called message error] })

def acknowledge (progress : Progress σ M) (message : M) : Progress σ M :=
  { progress with events := progress.events ++ [.acknowledged message] }

end Progress

def callFields (name : String) (call : Nat) (error : String) : List (String × Log.Value) :=
  [("worker", .text name), ("call", .number call), ("error", .text error)]

/-- Calls the handler for a message until it succeeds, with this many calls left. -/
def handle (name : String) (handler : Handler σ M) (stop : Nat → Bool) (message : M) :
    Nat → Progress σ M → Ending × Progress σ M
  | 0, progress => (.gaveUp, progress)
  | left + 1, progress =>
      match progress.call handler message with
      | (none, progress) => (.done, progress)
      | (some error, progress) =>
          let fields := callFields name (callLimit - left) error
          if left = 0 then
            (.gaveUp, progress.addLine
              (Log.error "consumer worker handler failed; leaving message unacknowledged" fields))
          else
            let progress := progress.addLine
              (Log.warn "consumer worker handler failed; retrying" fields)
            match progress.look stop with
            | (true, progress) => (.stopped, progress)
            | (false, progress) => handle name handler stop message left progress

/-- Takes messages. A wait brings a delivery or nothing; after the last wait no message can come any
more. -/
def consume (name : String) (handler : Handler σ M) (stop : Nat → Bool) :
    List (Option (Delivery M)) → Progress σ M → Progress σ M
  | waits, progress =>
      match progress.look stop with
      | (true, progress) => progress
      | (false, progress) =>
          match waits with
          | [] => progress
          | none :: rest => consume name handler stop rest progress
          | some delivery :: rest =>
              match handle name handler stop delivery.message callLimit progress with
              | (.stopped, progress) => progress
              | (.gaveUp, progress) => consume name handler stop rest progress
              | (.done, progress) =>
                  consume name handler stop rest
                    (if delivery.settles then progress.acknowledge delivery.message else progress)

def startLine (name : String) : Log.Line :=
  Log.info "consumer worker started" [("worker", .text name)]

def stopLine (name : String) : Log.Line :=
  Log.info "consumer worker stopped" [("worker", .text name)]

/-- A whole run of a consumer. -/
def run (name : String) (handler : Handler σ M) (stop : Nat → Bool)
    (waits : List (Option (Delivery M))) (state : σ) : Progress σ M :=
  (consume name handler stop waits ((Progress.start state).addLine (startLine name))).addLine
    (stopLine name)

end CacheFill.Consumer
