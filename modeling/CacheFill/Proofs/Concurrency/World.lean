import CacheFill.Service.Backend
import CacheFill.Service.Sweep
import CacheFill.Service.View

/-!
Operations of the service that run side by side. A world is a backend with the calls that were made
on it; one move starts a call, lets one call make its next access, or sets the clock. Moves come in
any order, so that calls interleave access by access. A loader runs for as long as other calls go on
between the access before its call and the one after it, and what it does to the stores it does by
calls of its own.
-/

set_option autoImplicit false

namespace CacheFill

inductive Operation where
  | read (type : LoadType) (key : String)
  | save (type : LoadType) (key : String) (data : Json)
  | remove (type : LoadType) (key : String)
  | update (type : LoadType) (key : String)
  | schedule (type : LoadType) (key : String) (task : TaskId)
  | handle (message : Dispatch)
  | sweep

inductive Reply where
  | entry (entry : CacheEntry Json)
  | done
  | started (task : TaskId)
  | handled (outcome : Outcome)
  | swept (report : Option SweepReport)

namespace Operation

/-- The program of an operation; callers see values as JSON. -/
def program (service : Service) : Operation → Program Reply
  | .read type key => ((View.json type).get key).bind fun entry => .done (.entry entry)
  | .save type key data => ((View.json type).save key data).bind fun _ => .done .done
  | .remove type key => ((View.json type).remove key).bind fun _ => .done .done
  | .update type key =>
      ((View.json type).update service key).bind fun task => .done (.started task)
  | .schedule type key task => (service.schedule type key task).bind fun _ => .done .done
  | .handle message => (service.handle message).bind fun outcome => .done (.handled outcome)
  | .sweep => service.sweepOnce.bind fun report => .done (.swept report)

/-- Calls that create a task. -/
def isSchedule : Operation → Bool
  | .schedule _ _ _ | .update _ _ => true
  | _ => false

def isHandle : Operation → Bool
  | .handle _ => true
  | _ => false

def isSweep : Operation → Bool
  | .sweep => true
  | _ => false

end Operation

/-- An access that was made, with its answer. -/
structure Step where
  access : Access
  answer : access.Answer

/-- A step, and the number of the call that made it. -/
structure Event where
  call : Nat
  step : Step

/-- A call of an operation, and what is left of its program. -/
structure Call where
  service : Service
  operation : Operation
  rest : Program Reply

namespace Call

def IsRunning (call : Call) : Prop :=
  ∃ (access : Access) (next : access.Answer → Program Reply), call.rest = .perform access next

/-- What a sweep has reported at its end. -/
def report? (call : Call) : Option SweepReport :=
  match call.rest with
  | .done (.swept report) => report
  | _ => none

end Call

/-- What an access meets besides the shared state. -/
structure Surroundings where
  /-- How a loader answers that is called. -/
  loaded : LoaderAnswer
  /-- Why the bus of dispatches is out, if it is. -/
  noDispatch : Option String
  /-- Why the bus of notifications is out, if it is. -/
  noNotification : Option String
  /-- Whether a sweep is let in: each sweeper has a guard of its own. -/
  admits : Bool

namespace Surroundings

/-- Nothing is out, and a loader that is called finishes. -/
def calm : Surroundings := ⟨.finished, none, none, true⟩

instance : Inhabited Surroundings := ⟨calm⟩

/-- How accesses are answered in these surroundings. -/
def perform (surroundings : Surroundings) : Performer Backend
  | .publish topic message, backend =>
      match surroundings.noDispatch with
      | some reason => (.error reason, backend)
      | none => Backend.perform (fun _ => surroundings.loaded) (.publish topic message) backend
  | .announce topic notification, backend =>
      match surroundings.noNotification with
      | some reason => (.error reason, backend)
      | none => Backend.perform (fun _ => surroundings.loaded) (.announce topic notification) backend
  | .enterSweep, backend => (surroundings.admits, backend)
  | .leaveSweep, backend => ((), backend)
  | access, backend => Backend.perform (fun _ => surroundings.loaded) access backend

end Surroundings

/-- The shared state, the calls in the order of their start, and their steps, the oldest first. -/
structure World where
  backend : Backend
  calls : List Call
  history : List Event

inductive Move where
  | start (service : Service) (operation : Operation)
  /-- The call with this number makes its next access. -/
  | advance (call : Nat) (surroundings : Surroundings)
  | setClock (now : Instant)

namespace World

def opening (backend : Backend) : World := ⟨backend, [], []⟩

def make (world : World) : Move → World
  | .start service operation =>
      { world with calls := world.calls ++ [⟨service, operation, operation.program service⟩] }
  | .advance number surroundings =>
      match world.calls[number]? with
      | none => world
      | some call =>
          match call.rest with
          | .done _ | .fail _ => world
          | .perform access next =>
              let (answer, backend) := surroundings.perform access world.backend
              { backend
                calls := world.calls.set number { call with rest := next answer }
                history := world.history ++ [⟨number, access, answer⟩] }
  | .setClock now => { world with backend := { world.backend with now } }

def run (world : World) (moves : List Move) : World := moves.foldl make world

/-- The worlds that come about from a first one by moves that are fair where they are made. -/
inductive Reaches (fair : World → Move → Prop) (first : World) : World → Prop
  | here : Reaches fair first first
  | next {world : World} (reached : Reaches fair first world) (move : Move)
      (isFair : fair world move) : Reaches fair first (world.make move)

def anyMove : World → Move → Prop := fun _ _ => True

/-- Moves by which all calls are made on services that fit. -/
def MovesOf (fits : Service → Prop) (_ : World) : Move → Prop
  | .start service _ => fits service
  | .advance _ _ => True
  | .setClock _ => True

instance {fits : Service → Prop} [DecidablePred fits] (world : World) (move : Move) :
    Decidable (MovesOf fits world move) :=
  match move with
  | .start service _ => inferInstanceAs (Decidable (fits service))
  | .advance _ _ | .setClock _ => .isTrue trivial

theorem movesOf_any {world : World} {move : Move} : MovesOf (fun _ => True) world move := by
  cases move <;> trivial

variable {fair : World → Move → Prop}

theorem Reaches.trans {first middle last : World} (before : Reaches fair first middle)
    (after : Reaches fair middle last) : Reaches fair first last := by
  induction after with
  | here => exact before
  | next _ move isFair ih => exact .next ih move isFair

/-- Moves that are each fair in the world that the ones before them lead to. -/
def AllFair (fair : World → Move → Prop) : World → List Move → Prop
  | _, [] => True
  | world, move :: rest => fair world move ∧ AllFair fair (world.make move) rest

instance decidableAllFair [∀ world move, Decidable (fair world move)] :
    (world : World) → (moves : List Move) → Decidable (AllFair fair world moves)
  | _, [] => .isTrue trivial
  | world, move :: rest =>
      have : Decidable (AllFair fair (world.make move) rest) := decidableAllFair _ rest
      inferInstanceAs (Decidable (_ ∧ _))

theorem allFair_any {world : World} {moves : List Move} : AllFair anyMove world moves := by
  induction moves generalizing world with
  | nil => trivial
  | cons move rest ih => exact ⟨trivial, ih⟩

theorem AllFair.and {other : World → Move → Prop} {world : World} {moves : List Move}
    (first : AllFair fair world moves) (second : AllFair other world moves) :
    AllFair (fun world move => fair world move ∧ other world move) world moves := by
  induction moves generalizing world with
  | nil => trivial
  | cons move rest ih => exact ⟨⟨first.1, second.1⟩, ih first.2 second.2⟩

theorem Reaches.run {world : World} {moves : List Move} (allFair : AllFair fair world moves) :
    Reaches fair world (world.run moves) := by
  induction moves generalizing world with
  | nil => exact .here
  | cons move rest ih =>
      have one : Reaches fair world (world.make move) := .next .here move allFair.1
      exact one.trans (ih allFair.2)

/-- The steps that one call has made, the oldest first. -/
def steps (world : World) (number : Nat) : List Step :=
  world.history.filterMap fun event => if event.call = number then some event.step else none

theorem mem_steps {world : World} {number : Nat} {step : Step} :
    step ∈ world.steps number ↔ ⟨number, step⟩ ∈ world.history := by
  simp only [steps, List.mem_filterMap, Option.ite_none_right_eq_some, Option.some.injEq]
  constructor
  · rintro ⟨event, member, rfl, rfl⟩
    exact member
  · intro member
    exact ⟨_, member, rfl, rfl⟩

theorem steps_snoc (history : List Event) (backend : Backend) (calls : List Call) (number : Nat)
    (event : Event) :
    steps ⟨backend, calls, history ++ [event]⟩ number =
      if event.call = number then steps ⟨backend, calls, history⟩ number ++ [event.step]
      else steps ⟨backend, calls, history⟩ number := by
  unfold steps
  rw [List.filterMap_append]
  by_cases own : event.call = number <;> simp [own]

def trace (world : World) : List Step := world.history.map (·.step)

theorem mem_trace_of_mem_steps {world : World} {number : Nat} {step : Step}
    (member : step ∈ world.steps number) : step ∈ world.trace :=
  List.mem_map.mpr ⟨_, mem_steps.mp member, rfl⟩

end World

def Service.single : Service :=
  { (default : Service) with loaders := Table.empty.insert default .storing }

namespace World

/-- A task is scheduled, by the first call of all. -/
def scheduling : List Move :=
  [.start .single (.schedule default "" default), .advance 0 .calm, .advance 0 .calm,
    .advance 0 .calm]

/-- Two workers handle its dispatch at a time. The second one wins the write, after which the first
one ends; it announces the result in the surroundings that are given. -/
def race (first second : Nat) (announcing : Surroundings) : List Move :=
  [.start .single (.handle ⟨default, "", default, 0⟩),
    .start .single (.handle ⟨default, "", default, 0⟩), .advance first .calm] ++
  List.replicate 5 (.advance second .calm) ++ List.replicate 4 (.advance first .calm) ++
  List.replicate 2 (.advance second announcing)

/-- The world after a task was scheduled and handled in a race. -/
def raced : World := (opening default).run (scheduling ++ race 1 2 .calm)

def raceResult : Record := ⟨default, default, "", .loaded ⟨default, 1⟩, 2, none⟩

/-- A task is scheduled and handled, but the loader fails for now. It is swept when its retry is due,
and handled again. -/
def retrying : List Move :=
  scheduling ++
  [.start .single (.handle ⟨default, "", default, 0⟩)] ++
  List.replicate 5 (.advance 1 { Surroundings.calm with loaded := .failed (.transient "" none) }) ++
  [.setClock .latest, .start .single .sweep] ++ List.replicate 9 (.advance 2 .calm) ++
  [.start .single (.handle ⟨default, "", default, 2⟩)] ++ List.replicate 6 (.advance 3 .calm)

/-- The world after the second execution of a task went well. -/
def retried : World := (opening default).run retrying

/-- Two sweepers are let in at a time, the second one when the clock shows a later time. Both are
shown what is due before either of them goes on. -/
def sweeping (first second : Nat) (later : Instant) : List Move :=
  [.start .single .sweep, .start .single .sweep] ++ List.replicate 5 (.advance first .calm) ++
  .setClock later :: List.replicate 5 (.advance second .calm)

end World

end CacheFill
