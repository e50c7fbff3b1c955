import CacheFill.Proofs.Justified
import CacheFill.Proofs.Stream.Reports
import Mathlib.Data.List.Chain
import Mathlib.Data.List.Infix
import Mathlib.Data.List.Perm.Subperm

/-!
What a poller acknowledges and delivers, whatever the server answers and the subscriber does. A round
passes through phases; `Advances` says what may happen in each, and the rest follows from it. Main
statement: `polls_faithfully`.
-/

set_option autoImplicit false

namespace CacheFill.Stream

namespace Polling

variable {M : Type}

namespace Event

/-- The poller does it, and not the subscriber. -/
def isOwn : Event M → Bool
  | .acknowledged _ | .left => false
  | .connected _ | .began _ | .answered _ _ | .collected _ | .delivered _ _ _ => true

def collected? : Event M → Option (List String)
  | .collected ids => some ids
  | _ => none

def acknowledged? : Event M → Option String
  | .acknowledged id => some id
  | _ => none

/-- What the subscriber is handed. -/
def sent? : Event M → Option (String × M)
  | .delivered id message true => some (id, message)
  | _ => none

/-- The command that acknowledges entries, with its entries. -/
def settled? : Event M → Option (Command × List String)
  | .answered (.acknowledge stream group ids) _ => some (.acknowledge stream group ids, ids)
  | _ => none

/-- The entries that the poller has to acknowledge after what has happened. -/
def owed (reader : Reader M) (event : Event M) : List String :=
  event.collected?.getD [] ++ event.exhausted reader ++ event.rejected reader

def isCollection (event : Event M) : Bool := event.collected?.isSome

/-- A round begins, or the subscriber is found gone. -/
def opensCollection : Event M → Bool
  | .began _ => true
  | .delivered _ _ isTaken => !isTaken
  | .connected _ | .answered _ _ | .collected _ | .acknowledged _ | .left => false

end Event

def owedCommand? (poller : Poller) (ids : List String) : Option (Command × List String) :=
  if ids = [] then none else some (.acknowledge poller.stream poller.group ids, ids)

/-- One doing of the poller follows another: what is owed is acknowledged at once, and nothing else
ever is; and the acknowledgements of the subscriber are collected at the beginning of each round and
when the subscriber is found gone. -/
def Succeeds (poller : Poller) (reader : Reader M) (event next : Event M) : Prop :=
  next.settled? = owedCommand? poller (event.owed reader) ∧
    next.isCollection = event.opensCollection

/-- Where in its work a poller is. What it is about to acknowledge or claim is a first entry and some
more. -/
inductive Phase (M : Type) where
  | opening
  | idle
  | failed
  | gone (lost : List (String × M))
  | begun (isClaimDue : Bool)
  | settling (id : String) (more : List String) (isClaimDue : Bool)
  | fetching (isClaimDue : Bool)
  | resigning (id : String) (more claimable : List String)
  | claiming (id : String) (more : List String)
  | rejecting (id : String) (more : List String) (messages : List (String × M))
  | delivering (id : String) (message : M) (rest : List (String × M))
  | leaving (lost : List (String × M))
  | parting (id : String) (more : List String) (lost : List (String × M))

namespace Phase

def withMessages : List (String × M) → Phase M
  | [] => .idle
  | (id, message) :: rest => .delivering id message rest

def withBatch (batch : Batch M) : Phase M :=
  match batch.rejected with
  | [] => withMessages batch.messages
  | id :: more => .rejecting id more batch.messages

def withEntries (reader : Reader M) : Option (List Reply) → Phase M
  | none => .failed
  | some entries => withBatch (Batch.decode reader.decode entries)

def withCollected (isClaimDue : Bool) : List String → Phase M
  | [] => .fetching isClaimDue
  | id :: more => .settling id more isClaimDue

def withClaimable : List String → Phase M
  | [] => .idle
  | id :: more => .claiming id more

def withPending : Option (List PendingEntry) → Phase M
  | none => .failed
  | some pending =>
      let claimable := (pending.filter fun entry => !entry.isExhausted).map (·.id)
      match (pending.filter PendingEntry.isExhausted).map (·.id) with
      | [] => withClaimable claimable
      | id :: more => .resigning id more claimable

def withLast (lost : List (String × M)) : List String → Phase M
  | [] => .gone lost
  | id :: more => .parting id more lost

/-- The server has taken an acknowledgement. -/
def isDone (response : Response) : Bool := (response.toOption.bind Reply.count?).isSome

variable (poller : Poller) (reader : Reader M)

/-- What a round does with what it has fetched. -/
def handling : Option (List Reply) → Session M RoundEnd
  | none => .done .failed
  | some entries => do
      let batch := Batch.decode reader.decode entries
      let _ ← poller.acknowledge batch.rejected
      poller.deliverAll batch.messages

/-- What is left to do of the round. -/
def program : Phase M → Session M RoundEnd
  | .opening => Polling.opening
  | .idle => .done .again
  | .failed => .done .failed
  | .gone _ => .done .subscriberGone
  | .begun isClaimDue => poller.round reader isClaimDue
  | .settling id more isClaimDue =>
      .send (.acknowledge poller.stream poller.group (id :: more)) fun _ =>
        (if isClaimDue then poller.claimIdle reader else poller.read) >>= handling poller reader
  | .fetching isClaimDue =>
      (if isClaimDue then poller.claimIdle reader else poller.read) >>= handling poller reader
  | .resigning id more claimable =>
      .send (.acknowledge poller.stream poller.group (id :: more)) fun response =>
        if isDone response then poller.claim claimable >>= handling poller reader
        else .done .failed
  | .claiming id more => poller.claim (id :: more) >>= handling poller reader
  | .rejecting id more messages =>
      .send (.acknowledge poller.stream poller.group (id :: more)) fun _ =>
        poller.deliverAll messages
  | .delivering id message rest => poller.deliverAll ((id, message) :: rest)
  | .leaving _ => .collect fun ids => do
      let _ ← poller.acknowledge ids
      return .subscriberGone
  | .parting id more _ =>
      .send (.acknowledge poller.stream poller.group (id :: more)) fun _ => .done .subscriberGone

/-- What comes after a step of the poller. -/
inductive Advances (poller : Poller) (reader : Reader M) :
    Phase M → Event M → Phase M → Prop where
  | connected (isReachable : Bool) :
      Advances poller reader .opening (.connected isReachable)
        (if isReachable then .idle else .failed)
  | began (isClaimDue : Bool) :
      Advances poller reader .idle (.began isClaimDue) (.begun isClaimDue)
  | collected (isClaimDue : Bool) (ids : List String) :
      Advances poller reader (.begun isClaimDue) (.collected ids) (withCollected isClaimDue ids)
  | settled (id : String) (more : List String) (isClaimDue : Bool) (response : Response) :
      Advances poller reader (.settling id more isClaimDue)
        (.answered (.acknowledge poller.stream poller.group (id :: more)) response)
        (.fetching isClaimDue)
  | listed (response : Response) :
      Advances poller reader (.fetching true)
        (.answered (.pending poller.stream poller.group) response)
        (withPending (response.toOption.bind reader.pending?))
  | read (response : Response) :
      Advances poller reader (.fetching false)
        (.answered (.read poller.stream poller.group poller.consumer) response)
        (withEntries reader (response.toOption.bind Poller.readEntries?))
  | resigned (id : String) (more claimable : List String) (response : Response) :
      Advances poller reader (.resigning id more claimable)
        (.answered (.acknowledge poller.stream poller.group (id :: more)) response)
        (if isDone response then withClaimable claimable else .failed)
  | claimed (id : String) (more : List String) (response : Response) :
      Advances poller reader (.claiming id more)
        (.answered (.claim poller.stream poller.group poller.consumer (id :: more)) response)
        (withEntries reader (response.toOption.bind Reply.list?))
  | rejected (id : String) (more : List String) (messages : List (String × M))
      (response : Response) :
      Advances poller reader (.rejecting id more messages)
        (.answered (.acknowledge poller.stream poller.group (id :: more)) response)
        (withMessages messages)
  | taken (id : String) (message : M) (rest : List (String × M)) :
      Advances poller reader (.delivering id message rest) (.delivered id message true)
        (withMessages rest)
  | refused (id : String) (message : M) (rest : List (String × M)) :
      Advances poller reader (.delivering id message rest) (.delivered id message false)
        (.leaving ((id, message) :: rest))
  | left (lost : List (String × M)) (ids : List String) :
      Advances poller reader (.leaving lost) (.collected ids) (withLast lost ids)
  | parted (id : String) (more : List String) (lost : List (String × M)) (response : Response) :
      Advances poller reader (.parting id more lost)
        (.answered (.acknowledge poller.stream poller.group (id :: more)) response) (.gone lost)

/-- The entries that the poller is about to acknowledge. -/
def owes : Phase M → List String
  | .settling id more _ | .resigning id more _ | .rejecting id more _ | .parting id more _ =>
      id :: more
  | .opening | .idle | .failed | .gone _ | .begun _ | .fetching _ | .claiming _ _
  | .delivering _ _ _ | .leaving _ => []

def collects : Phase M → Bool
  | .begun _ | .leaving _ => true
  | .opening | .idle | .failed | .gone _ | .settling _ _ _ | .fetching _ | .resigning _ _ _
  | .claiming _ _ | .rejecting _ _ _ | .delivering _ _ _ | .parting _ _ _ => false

/-- The messages that wait for their delivery, or are not delivered any more. -/
def waiting : Phase M → List (String × M)
  | .rejecting _ _ messages => messages
  | .delivering id message rest => (id, message) :: rest
  | .gone lost | .leaving lost | .parting _ _ lost => lost
  | .opening | .idle | .failed | .begun _ | .settling _ _ _ | .fetching _ | .resigning _ _ _
  | .claiming _ _ => []

variable {poller reader}

theorem program_withMessages (messages : List (String × M)) :
    (withMessages messages).program poller reader = poller.deliverAll messages := by
  cases messages <;> rfl

theorem program_withEntries (entries : Option (List Reply)) :
    (withEntries reader entries).program poller reader = handling poller reader entries := by
  cases entries with
  | none => rfl
  | some entries =>
      simp only [withEntries, withBatch, handling]
      cases (Batch.decode reader.decode entries).rejected with
      | nil => exact program_withMessages _
      | cons id more => rfl

theorem program_withCollected (isClaimDue : Bool) (ids : List String) :
    (withCollected isClaimDue ids).program poller reader =
      ((poller.acknowledge ids : Session M Bool) >>= fun _ =>
        (if isClaimDue then poller.claimIdle reader else poller.read) >>= handling poller reader) := by
  cases ids <;> rfl

theorem program_withClaimable (ids : List String) :
    (withClaimable ids).program poller reader = (poller.claim ids >>= handling poller reader) := by
  cases ids <;> rfl

theorem program_withPending (pending : Option (List PendingEntry)) :
    (withPending pending).program poller reader =
      ((match pending with
        | none => .done none
        | some pending => do
            let (exhausted, claimable) := pending.partition PendingEntry.isExhausted
            if ← poller.acknowledge (exhausted.map (·.id)) then
              poller.claim (claimable.map (·.id))
            else return none) >>= handling poller reader) := by
  cases pending with
  | none => rfl
  | some pending =>
      simp only [withPending, List.partition_eq_filter_filter]
      cases (pending.filter PendingEntry.isExhausted).map (·.id) with
      | nil => exact program_withClaimable _
      | cons id more =>
          refine congrArg (Session.send _) (funext fun response => ?_)
          change _ = Session.bind (if isDone response = true then _ else _) _
          cases isDone response <;> rfl

theorem round_eq (isClaimDue : Bool) :
    poller.round reader isClaimDue = .collect fun ids =>
      (withCollected isClaimDue ids).program poller reader := by
  refine congrArg Session.collect (funext fun ids => ?_)
  rw [program_withCollected]
  cases isClaimDue <;> rfl

/-- A program goes on with a step of a phase and with the program of the next one. -/
def Goes (poller : Poller) (reader : Reader M) (phase : Phase M) :
    Session M RoundEnd → Prop
  | .done .again => ∀ isClaimDue, Advances poller reader phase (.began isClaimDue) (.begun isClaimDue)
  | .done .failed | .done .subscriberGone => True
  | .connect next => ∀ isReachable, ∃ later,
      Advances poller reader phase (.connected isReachable) later ∧
        next isReachable = later.program poller reader
  | .send command next => ∀ response, ∃ later,
      Advances poller reader phase (.answered command response) later ∧
        next response = later.program poller reader
  | .collect next => ∀ ids, ∃ later,
      Advances poller reader phase (.collected ids) later ∧
        next ids = later.program poller reader
  | .deliver id message next => ∀ isTaken, ∃ later,
      Advances poller reader phase (.delivered id message isTaken) later ∧
        next isTaken = later.program poller reader

theorem goes (phase : Phase M) : phase.Goes poller reader (phase.program poller reader) := by
  cases phase with
  | opening =>
      intro isReachable
      exact ⟨_, .connected isReachable, by cases isReachable <;> rfl⟩
  | idle => exact fun isClaimDue => .began isClaimDue
  | failed | gone _ => trivial
  | begun isClaimDue =>
      rw [program, round_eq]
      exact fun ids => ⟨_, .collected isClaimDue ids, rfl⟩
  | settling id more isClaimDue =>
      exact fun response => ⟨_, .settled id more isClaimDue response, rfl⟩
  | fetching isClaimDue =>
      cases isClaimDue with
      | true => exact fun response => ⟨_, .listed response, (program_withPending _).symm⟩
      | false => exact fun response => ⟨_, .read response, (program_withEntries _).symm⟩
  | resigning id more claimable =>
      intro response
      refine ⟨_, .resigned id more claimable response, ?_⟩
      dsimp only
      cases isDone response with
      | true => exact (program_withClaimable claimable).symm
      | false => rfl
  | claiming id more =>
      exact fun response => ⟨_, .claimed id more response, (program_withEntries _).symm⟩
  | rejecting id more messages =>
      exact fun response =>
        ⟨_, .rejected id more messages response, (program_withMessages messages).symm⟩
  | delivering id message rest =>
      intro isTaken
      cases isTaken with
      | true => exact ⟨_, .taken id message rest, (program_withMessages rest).symm⟩
      | false => exact ⟨_, .refused id message rest, rfl⟩
  | leaving lost =>
      intro ids
      exact ⟨_, .left lost ids, by cases ids <;> rfl⟩
  | parting id more lost => exact fun response => ⟨_, .parted id more lost response, rfl⟩

/-- A round that is over, except for a subscriber that is gone, has delivered everything. -/
theorem waiting_of_done {phase : Phase M} {ending : RoundEnd} (stays : ending ≠ .subscriberGone)
    (done : phase.program poller reader = .done ending) : phase.waiting = [] := by
  cases phase with
  | gone lost =>
      cases done
      exact absurd rfl stays
  | opening | idle | failed | begun _ | settling _ _ _ | resigning _ _ _ | claiming _ _ => rfl
  | fetching _ => rfl
  | rejecting _ _ _ | delivering _ _ _ | leaving _ | parting _ _ _ => cases done

section Laws

variable {phase next : Phase M} {event : Event M}

@[simp] theorem owes_withMessages (messages : List (String × M)) :
    (withMessages messages).owes = [] := by
  cases messages <;> rfl

@[simp] theorem collects_withMessages (messages : List (String × M)) :
    (withMessages messages).collects = false := by
  cases messages <;> rfl

@[simp] theorem waiting_withMessages (messages : List (String × M)) :
    (withMessages messages).waiting = messages := by
  cases messages <;> rfl

theorem withEntries_cases (entries : Option (List Reply)) :
    (withEntries reader entries).owes = (Batch.decode reader.decode (entries.getD [])).rejected ∧
      (withEntries reader entries).collects = false ∧
      (withEntries reader entries).waiting =
        (Batch.decode reader.decode (entries.getD [])).messages := by
  cases entries with
  | none => exact ⟨rfl, rfl, rfl⟩
  | some entries =>
      simp only [withEntries, withBatch, Option.getD_some]
      cases (Batch.decode reader.decode entries).rejected with
      | nil => simp
      | cons id more => exact ⟨rfl, rfl, rfl⟩

theorem withCollected_cases (isClaimDue : Bool) (ids : List String) :
    (withCollected isClaimDue ids : Phase M).owes = ids ∧
      (withCollected isClaimDue ids : Phase M).collects = false ∧
      (withCollected isClaimDue ids : Phase M).waiting = [] := by
  cases ids <;> exact ⟨rfl, rfl, rfl⟩

theorem withClaimable_cases (ids : List String) :
    (withClaimable ids : Phase M).owes = [] ∧ (withClaimable ids : Phase M).collects = false ∧
      (withClaimable ids : Phase M).waiting = [] := by
  cases ids <;> exact ⟨rfl, rfl, rfl⟩

theorem withPending_cases (pending : Option (List PendingEntry)) :
    (withPending pending : Phase M).owes =
        ((pending.getD []).filter PendingEntry.isExhausted).map (·.id) ∧
      (withPending pending : Phase M).collects = false ∧
      (withPending pending : Phase M).waiting = [] := by
  cases pending with
  | none => exact ⟨rfl, rfl, rfl⟩
  | some pending =>
      simp only [withPending, Option.getD_some]
      cases (pending.filter PendingEntry.isExhausted).map (·.id) with
      | nil => exact withClaimable_cases _
      | cons id more => exact ⟨rfl, rfl, rfl⟩

theorem withLast_cases (lost : List (String × M)) (ids : List String) :
    (withLast lost ids).owes = ids ∧ (withLast lost ids).collects = false ∧
      (withLast lost ids).waiting = lost := by
  cases ids <;> exact ⟨rfl, rfl, rfl⟩

theorem Advances.own (advances : Advances poller reader phase event next) :
    event.isOwn = true := by
  cases advances <;> rfl

/-- A step acknowledges just what is owed before it. -/
theorem Advances.settles (advances : Advances poller reader phase event next) :
    event.settled? = owedCommand? poller phase.owes := by
  cases advances <;> rfl

theorem Advances.isCollection (advances : Advances poller reader phase event next) :
    event.isCollection = phase.collects := by
  cases advances <;> rfl

theorem owed_collected (reader : Reader M) (ids : List String) :
    (Event.collected ids : Event M).owed reader = ids := by
  change ids ++ [] ++ [] = ids
  rw [List.append_nil, List.append_nil]

theorem owed_pending (reader : Reader M) (stream group : String) (response : Response) :
    (Event.answered (.pending stream group) response : Event M).owed reader =
      (((response.toOption.bind reader.pending?).getD []).filter
        PendingEntry.isExhausted).map (·.id) :=
  List.append_nil _

/-- What is owed after a step comes from it. -/
theorem Advances.owes (advances : Advances poller reader phase event next) :
    next.owes = event.owed reader := by
  cases advances with
  | connected isReachable => cases isReachable <;> rfl
  | began isClaimDue => rfl
  | collected isClaimDue ids =>
      exact (withCollected_cases isClaimDue ids).1.trans (owed_collected reader ids).symm
  | settled id more isClaimDue response => rfl
  | listed response => exact (withPending_cases _).1.trans (owed_pending reader _ _ response).symm
  | read response => exact (withEntries_cases _).1
  | resigned id more claimable response =>
      split
      · exact (withClaimable_cases claimable).1
      · rfl
  | claimed id more response => exact (withEntries_cases _).1
  | rejected id more messages response => exact owes_withMessages messages
  | taken id message rest => exact owes_withMessages rest
  | refused id message rest => rfl
  | left lost ids => exact (withLast_cases lost ids).1.trans (owed_collected reader ids).symm
  | parted id more lost response => rfl

theorem Advances.collects (advances : Advances poller reader phase event next) :
    next.collects = event.opensCollection := by
  cases advances with
  | connected isReachable => cases isReachable <;> rfl
  | began isClaimDue => rfl
  | collected isClaimDue ids => exact (withCollected_cases isClaimDue ids).2.1
  | settled id more isClaimDue response => rfl
  | listed response => exact (withPending_cases _).2.1
  | read response => exact (withEntries_cases _).2.1
  | resigned id more claimable response =>
      split
      · exact (withClaimable_cases claimable).2.1
      · rfl
  | claimed id more response => exact (withEntries_cases _).2.1
  | rejected id more messages response => exact collects_withMessages messages
  | taken id message rest => exact collects_withMessages rest
  | refused id message rest => rfl
  | left lost ids => exact (withLast_cases lost ids).2.1
  | parted id more lost response => rfl

/-- A step delivers the message that waits first, or finds messages that wait from then on. -/
theorem Advances.delivers (advances : Advances poller reader phase event next) :
    phase.waiting ++ event.found reader = event.sent?.toList ++ next.waiting := by
  cases advances with
  | connected isReachable => cases isReachable <;> rfl
  | began isClaimDue => rfl
  | collected isClaimDue ids => exact (withCollected_cases isClaimDue ids).2.2.symm
  | settled id more isClaimDue response => rfl
  | listed response => exact (withPending_cases _).2.2.symm
  | read response => exact (withEntries_cases _).2.2.symm
  | resigned id more claimable response =>
      split
      · exact (withClaimable_cases claimable).2.2.symm
      · rfl
  | claimed id more response => exact (withEntries_cases _).2.2.symm
  | rejected id more messages response =>
      exact (List.append_nil messages).trans (waiting_withMessages messages).symm
  | taken id message rest =>
      exact (List.append_nil _).trans
        (congrArg ((id, message) :: ·) (waiting_withMessages rest).symm)
  | refused id message rest => exact List.append_nil _
  | left lost ids => exact (List.append_nil _).trans (withLast_cases lost ids).2.2.symm
  | parted id more lost response => exact List.append_nil _

end Laws

end Phase

/-- The doings of the poller. -/
def own (history : List (Event M)) : List (Event M) := history.filter Event.isOwn

/-- What the subscriber was handed. -/
def sent (history : List (Event M)) : List (String × M) := history.filterMap Event.sent?

/-- The messages that the replies brought. -/
def found (reader : Reader M) (history : List (Event M)) : List (String × M) :=
  history.flatMap (Event.found reader)

/-- The acknowledgements of the subscriber. -/
def settlements (history : List (Event M)) : List String :=
  history.filterMap Event.acknowledged?

def collections (history : List (Event M)) : List (List String) :=
  history.filterMap Event.collected?

theorem own_snoc (history : List (Event M)) {event : Event M} (isOwn : event.isOwn = true) :
    own (history ++ [event]) = own history ++ [event] := by
  simp [own, isOwn]

theorem own_aside (history : List (Event M)) {event : Event M} (aside : event.isOwn = false) :
    own (history ++ [event]) = own history := by
  simp [own, aside]

theorem sent_snoc (history : List (Event M)) (event : Event M) :
    sent (history ++ [event]) = sent history ++ event.sent?.toList := by
  cases sends : event.sent? <;> simp [sent, sends]

theorem found_snoc (reader : Reader M) (history : List (Event M)) (event : Event M) :
    found reader (history ++ [event]) = found reader history ++ event.found reader := by
  simp [found]

theorem settlements_snoc (history : List (Event M)) (event : Event M) :
    settlements (history ++ [event]) = settlements history ++ event.acknowledged?.toList := by
  cases settles : event.acknowledged? <;> simp [settlements, settles]

theorem collections_snoc (history : List (Event M)) (event : Event M) :
    collections (history ++ [event]) = collections history ++ event.collected?.toList := by
  cases collects : event.collected? <;> simp [collections, collects]

/-- What holds when something happens. -/
def Fits (reader : Reader M) (before : List (Event M)) : Event M → Prop
  | .began _ => sent before = found reader before
  | .collected ids => settlements before = (collections before).flatten ++ ids
  | .delivered _ _ isTaken => isTaken = true ↔ .left ∉ before
  | .connected _ | .answered _ _ | .acknowledged _ | .left => True

variable {poller : Poller} {reader : Reader M} {polling : Polling M} {phase : Phase M}

/-- A poller is at a phase of its work, and its history has led there. -/
structure Polls (poller : Poller) (reader : Reader M) (polling : Polling M)
    (phase : Phase M) : Prop where
  rest : polling.rest = phase.program poller reader
  chained : (own polling.history).IsChain (Succeeds poller reader)
  opening : own polling.history = [] → phase = .opening
  opened : ∀ event ∈ (own polling.history).head?, event.settled? = none
  last : ∀ event ∈ (own polling.history).getLast?,
    event.owed reader = phase.owes ∧ event.opensCollection = phase.collects
  delivered : sent polling.history ++ phase.waiting = found reader polling.history
  collected : settlements polling.history =
    (collections polling.history).flatten ++ polling.acknowledged
  held : (settlements polling.history ++ polling.held).Subperm
    ((sent polling.history).map (·.1))
  subscribed : polling.isSubscribed = true ↔ .left ∉ polling.history
  fits : Justified (Fits reader) polling.history

theorem polls_start (poller : Poller) (reader : Reader M) :
    Polls poller reader start .opening where
  rest := rfl
  chained := .nil
  opening := fun _ => rfl
  opened := by intro event member; cases member
  last := by intro event member; cases member
  delivered := rfl
  collected := rfl
  held := List.Subperm.refl _
  subscribed := by simp [start]
  fits := justified_nil _

/-- A step of the poller takes it to the next phase. -/
theorem Polls.advance (polls : Polls poller reader polling phase) {event : Event M}
    {next : Phase M} {later : Polling M} (advances : Phase.Advances poller reader phase event next)
    (history : later.history = polling.history ++ [event])
    (rest : later.rest = next.program poller reader)
    (subscribed : later.isSubscribed = polling.isSubscribed)
    (collected : settlements later.history =
      (collections later.history).flatten ++ later.acknowledged)
    (held : (settlements later.history ++ later.held).Subperm ((sent later.history).map (·.1)))
    (fits : Fits reader polling.history event) : Polls poller reader later next where
  rest := rest
  chained := by
    rw [history, own_snoc _ advances.own]
    refine List.isChain_append.mpr ⟨polls.chained, .singleton _, ?_⟩
    intro last isLast first isFirst
    obtain rfl : event = first := by simpa using isFirst
    obtain ⟨owed, opens⟩ := polls.last last isLast
    exact ⟨owed ▸ advances.settles, opens ▸ advances.isCollection⟩
  opening := by
    intro nothing
    rw [history, own_snoc _ advances.own] at nothing
    simp at nothing
  opened := by
    intro first isFirst
    rw [history, own_snoc _ advances.own] at isFirst
    cases before : own polling.history with
    | nil =>
        obtain rfl : event = first := by simpa [before] using isFirst
        rw [polls.opening before] at advances
        exact advances.settles
    | cons oldest more =>
        rw [before] at isFirst
        exact polls.opened first (before ▸ isFirst)
  last := by
    intro last isLast
    rw [history, own_snoc _ advances.own, List.getLast?_concat] at isLast
    obtain rfl := Option.some.inj isLast
    exact ⟨advances.owes.symm, advances.collects.symm⟩
  delivered := by
    rw [history, sent_snoc, found_snoc, ← polls.delivered, List.append_assoc, List.append_assoc,
      advances.delivers]
  collected := collected
  held := held
  subscribed := by
    have stays : Event.left ≠ event := by
      rintro rfl
      cases advances.own
    rw [subscribed, polls.subscribed, history, List.mem_append, List.mem_singleton, not_or]
    exact (and_iff_left stays).symm
  fits := by
    rw [history]
    exact polls.fits.snoc fits

/-- What the subscriber does leaves the poller where it is. -/
theorem Polls.aside (polls : Polls poller reader polling phase) (event : Event M)
    {later : Polling M} (aside : event.isOwn = false)
    (history : later.history = polling.history ++ [event]) (rest : later.rest = polling.rest)
    (collected : settlements later.history =
      (collections later.history).flatten ++ later.acknowledged)
    (held : (settlements later.history ++ later.held).Subperm ((sent later.history).map (·.1)))
    (subscribed : later.isSubscribed = true ↔ .left ∉ later.history) :
    Polls poller reader later phase := by
  have same : own later.history = own polling.history := by rw [history, own_aside _ aside]
  refine ⟨rest.trans polls.rest, same ▸ polls.chained, same ▸ polls.opening, same ▸ polls.opened,
    same ▸ polls.last, ?_, collected, held, subscribed, ?_⟩
  · have silent : event.sent? = none ∧ event.found reader = [] := by
      cases event <;> first | exact ⟨rfl, rfl⟩ | cases aside
    rw [history, sent_snoc, found_snoc, silent.1, silent.2, Option.toList_none, List.append_nil,
      List.append_nil]
    exact polls.delivered
  · rw [history]
    apply polls.fits.snoc
    cases event <;> trivial

/-- A step of the poller that collects nothing and delivers nothing. -/
theorem Polls.quiet (polls : Polls poller reader polling phase) {event : Event M}
    {next : Phase M} {later : Polling M} (advances : Phase.Advances poller reader phase event next)
    (history : later.history = polling.history ++ [event])
    (rest : later.rest = next.program poller reader)
    (kept : later.isSubscribed = polling.isSubscribed ∧
      later.acknowledged = polling.acknowledged ∧ later.held = polling.held)
    (silent : event.sent? = none ∧ event.collected? = none ∧ event.acknowledged? = none)
    (fits : Fits reader polling.history event) : Polls poller reader later next := by
  refine polls.advance advances history rest kept.1 ?_ ?_ fits
  · rw [history, settlements_snoc, collections_snoc, silent.2.1, silent.2.2, Option.toList_none,
      Option.toList_none, List.append_nil, List.append_nil, kept.2.1]
    exact polls.collected
  · rw [history, settlements_snoc, sent_snoc, silent.1, silent.2.2, Option.toList_none,
      Option.toList_none, List.append_nil, List.append_nil, kept.2.2]
    exact polls.held

theorem Polls.goes (polls : Polls poller reader polling phase) :
    phase.Goes poller reader polling.rest := by
  rw [polls.rest]
  exact phase.goes

theorem Polls.connect (polls : Polls poller reader polling phase)
    {next : Bool → Session M RoundEnd} (rest : polling.rest = .connect next) (isReachable : Bool) :
    ∃ later, Polls poller reader
      ({ polling with rest := next isReachable }.record (.connected isReachable)) later := by
  have goes := polls.goes
  rw [rest] at goes
  obtain ⟨later, advances, same⟩ := goes isReachable
  exact ⟨later, polls.quiet advances rfl same ⟨rfl, rfl, rfl⟩ ⟨rfl, rfl, rfl⟩ trivial⟩

theorem Polls.begin (polls : Polls poller reader polling phase)
    (rest : polling.rest = .done .again) (isClaimDue : Bool) (claimedAt : Option Nat) :
    Polls poller reader
      ({ polling with rest := poller.round reader isClaimDue, claimedAt }.record
        (.began isClaimDue)) (.begun isClaimDue) := by
  have goes := polls.goes
  rw [rest] at goes
  refine polls.quiet (goes isClaimDue) rfl rfl ⟨rfl, rfl, rfl⟩ ⟨rfl, rfl, rfl⟩ ?_
  -- Before a round nothing waits for its delivery.
  have idle : phase.waiting = [] :=
    Phase.waiting_of_done (by decide) (polls.rest.symm.trans rest)
  have delivered := polls.delivered
  rwa [idle, List.append_nil] at delivered

theorem Polls.answer (polls : Polls poller reader polling phase) {command : Command}
    {next : Response → Session M RoundEnd} (rest : polling.rest = .send command next)
    (response : Response) :
    ∃ later, Polls poller reader
      ({ polling with rest := next response }.record (.answered command response)) later := by
  have goes := polls.goes
  rw [rest] at goes
  obtain ⟨later, advances, same⟩ := goes response
  exact ⟨later, polls.quiet advances rfl same ⟨rfl, rfl, rfl⟩ ⟨rfl, rfl, rfl⟩ trivial⟩

theorem Polls.collect (polls : Polls poller reader polling phase)
    {next : List String → Session M RoundEnd} (rest : polling.rest = .collect next) :
    ∃ later, Polls poller reader
      ({ polling with rest := next polling.acknowledged, acknowledged := [] }.record
        (.collected polling.acknowledged)) later := by
  have goes := polls.goes
  rw [rest] at goes
  obtain ⟨later, advances, same⟩ := goes polling.acknowledged
  refine ⟨later, polls.advance advances rfl same rfl ?_ ?_ polls.collected⟩
  · rw [record, settlements_snoc, collections_snoc]
    simpa [Event.acknowledged?, Event.collected?] using polls.collected
  · rw [record, settlements_snoc, sent_snoc]
    simpa [Event.acknowledged?, Event.sent?] using polls.held

theorem Polls.deliver (polls : Polls poller reader polling phase) {id : String} {message : M}
    {next : Bool → Session M RoundEnd} (rest : polling.rest = .deliver id message next) :
    ∃ later, Polls poller reader
      ({ polling with
        rest := next polling.isSubscribed
        held := if polling.isSubscribed then polling.held ++ [id] else polling.held }.record
          (.delivered id message polling.isSubscribed)) later := by
  have goes := polls.goes
  rw [rest] at goes
  obtain ⟨later, advances, same⟩ := goes polling.isSubscribed
  refine ⟨later, polls.advance advances rfl same rfl ?_ ?_ polls.subscribed⟩
  · rw [record, settlements_snoc, collections_snoc]
    simpa [Event.acknowledged?, Event.collected?] using polls.collected
  · rw [record, settlements_snoc, sent_snoc]
    cases polling.isSubscribed with
    | false => simpa [Event.acknowledged?, Event.sent?] using polls.held
    | true =>
        simpa [Event.acknowledged?, Event.sent?, ← List.append_assoc] using
          (List.subperm_append_right [id]).mpr polls.held

theorem Polls.acknowledge (polls : Polls poller reader polling phase) {place : Nat} {id : String}
    (held : polling.held[place]? = some id) :
    Polls poller reader
      ({ polling with
        held := polling.held.eraseIdx place
        acknowledged := polling.acknowledged ++ [id] }.record (.acknowledged id)) phase := by
  refine polls.aside (.acknowledged id) rfl rfl rfl ?_ ?_ ?_
  · rw [record, settlements_snoc, collections_snoc]
    simpa [Event.acknowledged?, Event.collected?, ← List.append_assoc] using polls.collected
  · rw [record, settlements_snoc, sent_snoc]
    obtain ⟨below, rfl⟩ := List.getElem?_eq_some_iff.mp held
    have perm := (List.getElem_cons_eraseIdx_perm below).append_left (settlements polling.history)
    simpa [Event.acknowledged?, Event.sent?, List.append_assoc] using
      perm.subperm.trans polls.held
  · simpa [record] using polls.subscribed

theorem Polls.leave (polls : Polls poller reader polling phase) :
    Polls poller reader ({ polling with isSubscribed := false }.record .left) phase := by
  refine polls.aside .left rfl rfl rfl ?_ ?_ ?_
  · rw [record, settlements_snoc, collections_snoc]
    simpa [Event.acknowledged?, Event.collected?] using polls.collected
  · rw [record, settlements_snoc, sent_snoc]
    simpa [Event.acknowledged?, Event.sent?] using polls.held
  · simp [record]

theorem Polls.make (polls : Polls poller reader polling phase) (move : Move) :
    ∃ next, Polls poller reader (polling.make poller reader move) next := by
  cases move with
  | connect isReachable =>
      simp only [Polling.make]
      split
      next next rest => exact polls.connect rest isReachable
      next => exact ⟨phase, polls⟩
  | begin now =>
      simp only [Polling.make]
      split
      next rest => exact ⟨_, polls.begin rest _ _⟩
      next => exact ⟨phase, polls⟩
  | answer response =>
      simp only [Polling.make]
      split
      next command next rest => exact polls.answer rest response
      next => exact ⟨phase, polls⟩
  | collect =>
      simp only [Polling.make]
      split
      next next rest => exact polls.collect rest
      next => exact ⟨phase, polls⟩
  | deliver =>
      simp only [Polling.make]
      split
      next id message next rest => exact polls.deliver rest
      next => exact ⟨phase, polls⟩
  | acknowledge place =>
      simp only [Polling.make]
      split
      next id held => exact ⟨phase, polls.acknowledge held⟩
      next => exact ⟨phase, polls⟩
  | drop place =>
      refine ⟨phase, { polls with held := ?_ }⟩
      exact ((List.eraseIdx_sublist polling.held place).append_left
        (settlements polling.history)).subperm.trans polls.held
  | leave => exact ⟨phase, polls.leave⟩

theorem polls_run (poller : Poller) (reader : Reader M) (moves : List Move) :
    ∃ phase, Polls poller reader (run poller reader moves) phase := by
  induction moves using List.reverseRecOn with
  | nil => exact ⟨.opening, polls_start poller reader⟩
  | append_singleton earlier last ih =>
      obtain ⟨phase, polls⟩ := ih
      rw [run, List.foldl_append]
      exact polls.make last

/-- What the poller owes comes next. -/
theorem Polls.next (polls : Polls poller reader polling phase) {event : Event M}
    (isLast : (own polling.history).getLast? = some event) :
    (event.owed reader ≠ [] → ∃ next, polling.rest =
        .send (.acknowledge poller.stream poller.group (event.owed reader)) next) ∧
      (event.opensCollection = true → ∃ next, polling.rest = .collect next) := by
  obtain ⟨owed, opens⟩ := polls.last event isLast
  rw [owed, opens, polls.rest]
  constructor
  · intro owing
    cases phase with
    | settling _ _ _ | resigning _ _ _ | rejecting _ _ _ | parting _ _ _ => exact ⟨_, rfl⟩
    | opening | idle | failed | gone _ | begun _ | fetching _ | claiming _ _ | delivering _ _ _
    | leaving _ => exact absurd rfl owing
  · intro collects
    cases phase with
    | begun _ | leaving _ => exact ⟨_, rfl⟩
    | opening | idle | failed | gone _ | settling _ _ _ | fetching _ | resigning _ _ _
    | claiming _ _ | rejecting _ _ _ | delivering _ _ _ | parting _ _ _ => cases collects

/-- Every acknowledgement is owed by what happened before it. -/
theorem Polls.owed (polls : Polls poller reader polling phase) {stream group : String}
    {ids : List String} {response : Response}
    (member : .answered (.acknowledge stream group ids) response ∈ polling.history) :
    stream = poller.stream ∧ group = poller.group ∧
      ∃ event ∈ polling.history, event.owed reader = ids := by
  have mine : Event.answered (.acknowledge stream group ids) response ∈ own polling.history :=
    List.mem_filter.mpr ⟨member, rfl⟩
  obtain ⟨front, after, split⟩ := List.append_of_mem mine
  have chained := polls.chained
  have opened := polls.opened
  rw [split] at chained opened
  rcases List.eq_nil_or_concat front with rfl | ⟨earlier, event, rfl⟩
  · cases opened _ rfl
  · rw [List.concat_eq_append, List.append_assoc, List.singleton_append] at chained
    obtain ⟨-, chained, -⟩ := List.isChain_append.mp chained
    obtain ⟨settles, -⟩ := (List.isChain_cons_cons.mp chained).1
    have present : event ∈ own polling.history := by simp [split]
    simp only [owedCommand?, Event.settled?] at settles
    split at settles
    · cases settles
    · cases settles
      exact ⟨rfl, rfl, event, List.mem_of_mem_filter present, rfl⟩

theorem mem_settlements_of_collected (polls : Polls poller reader polling phase) {id : String}
    {ids : List String} (collected : .collected ids ∈ polling.history) (member : id ∈ ids) :
    id ∈ settlements polling.history := by
  rw [polls.collected]
  apply List.mem_append_left
  exact List.mem_flatten.mpr ⟨ids, List.mem_filterMap.mpr ⟨_, collected, rfl⟩, member⟩

/-- A poller delivers what it finds and acknowledges what it has to, and nothing else. -/
structure Faithful (poller : Poller) (reader : Reader M) (polling : Polling M) : Prop where
  /-- The poller finds in a reply just what it tells: messages, entries to be rejected, and pending
  entries that were delivered too often. -/
  understands : ∀ (event : Event M) verdicts exhausted, event.Tells reader verdicts exhausted →
    event.Brings reader (verdicts.filterMap Decoded.message?)
      (verdicts.filterMap Decoded.rejected?) exhausted
  ignores : ∀ event : Event M, (∀ verdicts exhausted, ¬ event.Tells reader verdicts exhausted) →
    event.Brings reader [] [] []
  /-- However a server lists pending entries, if the client library can read such lists. -/
  exhausts : ∀ listing, reader.Takes listing → ∀ rows, (∀ row ∈ rows, row.IsSmall) →
    ∀ stream group,
      (Event.answered (.pending stream group) (.ok (listing rows)) : Event M).exhausted reader =
        (rows.filter fun row => deliveryLimit < row.deliveries).map (·.id)
  /-- Messages go to the subscriber as the replies bring them, all of them by the end of a round. -/
  sends : ∃ waiting, sent polling.history ++ waiting = found reader polling.history ∧
    (polling.rest = .done .again ∨ polling.rest = .done .failed → waiting = [])
  rounds : ∀ before isClaimDue after, polling.history = before ++ .began isClaimDue :: after →
    sent before = found reader before
  /-- The subscriber takes messages until it is gone. -/
  taken : ∀ before id message isTaken after,
    polling.history = before ++ .delivered id message isTaken :: after →
      (isTaken = true ↔ .left ∉ before)
  /-- Each acknowledgement of the subscriber is of a delivery of its own. -/
  settles : (settlements polling.history).Subperm ((sent polling.history).map (·.1))
  /-- A collection takes the acknowledgements since the last one. -/
  collects : ∀ before ids after, polling.history = before ++ .collected ids :: after →
    settlements before = (collections before).flatten ++ ids
  uncollected : settlements polling.history =
    (collections polling.history).flatten ++ polling.acknowledged
  /-- What is collected, rejected or exhausted is acknowledged by the next thing that the poller
  does, and nothing else is acknowledged. -/
  succeeds : (own polling.history).IsChain (Succeeds poller reader)
  next : ∀ event, (own polling.history).getLast? = some event →
    (event.owed reader ≠ [] → ∃ next, polling.rest =
        .send (.acknowledge poller.stream poller.group (event.owed reader)) next) ∧
      (event.opensCollection = true → ∃ next, polling.rest = .collect next)
  justified : ∀ stream group ids response,
    .answered (.acknowledge stream group ids) response ∈ polling.history →
      stream = poller.stream ∧ group = poller.group ∧ ∀ id ∈ ids,
        id ∈ settlements polling.history ∨
          (∃ event ∈ polling.history, id ∈ event.rejected reader) ∨
          ∃ event ∈ polling.history, id ∈ event.exhausted reader

/-- Whatever the server answers, however it is read and whatever the subscriber does, up to the first
round that fails. -/
theorem polls_faithfully (poller : Poller) (reader : Reader M) (moves : List Move) :
    Faithful poller reader (run poller reader moves) := by
  obtain ⟨phase, polls⟩ := polls_run poller reader moves
  refine ⟨fun _ _ _ tells => tells.brings, fun _ => Event.brings_nothing, ?_,
    ⟨phase.waiting, polls.delivered, ?_⟩, ?_, ?_, ?_, ?_, polls.collected, polls.chained,
    fun event => polls.next, ?_⟩
  · intro listing takes rows small stream group
    exact (Event.Tells.listed stream group _ rows (takes rows small)).brings.exhausted
  · rintro (again | failed)
    · exact Phase.waiting_of_done (by decide) (polls.rest.symm.trans again)
    · exact Phase.waiting_of_done (by decide) (polls.rest.symm.trans failed)
  · exact fun before isClaimDue after split => polls.fits before _ after split
  · exact fun before id message isTaken after split => polls.fits before _ after split
  · exact (List.sublist_append_left _ _).subperm.trans polls.held
  · exact fun before ids after split => polls.fits before _ after split
  · intro stream group ids response member
    obtain ⟨sameStream, sameGroup, event, present, owed⟩ := polls.owed member
    refine ⟨sameStream, sameGroup, fun id among => ?_⟩
    rw [← owed, Event.owed, List.mem_append, List.mem_append] at among
    rcases among with (collected | exhausted) | rejected
    · cases event with
      | collected ids => exact .inl (mem_settlements_of_collected polls present collected)
      | connected _ | began _ | answered _ _ | delivered _ _ _ | acknowledged _ | left =>
          cases collected
    · exact .inr (.inr ⟨event, present, exhausted⟩)
    · exact .inr (.inl ⟨event, present, rejected⟩)

/-- Payloads that hold the message 7 or nothing, and flat lists. -/
def sampleReader : Reader Nat :=
  ⟨fun payload => if payload = "7" then some 7 else none, PendingRow.ofFlat?⟩

def sampleEntry (id payload : String) : Reply :=
  .items [.ofText id, .items [.ofText "payload", .ofText payload]]

/-- Three entries were idle, and the first of them was delivered too often. -/
def sampleRows : List PendingRow :=
  [⟨"1-0", "c", 40000, 6⟩, ⟨"2-0", "c", 40000, 5⟩, ⟨"3-0", "c", 40000, 1⟩]

/-- A poller takes over idle entries. The subscriber acknowledges the message of one of them, and is
gone when the next message comes. -/
def sampleMoves : List Move :=
  [.connect true, .begin 0, .collect, .answer (.ok (PendingRow.flat sampleRows)),
    .answer (.ok (.number 1)),
    .answer (.ok (.items [sampleEntry "2-0" "7", sampleEntry "3-0" "8"])),
    .answer (.ok (.number 1)), .deliver, .begin 1, .collect,
    .answer (.ok (.items [.items [.ofText "s", .items [sampleEntry "4-0" "7"]]])),
    .acknowledge 0, .leave, .deliver, .collect, .answer (.ok (.number 1))]

theorem polled_sample :
    let polling := run ⟨"s", "g", "c"⟩ sampleReader sampleMoves
    Faithful ⟨"s", "g", "c"⟩ sampleReader polling ∧
      sampleReader.Takes PendingRow.flat ∧
      (Event.answered (.pending "s" "g") (.ok (PendingRow.flat sampleRows)) : Event Nat).exhausted
        sampleReader = ["1-0"] ∧
      polling.history.filterMap Event.settled? =
        [(.acknowledge "s" "g" ["1-0"], ["1-0"]), (.acknowledge "s" "g" ["3-0"], ["3-0"]),
          (.acknowledge "s" "g" ["2-0"], ["2-0"])] ∧
      sent polling.history = [("2-0", 7)] ∧
      found sampleReader polling.history = [("2-0", 7), ("4-0", 7)] := by
  intro polling
  have faithful := polls_faithfully ⟨"s", "g", "c"⟩ sampleReader sampleMoves
  have takes : sampleReader.Takes PendingRow.flat := takes_flat _
  refine ⟨faithful, takes, ?_, by decide +kernel, by decide +kernel, by decide +kernel⟩
  rw [faithful.exhausts PendingRow.flat takes sampleRows (by decide)]
  rfl

end Polling

end CacheFill.Stream
