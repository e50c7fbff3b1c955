import CacheFill.Bus.Channel
import CacheFill.Proofs.Justified
import Mathlib.Data.List.Induction
import Mathlib.Data.List.Perm.Basic

/-!
A channel whose receiver mixes all ways of receiving. It has in hand the deliveries that it took
without acknowledging them, and acknowledges or drops them when it likes, also after the channel was
closed. Each message that was handed out has a number, its place among all of them. Main statement:
`Custody.settles_once`.
-/

set_option autoImplicit false

namespace CacheFill

/-- How a receiver waits for a message that it acknowledges at once. -/
inductive Wait where
  | blocking
  | polling
  | limited
  deriving DecidableEq

namespace Wait

/-- What a receiver is told while nothing has come and more may come. -/
def idle : Wait → ReceiveError
  | .blocking => .disconnected
  | .polling => .empty
  | .limited => .timeout

/-- A blocked receiver is told nothing before a message comes or the channel is closed. -/
def goesOn {M : Type} (wait : Wait) (channel : Channel M) : Bool :=
  wait = .blocking && channel.isOpen && channel.queue.isEmpty

end Wait

namespace Custody

inductive Event (M : Type) where
  | sent (delivery : Delivery M)
  /-- A message is taken and acknowledged. -/
  | received (number : Nat) (message : M)
  /-- A message is taken and its acknowledgement left to the receiver. -/
  | taken (number : Nat) (message : M)
  | acknowledged (number : Nat)
  | told (error : ReceiveError)
  deriving DecidableEq

/-- What is done with a channel, at either end. -/
inductive Use (M : Type) where
  | send (delivery : Delivery M)
  | close
  | receive (wait : Wait)
  | drain
  | take
  | acknowledge (place : Nat)
  | drop (place : Nat)

end Custody

structure Custody (M : Type) where
  channel : Channel M
  /-- The deliveries in hand, each with its number. -/
  held : List (Nat × Delivery M)
  /-- What happened, the oldest first. -/
  history : List (Custody.Event M)

namespace Custody

variable {M : Type}

namespace Event

@[simp] def sent? : Event M → Option (Delivery M)
  | .sent delivery => some delivery
  | .received _ _ | .taken _ _ | .acknowledged _ | .told _ => none

@[simp] def handed? : Event M → Option (M × Nat)
  | .received number message | .taken number message => some (message, number)
  | .sent _ | .acknowledged _ | .told _ => none

@[simp] def taken? : Event M → Option Nat
  | .taken number _ => some number
  | .sent _ | .received _ _ | .acknowledged _ | .told _ => none

@[simp] def settled? : Event M → Option Nat
  | .received number _ | .acknowledged number => some number
  | .sent _ | .taken _ _ | .told _ => none

end Event

/-- What was sent while the channel was open. -/
def sent (history : List (Event M)) : List (Delivery M) := history.filterMap Event.sent?

/-- The messages that were handed out, whichever way, with their numbers. -/
def handed (history : List (Event M)) : List (M × Nat) := history.filterMap Event.handed?

/-- The numbers of the messages that were taken without being acknowledged. -/
def taken (history : List (Event M)) : List Nat := history.filterMap Event.taken?

/-- The numbers of the messages that were acknowledged, in the order in which they were. -/
def settled (history : List (Event M)) : List Nat := history.filterMap Event.settled?

@[simp] theorem sent_snoc (history : List (Event M)) (event : Event M) :
    sent (history ++ [event]) = sent history ++ event.sent?.toList := by
  cases event <;> simp [sent]

@[simp] theorem handed_snoc (history : List (Event M)) (event : Event M) :
    handed (history ++ [event]) = handed history ++ event.handed?.toList := by
  cases event <;> simp [handed]

@[simp] theorem taken_snoc (history : List (Event M)) (event : Event M) :
    taken (history ++ [event]) = taken history ++ event.taken?.toList := by
  cases event <;> simp [taken]

@[simp] theorem settled_snoc (history : List (Event M)) (event : Event M) :
    settled (history ++ [event]) = settled history ++ event.settled?.toList := by
  cases event <;> simp [settled]

/-- The messages of deliveries, numbered in their order. -/
def numbered (deliveries : List (Delivery M)) : List (M × Nat) :=
  (deliveries.map (·.message)).zipIdx

@[simp] theorem length_numbered (deliveries : List (Delivery M)) :
    (numbered deliveries).length = deliveries.length := by
  rw [numbered, List.length_zipIdx, List.length_map]

theorem numbered_append (deliveries more : List (Delivery M)) :
    numbered (deliveries ++ more) =
      numbered deliveries ++ (more.map (·.message)).zipIdx deliveries.length := by
  simp [numbered, List.zipIdx_append]

/-- What acknowledging the delivery of a number puts down. -/
def logged? (deliveries : List (Delivery M)) (number : Nat) : Option M :=
  (deliveries[number]?.filter (·.settles)).map (·.message)

theorem logged?_append {deliveries : List (Delivery M)} {number : Nat}
    (isIn : number < deliveries.length) (more : List (Delivery M)) :
    logged? (deliveries ++ more) number = logged? deliveries number := by
  rw [logged?, logged?, List.getElem?_append_left isIn]

theorem logged?_of_getElem? {deliveries : List (Delivery M)} {number : Nat} {delivery : Delivery M}
    (isThere : deliveries[number]? = some delivery) :
    [number].filterMap (logged? deliveries) =
      if delivery.settles then [delivery.message] else [] := by
  cases settles : delivery.settles <;> simp [logged?, isThere, settles, Option.filter]

def create : Custody M := ⟨.create, [], []⟩

/-- The next message has the number of those before it. -/
def next (custody : Custody M) : Nat := (handed custody.history).length

def record (custody : Custody M) (event : Event M) : Custody M :=
  { custody with history := custody.history ++ [event] }

/-- What comes of a use. Sending to a closed channel does nothing, and neither does a use of a
delivery that is not in hand. -/
def use (custody : Custody M) : Use M → Custody M
  | .send delivery =>
      match custody.channel.send delivery with
      | (true, channel) => { custody with channel }.record (.sent delivery)
      | (false, channel) => { custody with channel }
  | .close => { custody with channel := custody.channel.close }
  | .receive wait =>
      if wait.goesOn custody.channel then custody
      else
        match custody.channel.receive wait.idle with
        | .error error => custody.record (.told error)
        | .ok (message, channel) =>
            { custody with channel }.record (.received custody.next message)
  | .drain =>
      let received := (custody.channel.drain.1.zipIdx custody.next).map fun (message, number) =>
        .received number message
      { custody with channel := custody.channel.drain.2, history := custody.history ++ received }
  | .take =>
      match custody.channel.receiveDelivery .timeout with
      | .error error => custody.record (.told error)
      | .ok (delivery, channel) =>
          { custody with channel, held := custody.held ++ [(custody.next, delivery)] }.record
            (.taken custody.next delivery.message)
  | .acknowledge place =>
      match custody.held[place]? with
      | none => custody
      | some (number, delivery) =>
          { custody with
            channel := custody.channel.acknowledge delivery
            held := custody.held.eraseIdx place }.record (.acknowledged number)
  | .drop place => { custody with held := custody.held.eraseIdx place }

/-- A new channel after it was used. -/
def after (uses : List (Use M)) : Custody M := uses.foldl use create

theorem use_receive_cons (delivery : Delivery M) (rest : List (Delivery M)) (isOpen : Bool)
    (acknowledged : List M) (held : List (Nat × Delivery M)) (history : List (Event M))
    (wait : Wait) :
    use ⟨⟨delivery :: rest, isOpen, acknowledged⟩, held, history⟩ (.receive wait) =
      ⟨Channel.acknowledge ⟨rest, isOpen, acknowledged⟩ delivery, held,
        history ++ [.received (handed history).length delivery.message]⟩ := by
  simp [use, Wait.goesOn, Channel.receive, Channel.receiveDelivery, record, next]

/-- Draining is receiving what there is. -/
theorem use_drain (custody : Custody M) :
    custody.use .drain =
      (List.replicate custody.channel.queue.length (.receive .polling)).foldl use custody := by
  obtain ⟨⟨queue, isOpen, acknowledged⟩, held, history⟩ := custody
  induction queue generalizing acknowledged history with
  | nil => simp [use, Channel.drain]
  | cons delivery rest ih =>
      rw [List.length_cons, List.replicate_succ, List.foldl_cons, use_receive_cons]
      cases settles : delivery.settles <;>
        simp [Channel.acknowledge, settles, ← ih, use, Channel.drain, next]

/-- What must have happened before an event. -/
def Warranted (before : List (Event M)) : Event M → Prop
  | .sent _ => .told .disconnected ∉ before
  | .acknowledged number => number ∈ taken before
  | .told _ => handed before = numbered (sent before)
  | .received _ _ | .taken _ _ => True

/-- All messages sent are accounted for: the first of them were handed out and the others wait, and
those that were settled, once each, have left what is in the log. -/
structure Sound (custody : Custody M) : Prop where
  inOrder : handed custody.history <+: numbered (sent custody.history)
  waiting : custody.channel.queue = (sent custody.history).drop (handed custody.history).length
  log : custody.channel.acknowledged =
    (settled custody.history).filterMap (logged? (sent custody.history))
  once : (settled custody.history ++ custody.held.map (·.1)).Nodup
  below : ∀ number ∈ settled custody.history ++ custody.held.map (·.1),
    number < (handed custody.history).length
  inHand : ∀ holding ∈ custody.held,
    (sent custody.history)[holding.1]? = some holding.2 ∧ holding.1 ∈ taken custody.history
  warranted : Justified Warranted custody.history
  ended : .told .disconnected ∈ custody.history → custody.channel.isOpen = false

theorem sound_create : Sound (create : Custody M) where
  inOrder := List.nil_prefix
  waiting := rfl
  log := rfl
  once := List.nodup_nil
  below := nofun
  inHand := nofun
  warranted := justified_nil _
  ended := nofun

theorem acknowledge_cases (channel : Channel M) (delivery : Delivery M) :
    (channel.acknowledge delivery).queue = channel.queue ∧
      (channel.acknowledge delivery).isOpen = channel.isOpen ∧
      (channel.acknowledge delivery).acknowledged =
        channel.acknowledged ++ if delivery.settles then [delivery.message] else [] := by
  cases settles : delivery.settles <;> simp [Channel.acknowledge, settles]

namespace Sound

variable {custody : Custody M} {delivery : Delivery M} {rest : List (Delivery M)}

theorem handed_le_sent (sound : Sound custody) :
    (handed custody.history).length ≤ (sent custody.history).length :=
  length_numbered (sent custody.history) ▸ sound.inOrder.length_le

/-- If nothing waits, then all that was sent was handed out. -/
theorem all_handed (sound : Sound custody) (empty : custody.channel.queue = []) :
    handed custody.history = numbered (sent custody.history) := by
  have whole := sound.waiting
  rw [empty, eq_comm, List.drop_eq_nil_iff] at whole
  apply sound.inOrder.eq_of_length_le
  rwa [length_numbered]

/-- What waits in front is the delivery with the next number. -/
theorem front (sound : Sound custody) (queue : custody.channel.queue = delivery :: rest) :
    (sent custody.history)[custody.next]? = some delivery ∧
      rest = (sent custody.history).drop (custody.next + 1) ∧
      handed custody.history ++ [(delivery.message, custody.next)] <+:
        numbered (sent custody.history) := by
  have waiting : (sent custody.history).drop custody.next = delivery :: rest :=
    sound.waiting.symm.trans queue
  refine ⟨?_, ?_, ?_⟩
  · rw [← List.head?_drop, waiting, List.head?_cons]
  · rw [← List.tail_drop, waiting, List.tail_cons]
  · have split : (sent custody.history).take custody.next ++ delivery :: rest =
        sent custody.history := by rw [← waiting, List.take_append_drop]
    have counted : ((sent custody.history).take custody.next).length = custody.next :=
      List.length_take_of_le sound.handed_le_sent
    obtain ⟨back, whole⟩ := sound.inOrder
    rw [← split, numbered_append, counted] at whole ⊢
    have same : handed custody.history = numbered ((sent custody.history).take custody.next) :=
      (List.append_inj whole (by rw [length_numbered, counted, next])).1
    rw [same, List.map_cons, List.zipIdx_cons]
    exact (List.prefix_append_right_inj _).mpr (List.prefix_append [_] _)

theorem send (sound : Sound custody) (isOpen : custody.channel.isOpen = true)
    (delivery : Delivery M) :
    Sound ({ custody with
      channel := { custody.channel with queue := custody.channel.queue ++ [delivery] } }.record
        (.sent delivery)) := by
  constructor
  · simpa [record, numbered_append] using sound.inOrder.trans (List.prefix_append _ _)
  · simp [record, List.drop_append_of_le_length sound.handed_le_sent, sound.waiting]
  · simp only [record, sound.log, sent_snoc, settled_snoc, Event.settled?, Option.toList_none,
      List.append_nil]
    refine List.filterMap_congr fun number member => ?_
    have isHanded := sound.below number (List.mem_append_left _ member)
    exact (logged?_append (Nat.lt_of_lt_of_le isHanded sound.handed_le_sent) _).symm
  · simpa [record] using sound.once
  · simpa [record] using sound.below
  · intro holding member
    obtain ⟨isThere, isTaken⟩ := sound.inHand holding member
    obtain ⟨before, _⟩ := List.getElem?_eq_some_iff.mp isThere
    simpa [record, List.getElem?_append_left before] using ⟨isThere, isTaken⟩
  · exact sound.warranted.snoc fun ended => by cases isOpen.symm.trans (sound.ended ended)
  · simpa [record] using sound.ended

theorem tell (sound : Sound custody) (empty : custody.channel.queue = []) {error : ReceiveError}
    (closed : error = .disconnected → custody.channel.isOpen = false) :
    Sound (custody.record (.told error)) := by
  constructor
  · simpa [record] using sound.inOrder
  · simpa [record] using sound.waiting
  · simpa [record] using sound.log
  · simpa [record] using sound.once
  · simpa [record] using sound.below
  · simpa [record] using sound.inHand
  · exact sound.warranted.snoc (sound.all_handed empty)
  · intro ended
    rcases List.mem_append.mp ended with before | now
    · exact sound.ended before
    · cases List.mem_singleton.mp now
      exact closed rfl

/-- The next number is another one than those that were settled or are in hand. -/
theorem fresh (sound : Sound custody) :
    (custody.next :: (settled custody.history ++ custody.held.map (·.1))).Nodup ∧
      ∀ number ∈ custody.next :: (settled custody.history ++ custody.held.map (·.1)),
        number < custody.next + 1 := by
  constructor
  · exact List.nodup_cons.mpr ⟨fun member => Nat.lt_irrefl _ (sound.below _ member), sound.once⟩
  · intro number member
    cases member with
    | head => exact Nat.lt_succ_self _
    | tail _ before => exact Nat.lt_succ_of_lt (sound.below number before)

theorem receive (sound : Sound custody) (queue : custody.channel.queue = delivery :: rest) :
    Sound ({ custody with
      channel := Channel.acknowledge { custody.channel with queue := rest } delivery }.record
        (.received custody.next delivery.message)) := by
  obtain ⟨isFront, isRest, inOrder⟩ := sound.front queue
  obtain ⟨sameQueue, sameOpen, log⟩ :=
    acknowledge_cases { custody.channel with queue := rest } delivery
  have settles : (settled custody.history ++ custody.next :: custody.held.map (·.1)).Perm
      (custody.next :: (settled custody.history ++ custody.held.map (·.1))) := List.perm_middle
  constructor
  · simpa [record] using inOrder
  · simpa [record, sameQueue, next] using isRest
  · simp only [record, sent_snoc, settled_snoc, Event.sent?, Event.settled?, Option.toList_none,
      Option.toList_some, List.append_nil, List.filterMap_append, ← sound.log]
    rw [log, logged?_of_getElem? isFront]
  · simpa [record] using settles.nodup_iff.mpr sound.fresh.1
  · intro number member
    have isIn : number ∈ settled custody.history ++ custody.next :: custody.held.map (·.1) := by
      simpa [record] using member
    simpa [record, next] using sound.fresh.2 number (settles.mem_iff.mp isIn)
  · simpa [record] using sound.inHand
  · exact sound.warranted.snoc trivial
  · simpa [record, sameOpen] using sound.ended

theorem take (sound : Sound custody) (queue : custody.channel.queue = delivery :: rest) :
    Sound ({ custody with
      channel := { custody.channel with queue := rest }
      held := custody.held ++ [(custody.next, delivery)] }.record
        (.taken custody.next delivery.message)) := by
  obtain ⟨isFront, isRest, inOrder⟩ := sound.front queue
  have holds : (settled custody.history ++ (custody.held.map (·.1) ++ [custody.next])).Perm
      (custody.next :: (settled custody.history ++ custody.held.map (·.1))) := by
    rw [← List.append_assoc]
    exact List.perm_append_singleton _ _
  constructor
  · simpa [record] using inOrder
  · simpa [record, next] using isRest
  · simpa [record] using sound.log
  · simpa [record] using holds.nodup_iff.mpr sound.fresh.1
  · intro number member
    have isIn : number ∈ settled custody.history ++ (custody.held.map (·.1) ++ [custody.next]) := by
      simpa [record] using member
    simpa [record, next] using sound.fresh.2 number (holds.mem_iff.mp isIn)
  · intro holding member
    rcases List.mem_append.mp member with before | now
    · obtain ⟨isThere, isTaken⟩ := sound.inHand holding before
      exact ⟨by simpa [record] using isThere, by simp [record, isTaken]⟩
    · cases List.mem_singleton.mp now
      exact ⟨by simpa [record] using isFront, by simp [record]⟩
  · exact sound.warranted.snoc trivial
  · simpa [record] using sound.ended

theorem acknowledge (sound : Sound custody) {place number : Nat}
    (inHand : custody.held[place]? = some (number, delivery)) :
    Sound ({ custody with
      channel := custody.channel.acknowledge delivery
      held := custody.held.eraseIdx place }.record (.acknowledged number)) := by
  obtain ⟨isPlace, isHolding⟩ := List.getElem?_eq_some_iff.mp inHand
  have member : (number, delivery) ∈ custody.held := List.mem_of_getElem? inHand
  obtain ⟨isThere, isTaken⟩ := sound.inHand _ member
  obtain ⟨sameQueue, sameOpen, log⟩ := acknowledge_cases custody.channel delivery
  have moved : (settled custody.history ++ number :: (custody.held.eraseIdx place).map (·.1)).Perm
      (settled custody.history ++ custody.held.map (·.1)) := by
    have whole := List.getElem_cons_eraseIdx_perm isPlace
    rw [isHolding] at whole
    exact (whole.map (·.1)).append_left _
  constructor
  · simpa [record] using sound.inOrder
  · simpa [record, sameQueue] using sound.waiting
  · simp only [record, sent_snoc, settled_snoc, Event.sent?, Event.settled?, Option.toList_none,
      Option.toList_some, List.append_nil, List.filterMap_append, ← sound.log]
    rw [log, logged?_of_getElem? isThere]
  · simpa [record] using moved.nodup_iff.mpr sound.once
  · intro other isIn
    have isOld : other ∈ settled custody.history ++
        number :: (custody.held.eraseIdx place).map (·.1) := by
      simpa [record] using isIn
    simpa [record] using sound.below other (moved.mem_iff.mp isOld)
  · intro holding isIn
    simpa [record] using sound.inHand holding ((List.eraseIdx_sublist _ _).subset isIn)
  · exact sound.warranted.snoc isTaken
  · simpa [record, sameOpen] using sound.ended

theorem drop (sound : Sound custody) (place : Nat) :
    Sound { custody with held := custody.held.eraseIdx place } := by
  have fewer : (custody.held.eraseIdx place).Sublist custody.held := List.eraseIdx_sublist _ _
  have numbers := (List.Sublist.refl (settled custody.history)).append (fewer.map (·.1))
  exact { sound with
    once := sound.once.sublist numbers
    below := fun number member => sound.below number (numbers.subset member)
    inHand := fun holding member => sound.inHand holding (fewer.subset member) }

theorem receives (sound : Sound custody) (wait : Wait) : Sound (custody.use (.receive wait)) := by
  simp only [use]
  split
  · exact sound
  · next stops =>
      simp only [Channel.receive, Channel.receiveDelivery]
      cases queue : custody.channel.queue with
      | nil =>
          refine sound.tell queue fun isLast => ?_
          cases isOpen : custody.channel.isOpen with
          | false => rfl
          | true =>
              cases wait with
              | blocking => simp [Wait.goesOn, isOpen, queue] at stops
              | polling | limited => simp [Wait.idle, Channel.nothing, isOpen] at isLast
      | cons delivery rest => exact sound.receive queue

/-- Each use leaves a sound custody. -/
theorem step (sound : Sound custody) (step : Use M) : Sound (custody.use step) := by
  cases step with
  | send delivery =>
      simp only [use, Channel.send]
      by_cases isOpen : custody.channel.isOpen = true
      · rw [if_pos isOpen]
        exact sound.send isOpen delivery
      · rw [if_neg isOpen]
        exact sound
  | close => exact { sound with ended := fun _ => rfl }
  | receive wait => exact sound.receives wait
  | drain =>
      rw [use_drain]
      generalize custody.channel.queue.length = count
      induction count generalizing custody with
      | zero => exact sound
      | succ count ih => exact ih (sound.receives .polling)
  | take =>
      simp only [use, Channel.receiveDelivery]
      cases queue : custody.channel.queue with
      | nil =>
          refine sound.tell queue fun isLast => ?_
          cases isOpen : custody.channel.isOpen with
          | false => rfl
          | true => simp [Channel.nothing, isOpen] at isLast
      | cons delivery rest => exact sound.take queue
  | acknowledge place =>
      simp only [use]
      cases inHand : custody.held[place]? with
      | none => exact sound
      | some holding => exact sound.acknowledge inHand
  | drop place => exact sound.drop place

end Sound

theorem sound_after (uses : List (Use M)) : Sound (after uses) := by
  induction uses using List.reverseRecOn with
  | nil => exact sound_create
  | append_singleton earlier last ih =>
      rw [after, List.foldl_concat]
      exact ih.step last

/-- A channel is sent to and closed, and its receiver takes messages in all ways and acknowledges or
drops the deliveries in hand, in any order. Then the messages that were handed out are the first
ones that were sent, in their order and each once, and the others wait. What was acknowledged is
just what was received by the ways that acknowledge at once, when it was, and what was taken before
and then acknowledged, when it was, each once. A receiver is told that there is nothing only when
all that was sent before was handed out, and after it was told the end nothing more is sent. -/
theorem settles_once (uses : List (Use M)) :
    let custody := after uses
    let history := custody.history
    handed history <+: numbered (sent history) ∧
      custody.channel.queue = (sent history).drop (handed history).length ∧
      custody.channel.acknowledged = (settled history).filterMap (logged? (sent history)) ∧
      (settled history).Nodup ∧
      (∀ before number later, history = before ++ .acknowledged number :: later →
        number ∈ taken before) ∧
      ∀ before error later, history = before ++ .told error :: later →
        handed before = numbered (sent before) ∧ (error = .disconnected → sent later = []) := by
  intro custody history
  have sound : Sound custody := sound_after uses
  refine ⟨sound.inOrder, sound.waiting, sound.log, (List.nodup_append.mp sound.once).1, ?_, ?_⟩
  · intro before number later split
    exact sound.warranted before _ later split
  · intro before error later split
    refine ⟨sound.warranted before _ later split, fun isLast => ?_⟩
    apply List.filterMap_eq_nil_iff.mpr
    intro event member
    cases event with
    | sent delivery =>
        obtain ⟨front, back, rfl⟩ := List.append_of_mem member
        rw [← List.cons_append, ← List.append_assoc] at split
        have notEnded := sound.warranted _ _ back split
        exact absurd (by simp [isLast]) notEnded
    | received | taken | acknowledged | told => rfl

/-- Two deliveries are in hand when the channel is closed, and a message waits. The second delivery
is acknowledged before the first one, and the first one after the end was told. -/
def unsorted : List (Use Nat) :=
  [.send ⟨7, true⟩, .send ⟨8, false⟩, .take, .send ⟨7, true⟩, .take, .receive .limited,
    .receive .blocking, .send ⟨9, true⟩, .close, .send ⟨6, true⟩, .acknowledge 1, .drain,
    .receive .blocking, .acknowledge 0, .acknowledge 0]

theorem settled_unsorted :
    let history := (after unsorted).history
    settled history = [2, 1, 3, 0] ∧ (after unsorted).channel.acknowledged = [7, 9, 7] ∧
      history = history.take 9 ++ .told .disconnected :: [.acknowledged 0] ∧
      handed (history.take 9) = [(7, 0), (8, 1), (7, 2), (9, 3)] := by
  intro history
  obtain ⟨_, _, log, _, _, told⟩ := settles_once unsorted
  have split : history = history.take 9 ++ .told .disconnected :: [.acknowledged 0] := by
    decide
  refine ⟨by decide, ?_, split, ?_⟩
  · rw [log]
    decide
  · rw [(told _ _ _ split).1]
    decide

end Custody

end CacheFill
