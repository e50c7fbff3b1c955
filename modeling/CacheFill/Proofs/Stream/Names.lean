import CacheFill.Proofs.Bus.Delivery
import CacheFill.Proofs.Service.Subscribing
import CacheFill.Proofs.Stream.Polling
import CacheFill.Stream.Bus
import Mathlib.Logic.Function.Basic

/-!
Who shares a name. Load types and the two kinds of their topics have topics of their own, and each
partition of a topic has a stream of its own, whatever is put in front of the names. So a consumer
gets only what is meant for it. Main statement: `Topics.places_apart`.
-/

set_option autoImplicit false

namespace CacheFill

/-- A text with a mark in it comes apart at its last mark. -/
theorem append_mark_inj {α : Type} {mark : α} {front back first last : List α}
    (clean : mark ∉ back) (cleanToo : mark ∉ last) :
    front ++ mark :: back = first ++ mark :: last ↔ front = first ∧ back = last := by
  refine ⟨fun same => ?_, fun ⟨left, right⟩ => by rw [left, right]⟩
  rcases List.append_eq_append_iff.mp same with ⟨between, isFirst, rest⟩ | ⟨between, isFront, rest⟩
  · cases between with
    | nil => exact ⟨by simp [isFirst], (List.cons.inj rest).2⟩
    | cons other between =>
        obtain ⟨rfl, isBack⟩ := List.cons.inj rest
        exact absurd (by simp [isBack]) clean
  · cases between with
    | nil => exact ⟨by simp [isFront], (List.cons.inj rest).2.symm⟩
    | cons other between =>
        obtain ⟨rfl, isLast⟩ := List.cons.inj rest
        exact absurd (by simp [isLast]) cleanToo

namespace Topics

/-- What a topic is for. -/
inductive Kind where
  | dispatches
  | notifications
  deriving DecidableEq

/-- Whose messages a topic carries. -/
abbrev Subject := Kind × LoadType

def topic (topics : Topics) : Subject → String
  | (.dispatches, type) => topics.dispatch type
  | (.notifications, type) => topics.notifications type

theorem name_inj (topics : Topics) {kind other : String} {type otherType : LoadType}
    (same : topics.name kind type = topics.name other otherType) :
    kind ++ "." ++ type.name = other ++ "." ++ otherType.name := by
  unfold name at same
  split at same
  · exact same
  · simp only [String.append_assoc, String.append_right_inj] at same ⊢
    exact same

theorem dispatch_ne_notifications (topics : Topics) (type other : LoadType) :
    topics.dispatch type ≠ topics.notifications other := by
  intro same
  have heads := congrArg (fun name => name.toList.head?) (topics.name_inj same)
  simp at heads

theorem topic_injective (topics : Topics) : Function.Injective topics.topic := by
  intro ⟨kind, type⟩ ⟨other, otherType⟩ same
  cases kind with
  | dispatches =>
      cases other with
      | dispatches => exact congrArg _ (topics.name_injective _ same)
      | notifications => exact absurd same (topics.dispatch_ne_notifications _ _)
  | notifications =>
      cases other with
      | dispatches => exact absurd same.symm (topics.dispatch_ne_notifications _ _)
      | notifications => exact congrArg _ (topics.name_injective _ same)

end Topics

namespace Stream

theorem toDigits_inj {partition number : UInt32}
    (same : Nat.toDigits 10 partition.toNat = Nat.toDigits 10 number.toNat) :
    partition = number := by
  apply UInt32.toNat_inj.mp
  calc
    partition.toNat = Nat.ofDigitChars 10 (Nat.toDigits 10 partition.toNat) 0 :=
      (Nat.ofDigitChars_toDigits (by decide) (by decide)).symm
    _ = Nat.ofDigitChars 10 (Nat.toDigits 10 number.toNat) 0 := by rw [same]
    _ = number.toNat := Nat.ofDigitChars_toDigits (by decide) (by decide)

/-- The number of the partition stands behind the last colon, and so it is told from the topic. -/
theorem streamName_inj {space topic other : String} {partition number : UInt32} :
    streamName space topic partition = streamName space other number ↔
      topic = other ∧ partition = number := by
  have clean (number : UInt32) : ':' ∉ Nat.toDigits 10 number.toNat := by
    intro member
    cases Nat.isDigit_of_mem_toDigits (by decide) (by decide) member
  constructor
  · intro same
    have texts := congrArg String.toList same
    simp only [streamName, Nat.toString_eq_ofList_toDigits, String.toList_append,
      String.toList_ofList, List.append_assoc, List.append_cancel_left_eq] at texts
    obtain ⟨names, numbers⟩ := (append_mark_inj (clean partition) (clean number)).mp texts
    exact ⟨String.toList_injective names, toDigits_inj numbers⟩
  · intro ⟨left, right⟩
    rw [left, right]

variable {M α β : Type}

def Command.stream : Command → String
  | .create stream _ | .add stream _ _ | .pending stream _ | .claim stream _ _ _
  | .read stream _ _ | .acknowledge stream _ _ => stream

namespace Session

/-- All commands that a session may send are for one stream, and it ends as asked for. -/
def StaysOn (stream : String) (ends : α → Prop) : Session M α → Prop
  | .done result => ends result
  | .connect next => ∀ isConnected, (next isConnected).StaysOn stream ends
  | .send command next =>
      command.stream = stream ∧ ∀ response, (next response).StaysOn stream ends
  | .collect next => ∀ ids, (next ids).StaysOn stream ends
  | .deliver _ _ next => ∀ isAlive, (next isAlive).StaysOn stream ends

variable {stream : String} {ends : β → Prop}

theorem StaysOn.bind {session : Session M α} {next : α → Session M β} {first : α → Prop}
    (stays : session.StaysOn stream first)
    (then_ : ∀ result, first result → (next result).StaysOn stream ends) :
    (session.bind next).StaysOn stream ends := by
  induction session with
  | done result => exact then_ result stays
  | connect rest ih => exact fun isConnected => ih isConnected (stays isConnected)
  | send command rest ih => exact ⟨stays.1, fun response => ih response (stays.2 response)⟩
  | collect rest ih => exact fun ids => ih ids (stays ids)
  | deliver id message rest ih => exact fun isAlive => ih isAlive (stays isAlive)

end Session

namespace Polling

variable {poller : Poller} {reader : Reader M} {polling : Polling M} {phase : Phase M}

/-- A poller sends commands for its own stream. -/
theorem Polls.stream_of_send (polls : Polls poller reader polling phase) {command : Command}
    {next : Response → Session M RoundEnd} (rest : polling.rest = .send command next) :
    command.stream = poller.stream := by
  have goes := polls.goes
  rw [rest] at goes
  obtain ⟨_, advances, _⟩ := goes (.error "")
  cases advances <;> rfl

theorem answered_make {move : Move} {command : Command} {response : Response}
    (member : .answered command response ∈ (polling.make poller reader move).history) :
    .answered command response ∈ polling.history ∨ ∃ next, polling.rest = .send command next := by
  cases move with
  | answer answer =>
      simp only [make] at member
      split at member
      next sent next rest =>
        cases List.mem_append.mp member with
        | inl before => exact .inl before
        | inr now =>
            cases List.mem_singleton.mp now
            exact .inr ⟨next, rest⟩
      next => exact .inl member
  | drop place => exact .inl member
  | leave => exact .inl (by simpa [make, record] using member)
  | connect | begin | collect | deliver | acknowledge =>
      simp only [make] at member
      split at member
      · exact .inl (by simpa [record] using member)
      · exact .inl member

/-- Whatever happens to a poller, it has sent commands for its own stream only. -/
theorem stream_of_answered (moves : List Move) {command : Command} {response : Response}
    (member : .answered command response ∈ (run poller reader moves).history) :
    command.stream = poller.stream := by
  induction moves using List.reverseRecOn with
  | nil => cases member
  | append_singleton earlier move ih =>
      rw [run, List.foldl_concat] at member
      cases answered_make member with
      | inl before => exact ih before
      | inr sends =>
          obtain ⟨next, rest⟩ := sends
          obtain ⟨phase, polls⟩ := polls_run poller reader earlier
          exact polls.stream_of_send rest

end Polling

end Stream

namespace StreamBus

open CacheFill.Stream

variable {M : Type}

/-- Whatever happens to a poller, it has sent commands for one stream only. -/
def Reads (M : Type) (poller : Poller) (stream : String) : Prop :=
  ∀ (reader : Reader M) moves command response,
    .answered command response ∈ (Polling.run poller reader moves).history → command.stream = stream

theorem request_staysOn {α : Type} (command : Command) (read : Response → Option α) :
    (request command read : Session M (Except Error α)).StaysOn command.stream
      fun _ => True := by
  intro isConnected
  cases isConnected with
  | false => trivial
  | true =>
      refine ⟨rfl, fun response => ?_⟩
      dsimp only
      split
      · trivial
      · trivial

variable (bus : StreamBus)

/-- The commands of a subscription are for the stream of its partition, and so are those of its
poller at any time. -/
theorem subscribe_staysOn (topic group : String) (partition : UInt32) (name : String) :
    (bus.subscribe topic group partition name : Session M _).StaysOn (bus.streamOf topic partition)
      fun result => ∀ poller, result = .ok poller →
        Reads M poller (bus.streamOf topic partition) := by
  unfold subscribe
  split
  · intro poller isPoller
    cases isPoller
  · refine (request_staysOn (.create _ _) groupExists?).bind fun result _ => ?_
    intro poller isPoller reader moves command response member
    cases result with
    | error error => cases isPoller
    | ok value =>
        cases isPoller
        exact Polling.stream_of_answered moves member

/-- What publishing a message sends is for the stream of its partition. -/
theorem publish_staysOn [Message M] (topic : String) (message : M) :
    (bus.publish topic message).StaysOn
      (bus.streamOf topic (Partition.ofKey (Message.key message) bus.partitionCount))
      fun _ => True :=
  request_staysOn (.add _ _ _) textReply?

end StreamBus

namespace Bus.Traffic

variable {M : Type} {key : M → String} {count : UInt32} {retention : Nat} {uses : List (Use M)}
  {traffic later : Traffic M} {step : Use M} {id : Nat} {topic : String} {number : UInt32}

/-- A subscription is or was live, and only what was sent to its partition was delivered to it. -/
structure HasOwn (key : M → String) (count : UInt32) (uses : List (Use M)) (traffic : Traffic M)
    (id : Nat) (topic : String) (number : UInt32) : Prop where
  used : id < traffic.bus.nextSubscription
  place : ∀ found, traffic.bus.subscriptions.get? id = some found →
    found.topic = topic ∧ found.partition = number
  own : traffic.delivered id ⊆ sent key count topic number uses

/-- Receiving moves messages on within what was delivered. -/
theorem delivered_receive (traffic : Traffic M) {other : Nat} {front rest : List M}
    (pending : traffic.bus.pending other = front ++ rest) (id : Nat) :
    (traffic.receive other front (traffic.bus.setPending other rest)).delivered id =
      traffic.delivered id := by
  simp only [delivered, receive, Function.update_apply]
  cases live : traffic.bus.subscriptions.get? other with
  | none =>
      rw [Bus.pending, live] at pending
      obtain ⟨rfl, rfl⟩ := List.append_eq_nil_iff.mp pending.symm
      rw [setPending, live]
      split
      next same => rw [same, List.append_nil]
      next => rfl
  | some found =>
      rw [Bus.pending, get?_setPending live]
      split
      next same => rw [same, pending, List.append_assoc]; rfl
      next => rfl

theorem HasOwn.turn (has : HasOwn key count uses traffic id topic number)
    (accounts : Accounts key count retention uses traffic) (turn : Turn key traffic step later) :
    HasOwn key count (uses ++ [step]) later id topic number := by
  have own : traffic.delivered id ⊆ sent key count topic number (uses ++ [step]) := by
    rw [sent_append]
    exact List.subset_append_of_subset_left _ has.own
  cases turn with
  | published other message =>
      constructor
      · exact has.used
      · intro found isFound
        simp only [publish, Table.get?_mapValues, Option.map_eq_some_iff] at isFound
        obtain ⟨old, isOld, rfl⟩ := isFound
        unfold BusSubscription.offer
        split <;> exact has.place old isOld
      · simp only [delivered, Bus.pending, publish, Table.get?_mapValues, Option.map_map] at own ⊢
        cases live : traffic.bus.subscriptions.get? id with
        | none => simpa [live] using own
        | some found =>
            obtain ⟨isTopic, isNumber⟩ := has.place found live
            simp only [live, Option.map_some, Option.getD_some, Function.comp_apply] at own ⊢
            unfold BusSubscription.offer
            split
            next here =>
              rw [isTopic, isNumber, accounts.divided, ofKey_max_one] at here
              rw [← List.append_assoc]
              refine List.append_subset.mpr ⟨own, ?_⟩
              rw [sent_append, sent_publish, if_pos ⟨here.1.symm, here.2.symm⟩]
              exact List.subset_append_right _ _
            next => exact own
  | subscribed other group place bus subscribes =>
      have notNew : id ≠ traffic.bus.nextSubscription := Nat.ne_of_lt has.used
      have kept : bus.subscriptions.get? id = traffic.bus.subscriptions.get? id := by
        rw [subscribes.subscriptions, if_neg notNew]
      constructor
      · exact subscribes.next ▸ Nat.lt_succ_of_lt has.used
      · exact kept ▸ has.place
      · simpa only [delivered, Bus.pending, kept] using own
  | refused other group place beyond => exact ⟨has.used, has.place, own⟩
  | received _ other front rest receives pending =>
      constructor
      · exact (traffic.bus.setPending_frame other rest).2.2.2 ▸ has.used
      · intro found isFound
        simp only [receive] at isFound
        cases live : traffic.bus.subscriptions.get? other with
        | none =>
            rw [setPending, live] at isFound
            exact has.place found isFound
        | some old =>
            rw [get?_setPending live] at isFound
            split at isFound
            next same => cases isFound; exact has.place old (same ▸ live)
            next => exact has.place found isFound
      · rwa [delivered_receive traffic pending]
  | idle other => exact ⟨has.used, has.place, own⟩
  | ended other =>
      constructor
      · exact has.used
      · intro found isFound
        simp only [unsubscribe, Table.get?_erase] at isFound
        split at isFound
        next => cases isFound
        next => exact has.place found isFound
      · simp only [delivered, Bus.pending, unsubscribe, Table.get?_erase] at own ⊢
        split
        next => exact fun _ member => own (List.mem_append_left _ (by simpa using member))
        next => exact own

/-- Whatever is done with a bus, a subscription gets only what was sent to its partition. -/
theorem hasOwn_after {before : List (Use M)} {group : String} {bus : Bus M}
    (accepted : (after key count retention before).bus.subscribe topic group number = .ok (id, bus))
    (rest : List (Use M)) :
    HasOwn key count (before ++ .subscribe topic group number :: rest)
      (after key count retention (before ++ .subscribe topic group number :: rest)) id topic
      number := by
  induction rest using List.reverseRecOn with
  | nil =>
      have accounts := accounts_after key count retention
        (before ++ [.subscribe topic group number])
      have delivers : Delivers _ id topic number _ :=
        delivers_later accepted List.not_mem_nil
      constructor
      · apply Nat.lt_of_not_le
        intro beyond
        obtain ⟨_, live, _⟩ := delivers
        rw [(accounts.unused id beyond).1] at live
        cases live
      · intro found isFound
        obtain ⟨_, live, _⟩ := delivers
        cases live.symm.trans isFound
        exact ⟨rfl, rfl⟩
      · rw [delivers.delivered, sent_append]
        apply List.subset_append_of_subset_left
        exact List.append_subset.mpr ⟨(replay_suffix ..).subset, List.nil_subset _⟩
  | append_singleton earlier last ih =>
      have accounts := accounts_after key count retention
        (before ++ .subscribe topic group number :: earlier)
      rw [← List.cons_append, ← List.append_assoc, after_snoc]
      exact ih.turn accounts (turn_use key _ last)

end Bus.Traffic
namespace Topics

open Bus Traffic CacheFill.Stream

/-- All messages go to the topics of their subjects. -/
def Addresses {M : Type} (topics : Topics) (subject : M → Subject) (uses : List (Use M)) : Prop :=
  ∀ topic message, .publish topic message ∈ uses → topic = topics.topic (subject message)

theorem Addresses.of_published {M : Type} {topics : Topics} {subject : M → Subject}
    {uses : List (Use M)} (addresses : topics.Addresses subject uses) {wanted : Subject}
    {message : M} (member : message ∈ published (topics.topic wanted) uses) : subject message = wanted := by
  obtain ⟨use, isUse, isMessage⟩ := List.mem_filterMap.mp member
  cases use with
  | publish topic other =>
      have asked := addresses topic other isUse
      rw [Use.message?] at isMessage
      split at isMessage
      next isTopic =>
        cases isMessage
        exact topics.topic_injective (asked.symm.trans isTopic)
      next => cases isMessage
  | subscribe | take | drain | unsubscribe => cases isMessage

/-- Topics in any namespace and streams with anything in front of their names have names of their
own: another kind of message, another load type or another partition never gets the same one. So on
a bus in memory a subscription gets messages of its subject and its partition only, whatever else is
published; and on a stream server, what a publisher sends goes to the stream that a subscription
reads just if it is of the subject and the partition of that subscription. -/
theorem places_apart (topics : Topics) (space : String) :
    Function.Injective topics.topic ∧
    (Function.Injective fun place : Subject × UInt32 =>
      streamName space (topics.topic place.1) place.2) ∧
    (∀ (M : Type) (subject : M → Subject) (key : M → String) (count : UInt32) (retention : Nat)
        (before rest : List (Use M)) (wanted : Subject) (group : String) (number : UInt32)
        (id : Nat) (bus : Bus M),
      topics.Addresses subject (before ++ .subscribe (topics.topic wanted) group number :: rest) →
      (after key count retention before).bus.subscribe (topics.topic wanted) group number =
        .ok (id, bus) →
      ∀ message ∈ (after key count retention
          (before ++ .subscribe (topics.topic wanted) group number :: rest)).delivered id,
        subject message = wanted ∧ Partition.ofKey (key message) count = number) ∧
    ∀ (M N : Type) [Stream.Message M] (publisher consumer : StreamBus),
      publisher.space = space → consumer.space = space →
      ∀ (sent wanted : Subject) (message : M) (group name : String) (number : UInt32),
        let partition := Partition.ofKey (Message.key message) publisher.partitionCount
        let written := publisher.streamOf (topics.topic sent) partition
        let read := consumer.streamOf (topics.topic wanted) number
        (publisher.publish (topics.topic sent) message).StaysOn written (fun _ => True) ∧
        (consumer.subscribe (topics.topic wanted) group number name : Session N _).StaysOn read
          (fun result => ∀ poller, result = .ok poller → StreamBus.Reads N poller read) ∧
        (written = read ↔ sent = wanted ∧ partition = number) := by
  refine ⟨topics.topic_injective, ?_, ?_, ?_⟩
  · intro ⟨subject, number⟩ ⟨other, otherNumber⟩ same
    obtain ⟨isTopic, isNumber⟩ := streamName_inj.mp same
    exact Prod.ext (topics.topic_injective isTopic) isNumber
  · intro M subject key count retention before rest wanted group number id bus addresses accepted
      message member
    obtain ⟨isPublished, isNumber⟩ := List.mem_filter.mp ((hasOwn_after accepted rest).own member)
    exact ⟨addresses.of_published isPublished, of_decide_eq_true isNumber⟩
  · intro M N _ publisher consumer isSpace isSpaceToo sent wanted message group name number
    refine ⟨publisher.publish_staysOn _ message, consumer.subscribe_staysOn _ group number name, ?_⟩
    rw [StreamBus.streamOf, StreamBus.streamOf, isSpace, isSpaceToo, streamName_inj,
      topics.topic_injective.eq_iff]

/-- A load type with the name of a kind of topics in it. -/
def nested : LoadType := ⟨"notifications.0", by decide, by decide⟩

/-- Messages are published before and after a group subscribes to the notifications of a type, and
each of them is of another kind. -/
def mixed (topics : Topics) : List (Use Subject) :=
  [.publish (topics.topic (.dispatches, nested)) (.dispatches, nested),
    .publish (topics.topic (.notifications, nested)) (.notifications, nested)]

theorem delivered_mixed :
    let topics : Topics := ⟨"dispatch"⟩
    let wanted : Subject := (.notifications, nested)
    let uses := topics.mixed ++ .subscribe (topics.topic wanted) "g" 0 :: topics.mixed
    let bus : StreamBus := ⟨"a:0", 1⟩
    topics.Addresses id uses ∧
      (after (fun _ => "") 1 9 uses).delivered 0 = [wanted, wanted] ∧
      (∀ message ∈ (after (fun _ => "") 1 9 uses).delivered 0, message = wanted) ∧
      streamName "a:0" (topics.topic wanted) 0 ≠ streamName "a:0" (topics.topic wanted) 10 ∧
      bus.streamOf (topics.topic (.dispatches, nested)) 0 ≠ bus.streamOf (topics.topic wanted) 0 := by
  intro topics wanted uses bus
  have addresses : topics.Addresses id uses := by
    intro topic message member
    simp only [uses, mixed, List.mem_append, List.mem_cons, List.not_mem_nil, or_false,
      Use.publish.injEq, reduceCtorEq, false_or] at member
    rcases member with (⟨rfl, rfl⟩ | ⟨rfl, rfl⟩) | ⟨rfl, rfl⟩ | ⟨rfl, rfl⟩ <;> rfl
  obtain ⟨_, streams, memory, server⟩ := places_apart topics "a:0"
  refine ⟨addresses, by decide +kernel, ?_, ?_, ?_⟩
  · intro message member
    exact (memory Subject id (fun _ => "") 1 9 topics.mixed topics.mixed wanted "g" 0 0 _ addresses
      rfl message member).1
  · intro same
    cases @streams (wanted, 0) (wanted, 10) same
  · intro same
    have subjects := ((server Dispatch Notification bus bus rfl rfl (.dispatches, nested) wanted
      ⟨nested, "k", default, 0⟩ "g" "c" 0).2.2.mp same).1
    have kinds : Kind.dispatches = Kind.notifications := congrArg Prod.fst subjects
    cases kinds

end Topics

end CacheFill
