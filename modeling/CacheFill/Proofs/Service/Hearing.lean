import CacheFill.Proofs.Service.Subscribing

/-!
Groups of listeners that were launched on a bus before anything was published. Then services publish
notifications, and the consumers of the groups take them up and call their listeners, one call at a
time and in any order; listeners fail as they like. Main statement: each listener of a group was
called with what the consumers received, up to the calls that are still due (`Follows.run`).
-/

set_option autoImplicit false

namespace CacheFill

namespace ListenerGroup

/-- The group while its listeners answer in a certain way. -/
def answering (group : ListenerGroup) (answers : Nat → Listener) : ListenerGroup :=
  { group with listeners := group.listeners.mapIdx fun number _ => answers number }

/-- What a consumer of the group calls for each notification. It never fails, whatever the listeners
do. -/
def handler (group : ListenerGroup) : Consumer.Handler (List Heard) Notification :=
  fun notification heard => (none, heard ++ (group.deliver notification).1)

end ListenerGroup

/-- The notifications among some calls that one listener was called with. -/
def Heard.told (listener : Nat) (calls : List Heard) : List Notification :=
  (calls.filter fun heard => heard.listener = listener).map (·.notification)

/-- A group of listeners with its consumers, which count from 0. -/
structure Hearing where
  group : ListenerGroup
  workers : List Worker
  /-- The calls that a consumer has still to make for the notification that it took up. -/
  due : Nat → List Heard
  /-- The calls that were made, the oldest first. -/
  made : List Heard

namespace Hearing

/-- A consumer takes up a notification for which the listeners will answer in a certain way. -/
def takeUp (hearing : Hearing) (number : Nat) (worker : Worker) (answers : Nat → Listener)
    (notification : Notification) : Hearing :=
  let (_, progress) := Consumer.handle worker.duty.name (hearing.group.answering answers).handler
    (fun _ => false) notification Consumer.callLimit (.start [])
  { hearing with due := Function.update hearing.due number progress.state }

/-- A consumer makes its next call. -/
def call (hearing : Hearing) (number : Nat) : Hearing :=
  match hearing.due number with
  | [] => hearing
  | heard :: rest =>
      { hearing with
        due := Function.update hearing.due number rest
        made := hearing.made ++ [heard] }

/-- A consumer has delivered all that it received, and nothing waits for it. -/
def IsIdle (hearing : Hearing) (bus : Bus Notification) (number : Nat) : Prop :=
  ∀ worker, hearing.workers[number]? = some worker →
    hearing.due number = [] ∧ ∀ id ∈ worker.subscription, bus.pending id = []

/-- The consumers have delivered all that the group received. -/
def Finished (hearing : Hearing) (bus : Bus Notification) : Prop :=
  ∀ number, hearing.IsIdle bus number

end Hearing

structure FanOut where
  backend : Backend
  hearings : List Hearing

namespace FanOut

inductive Move where
  | notify (notification : Notification)
  /-- A consumer of a group takes up its next notification, if there is one and it is done with the
  one before. Groups count from 0. -/
  | takeUp (place number : Nat) (answers : Nat → Listener)
  /-- A consumer of a group calls the next listener. -/
  | call (place number : Nat)

def Move.notified? : Move → Option Notification
  | .notify notification => some notification
  | .takeUp _ _ _ | .call _ _ => none

/-- The notifications that were published, the oldest first. -/
def notified (moves : List Move) : List Notification := moves.filterMap Move.notified?

theorem notified_cons (move : Move) (rest : List Move) :
    notified (move :: rest) = move.notified?.toList ++ notified rest := by
  rw [notified, List.filterMap_cons]
  cases move.notified? <;> rfl

theorem notified_append (first more : List Move) :
    notified (first ++ more) = notified first ++ notified more := List.filterMap_append ..

variable (service : Service)

/-- Launches the consumers of a group. -/
def join (fanOut : FanOut) (group : ListenerGroup) : FanOut :=
  let (workers, _, notifications) := Launch.subscribe (service.topics.notifications group.type)
    group.name .none (.listen group) (fanOut.hearings.flatMap Hearing.workers).length
    fanOut.backend.notifications.partitionNumbers fanOut.backend.notifications
  ⟨{ fanOut.backend with notifications }, fanOut.hearings ++ [⟨group, workers, fun _ => [], []⟩]⟩

/-- The consumers of all groups. -/
def opening (backend : Backend) (groups : List ListenerGroup) : FanOut :=
  groups.foldl (join service) ⟨backend, []⟩

def make (fanOut : FanOut) : Move → FanOut
  | .notify notification =>
      let (_, backend) := (service.notify notification).run (Backend.perform fun _ => .finished)
        fanOut.backend
      { fanOut with backend }
  | .takeUp place number answers =>
      match fanOut.hearings[place]? with
      | none => fanOut
      | some hearing =>
          match hearing.workers[number]?, hearing.due number with
          | some worker, [] =>
              match worker.subscription.bind fanOut.backend.notifications.take? with
              | none => fanOut
              | some (notification, notifications) =>
                  ⟨{ fanOut.backend with notifications },
                    fanOut.hearings.set place (hearing.takeUp number worker answers notification)⟩
          | _, _ => fanOut
  | .call place number =>
      match fanOut.hearings[place]? with
      | none => fanOut
      | some hearing => { fanOut with hearings := fanOut.hearings.set place (hearing.call number) }

def run (fanOut : FanOut) (moves : List Move) : FanOut := moves.foldl (make service) fanOut

theorem run_append (fanOut : FanOut) (first more : List Move) :
    fanOut.run service (first ++ more) = (fanOut.run service first).run service more :=
  List.foldl_append

end FanOut

/-- A handler that succeeds is called once. -/
theorem Consumer.handle_of_success {σ M : Type} {name : String} {handler : Handler σ M}
    {stop : Nat → Bool} {message : M} {left : Nat} {progress : Progress σ M}
    (succeeds : (handler message progress.state).1 = none) :
    handle name handler stop message (left + 1) progress =
      (.done, (progress.call handler message).2) := by
  unfold handle Progress.call
  rcases called : handler message progress.state with ⟨_ | error, state⟩
  · rfl
  · rw [called] at succeeds
    cases succeeds

/-- Whatever the listeners answer, each is called once. -/
theorem ListenerGroup.deliver_eq (group : ListenerGroup) (notification : Notification) :
    (group.deliver notification).1 =
      (List.range group.listeners.length).map fun number => ⟨group.name, number, notification⟩ := by
  rw [List.range_eq_range', ← List.zipIdx_map_snd, List.map_map]
  rfl

theorem Heard.told_deliver (group : ListenerGroup) (notification : Notification) {listener : Nat}
    (isListener : listener < group.listeners.length) :
    told listener (group.deliver notification).1 = [notification] := by
  have once : (List.range group.listeners.length).filter (fun number => number = listener) =
      [listener] := by
    rw [List.filter_eq, List.count_range, if_pos isListener]
    rfl
  rw [told, ListenerGroup.deliver_eq, List.filter_map, List.map_map]
  exact congrArg (List.map _) once

theorem Heard.told_append (listener : Nat) (calls more : List Heard) :
    told listener (calls ++ more) = told listener calls ++ told listener more := by
  simp [told]

theorem Heard.eq_of_mem_told {listener : Nat} {heard : Heard} {notification : Notification}
    (member : notification ∈ told listener [heard]) : notification = heard.notification := by
  obtain ⟨called, isCalled, rfl⟩ := List.mem_map.mp member
  rw [List.mem_singleton.mp (List.mem_filter.mp isCalled).1]

theorem ListenerGroup.length_answering (group : ListenerGroup) (answers : Nat → Listener) :
    (group.answering answers).listeners.length = group.listeners.length := List.length_mapIdx

theorem Hearing.takeUp_eq (hearing : Hearing) (number : Nat) (worker : Worker)
    (answers : Nat → Listener) (notification : Notification) :
    hearing.takeUp number worker answers notification =
      { hearing with
        due := Function.update hearing.due number
          ((hearing.group.answering answers).deliver notification).1 } := by
  unfold takeUp
  rw [show Consumer.callLimit = 2 + 1 from rfl, Consumer.handle_of_success rfl]
  rfl

namespace FanOut

open Bus Traffic

variable {topics : Topics} {count : UInt32} {retention : Nat} {fanOut : FanOut} {hearing : Hearing}
  {uses : List (Use Notification)} {notifications : List Notification} {groups : List ListenerGroup}
  {place number : Nat} {seat : UInt32 × Nat}

/-- The partitions of a topic. -/
def numbers (count : UInt32) : List UInt32 :=
  (Bus.create count 0 : Bus Notification).partitionNumbers

/-- The partitions with the numbers of the subscriptions that the consumers of the group in this
place have to them: every group subscribes to all partitions. -/
def seats (count : UInt32) (place : Nat) : List (UInt32 × Nat) :=
  (numbers count).zipIdx (place * (numbers count).length)

theorem getElem?_seats :
    (seats count place)[number]? = some seat ↔
      (numbers count)[number]? = some seat.1 ∧
        place * (numbers count).length + number = seat.2 := by
  obtain ⟨partition, id⟩ := seat
  rw [seats, List.getElem?_zipIdx, Option.map_eq_some_iff]
  simp

/-- Each consumer has a subscription of its own. -/
theorem seats_disjoint {otherPlace otherNumber : Nat} {other : UInt32 × Nat}
    (isSeat : (seats count place)[number]? = some seat)
    (isOther : (seats count otherPlace)[otherNumber]? = some other) (same : seat.2 = other.2) :
    place = otherPlace ∧ number = otherNumber := by
  obtain ⟨here, id⟩ := getElem?_seats.mp isSeat
  obtain ⟨there, otherId⟩ := getElem?_seats.mp isOther
  have below : number < (numbers count).length := (List.getElem?_eq_some_iff.mp here).1
  have otherBelow : otherNumber < (numbers count).length := (List.getElem?_eq_some_iff.mp there).1
  generalize (numbers count).length = many at id otherId below otherBelow
  have sum : place * many + number = otherPlace * many + otherNumber := by omega
  have places : place = otherPlace := by
    have quotients := congrArg (· / many) sum
    simpa [Nat.mul_add_div (Nat.zero_lt_of_lt below), Nat.mul_comm _ many,
      Nat.div_eq_of_lt below, Nat.div_eq_of_lt otherBelow] using quotients
  subst places
  exact ⟨rfl, by omega⟩

/-- Each consumer of a group has a partition of its own. -/
theorem partitions_distinct {otherNumber : Nat} {other : UInt32 × Nat}
    (isSeat : (seats count place)[number]? = some seat)
    (isOther : (seats count place)[otherNumber]? = some other) (same : seat.1 = other.1) :
    number = otherNumber := by
  obtain ⟨here, _⟩ := getElem?_seats.mp isSeat
  obtain ⟨there, _⟩ := getElem?_seats.mp isOther
  have below : number < (numbers count).length := (List.getElem?_eq_some_iff.mp here).1
  exact (List.getElem?_inj below (nodup_partitionNumbers _)).mp (by rw [here, there, same])

/-- The consumers of a group, each with its own subscription, and what they called the listeners
with or have still to. -/
structure Hears (topics : Topics) (count : UInt32) (retention : Nat) (uses : List (Use Notification))
    (place : Nat) (hearing : Hearing) : Prop where
  workers : hearing.workers =
    (seats count place).map fun seat => ⟨.listen hearing.group seat.1, some seat.2, false⟩
  serves : ∀ seat ∈ seats count place, Serves Notification.key count retention uses seat.2
    (topics.notifications hearing.group.type) seat.1
  due : ∀ number, ∀ heard ∈ hearing.due number, ∃ seat,
    (seats count place)[number]? = some seat ∧
      Partition.ofKey heard.notification.key count = seat.1
  told : ∀ number seat, (seats count place)[number]? = some seat →
    ∀ listener < hearing.group.listeners.length,
      (Heard.told listener hearing.made).filter (fun notification =>
          Partition.ofKey notification.key count = seat.1) ++
        Heard.told listener (hearing.due number) =
      (after Notification.key count retention uses).received seat.2

/-- Each call that a consumer makes is one that it had still to make. -/
theorem Hears.call (hears : Hears topics count retention uses place hearing) (number : Nat) :
    Hears topics count retention uses place (hearing.call number) := by
  unfold Hearing.call
  split
  · exact hears
  next heard rest isDue =>
    obtain ⟨seat, isSeat, here⟩ := hears.due number heard (isDue ▸ List.mem_cons_self)
    have known : ∀ other, ∀ later ∈ Function.update hearing.due number rest other,
        later ∈ hearing.due other := by
      intro other later member
      by_cases same : other = number
      · subst same
        rw [Function.update_self] at member
        exact isDue ▸ List.mem_cons_of_mem _ member
      · rwa [Function.update_of_ne same] at member
    refine ⟨hears.workers, hears.serves, fun other later member => ?_, ?_⟩
    · exact hears.due other later (known other later member)
    intro other otherSeat isOther listener isListener
    have told := hears.told other otherSeat isOther listener isListener
    dsimp only
    have once : ∀ notification ∈ Heard.told listener [heard],
        Partition.ofKey notification.key count = seat.1 := by
      intro notification member
      rwa [Heard.eq_of_mem_told member]
    rw [Heard.told_append, List.filter_append, ← told, List.append_assoc]
    congr 1
    by_cases same : other = number
    · subst same
      cases isSeat.symm.trans isOther
      rw [Function.update_self, isDue,
        List.filter_eq_self.mpr fun _ member => decide_eq_true (once _ member)]
      exact (Heard.told_append listener [heard] rest).symm
    -- what one consumer hands on is of its own partition, so it is nothing to the others
    · have elsewhere : ∀ notification ∈ Heard.told listener [heard],
          ¬ decide (Partition.ofKey notification.key count = otherSeat.1) = true := by
        intro notification member there
        rw [once notification member, decide_eq_true_eq] at there
        exact same (partitions_distinct isSeat isOther there).symm
      rw [Function.update_of_ne same, List.filter_eq_nil_iff.mpr elsewhere, List.nil_append]

/-- What a group was told stays as it is while its consumers receive nothing. -/
theorem Hears.more (hears : Hears topics count retention uses place hearing)
    (more : List (Use Notification)) (stays : ∀ id, .unsubscribe id ∉ more)
    (received : ∀ seat ∈ seats count place,
      (after Notification.key count retention (uses ++ more)).received seat.2 =
        (after Notification.key count retention uses).received seat.2) :
    Hears topics count retention (uses ++ more) place hearing where
  workers := hears.workers
  serves := fun seat member => (hears.serves seat member).more more (stays seat.2)
  due := hears.due
  told := by
    intro number seat isSeat listener isListener
    rw [received seat (List.mem_of_getElem? isSeat)]
    exact hears.told number seat isSeat listener isListener

/-- A consumer that takes up a notification has to call each listener with it. -/
theorem Hears.takeUp (hears : Hears topics count retention uses place hearing) {worker : Worker}
    {answers : Nat → Listener} {notification : Notification} {bus : Bus Notification}
    (isSeat : (seats count place)[number]? = some seat) (idle : hearing.due number = [])
    (taken : (after Notification.key count retention uses).bus.take? seat.2 =
      some (notification, bus)) :
    Hears topics count retention (uses ++ [.take seat.2]) place
      (hearing.takeUp number worker answers notification) := by
  have isSent := (hears.serves seat (List.mem_of_getElem? isSeat)).mem_of_take? taken
  have here : Partition.ofKey notification.key count = seat.1 := by
    simpa using (List.mem_filter.mp isSent).2
  rw [Hearing.takeUp_eq]
  refine ⟨hears.workers, ?_, ?_, ?_⟩
  · exact fun other member => (hears.serves other member).more _ (by simp)
  · intro other heard member
    dsimp only at member
    by_cases same : other = number
    · subst same
      rw [Function.update_self, ListenerGroup.deliver_eq] at member
      obtain ⟨_, _, rfl⟩ := List.mem_map.mp member
      exact ⟨seat, isSeat, here⟩
    · rw [Function.update_of_ne same] at member
      exact hears.due other heard member
  · intro other otherSeat isOther listener isListener
    have told := hears.told other otherSeat isOther listener isListener
    rw [after_take taken]
    dsimp only [Traffic.receive]
    by_cases same : other = number
    · subst same
      cases isSeat.symm.trans isOther
      rw [idle] at told
      rw [Function.update_self, Function.update_self, ← told, List.append_assoc]
      congr 1
      refine Heard.told_deliver _ notification ?_
      rwa [ListenerGroup.length_answering]
    -- another consumer of the group has another subscription, which received nothing
    · have different : otherSeat.2 ≠ seat.2 := fun ids =>
        same (seats_disjoint isOther isSeat ids).2
      rw [Function.update_of_ne same, Function.update_of_ne different]
      exact told

/-- The bus after certain uses, of which certain notifications were published, and all groups that
were launched on it. -/
structure Follows (topics : Topics) (count : UInt32) (retention : Nat) (groups : List ListenerGroup)
    (notifications : List Notification) (uses : List (Use Notification)) (fanOut : FanOut) :
    Prop where
  bus : fanOut.backend.notifications = (after Notification.key count retention uses).bus
  published : ∀ type, published (topics.notifications type) uses =
    notifications.filter fun notification => notification.type = type
  groups : fanOut.hearings.map (·.group) = groups
  hears : ∀ place hearing, fanOut.hearings[place]? = some hearing →
    Hears topics count retention uses place hearing

theorem partitionNumbers_after (uses : List (Use Notification)) :
    (after Notification.key count retention uses).bus.partitionNumbers = numbers count := by
  rw [partitionNumbers, (accounts_after Notification.key count retention uses).divided]
  rfl

/-- How launching a group uses the bus. -/
def joining (topics : Topics) (count : UInt32) (group : ListenerGroup) : List (Use Notification) :=
  (numbers count).map (.subscribe (topics.notifications group.type) group.name)

theorem onlySubscribes_joining (topics : Topics) (count : UInt32) (group : ListenerGroup) :
    OnlySubscribes (joining topics count group) := by
  intro use member
  obtain ⟨number, _, rfl⟩ := List.mem_map.mp member
  exact ⟨_, _, number, rfl⟩

/-- A group with its consumers that has received nothing. -/
def launched (count : UInt32) (place : Nat) (group : ListenerGroup) : Hearing :=
  ⟨group, (seats count place).map fun seat => ⟨.listen group seat.1, some seat.2, false⟩,
    fun _ => [], []⟩

variable {service : Service}

/-- One more group is launched before anything is published. -/
theorem Follows.join (group : ListenerGroup)
    (follows : Follows service.topics count retention groups [] uses fanOut)
    (next : (after Notification.key count retention uses).bus.nextSubscription =
      fanOut.hearings.length * (numbers count).length) :
    Follows service.topics count retention (groups ++ [group]) []
        (uses ++ joining service.topics count group) (fanOut.join service group) ∧
      (after Notification.key count retention
        (uses ++ joining service.topics count group)).bus.nextSubscription =
        (fanOut.join service group).hearings.length * (numbers count).length := by
  have subscribes := onlySubscribes_joining service.topics count group
  have silent (number : UInt32) : sent Notification.key count
      (service.topics.notifications group.type) number uses = [] := by
    rw [sent, follows.published]
    rfl
  -- nothing was published yet, so it does not matter what a subscription goes back to
  have whole : ∀ number ∈ numbers count, replay Notification.key count retention
      (service.topics.notifications group.type) group.name number uses =
      sent Notification.key count (service.topics.notifications group.type) number uses := by
    intro number _
    rw [silent]
    exact List.suffix_nil.mp (silent number ▸ replay_suffix ..)
  obtain ⟨subscribed, last, serves⟩ := Launch.subscribe_serves (.listen group)
    (fanOut.hearings.flatMap Hearing.workers).length (numbers count)
    (fun _ => mem_partitionNumbers) (nodup_partitionNumbers _) whole
  rw [next] at subscribed last serves
  have joins : fanOut.join service group =
      ⟨{ fanOut.backend with notifications := (after Notification.key count retention
          (uses ++ joining service.topics count group)).bus },
        fanOut.hearings ++ [launched count fanOut.hearings.length group]⟩ := by
    rw [FanOut.join, follows.bus, partitionNumbers_after, subscribed]
    rfl
  refine ⟨⟨congrArg (·.backend.notifications) joins, ?_, ?_, ?_⟩, ?_⟩
  · intro type
    rw [published_append, subscribes.published_eq_nil, List.append_nil, follows.published]
  · rw [joins, List.map_append, follows.groups]
    rfl
  · intro place hearing found
    rw [joins, List.getElem?_append] at found
    split at found
    · exact (follows.hears place hearing found).more _ subscribes.unsubscribe_notMem
        fun seat _ => congrFun (subscribes.received_after uses) seat.2
    next beyond =>
      obtain ⟨first, rfl⟩ : place - fanOut.hearings.length = 0 ∧ launched .. = hearing := by
        simpa [List.getElem?_singleton] using found
      obtain rfl : place = fanOut.hearings.length := by omega
      refine ⟨rfl, serves, fun _ _ none => (List.not_mem_nil none).elim,
        fun number seat isSeat listener _ => ?_⟩
      rw [subscribes.received_after]
      have unused := (accounts_after Notification.key count retention uses).unused seat.2 (by
        rw [next, ← (getElem?_seats.mp isSeat).2]
        exact Nat.le_add_right _ _)
      exact unused.2.symm
  · rw [joins, List.length_append, List.length_singleton, Nat.succ_mul]
    exact last

/-- All groups are launched on a new bus. -/
theorem follows_opening (service : Service) (backend : Backend)
    (fresh : backend.notifications = .create count retention) (groups : List ListenerGroup) :
    ∃ uses, Follows service.topics count retention groups [] uses (opening service backend groups) ∧
      (after Notification.key count retention uses).bus.nextSubscription =
        (opening service backend groups).hearings.length * (numbers count).length := by
  induction groups using List.reverseRecOn with
  | nil =>
      refine ⟨[], ⟨fresh, fun _ => rfl, rfl, by simp [opening]⟩, ?_⟩
      rw [opening, List.foldl_nil, List.length_nil, Nat.zero_mul]
      rfl
  | append_singleton groups last ih =>
      obtain ⟨uses, follows, next⟩ := ih
      rw [opening, List.foldl_append]
      exact ⟨_, follows.join last next⟩

/-- The hearings after one of them was exchanged. -/
theorem getElem?_set_cases {hearings : List Hearing} {other : Nat} {later now : Hearing}
    (there : (hearings.set place later)[other]? = some now) :
    (other = place ∧ now = later) ∨ (other ≠ place ∧ hearings[other]? = some now) := by
  by_cases same : other = place
  · subst same
    obtain ⟨_, here⟩ := List.getElem?_eq_some_iff.mp there
    rw [List.getElem_set_self] at here
    exact .inl ⟨rfl, here.symm⟩
  · rw [List.getElem?_set_ne (Ne.symm same)] at there
    exact .inr ⟨same, there⟩

/-- A move of one group is nothing to the others. -/
theorem Follows.exchange {backend : Backend} {later : Hearing} {more : List (Use Notification)}
    (follows : Follows topics count retention groups notifications uses fanOut)
    (found : fanOut.hearings[place]? = some hearing) (group : later.group = hearing.group)
    (bus : backend.notifications = (after Notification.key count retention (uses ++ more)).bus)
    (silent : ∀ topic, Bus.published topic more = [])
    (hears : Hears topics count retention (uses ++ more) place later)
    (others : ∀ other otherHearing, other ≠ place →
      Hears topics count retention uses other otherHearing →
        Hears topics count retention (uses ++ more) other otherHearing) :
    Follows topics count retention groups notifications (uses ++ more)
      ⟨backend, fanOut.hearings.set place later⟩ where
  bus := bus
  published := by
    intro type
    rw [published_append, silent, List.append_nil, follows.published]
  groups := by
    obtain ⟨_, rfl⟩ := List.getElem?_eq_some_iff.mp found
    rw [← follows.groups, List.map_set, group, ← List.map_set, List.set_getElem_self]
  hears := by
    intro other otherHearing there
    rcases getElem?_set_cases there with ⟨rfl, rfl⟩ | ⟨different, there⟩
    · exact hears
    · exact others other otherHearing different (follows.hears other otherHearing there)

/-- What a move does. -/
inductive Made (service : Service) (fanOut : FanOut) : Move → FanOut → Prop where
  | notified (notification : Notification) :
      Made service fanOut (.notify notification)
        ⟨{ fanOut.backend with
            notifications := fanOut.backend.notifications.publish
              (service.topics.notifications notification.type) notification.key notification },
          fanOut.hearings⟩
  | tookUp (place number : Nat) (answers : Nat → Listener) (hearing : Hearing) (worker : Worker)
      (id : Nat) (notification : Notification) (notifications : Bus Notification)
      (found : fanOut.hearings[place]? = some hearing)
      (isWorker : hearing.workers[number]? = some worker) (idle : hearing.due number = [])
      (subscribed : worker.subscription = some id)
      (taken : fanOut.backend.notifications.take? id = some (notification, notifications)) :
      Made service fanOut (.takeUp place number answers)
        ⟨{ fanOut.backend with notifications },
          fanOut.hearings.set place (hearing.takeUp number worker answers notification)⟩
  | called (place number : Nat) (hearing : Hearing)
      (found : fanOut.hearings[place]? = some hearing) :
      Made service fanOut (.call place number)
        { fanOut with hearings := fanOut.hearings.set place (hearing.call number) }
  | unmoved (move : Move) (silent : move.notified? = none) : Made service fanOut move fanOut

theorem made_make (service : Service) (fanOut : FanOut) (move : Move) :
    Made service fanOut move (fanOut.make service move) := by
  cases move with
  | notify notification => exact .notified notification
  | takeUp place number answers =>
      simp only [FanOut.make]
      split
      · exact .unmoved _ rfl
      next hearing found =>
        split
        next worker isWorker idle =>
          split
          · exact .unmoved _ rfl
          next notification notifications taken =>
            obtain ⟨id, subscribed, taken⟩ := Option.bind_eq_some_iff.mp taken
            exact .tookUp place number answers hearing worker id notification notifications found
              isWorker idle subscribed taken
        · exact .unmoved _ rfl
  | call place number =>
      simp only [FanOut.make]
      split
      · exact .unmoved _ rfl
      next hearing found => exact .called place number hearing found

/-- A move publishes its notification and adds nothing else to what was published. -/
theorem Follows.made (follows : Follows service.topics count retention groups notifications uses fanOut)
    {move : Move} {later : FanOut} (made : Made service fanOut move later) :
    ∃ more, Follows service.topics count retention groups
      (notifications ++ move.notified?.toList) (uses ++ more) later := by
  cases made with
  | notified notification =>
      refine ⟨[.publish (service.topics.notifications notification.type) notification],
        ⟨?_, ?_, follows.groups, ?_⟩⟩
      · rw [after_snoc, use, follows.bus]
      · intro type
        have same : service.topics.notifications notification.type =
            service.topics.notifications type ↔ notification.type = type :=
          ⟨Topics.name_injective _ _, congrArg _⟩
        rw [published_append, follows.published, List.filter_append]
        by_cases isType : notification.type = type <;>
          simp [Bus.published, Use.message?, Move.notified?, same, isType]
      · intro place hearing found
        refine (follows.hears place hearing found).more _ (by simp) fun seat _ => ?_
        rw [after_snoc, use]
  | tookUp place number answers hearing worker id notification bus found isWorker idle subscribed taken =>
      have hears := follows.hears place hearing found
      obtain ⟨seat, isSeat, rfl⟩ : ∃ seat, (seats count place)[number]? = some seat ∧
          ⟨.listen hearing.group seat.1, some seat.2, false⟩ = worker := by
        rw [hears.workers, List.getElem?_map, Option.map_eq_some_iff] at isWorker
        exact isWorker
      obtain rfl : seat.2 = id := Option.some.inj subscribed
      rw [follows.bus] at taken
      refine ⟨[.take seat.2], ?_⟩
      rw [Move.notified?, Option.toList_none, List.append_nil]
      refine follows.exchange found ?_ ?_ ?_ (hears.takeUp isSeat idle taken) ?_
      · rw [Hearing.takeUp_eq]
      · rw [after_take taken]
        rfl
      · exact published_of_silent fun _ => rfl
      · intro other otherHearing different otherHears
        refine otherHears.more _ (by simp) fun otherSeat member => ?_
        obtain ⟨otherNumber, isOther⟩ := List.mem_iff_getElem?.mp member
        rw [after_take taken]
        refine Function.update_of_ne ?_ _ _
        exact fun ids => different (seats_disjoint isOther isSeat ids).1
  | called place number hearing found =>
      have group : (hearing.call number).group = hearing.group := by
        unfold Hearing.call
        split <;> rfl
      have hears := (follows.hears place hearing found).call number
      refine ⟨[], ?_⟩
      rw [Move.notified?, Option.toList_none, List.append_nil]
      refine follows.exchange found group ?_ (fun _ => rfl) ?_ ?_
      · rw [List.append_nil, follows.bus]
      · rwa [List.append_nil]
      · intro other otherHearing _ otherHears
        rwa [List.append_nil]
  | unmoved _ silent => exact ⟨[], by simpa [silent] using follows⟩

theorem Follows.run (follows : Follows service.topics count retention groups notifications uses fanOut)
    (moves : List Move) :
    ∃ more, Follows service.topics count retention groups (notifications ++ notified moves)
      (uses ++ more) (fanOut.run service moves) := by
  induction moves generalizing fanOut notifications uses with
  | nil => exact ⟨[], by simpa [notified, FanOut.run] using follows⟩
  | cons move rest ih =>
      obtain ⟨first, once⟩ := follows.made (made_make service fanOut move)
      obtain ⟨more, whole⟩ := ih once
      rw [List.append_assoc, List.append_assoc, ← notified_cons] at whole
      exact ⟨first ++ more, whole⟩

end FanOut

end CacheFill
