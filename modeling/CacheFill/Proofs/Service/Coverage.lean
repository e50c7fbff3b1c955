import CacheFill.Proofs.Service.Subscribing

/-!
The consumers of dispatches that a launch leaves running. Between them they are handed each message
of their load types once, those that were published before the launch as well as all that come
later. Main statement: `Config.launch_covers`.
-/

set_option autoImplicit false

namespace CacheFill

open Bus Traffic

/-- The partition whose dispatches the worker executes. -/
def Duty.executed? : Duty → Option (LoadType × UInt32)
  | .execute type number => some (type, number)
  | .sweep | .listen _ _ => none

def Component.type? : Component → Option LoadType
  | .execution type => some type
  | .sweeping | .listening _ => none

/-- The subscription to dispatches that the worker consumes. -/
def Worker.dispatches? (worker : Worker) : Option Nat :=
  worker.duty.executed?.bind fun _ => worker.subscription

/-- The dispatches that the worker has received, and then those that wait for it. -/
def Worker.handed (worker : Worker) (traffic : Traffic Dispatch) : List Dispatch :=
  (worker.dispatches?.map traffic.delivered).getD []

/-- The messages that were published, the oldest first. -/
def Bus.messages {M : Type} (uses : List (Use M)) : List M :=
  uses.filterMap fun
    | .publish _ message => some message
    | .subscribe _ _ _ | .take _ | .drain _ | .unsubscribe _ => none

/-- Each dispatch is published to the topic of its load type. -/
def Topics.Addressed (topics : Topics) (uses : List (Use Dispatch)) : Prop :=
  ∀ topic message, .publish topic message ∈ uses → topic = topics.dispatch message.type

/-- Each message of certain load types is handed to one of the workers, and messages of one type and
key are handed to the same worker in the order of their publishing. -/
structure Covers (workers : List Worker) (types : List LoadType) (messages : List Dispatch)
    (traffic : Traffic Dispatch) : Prop where
  whole : ∀ type ∈ types, ∀ key, ∃ (place : Nat) (worker : Worker), workers[place]? = some worker ∧
    (worker.handed traffic).filter (·.key = key) =
      messages.filter (fun message => message.type = type ∧ message.key = key) ∧
    ∀ (otherPlace : Nat) (other : Worker), workers[otherPlace]? = some other → otherPlace ≠ place →
      ∀ message ∈ other.handed traffic, ¬ (message.type = type ∧ message.key = key)
  own : ∀ worker ∈ workers, ∀ message ∈ worker.handed traffic,
    ∃ number, worker.duty = .execute message.type number

section

variable {topics : Topics} {count : UInt32} {retention : Nat}
  {before uses more : List (Use Dispatch)} {launch : Launch} {types : List LoadType}

theorem Topics.Addressed.published (addressed : topics.Addressed uses) (type : LoadType) :
    Bus.published (topics.dispatch type) uses =
      (Bus.messages uses).filter fun message => message.type = type := by
  induction uses with
  | nil => rfl
  | cons use rest ih =>
      have rest := ih fun topic message member =>
        addressed topic message (List.mem_cons_of_mem _ member)
      cases use with
      | publish topic message =>
          obtain rfl := addressed topic message List.mem_cons_self
          have same : topics.dispatch message.type = topics.dispatch type ↔ message.type = type :=
            ⟨Topics.name_injective _ _, congrArg _⟩
          by_cases isType : message.type = type <;>
            simp_all [Bus.published, Bus.messages, Use.message?]
      | subscribe _ _ _ | take _ | drain _ | unsubscribe _ => exact rest

theorem Topics.Addressed.append (first : topics.Addressed uses) (last : topics.Addressed more) :
    topics.Addressed (uses ++ more) := fun topic message member =>
  (List.mem_append.mp member).elim (first topic message) (last topic message)

/-- Subscribing publishes nothing. -/
theorem Bus.Traffic.OnlySubscribes.quiet {joins : List (Use Dispatch)}
    (subscribes : OnlySubscribes joins) (topics : Topics) :
    Bus.messages joins = [] ∧ topics.Addressed joins := by
  constructor
  · refine List.filterMap_eq_nil_iff.mpr fun use member => ?_
    obtain ⟨_, _, _, rfl⟩ := subscribes use member
    rfl
  · intro topic message member
    obtain ⟨_, _, _, same⟩ := subscribes _ member
    cases same

/-- A launch that has come as far as this: the bus, and each consumer of dispatches serves its
partition. -/
structure Launch.Serving (topics : Topics) (count : UInt32) (retention : Nat)
    (before : List (Use Dispatch)) (types : List LoadType) (joins : List (Use Dispatch))
    (launch : Launch) : Prop where
  bus : launch.dispatches = (after Dispatch.key count retention (before ++ joins)).bus
  subscribed : ∀ use ∈ joins, ∃ type ∈ types, ∃ number,
    use = .subscribe (topics.dispatch type) executionGroup number
  serves : ∀ worker ∈ launch.held, ∀ type number, worker.duty = .execute type number →
    ∃ id, worker.subscription = some id ∧
      Serves Dispatch.key count retention (before ++ joins) id (topics.dispatch type) number

theorem Launch.Serving.onlySubscribes {joins : List (Use Dispatch)}
    (serving : launch.Serving topics count retention before types joins) : OnlySubscribes joins := by
  intro use member
  obtain ⟨_, _, number, same⟩ := serving.subscribed use member
  exact ⟨_, _, number, same⟩

/-- What is launched so far has published nothing. -/
theorem Launch.Serving.sent {joins : List (Use Dispatch)}
    (serving : launch.Serving topics count retention before types joins) (topic : String)
    (number : UInt32) :
    Bus.sent Dispatch.key count topic number (before ++ joins) =
      Bus.sent Dispatch.key count topic number before := by
  rw [Bus.sent, published_append, serving.onlySubscribes.published_eq_nil, List.append_nil]
  rfl

theorem Launch.Serving.replay_eq_sent {joins : List (Use Dispatch)} {type : LoadType}
    {number : UInt32} (serving : launch.Serving topics count retention before types joins)
    (isNew : type ∉ types)
    (alone : .subscribe (topics.dispatch type) executionGroup number ∉ before)
    (retained : (Bus.sent Dispatch.key count (topics.dispatch type) number before).length ≤
      retention) :
    replay Dispatch.key count retention (topics.dispatch type) executionGroup number
        (before ++ joins) =
      Bus.sent Dispatch.key count (topics.dispatch type) number (before ++ joins) := by
  have unjoined : (before ++ joins).any
      (Use.joins (topics.dispatch type) executionGroup number) = false := by
    refine List.any_eq_false.mpr fun use member joined => ?_
    have same : use = .subscribe (topics.dispatch type) executionGroup number := by
      cases use with
      | subscribe topic group other =>
          simp only [Use.joins, decide_eq_true_eq, Prod.mk.injEq] at joined
          obtain ⟨rfl, rfl, rfl⟩ := joined
          rfl
      | publish _ _ | take _ | drain _ | unsubscribe _ => cases joined
    subst same
    rcases List.mem_append.mp member with earlier | now
    · exact alone earlier
    -- the launch has joined other topics only
    · obtain ⟨launched, isLaunched, other, same⟩ := serving.subscribed _ now
      obtain rfl : type = launched := topics.name_injective _ (Use.subscribe.inj same).1
      exact isNew isLaunched
  rw [replay, unjoined, serving.sent, if_neg Bool.false_ne_true, List.rtake,
    Nat.sub_eq_zero_of_le retained, List.drop_zero]

/-- More workers are held, and those that execute dispatches serve their partitions. -/
theorem Launch.Serving.hold {joins : List (Use Dispatch)} {later : Launch} {workers : List Worker}
    {added : List LoadType}
    (serving : launch.Serving topics count retention before types joins)
    (held : later.held = launch.held ++ workers)
    (bus : later.dispatches = (after Dispatch.key count retention (before ++ (joins ++ more))).bus)
    (subscribed : ∀ use ∈ more, ∃ type ∈ added, ∃ number,
      use = .subscribe (topics.dispatch type) executionGroup number)
    (serves : ∀ worker ∈ workers, ∀ type number, worker.duty = .execute type number →
      ∃ id, worker.subscription = some id ∧ Serves Dispatch.key count retention
        (before ++ (joins ++ more)) id (topics.dispatch type) number) :
    later.Serving topics count retention before (types ++ added) (joins ++ more) where
  bus := bus
  subscribed := by
    intro use member
    rcases List.mem_append.mp member with earlier | now
    · obtain ⟨type, isLaunched, same⟩ := serving.subscribed use earlier
      exact ⟨type, List.mem_append_left _ isLaunched, same⟩
    · obtain ⟨type, isAdded, same⟩ := subscribed use now
      exact ⟨type, List.mem_append_right _ isAdded, same⟩
  serves := by
    intro worker member type number duty
    rw [held] at member
    rcases List.mem_append.mp member with earlier | now
    · obtain ⟨id, isSubscription, served⟩ := serving.serves worker earlier type number duty
      refine ⟨id, isSubscription, ?_⟩
      rw [← List.append_assoc]
      refine served.more more fun ends => ?_
      obtain ⟨_, _, _, same⟩ := subscribed _ ends
      cases same
    · exact serves worker now type number duty

/-- A bus that refuses nothing serves all partitions. -/
theorem Launch.subscribe_accepted {M : Type} (topic group : String) (duty : UInt32 → Duty)
    (launched : Nat) (bus : Bus M) :
    ∃ workers later, subscribe topic group .none duty launched bus.partitionNumbers bus =
        (workers, none, later) ∧
      workers.map Worker.duty = bus.partitionNumbers.map duty := by
  have agrees (partition : UInt32) (place : Nat) :
      none = Refusal.none place topic group partition := rfl
  obtain ⟨workers, later, served, duties, _⟩ := subscribe_served (fun _ => none) duty agrees
    launched bus.partitionNumbers bus fun _ => mem_partitionNumbers
  refine ⟨workers, later, ?_, ?_⟩
  · rw [served, List.findSome?_eq_none_iff.mpr fun _ _ => rfl]
    rfl
  · have whole : ((bus.partitionNumbers.map duty).zipIdx launched).takeWhile
        (fun _ => (none : Option String).isNone) = (bus.partitionNumbers.map duty).zipIdx launched :=
      List.takeWhile_eq_self_iff.mpr fun _ _ => rfl
    rw [duties, whole, List.zipIdx_map_fst]

/-- One more component is launched. -/
theorem Launch.Serving.add {joins : List (Use Dispatch)} (component : Component)
    (serving : launch.Serving topics count retention before types joins)
    (unfailed : launch.failure = none)
    (ready : ∀ type, component.type? = some type → type ∉ types ∧ ∀ number,
      .subscribe (topics.dispatch type) executionGroup number ∉ before ∧
        (Bus.sent Dispatch.key count (topics.dispatch type) number before).length ≤ retention) :
    ∃ more, (launch.add topics .none .none component).Serving topics count retention before
      (types ++ component.type?.toList) (joins ++ more) := by
  have going : launch.failure.isSome = false := by rw [unfailed]; rfl
  have unchanged : launch.dispatches =
      (after Dispatch.key count retention (before ++ (joins ++ []))).bus := by
    rw [List.append_nil, serving.bus]
  cases component with
  | execution type =>
      obtain ⟨isNew, ready⟩ := ready type rfl
      have numbers : ∀ number ∈ launch.dispatches.partitionNumbers, number < max count 1 := by
        intro number member
        rw [← (accounts_after Dispatch.key count retention (before ++ joins)).divided, ← serving.bus]
        exact mem_partitionNumbers member
      obtain ⟨accepted, _, serves⟩ := subscribe_serves (.execute type) launch.held.length
        launch.dispatches.partitionNumbers numbers (nodup_partitionNumbers _) fun number _ =>
          serving.replay_eq_sent isNew (ready number).1 (ready number).2
      rw [← serving.bus, List.append_assoc] at accepted serves
      refine ⟨launch.dispatches.partitionNumbers.map
        (.subscribe (topics.dispatch type) executionGroup), ?_⟩
      simp only [Launch.add, going, accepted]
      refine serving.hold rfl rfl ?_ ?_
      · intro use member
        obtain ⟨number, _, rfl⟩ := List.mem_map.mp member
        exact ⟨type, List.mem_singleton_self type, number, rfl⟩
      · intro worker member other number duty
        obtain ⟨seat, isSeat, rfl⟩ := List.mem_map.mp member
        cases duty
        exact ⟨seat.2, rfl, serves seat isSeat⟩
  | sweeping =>
      refine ⟨[], ?_⟩
      simp only [Launch.add, going]
      refine serving.hold rfl unchanged (fun _ none => (List.not_mem_nil none).elim)
        fun worker member type number duty => ?_
      rw [List.mem_singleton.mp member] at duty
      cases duty
  | listening group =>
      obtain ⟨workers, later, accepted, duties⟩ := subscribe_accepted
        (topics.notifications group.type) group.name (.listen group) launch.held.length
        launch.notifications
      refine ⟨[], ?_⟩
      simp only [Launch.add, going, accepted]
      refine serving.hold rfl unchanged (fun _ none => (List.not_mem_nil none).elim)
        fun worker member type number duty => ?_
      have listens : worker.duty ∈ launch.notifications.partitionNumbers.map (.listen group) :=
        duties ▸ List.mem_map_of_mem member
      obtain ⟨_, _, same⟩ := List.mem_map.mp listens
      rw [duty] at same
      cases same

/-- A launch on buses that refuse nothing comes through. -/
theorem Launch.reached_accepting (topics : Topics) (components : List Component)
    (dispatches : Bus Dispatch) (notifications : Bus Notification) :
    Reached topics .none .none dispatches.partitionNumbers notifications.partitionNumbers
      (components.foldl (add topics .none .none) ⟨dispatches, notifications, [], [], none⟩)
      components := by
  have begun : Reached topics .none .none dispatches.partitionNumbers
      notifications.partitionNumbers ⟨dispatches, notifications, [], [], none⟩ [] :=
    ⟨rfl, rfl, rfl, by simp, by simp, rfl, rfl⟩
  rcases begun.foldl components with whole | ⟨_, refused, _, _, ended⟩
  · exact whole
  · obtain ⟨reason, _, found⟩ := ended.failed
    obtain ⟨⟨duty, _⟩, _, refuses⟩ := List.exists_of_findSome?_eq_some found
    cases duty <;> cases refuses

theorem Launch.serving_accepting (topics : Topics) (components : List Component)
    (dispatches : Bus Dispatch) (notifications : Bus Notification)
    (bus : dispatches = (after Dispatch.key count retention before).bus)
    (distinct : (components.filterMap Component.type?).Nodup)
    (ready : ∀ type ∈ components.filterMap Component.type?, ∀ number,
      .subscribe (topics.dispatch type) executionGroup number ∉ before ∧
        (Bus.sent Dispatch.key count (topics.dispatch type) number before).length ≤ retention) :
    ∃ joins, (components.foldl (add topics .none .none)
      ⟨dispatches, notifications, [], [], none⟩).Serving topics count retention before
        (components.filterMap Component.type?) joins := by
  induction components using List.reverseRecOn with
  | nil =>
      refine ⟨[], ⟨?_, fun _ none => (List.not_mem_nil none).elim,
        fun _ none => (List.not_mem_nil none).elim⟩⟩
      rw [List.append_nil]
      exact bus
  | append_singleton components last ih =>
      have types : (components ++ [last]).filterMap Component.type? =
          components.filterMap Component.type? ++ last.type?.toList := by
        rw [List.filterMap_append]
        cases last <;> rfl
      rw [types] at distinct ready ⊢
      obtain ⟨distinct, _, apart⟩ := List.nodup_append.mp distinct
      obtain ⟨joins, serving⟩ := ih distinct fun type member =>
        ready type (List.mem_append_left _ member)
      have unfailed := (reached_accepting topics components dispatches notifications).unfailed
      rw [List.foldl_append]
      obtain ⟨more, onward⟩ := serving.add last unfailed fun type isLast => by
        have isNew : type ∈ last.type?.toList := Option.mem_toList.mpr isLast
        exact ⟨fun launched => apart type launched type isNew rfl,
          ready type (List.mem_append_right _ isNew)⟩
      exact ⟨joins ++ more, onward⟩

/-- What a consumer is handed that serves its partition. -/
theorem Worker.handed_eq {worker : Worker} {type : LoadType} {number : UInt32} {id : Nat}
    (addressed : topics.Addressed uses) (duty : worker.duty = .execute type number)
    (isSubscription : worker.subscription = some id)
    (serves : Serves Dispatch.key count retention uses id (topics.dispatch type) number) :
    worker.handed (after Dispatch.key count retention uses) =
      ((Bus.messages uses).filter fun message => message.type = type).filter fun message =>
        Partition.ofKey message.key count = number := by
  have consumes : worker.dispatches? = some id := by
    rw [dispatches?, duty, isSubscription]
    rfl
  rw [handed, consumes, ← addressed.published]
  exact serves.delivered

/-- No two workers execute the dispatches of the same partition. -/
theorem place_unique {workers : List Worker} {place otherPlace : Nat} {worker other : Worker}
    {executed : LoadType × UInt32}
    (distinct : (workers.filterMap fun worker => worker.duty.executed?).Nodup)
    (here : workers[place]? = some worker) (there : workers[otherPlace]? = some other)
    (executes : worker.duty.executed? = some executed)
    (otherExecutes : other.duty.executed? = some executed) : place = otherPlace := by
  have apart := List.pairwise_iff_getElem.mp (List.pairwise_filterMap.mp distinct)
  obtain ⟨below, rfl⟩ := List.getElem?_eq_some_iff.mp here
  obtain ⟨otherBelow, rfl⟩ := List.getElem?_eq_some_iff.mp there
  rcases Nat.lt_trichotomy place otherPlace with first | same | last
  · exact absurd rfl (apart _ _ below otherBelow first _ executes _ otherExecutes)
  · exact same
  · exact absurd rfl (apart _ _ otherBelow below last _ otherExecutes _ executes)

/-- Workers with the duties for all partitions of certain load types cover these types if each
serves its partition. -/
theorem covers_of_serves {workers : List Worker} {numbers : List UInt32}
    (addressed : topics.Addressed uses)
    (duties : (workers.filterMap fun worker => worker.duty.executed?) = types ×ˢ numbers)
    (distinct : (types ×ˢ numbers).Nodup) (all : ∀ number, number < max count 1 → number ∈ numbers)
    (serves : ∀ worker ∈ workers, ∀ type number, worker.duty = .execute type number →
      ∃ id, worker.subscription = some id ∧
        Serves Dispatch.key count retention uses id (topics.dispatch type) number) :
    Covers workers types (Bus.messages uses) (after Dispatch.key count retention uses) := by
  have own : ∀ worker ∈ workers, ∀ message ∈ worker.handed (after Dispatch.key count retention uses),
      worker.duty = .execute message.type (Partition.ofKey message.key count) := by
    intro worker member message isHanded
    cases duty : worker.duty with
    | execute type number =>
        obtain ⟨id, isSubscription, served⟩ := serves worker member type number duty
        rw [Worker.handed_eq addressed duty isSubscription served] at isHanded
        simp only [List.mem_filter, decide_eq_true_eq] at isHanded
        rw [isHanded.1.2, isHanded.2]
    | sweep | listen _ _ =>
        simp [Worker.handed, Worker.dispatches?, duty, Duty.executed?] at isHanded
  refine ⟨fun type isType key => ?_, fun worker member message isHanded =>
    ⟨_, own worker member message isHanded⟩⟩
  -- the type and the partition of the key are the duty of just one worker
  have seat : (type, Partition.ofKey key count) ∈ types ×ˢ numbers :=
    List.pair_mem_product.mpr ⟨isType, all _ (ofKey_lt key count)⟩
  rw [← duties] at seat distinct
  obtain ⟨worker, member, executes⟩ := List.mem_filterMap.mp seat
  have duty : worker.duty = .execute type (Partition.ofKey key count) := by
    cases duty : worker.duty with
    | execute type number =>
        rw [duty] at executes
        cases executes
        rfl
    | sweep | listen _ _ =>
        rw [duty] at executes
        cases executes
  obtain ⟨id, isSubscription, served⟩ := serves worker member type _ duty
  obtain ⟨place, here⟩ := List.mem_iff_getElem?.mp member
  refine ⟨place, worker, here, ?_, ?_⟩
  · rw [Worker.handed_eq addressed duty isSubscription served,
      filter_partition_key Dispatch.key count, List.filter_filter]
    refine List.filter_congr fun message _ => ?_
    simp [and_comm]
  · rintro otherPlace other there different message isHanded ⟨rfl, rfl⟩
    have otherDuty := own other (List.mem_of_getElem? there) message isHanded
    refine different (place_unique distinct there here ?_ executes)
    rw [otherDuty]
    rfl

namespace Component

variable {config : Config} (works : config.enableWorkers = true) (types : List LoadType)
  (groups : List ListenerGroup) (dispatching notifying : List UInt32)

include works

theorem duties_enabled :
    (enabled config types groups).flatMap (·.duties dispatching notifying) =
      (types.flatMap fun type => dispatching.map (.execute type)) ++
        (if config.enableRetrySweeper then [.sweep] else []) ++
        (if config.enableNotifications then groups.flatMap fun group =>
          notifying.map (.listen group) else []) := by
  rw [enabled, works, if_pos rfl, List.flatMap_append, List.flatMap_append, List.flatMap_map]
  congr 2
  · split <;> rfl
  · split
    · exact List.flatMap_map ..
    · rfl

theorem executed_enabled :
    ((enabled config types groups).flatMap (·.duties dispatching notifying)).filterMap
      Duty.executed? = types ×ˢ dispatching := by
  have sweeping : (if config.enableRetrySweeper then [Duty.sweep] else []).filterMap
      Duty.executed? = [] := by
    split <;> rfl
  have listening : (if config.enableNotifications then groups.flatMap fun group =>
      notifying.map (.listen group) else []).filterMap Duty.executed? = [] := by
    split
    · refine List.filterMap_eq_nil_iff.mpr fun duty member => ?_
      obtain ⟨group, _, isDuty⟩ := List.mem_flatMap.mp member
      obtain ⟨number, _, rfl⟩ := List.mem_map.mp isDuty
      rfl
    · rfl
  rw [duties_enabled works, List.filterMap_append, List.filterMap_append, sweeping, listening,
    List.append_nil, List.append_nil, List.filterMap_flatMap]
  refine List.flatMap_congr fun type _ => ?_
  rw [List.filterMap_map]
  exact congrFun List.filterMap_eq_map dispatching

theorem types_enabled : (enabled config types groups).filterMap type? = types := by
  have sweeping : (if config.enableRetrySweeper then [Component.sweeping] else []).filterMap type? =
      [] := by
    split <;> rfl
  have listening : (if config.enableNotifications then groups.map listening else []).filterMap
      type? = [] := by
    split
    · simp [type?]
    · rfl
  rw [enabled, works, if_pos rfl, List.filterMap_append, List.filterMap_append, sweeping, listening,
    List.append_nil, List.append_nil, List.filterMap_map]
  exact List.filterMap_some

end Component

end

open Launch

/-- A launch that does not fail is what the service returns with. -/
theorem Config.launch_unfailed {config : Config} {types : List LoadType}
    {groups : List ListenerGroup} {backend : Backend} {launch : Launch}
    (valid : config.validate = .ok ())
    (launches : (Component.enabled config types groups).foldl
      (add ⟨config.topicNamespace⟩ .none .none)
      ⟨backend.dispatches, backend.notifications, [], [], none⟩ = launch)
    (unfailed : launch.failure = none) :
    ∃ started, config.launch types groups .none .none backend = (.ok launch, started) ∧
      started.dispatches = launch.dispatches := by
  have finished : launch.finish = launch := by
    rw [finish, unfailed]
    rfl
  rw [Config.launch, valid]
  dsimp only
  rw [Launch.run, launches, finished, unfailed]
  exact ⟨_, rfl, rfl⟩

/-- A service with accepted settings and enabled workers is launched on buses that refuse nothing. On
the bus of dispatches no group of that name subscribed to the topics of the service before, and no
partition was sent more than the bus retains. Then there is a worker for each load type and
partition, one that sweeps and one for each group of listeners and partition, as enabled. From then
on, as long as the subscriptions do not end, the workers cover all dispatches that were published
before or are published later. -/
theorem Config.launch_covers (config : Config) (types : List LoadType)
    (groups : List ListenerGroup) (backend : Backend) (count : UInt32) (retention : Nat)
    (before : List (Use Dispatch)) (valid : config.validate = .ok ())
    (works : config.enableWorkers = true) (distinct : types.Nodup)
    (bus : backend.dispatches = (after Dispatch.key count retention before).bus)
    (addressed : Topics.Addressed ⟨config.topicNamespace⟩ before)
    (alone : ∀ type ∈ types, ∀ number, .subscribe
      (Topics.dispatch ⟨config.topicNamespace⟩ type) executionGroup number ∉ before)
    (retained : ∀ type ∈ types, ∀ number, (sent Dispatch.key count
      (Topics.dispatch ⟨config.topicNamespace⟩ type) number before).length ≤ retention) :
    ∃ launch started, config.launch types groups .none .none backend = (.ok launch, started) ∧
      launch.failure = none ∧
      launch.workers.map Worker.duty =
        (types.flatMap fun type => backend.dispatches.partitionNumbers.map (.execute type)) ++
          (if config.enableRetrySweeper then [.sweep] else []) ++
          (if config.enableNotifications then groups.flatMap fun group =>
            backend.notifications.partitionNumbers.map (.listen group) else []) ∧
      (∀ worker ∈ launch.workers, worker.stopRequested = false) ∧
      ∀ later, Topics.Addressed ⟨config.topicNamespace⟩ later →
        (∀ worker ∈ launch.workers, ∀ id ∈ worker.dispatches?, .unsubscribe id ∉ later) →
          Covers launch.workers types (messages (before ++ later))
            (later.foldl (use Dispatch.key)
              ⟨started.dispatches, (after Dispatch.key count retention before).received⟩) := by
  have same := Component.types_enabled works types groups
  have reached := reached_accepting ⟨config.topicNamespace⟩ (Component.enabled config types groups)
    backend.dispatches backend.notifications
  obtain ⟨joins, serving⟩ := serving_accepting ⟨config.topicNamespace⟩
    (Component.enabled config types groups) backend.dispatches backend.notifications bus
    (same.symm ▸ distinct) fun type member number => by
      rw [same] at member
      exact ⟨alone type member number, retained type member number⟩
  generalize launches : (Component.enabled config types groups).foldl
    (add ⟨config.topicNamespace⟩ .none .none)
    ⟨backend.dispatches, backend.notifications, [], [], none⟩ = launch at reached serving
  have workers : launch.workers = launch.held := by
    rw [Launch.workers, reached.complete, List.append_nil]
  obtain ⟨started, returned, startedBus⟩ := Config.launch_unfailed valid launches reached.unfailed
  refine ⟨launch, started, returned, reached.unfailed, ?_, ?_, ?_⟩
  · rw [workers, reached.held, Component.duties_enabled works]
  · rw [workers]
    exact reached.unasked
  · intro later addressedLater stays
    have begun : (⟨started.dispatches, (after Dispatch.key count retention before).received⟩ :
        Traffic Dispatch) = after Dispatch.key count retention (before ++ joins) := by
      rw [startedBus, serving.bus, ← serving.onlySubscribes.received_after]
    obtain ⟨quiet, joinsAddressed⟩ := serving.onlySubscribes.quiet ⟨config.topicNamespace⟩
    have published : messages (before ++ joins ++ later) = messages (before ++ later) := by
      simp only [messages, List.filterMap_append] at quiet ⊢
      rw [quiet, List.append_nil]
    have executed : (launch.held.filterMap fun worker => worker.duty.executed?) =
        types ×ˢ backend.dispatches.partitionNumbers := by
      rw [← Component.executed_enabled works types groups _ backend.notifications.partitionNumbers,
        ← reached.held, List.filterMap_map]
      rfl
    rw [begun, ← published, after, ← List.foldl_append, workers]
    refine covers_of_serves ((addressed.append joinsAddressed).append addressedLater) executed ?_ ?_ ?_
    · exact distinct.product (nodup_partitionNumbers _)
    · intro number below
      rw [mem_partitionNumbers_iff, bus]
      rwa [(accounts_after Dispatch.key count retention before).divided]
    · intro worker member type number duty
      obtain ⟨id, isSubscription, served⟩ := serving.serves worker member type number duty
      refine ⟨id, isSubscription, served.more later (stays worker (workers ▸ member) id ?_)⟩
      rw [Worker.dispatches?, duty, isSubscription]
      rfl

/-- A dispatch of a task for this key. -/
def Dispatch.about (type : LoadType) (key : String) (attempt : UInt32) : Dispatch :=
  ⟨type, key, .minted 0 1, attempt⟩

/-- What publishes a dispatch. -/
def Dispatch.publishing (message : Dispatch) : Use Dispatch :=
  .publish (Topics.dispatch ⟨Config.standard.topicNamespace⟩ message.type) message

theorem Dispatch.addressed_publishing (published : List Dispatch) :
    Topics.Addressed ⟨Config.standard.topicNamespace⟩ (published.map publishing) := by
  intro topic message member
  obtain ⟨_, _, same⟩ := List.mem_map.mp member
  cases same
  rfl

/-- A second load type. -/
def LoadType.other : LoadType := ⟨"c", by decide, by decide⟩

/-- Dispatches of two load types, from before a launch. -/
def Dispatch.early : List Dispatch :=
  [.about default "k" 0, .about default "l" 0, .about .other "k" 0]

/-- Dispatches from after the launch. -/
def Dispatch.late : List Dispatch :=
  [.about default "k" 1, .about .other "l" 0, .about default "l" 1]

/-- Two load types and two partitions, which the two keys fall on. -/
theorem Config.covered_by_partition :
    Partition.ofKey "k" 2 = 0 ∧ Partition.ofKey "l" 2 = 1 ∧
      ∃ launch started, Config.standard.launch [default, .other] [⟨"audit", default, []⟩] .none .none
          { (default : Backend) with
            dispatches := (after Dispatch.key 2 3 (Dispatch.early.map Dispatch.publishing)).bus } =
          (.ok launch, started) ∧
        launch.workers.map (·.duty.name) = ["load-worker-a-0", "load-worker-a-1",
          "load-worker-c-0", "load-worker-c-1", "retry-sweeper", "audit-0"] ∧
        Covers launch.workers [default, .other] (Dispatch.early ++ Dispatch.late)
          ((Dispatch.late.map Dispatch.publishing).foldl (use Dispatch.key)
            ⟨started.dispatches, fun _ => []⟩) := by
  have alone : ∀ type ∈ [default, LoadType.other], ∀ number, .subscribe
      (Topics.dispatch ⟨Config.standard.topicNamespace⟩ type) executionGroup number ∉
        Dispatch.early.map Dispatch.publishing := by
    intro type _ number joined
    obtain ⟨_, _, same⟩ := List.mem_map.mp joined
    cases same
  have retained : ∀ type ∈ [default, LoadType.other], ∀ number, (sent Dispatch.key 2
      (Topics.dispatch ⟨Config.standard.topicNamespace⟩ type) number
        (Dispatch.early.map Dispatch.publishing)).length ≤ 3 := by
    intro type _ number
    exact (List.length_filter_le _ _).trans (List.length_filterMap_le _ _)
  obtain ⟨launch, started, returned, _, duties, _, covers⟩ := Config.launch_covers
    Config.standard [default, .other] [⟨"audit", default, []⟩] { (default : Backend) with
      dispatches := (after Dispatch.key 2 3 (Dispatch.early.map Dispatch.publishing)).bus } 2 3
    (Dispatch.early.map Dispatch.publishing) rfl rfl (by decide) rfl
    (Dispatch.addressed_publishing _) alone retained
  refine ⟨by decide +kernel, by decide +kernel, launch, started, returned, ?_, ?_⟩
  · have names := congrArg (List.map Duty.name) duties
    rw [List.map_map] at names
    exact names
  · refine covers (Dispatch.late.map Dispatch.publishing) (Dispatch.addressed_publishing _)
      fun _ _ id _ ends => ?_
    obtain ⟨_, _, same⟩ := List.mem_map.mp ends
    cases same

end CacheFill
