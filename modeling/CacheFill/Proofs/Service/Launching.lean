import CacheFill.Service.Launch
import CacheFill.Proofs.Worker.Consuming
import Mathlib.Data.List.TakeWhile
import Mathlib.Tactic.Common

/-!
What a launch that fails leaves running. The workers of the components before the refused one are
asked to stop and take no message after that. The workers that the refused component had by then are
not: nobody holds them, and they go on handling whatever arrives.
-/

set_option autoImplicit false

namespace CacheFill

namespace Consumer

variable {σ M : Type} (name : String) (handler : Handler σ M) (stop : Nat → Bool)

/-- A consumer that nobody asks to stop calls its handler for every message that arrives. -/
theorem calls_of_unasked (waits : List (Option (Delivery M))) (progress : Progress σ M)
    {delivery : Delivery M} (arrives : some delivery ∈ waits) :
    delivery.message ∈ (consume name handler (fun _ => false) waits progress).calls := by
  obtain ⟨courses, takes⟩ := consume_courses name handler (fun _ => false) waits progress
  have arrived : delivery ∈ waits.filterMap id := List.mem_filterMap.mpr ⟨_, arrives, rfl⟩
  rw [← takes.whole rfl] at arrived
  obtain ⟨course, mem, rfl⟩ := List.mem_map.mp arrived
  rw [Progress.calls, takes.advances.events, List.filterMap_append, List.filterMap_flatMap]
  refine List.mem_append_right _ (List.mem_flatMap.mpr ⟨course, mem, ?_⟩)
  exact (takes.proper course mem).message_mem

/-- A consumer that is asked to stop before a look takes nothing that arrives after that. -/
theorem consume_asked (looks : Nat) (waits : List (Option (Delivery M))) (progress : Progress σ M)
    (asked : ∀ look, progress.looks + looks ≤ look → stop look = true) :
    consume name handler stop waits progress =
      consume name handler stop (waits.take looks) progress := by
  induction waits generalizing progress looks with
  | nil => rw [List.take_nil]
  | cons wait rest ih =>
      cases now : stop progress.looks with
      | true =>
          rw [consume, consume]
          simp only [Progress.look, now]
      | false =>
          cases looks with
          | zero =>
              cases now.symm.trans (asked progress.looks (Nat.le_refl _))
          | succ looks =>
              rw [List.take_succ_cons]
              cases wait with
              | none =>
                  rw [consume, consume]
                  simp only [Progress.look, now]
                  apply ih
                  intro look late
                  apply asked look
                  dsimp only at late
                  omega
              | some delivery =>
                  obtain ⟨_, _, _, leads⟩ := takeDelivery_course name handler stop delivery
                    (progress.look stop).2
                  have grows := leads.looks_le
                  rw [consume_delivery _ _ _ _ _ _ now, consume_delivery _ _ _ _ _ _ now]
                  generalize takeDelivery name handler stop delivery (progress.look stop).2 = taken
                    at grows ⊢
                  rcases taken with ⟨_ | _, later⟩
                  · rfl
                  · apply ih
                    intro look late
                    apply asked look
                    simp only [Progress.look] at grows
                    omega

end Consumer

/-- What the workers of a component do, in the order in which they are launched. -/
def Component.duties (dispatching notifying : List UInt32) : Component → List Duty
  | .execution type => dispatching.map (.execute type)
  | .sweeping => [.sweep]
  | .listening group => notifying.map (.listen group)

/-- A duty, with the number of workers launched before. -/
abbrev Seat := Duty × Nat

/-- Why the worker for a duty is refused its subscription, if it is. -/
def Seat.refusal? (topics : Topics) (onDispatches onNotifications : Refusal) :
    Seat → Option String
  | (.execute type partition, launched) =>
      onDispatches launched (topics.dispatch type) executionGroup partition
  | (.sweep, _) => none
  | (.listen group partition, launched) =>
      onNotifications launched (topics.notifications group.type) group.name partition

/-- The duties of a component that is launched after others. -/
def Component.seats (duties : Component → List Duty) (launched : List Component)
    (component : Component) : List Seat :=
  (duties component).zipIdx (launched.flatMap duties).length

namespace Bus

variable {M : Type}

theorem mem_partitionNumbers {bus : Bus M} {number : UInt32}
    (mem : number ∈ bus.partitionNumbers) : number < bus.partitionCount := by
  obtain ⟨index, below, rfl⟩ := List.mem_map.mp mem
  have small := bus.partitionCount.toNat_lt
  rw [List.mem_range] at below
  rw [UInt32.lt_iff_toNat_lt, UInt32.toNat_ofNat_of_lt' (below.trans small)]
  exact below

theorem subscribe_of_lt {bus : Bus M} (topic group : String) {number : UInt32}
    (below : number < bus.partitionCount) :
    ∃ subscription later, bus.subscribe topic group number = .ok (subscription, later) ∧
      later.partitionCount = bus.partitionCount := by
  rw [subscribe, if_neg (UInt32.not_le.mpr below)]
  exact ⟨_, _, rfl, rfl⟩

end Bus

namespace Launch

/-- Consumers are launched for the partitions before the first one that is refused. -/
theorem subscribe_served {M : Type} {topic group : String} {refusal : Refusal}
    (refusal? : Seat → Option String) (duty : UInt32 → Duty)
    (agrees : ∀ partition launched,
      refusal? (duty partition, launched) = refusal launched topic group partition)
    (launched : Nat) (partitions : List UInt32) (bus : Bus M)
    (exist : ∀ partition ∈ partitions, partition < bus.partitionCount) :
    ∃ workers later,
      subscribe topic group refusal duty launched partitions bus =
        (workers, (((partitions.map duty).zipIdx launched).findSome? refusal?).map Failure.publish,
          later) ∧
      workers.map Worker.duty = (((partitions.map duty).zipIdx launched).takeWhile
        fun seat => (refusal? seat).isNone).map Prod.fst ∧
      (∀ worker ∈ workers, worker.stopRequested = false) ∧
      later.partitionNumbers = bus.partitionNumbers := by
  induction partitions generalizing launched bus with
  | nil => exact ⟨[], bus, rfl, rfl, by simp, rfl⟩
  | cons partition rest ih =>
      rw [List.map_cons, List.zipIdx_cons, List.findSome?_cons, List.takeWhile_cons, agrees]
      cases refused : refusal launched topic group partition with
      | some reason =>
          refine ⟨[], bus, ?_, rfl, by simp, rfl⟩
          rw [subscribe, refused]
          rfl
      | none =>
          obtain ⟨subscription, next, subscribed, count⟩ := Bus.subscribe_of_lt topic group
            (exist partition List.mem_cons_self)
          obtain ⟨workers, later, served, duties, unasked, same⟩ := ih (launched + 1) next
            fun other mem => count ▸ exist other (List.mem_cons_of_mem _ mem)
          refine ⟨⟨duty partition, some subscription, false⟩ :: workers, later, ?_, ?_, ?_, ?_⟩
          · simp only [subscribe, refused, subscribed, served]
          · rw [List.map_cons, duties]
            rfl
          · simpa using unasked
          · rw [same, Bus.partitionNumbers, count, Bus.partitionNumbers]

variable (topics : Topics) (onDispatches onNotifications : Refusal)

/-- A launch on buses with these partitions that has come as far as this without a refusal. -/
structure Reached (dispatching notifying : List UInt32) (launch : Launch)
    (launched : List Component) : Prop where
  unfailed : launch.failure = none
  complete : launch.abandoned = []
  held : launch.held.map Worker.duty = launched.flatMap (·.duties dispatching notifying)
  unasked : ∀ worker ∈ launch.held, worker.stopRequested = false
  served : ∀ seat ∈ (launched.flatMap (·.duties dispatching notifying)).zipIdx,
    Seat.refusal? topics onDispatches onNotifications seat = none
  dispatches : launch.dispatches.partitionNumbers = dispatching
  notifications : launch.notifications.partitionNumbers = notifying

/-- A launch that was refused a subscription for a component after others were launched. -/
structure Refused (dispatching notifying : List UInt32) (launch : Launch)
    (launched : List Component) (refused : Component) : Prop where
  failed : ∃ reason, launch.failure = some (.publish reason) ∧
    (refused.seats (·.duties dispatching notifying) launched).findSome?
      (Seat.refusal? topics onDispatches onNotifications) = some reason
  held : launch.held.map Worker.duty = launched.flatMap (·.duties dispatching notifying)
  served : ∀ seat ∈ (launched.flatMap (·.duties dispatching notifying)).zipIdx,
    Seat.refusal? topics onDispatches onNotifications seat = none
  abandoned : launch.abandoned.map Worker.duty =
    ((refused.seats (·.duties dispatching notifying) launched).takeWhile fun seat =>
      (Seat.refusal? topics onDispatches onNotifications seat).isNone).map Prod.fst
  unasked : ∀ worker ∈ launch.abandoned, worker.stopRequested = false

variable {topics onDispatches onNotifications} {dispatching notifying : List UInt32}
variable {launch : Launch} {launched : List Component}

/-- Each worker that is held is the worker for a duty of what was launched. -/
theorem Reached.length_held
    (reached : Reached topics onDispatches onNotifications dispatching notifying launch launched) :
    launch.held.length = (launched.flatMap (·.duties dispatching notifying)).length := by
  rw [← reached.held, List.length_map]

/-- Workers for the duties up to the first refused one either complete a component or end the
launch. -/
theorem Reached.take
    (reached : Reached topics onDispatches onNotifications dispatching notifying launch launched)
    (component : Component) (workers : List Worker)
    (duties : workers.map Worker.duty =
      ((component.seats (·.duties dispatching notifying) launched).takeWhile fun seat =>
        (Seat.refusal? topics onDispatches onNotifications seat).isNone).map Prod.fst)
    (unasked : ∀ worker ∈ workers, worker.stopRequested = false) :
    let later := launch.take workers
      (((component.seats (·.duties dispatching notifying) launched).findSome?
        (Seat.refusal? topics onDispatches onNotifications)).map Failure.publish)
    Reached topics onDispatches onNotifications dispatching notifying later
        (launched ++ [component]) ∨
      Refused topics onDispatches onNotifications dispatching notifying later launched
        component := by
  cases refused : (component.seats (·.duties dispatching notifying) launched).findSome?
      (Seat.refusal? topics onDispatches onNotifications) with
  | none =>
      left
      have served := List.findSome?_eq_none_iff.mp refused
      have whole : ((component.seats (·.duties dispatching notifying) launched).takeWhile fun seat =>
          (Seat.refusal? topics onDispatches onNotifications seat).isNone) =
          component.seats (·.duties dispatching notifying) launched :=
        List.takeWhile_eq_self_iff.mpr fun seat mem => Option.isNone_iff_eq_none.mpr
          (served seat mem)
      rw [whole, Component.seats, List.zipIdx_map_fst] at duties
      refine { reached with held := ?_, unasked := ?_, served := ?_ }
      · simp [Launch.take, reached.held, duties]
      · intro worker mem
        rcases List.mem_append.mp mem with earlier | now
        · exact reached.unasked worker earlier
        · exact unasked worker now
      · intro seat mem
        rw [List.flatMap_append, List.flatMap_singleton, List.zipIdx_append, Nat.zero_add,
          List.mem_append] at mem
        rcases mem with earlier | now
        · exact reached.served seat earlier
        · exact served seat now
  | some reason =>
      right
      exact ⟨⟨reason, rfl, refused⟩, reached.held, reached.served, duties, unasked⟩

/-- One more component is launched whole, or the launch ends with it. -/
theorem Reached.add
    (reached : Reached topics onDispatches onNotifications dispatching notifying launch launched)
    (component : Component) :
    Reached topics onDispatches onNotifications dispatching notifying
        (launch.add topics onDispatches onNotifications component) (launched ++ [component]) ∨
      Refused topics onDispatches onNotifications dispatching notifying
        (launch.add topics onDispatches onNotifications component) launched component := by
  have unfailed : launch.failure.isSome = false := by rw [reached.unfailed]; rfl
  cases component with
  | execution type =>
      obtain ⟨workers, later, served, duties, unasked, same⟩ := subscribe_served
        (Seat.refusal? topics onDispatches onNotifications) (.execute type) (fun _ _ => rfl)
        launch.held.length launch.dispatches.partitionNumbers launch.dispatches
        fun _ => Bus.mem_partitionNumbers
      have onward : Reached topics onDispatches onNotifications dispatching notifying
          { launch with dispatches := later } launched :=
        { reached with dispatches := same.trans reached.dispatches }
      rw [reached.dispatches, reached.length_held] at duties served
      simp only [Launch.add, unfailed, reached.dispatches, reached.length_held, served]
      exact onward.take (.execution type) workers duties unasked
  | sweeping =>
      simp only [Launch.add, unfailed]
      exact reached.take .sweeping [⟨.sweep, none, false⟩] rfl (by simp)
  | listening group =>
      obtain ⟨workers, later, served, duties, unasked, same⟩ := subscribe_served
        (Seat.refusal? topics onDispatches onNotifications) (.listen group) (fun _ _ => rfl)
        launch.held.length launch.notifications.partitionNumbers launch.notifications
        fun _ => Bus.mem_partitionNumbers
      have onward : Reached topics onDispatches onNotifications dispatching notifying
          { launch with notifications := later } launched :=
        { reached with notifications := same.trans reached.notifications }
      rw [reached.notifications, reached.length_held] at duties served
      simp only [Launch.add, unfailed, reached.notifications, reached.length_held, served]
      exact onward.take (.listening group) workers duties unasked

theorem Refused.stays {refused : Component}
    (ended : Refused topics onDispatches onNotifications dispatching notifying launch launched
      refused) (components : List Component) :
    components.foldl (Launch.add topics onDispatches onNotifications) launch = launch := by
  obtain ⟨reason, failed, _⟩ := ended.failed
  induction components with
  | nil => rfl
  | cons component rest ih =>
      have same : launch.add topics onDispatches onNotifications component = launch := by
        unfold Launch.add
        rw [failed]
        rfl
      rw [List.foldl_cons, same]
      exact ih

/-- A whole launch: all components are launched, or it ends with the first that is refused. -/
theorem Reached.foldl
    (reached : Reached topics onDispatches onNotifications dispatching notifying launch launched)
    (components : List Component) :
    Reached topics onDispatches onNotifications dispatching notifying
        (components.foldl (Launch.add topics onDispatches onNotifications) launch)
        (launched ++ components) ∨
      ∃ before refused after, components = before ++ refused :: after ∧
        Refused topics onDispatches onNotifications dispatching notifying
          (components.foldl (Launch.add topics onDispatches onNotifications) launch)
          (launched ++ before) refused := by
  induction components generalizing launch launched with
  | nil => exact .inl (by simpa using reached)
  | cons component rest ih =>
      rw [List.foldl_cons]
      rcases reached.add component with onward | ended
      · rcases ih onward with all | ⟨before, refused, after, rfl, ended⟩
        · exact .inl (by simpa using all)
        · exact .inr ⟨component :: before, refused, after, rfl, by simpa using ended⟩
      · refine .inr ⟨[], component, rest, rfl, ?_⟩
        rw [ended.stays, List.append_nil]
        exact ended

end Launch

/-- Whether a look of a worker finds a request that was made before its look of this number. -/
def Worker.finds (worker : Worker) (made look : Nat) : Bool := worker.stopRequested && made ≤ look

/-- What a launch leaves that fails at a component after others were launched. -/
structure Launch.Failed (launch : Launch) (duties : Component → List Duty)
    (refusal? : Seat → Option String) (launched : List Component) (refused : Component) : Prop where
  reason : ∃ reason, launch.failure = some (.publish reason) ∧
    (refused.seats duties launched).findSome? refusal? = some reason
  held : launch.held.map Worker.duty = launched.flatMap duties
  served : ∀ seat ∈ (launched.flatMap duties).zipIdx, refusal? seat = none
  abandoned : launch.abandoned.map Worker.duty =
    ((refused.seats duties launched).takeWhile fun seat => (refusal? seat).isNone).map Prod.fst
  asked : ∀ worker ∈ launch.held, worker.stopRequested = true
  unasked : ∀ worker ∈ launch.abandoned, worker.stopRequested = false
  /-- A consumer that is held takes nothing that arrives after the request. -/
  stops : ∀ worker ∈ launch.held, ∀ {σ M : Type} (handler : Consumer.Handler σ M) (made : Nat)
    (waits : List (Option (Delivery M))) (state : σ),
    Consumer.run worker.duty.name handler (worker.finds made) waits state =
      Consumer.run worker.duty.name handler (worker.finds made) (waits.take made) state
  /-- A consumer that was abandoned handles everything that arrives. -/
  goesOn : ∀ worker ∈ launch.abandoned, ∀ {σ M : Type} (handler : Consumer.Handler σ M) (made : Nat)
    (waits : List (Option (Delivery M))) (state : σ) (delivery : Delivery M),
    some delivery ∈ waits → delivery.message ∈
      (Consumer.run worker.duty.name handler (worker.finds made) waits state).calls
  /-- Nothing is left running exactly if the very first subscription of the component is refused. -/
  nothingLeft : (∀ worker ∈ launch.workers, worker.stopRequested = true) ↔
    ∃ seat ∈ (refused.seats duties launched).head?, refusal? seat ≠ none

variable {topics : Topics} {onDispatches onNotifications : Refusal}
variable {dispatching notifying : List UInt32} {launched : List Component}

theorem Launch.Refused.nothingLeft {launch : Launch} {refused : Component}
    (ended : Launch.Refused topics onDispatches onNotifications dispatching notifying launch
      launched refused) :
    launch.abandoned = [] ↔
      ∃ seat ∈ (refused.seats (·.duties dispatching notifying) launched).head?,
        Seat.refusal? topics onDispatches onNotifications seat ≠ none := by
  obtain ⟨reason, _, found⟩ := ended.failed
  rw [← List.map_eq_nil_iff (f := Worker.duty), ended.abandoned, List.map_eq_nil_iff]
  cases seats : refused.seats (·.duties dispatching notifying) launched with
  | nil =>
      rw [seats] at found
      cases found
  | cons seat rest => simp [List.takeWhile_cons, Option.isNone_iff_eq_none]

theorem Launch.Refused.finish {launch : Launch} {refused : Component}
    (ended : Launch.Refused topics onDispatches onNotifications dispatching notifying launch
      launched refused) :
    launch.finish.Failed (Component.duties dispatching notifying)
      (Seat.refusal? topics onDispatches onNotifications) launched refused := by
  obtain ⟨reason, failed, found⟩ := ended.failed
  have finished : launch.finish =
      { launch with held := launch.held.map Worker.requestStop } := by
    unfold Launch.finish
    rw [failed]
    rfl
  have asked : ∀ worker ∈ launch.held.map Worker.requestStop, worker.stopRequested = true := by
    intro worker mem
    obtain ⟨earlier, _, rfl⟩ := List.mem_map.mp mem
    rfl
  rw [finished]
  refine ⟨⟨reason, failed, found⟩, ?_, ended.served, ended.abandoned, asked, ended.unasked, ?_, ?_,
    ?_⟩
  · rw [List.map_map, ← ended.held]
    rfl
  · intro worker mem σ M handler made waits state
    unfold Consumer.run
    rw [Consumer.consume_asked _ _ _ made waits]
    intro look late
    simp only [Worker.finds, asked worker mem, Bool.true_and, decide_eq_true_eq]
    exact (Nat.le_add_left _ _).trans late
  · intro worker mem σ M handler made waits state delivery arrives
    have never : worker.finds made = fun _ => false := by
      funext look
      rw [Worker.finds, ended.unasked worker mem, Bool.false_and]
    rw [never]
    exact Consumer.calls_of_unasked _ _ _ _ arrives
  · rw [← ended.nothingLeft]
    constructor
    · intro all
      apply List.eq_nil_iff_forall_not_mem.mpr
      intro worker mem
      exact absurd (all worker (List.mem_append_right _ mem)) (by simp [ended.unasked worker mem])
    · intro none worker mem
      rw [Launch.workers, none, List.append_nil] at mem
      exact asked worker mem

namespace Config

/-- A launch that fails stops all workers but those of the component that was refused: these go on
unless it was refused its very first subscription. -/
theorem failed_launch {config : Config} {types : List LoadType} {groups : List ListenerGroup}
    {backend later : Backend} {launch : Launch}
    (returned : config.launch types groups onDispatches onNotifications backend =
      (.ok launch, later))
    (failed : launch.failure ≠ none) :
    ∃ launched refused after,
      Component.enabled config types groups = launched ++ refused :: after ∧
      launch.Failed (Component.duties backend.dispatches.partitionNumbers
          backend.notifications.partitionNumbers)
        (Seat.refusal? ⟨config.topicNamespace⟩ onDispatches onNotifications) launched refused := by
  have ran : launch = Launch.run ⟨config.topicNamespace⟩ onDispatches onNotifications
      (Component.enabled config types groups) backend.dispatches backend.notifications := by
    unfold Config.launch at returned
    cases valid : config.validate with
    | error error =>
        rw [valid] at returned
        cases returned
    | ok _ =>
        rw [valid] at returned
        dsimp only at returned
        split at returned <;> exact (Except.ok.inj (Prod.mk.inj returned).1).symm
  have begun : Launch.Reached ⟨config.topicNamespace⟩ onDispatches onNotifications
      backend.dispatches.partitionNumbers backend.notifications.partitionNumbers
      ⟨backend.dispatches, backend.notifications, [], [], none⟩ [] :=
    ⟨rfl, rfl, rfl, by simp, by simp, rfl, rfl⟩
  rw [Launch.run] at ran
  rcases begun.foldl (Component.enabled config types groups) with
    whole | ⟨launched, refused, after, enabled, ended⟩
  · have unfailed : launch.failure = none := by
      rw [ran, Launch.finish, whole.unfailed]
      exact whole.unfailed
    exact absurd unfailed failed
  · refine ⟨launched, refused, after, enabled, ?_⟩
    rw [ran]
    exact ended.finish

/-- A bus that refuses subscriptions to the partition with number 1. -/
def secondRefused : Refusal := fun _ _ _ partition => if partition = 1 then some "out" else none

/-- A bus that refuses the call after three workers were launched, whatever it is for. -/
def fourthRefused : Refusal := fun launched _ _ _ => if launched = 3 then some "out" else none

/-- Of two groups of one name the second is refused its first partition. The other workers are held
and asked to stop. -/
theorem refused_at_first_partition :
    let audit : ListenerGroup := ⟨"audit", default, []⟩
    ∃ launch later,
      Config.standard.launch [default] [audit, audit] .none fourthRefused
          { (default : Backend) with dispatches := .create 1 0 } =
        (.ok launch, later) ∧
      launch.failure ≠ none ∧
      launch.held.map (·.duty.name) = ["load-worker-a-0", "retry-sweeper", "audit-0"] ∧
      ∀ worker ∈ launch.workers, worker.stopRequested = true := by
  intro audit
  obtain ⟨launch, later, returned, failed, held⟩ : ∃ launch later,
      Config.standard.launch [default] [audit, audit] .none fourthRefused
          { (default : Backend) with dispatches := .create 1 0 } =
        (.ok launch, later) ∧ launch.failure ≠ none ∧
      launch.held.map (·.duty.name) = ["load-worker-a-0", "retry-sweeper", "audit-0"] :=
    ⟨_, _, rfl, by decide, rfl⟩
  obtain ⟨launched, refused, after, enabled, left⟩ := failed_launch returned failed
  refine ⟨launch, later, returned, failed, held, left.nothingLeft.mpr ?_⟩
  obtain ⟨reason, _, found⟩ := left.reason
  change [Component.execution default, .sweeping, .listening audit, .listening audit] = _ at enabled
  rcases launched with _ | ⟨first, _ | ⟨second, _ | ⟨third, _ | ⟨fourth, rest⟩⟩⟩⟩
  · cases enabled
    cases found
  · cases enabled
    cases found
  · cases enabled
    cases found
  · cases enabled
    exact ⟨_, rfl, nofun⟩
  · simp at enabled

/-- With two partitions and the second one refused, the consumer of the first is launched, and
nobody asks it to stop. -/
theorem left_running_at_second_partition :
    ∃ launch later,
      Config.standard.launch [default] [] secondRefused .none
          { (default : Backend) with dispatches := .create 2 0 } = (.ok launch, later) ∧
      launch.failure = some (.publish "out") ∧
      launch.workers.map (·.duty.name) = ["load-worker-a-0"] ∧
      ¬ ∀ worker ∈ launch.workers, worker.stopRequested = true :=
  ⟨_, _, rfl, rfl, rfl, fun all => nomatch all _ List.mem_cons_self⟩

end Config

end CacheFill
