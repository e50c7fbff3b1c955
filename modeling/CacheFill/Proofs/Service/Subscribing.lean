import CacheFill.Proofs.Bus.Delivery
import CacheFill.Proofs.Service.Launching
import Mathlib.Data.List.Nodup

/-!
What the consumers of a topic are delivered that are launched one for each partition. A subscription
serves its partition if it is delivered all that was ever sent there, and goes on to do so until it
ends. Main statement: `Launch.subscribe_serves`.
-/

set_option autoImplicit false

namespace CacheFill

namespace Topics

/-- Different load types have different topics. -/
theorem name_injective (topics : Topics) (kind : String) {first second : LoadType}
    (same : topics.name kind first = topics.name kind second) : first = second := by
  have names : first.name = second.name := by
    unfold name at same
    split at same
    · exact (String.append_right_inj _).mp same
    · exact (String.append_right_inj _).mp same
  obtain ⟨_, _⟩ := first
  obtain ⟨_, _⟩ := second
  cases names
  rfl

end Topics

namespace Bus

variable {M : Type}

theorem mem_partitionNumbers_iff {bus : Bus M} {number : UInt32} :
    number ∈ bus.partitionNumbers ↔ number < bus.partitionCount := by
  refine ⟨mem_partitionNumbers, fun below => ?_⟩
  refine List.mem_map.mpr ⟨number.toNat, List.mem_range.mpr ?_, by simp⟩
  exact UInt32.lt_iff_toNat_lt.mp below

theorem nodup_partitionNumbers (bus : Bus M) : bus.partitionNumbers.Nodup := by
  refine List.Nodup.map_on ?_ List.nodup_range
  intro first isFirst second isSecond same
  have bound := bus.partitionCount.toNat_lt
  rw [List.mem_range] at isFirst isSecond
  have numbers := congrArg UInt32.toNat same
  rwa [UInt32.toNat_ofNat_of_lt' (isFirst.trans bound),
    UInt32.toNat_ofNat_of_lt' (isSecond.trans bound)] at numbers

theorem ofKey_lt (key : String) (count : UInt32) : Partition.ofKey key count < max count 1 := by
  have unfolded : max count 1 = if count ≤ 1 then 1 else count := rfl
  rw [unfolded, Partition.ofKey]
  split
  · decide
  · next many =>
      have positive : 0 < count := UInt32.lt_trans (by decide) (UInt32.not_le.mp many)
      exact UInt32.mod_lt _ positive

/-- Taking a message is nothing to the other subscriptions. -/
theorem pending_of_take? {bus later : Bus M} {id : Nat} {message : M}
    (taken : bus.take? id = some (message, later)) :
    bus.pending id = message :: later.pending id ∧
      ∀ other ≠ id, later.pending other = bus.pending other := by
  unfold take? at taken
  cases waits : bus.pending id with
  | nil =>
      rw [waits] at taken
      cases taken
  | cons first rest =>
      rw [waits] at taken
      cases taken
      cases live : bus.subscriptions.get? id with
      | none =>
          rw [pending, live] at waits
          cases waits
      | some found =>
          constructor
          · rw [pending, get?_setPending live, if_pos rfl]
            rfl
          · intro other different
            rw [pending, get?_setPending live, if_neg different, pending]

/-- The messages of a key are among those of its partition. -/
theorem filter_partition_key (key : M → String) (count : UInt32) (messages : List M)
    (name : String) :
    (messages.filter fun message =>
        Partition.ofKey (key message) count = Partition.ofKey name count).filter (key · = name) =
      messages.filter (key · = name) := by
  rw [List.filter_filter]
  refine List.filter_congr fun message _ => ?_
  by_cases same : key message = name <;> simp [same]

namespace Traffic

variable {key : M → String} {count : UInt32} {retention : Nat} {uses : List (Use M)}
  {topic group : String} {number : UInt32} {id : Nat}

/-- The uses of a bus are to subscribe. -/
def OnlySubscribes (uses : List (Use M)) : Prop :=
  ∀ use ∈ uses, ∃ topic group number, use = .subscribe topic group number

namespace OnlySubscribes

variable {more : List (Use M)}

theorem published_eq_nil (subscribes : OnlySubscribes more) (topic : String) :
    published topic more = [] := by
  refine List.filterMap_eq_nil_iff.mpr fun use member => ?_
  obtain ⟨_, _, _, rfl⟩ := subscribes use member
  rfl

theorem received_after (subscribes : OnlySubscribes more) (uses : List (Use M)) :
    (after key count retention (uses ++ more)).received =
      (after key count retention uses).received := by
  induction more generalizing uses with
  | nil => rw [List.append_nil]
  | cons first rest ih =>
      have once : (after key count retention (uses ++ [first])).received =
          (after key count retention uses).received := by
        obtain ⟨topic, group, number, rfl⟩ := subscribes first List.mem_cons_self
        rw [after_snoc, use]
        split <;> rfl
      rw [List.append_cons, ih fun use member => subscribes use (List.mem_cons_of_mem _ member), once]

theorem unsubscribe_notMem (subscribes : OnlySubscribes more) (id : Nat) :
    .unsubscribe id ∉ more := by
  intro member
  obtain ⟨_, _, _, same⟩ := subscribes _ member
  cases same

end OnlySubscribes

/-- A live subscription was delivered all that was ever sent to its partition. -/
def Serves (key : M → String) (count : UInt32) (retention : Nat) (uses : List (Use M)) (id : Nat)
    (topic : String) (number : UInt32) : Prop :=
  (after key count retention uses).Delivers id topic number (sent key count topic number uses)

theorem Serves.more (serves : Serves key count retention uses id topic number)
    (more : List (Use M)) (stays : .unsubscribe id ∉ more) :
    Serves key count retention (uses ++ more) id topic number := by
  induction more generalizing uses with
  | nil => rwa [List.append_nil]
  | cons step rest ih =>
      have once : Serves key count retention (uses ++ [step]) id topic number := by
        unfold Serves
        rw [after_snoc, sent_append]
        refine serves.turn (accounts_after key count retention uses) (turn_use key _ step) ?_
        rintro rfl
        exact stays List.mem_cons_self
      have whole := ih once fun member => stays (List.mem_cons_of_mem _ member)
      rwa [List.append_assoc] at whole

theorem after_take {message : M} {bus : Bus M}
    (taken : (after key count retention uses).bus.take? id = some (message, bus)) :
    after key count retention (uses ++ [.take id]) =
      (after key count retention uses).receive id [message] bus := by
  rw [after_snoc, use, taken]

/-- What is taken was sent. -/
theorem Serves.mem_of_take? {message : M} {bus : Bus M}
    (serves : Serves key count retention uses id topic number)
    (taken : (after key count retention uses).bus.take? id = some (message, bus)) :
    message ∈ sent key count topic number uses := by
  rw [← serves.delivered, Traffic.delivered, (pending_of_take? taken).1]
  exact List.mem_append_right _ List.mem_cons_self

/-- A subscription that goes back to all that was sent before serves its partition. -/
theorem serves_subscribe (inRange : number < max count 1)
    (whole : replay key count retention topic group number uses =
      sent key count topic number uses) :
    (after key count retention uses).bus.subscribe topic group number =
        .ok ((after key count retention uses).bus.nextSubscription,
          (after key count retention (uses ++ [.subscribe topic group number])).bus) ∧
      (after key count retention (uses ++ [.subscribe topic group number])).bus.nextSubscription =
        (after key count retention uses).bus.nextSubscription + 1 ∧
      Serves key count retention (uses ++ [.subscribe topic group number])
        (after key count retention uses).bus.nextSubscription topic number := by
  have accounts := accounts_after key count retention uses
  rw [Serves, sent_append, sent_of_silent fun _ => rfl, List.append_nil, after_snoc, use]
  rcases (after key count retention uses).bus.subscribe_cases topic group number with
    ⟨beyond, _⟩ | ⟨bus, subscribes, accepted⟩
  · rw [accounts.divided] at beyond
    exact absurd inRange (UInt32.not_lt.mpr beyond)
  · rw [accepted]
    exact ⟨rfl, subscribes.next, whole ▸ delivers_of_subscribes accounts subscribes⟩

end Traffic

end Bus

namespace Launch

open Bus Traffic

variable {M : Type} {key : M → String} {count : UInt32} {retention : Nat} {uses : List (Use M)}
  {topic group : String}

/-- Consumers that are launched for some partitions have subscriptions with consecutive numbers, and
each is delivered all that is ever sent to its partition. -/
theorem subscribe_serves (duty : UInt32 → Duty) (launched : Nat) (partitions : List UInt32)
    (exist : ∀ partition ∈ partitions, partition < max count 1) (distinct : partitions.Nodup)
    (whole : ∀ partition ∈ partitions, replay key count retention topic group partition uses =
      sent key count topic partition uses) :
    let first := (after key count retention uses).bus.nextSubscription
    let joined := uses ++ partitions.map (.subscribe topic group)
    subscribe topic group .none duty launched partitions (after key count retention uses).bus =
        ((partitions.zipIdx first).map fun seat => ⟨duty seat.1, some seat.2, false⟩, none,
          (after key count retention joined).bus) ∧
      (after key count retention joined).bus.nextSubscription = first + partitions.length ∧
      ∀ seat ∈ partitions.zipIdx first,
        Serves key count retention joined seat.2 topic seat.1 := by
  induction partitions generalizing launched uses with
  | nil => simp [subscribe]
  | cons partition rest ih =>
      obtain ⟨absent, distinct⟩ := List.nodup_cons.mp distinct
      obtain ⟨accepted, next, serves⟩ := serves_subscribe (exist partition List.mem_cons_self)
        (whole partition List.mem_cons_self)
      have stillWhole : ∀ other ∈ rest,
          replay key count retention topic group other (uses ++ [.subscribe topic group partition]) =
            sent key count topic other (uses ++ [.subscribe topic group partition]) := by
        intro other member
        have different : partition ≠ other := fun same => absent (same ▸ member)
        have joins : (Use.subscribe topic group partition : Use M).joins topic group other = false := by
          simp [Use.joins, different]
        rw [replay, List.any_append, List.any_cons, List.any_nil, joins, Bool.or_false, Bool.or_false,
          sent_append, sent_of_silent fun _ => rfl, List.append_nil]
        exact whole other (List.mem_cons_of_mem _ member)
      obtain ⟨subscribed, count, all⟩ := ih (launched + 1)
        (fun other member => exist other (List.mem_cons_of_mem _ member)) distinct stillWhole
      rw [next] at subscribed count all
      have joined : uses ++ (partition :: rest).map (.subscribe topic group) =
          uses ++ [.subscribe topic group partition] ++ rest.map (.subscribe topic group) := by simp
      intro first joins
      have same : joins = _ := joined
      rw [same]
      refine ⟨?_, ?_, ?_⟩
      · rw [subscribe, Refusal.none, accepted]
        simp only [List.zipIdx_cons, List.map_cons]
        rw [subscribed]
      · rw [count, List.length_cons]
        omega
      · intro seat member
        rw [List.zipIdx_cons, List.mem_cons] at member
        rcases member with rfl | later
        · refine serves.more _ ?_
          simp
        · exact all seat later

end Launch

end CacheFill
