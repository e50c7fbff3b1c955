import CacheFill.Bus.Memory
import Mathlib.Algebra.GroupWithZero.Nat
import Mathlib.Data.List.DropRight

/-!
What the subscriptions of a bus in memory are delivered, told by what was done with the bus. A
partition accounts for the messages sent to it, so that the first subscription of a group can go back
to the last of them; from there on each use of the bus adds to the stream of a subscription just the
message that it sends to its partition. Main statement: `delivers_stream`.
-/

set_option autoImplicit false

namespace CacheFill

namespace Table

variable {κ α : Type} [DecidableEq κ]

theorem sum_replaceEntry (measure : κ × α → Nat) (key : κ) (value : α) (entries : List (κ × α))
    (distinct : (entries.map (·.1)).Nodup) (present : key ∈ entries.map (·.1)) :
    ((replaceEntry key value entries).map measure).sum +
        ((entries.find? fun entry => entry.1 = key).map measure).getD 0 =
      (entries.map measure).sum + measure (key, value) := by
  induction entries with
  | nil => cases present
  | cons entry rest ih =>
      obtain ⟨absent, distinct⟩ := List.nodup_cons.mp distinct
      by_cases same : entry.1 = key
      · subst same
        have kept : replaceEntry entry.1 value rest = rest := by
          refine (List.map_congr_left fun other member => if_neg fun same => absent ?_).trans
            (List.map_id rest)
          exact List.mem_map.mpr ⟨other, member, same⟩
        have here : replaceEntry entry.1 value (entry :: rest) =
            (entry.1, value) :: replaceEntry entry.1 value rest := by
          simp [replaceEntry]
        simp only [here, kept, List.map_cons, List.sum_cons, List.find?_cons, decide_true,
          Option.map_some, Option.getD_some]
        omega
      · have later : key ∈ rest.map (·.1) := by
          rcases List.mem_cons.mp present with here | later
          · exact absurd here.symm same
          · exact later
        have there : replaceEntry key value (entry :: rest) =
            entry :: replaceEntry key value rest := by
          simp [replaceEntry, same]
        simp only [there, List.map_cons, List.sum_cons, List.find?_cons, decide_eq_false same]
        have rest := ih distinct later
        omega

/-- An insertion exchanges one entry of the table. -/
theorem sum_insert (table : Table κ α) (measure : κ × α → Nat) (key : κ) (value : α) :
    ((table.insert key value).entries.map measure).sum +
        ((table.get? key).map fun old => measure (key, old)).getD 0 =
      (table.entries.map measure).sum + measure (key, value) := by
  have found : (table.get? key).map (fun old => measure (key, old)) =
      (table.entries.find? fun entry => entry.1 = key).map measure := by
    rw [get?, Option.map_map]
    refine Option.map_congr fun entry isFound => ?_
    have here := List.find?_some isFound
    rw [← of_decide_eq_true here, Function.comp_apply]
  by_cases present : key ∈ table.entries.map (·.1)
  · rw [found, insert, dif_pos present]
    exact sum_replaceEntry measure key value table.entries table.distinct present
  · have absent : table.get? key = none := get?_eq_none_iff.mpr present
    rw [absent, insert, dif_neg present]
    simp

end Table

namespace Bus

variable {M : Type}

theorem publishedCount_eq_sum (bus : Bus M) (topic : String) :
    bus.publishedCount topic = (bus.partitions.entries.map fun entry =>
      if entry.1.1 = topic then entry.2.published else 0).sum := by
  have total (count : Nat) (entries : List ((String × UInt32) × Partition M)) :
      entries.foldl (fun count entry =>
        if entry.1.1 = topic then count + entry.2.published else count) count =
      count + (entries.map fun entry => if entry.1.1 = topic then entry.2.published else 0).sum := by
    induction entries generalizing count with
    | nil => rfl
    | cons entry rest ih =>
        simp only [List.foldl_cons, List.map_cons, List.sum_cons, ih]
        split <;> omega
  exact (total 0 bus.partitions.entries).trans (Nat.zero_add _)

/-- The messages of a partition count towards its topic. -/
theorem publishedCount_of_insert {bus later : Bus M} {topic : String} {number : UInt32}
    {retained : List M} {groups : List String} (more : Nat)
    (partitions : later.partitions = bus.partitions.insert (topic, number)
      ⟨retained, (bus.partition topic number).published + more, groups⟩) (other : String) :
    later.publishedCount other = bus.publishedCount other + if topic = other then more else 0 := by
  have exchanged := bus.partitions.sum_insert
    (fun entry => if entry.1.1 = other then entry.2.published else 0) (topic, number)
    ⟨retained, (bus.partition topic number).published + more, groups⟩
  rw [publishedCount_eq_sum, publishedCount_eq_sum, partitions]
  simp only [Bus.partition] at exchanged ⊢
  by_cases same : topic = other
  · subst same
    cases found : bus.partitions.get? (topic, number) <;> simp [found] at exchanged ⊢ <;> omega
  · cases found : bus.partitions.get? (topic, number) <;> simpa [found, same] using exchanged

/-- A subscription that was accepted, and the bus after it. -/
structure Subscribes (bus later : Bus M) (topic group : String) (number : UInt32) : Prop where
  inRange : number < bus.partitionCount
  count : later.partitionCount = bus.partitionCount
  retention : later.retention = bus.retention
  next : later.nextSubscription = bus.nextSubscription + 1
  retained : ∀ other place,
    (later.partition other place).retained = (bus.partition other place).retained
  groups : ∀ other place name, name ∈ (later.partition other place).groups ↔
    name ∈ (bus.partition other place).groups ∨ (other, place, name) = (topic, number, group)
  published : ∀ other, later.publishedCount other = bus.publishedCount other
  subscriptions : ∀ id, later.subscriptions.get? id =
    if id = bus.nextSubscription then
      some ⟨topic, number, if group ∈ (bus.partition topic number).groups then []
        else (bus.partition topic number).retained⟩
    else bus.subscriptions.get? id

/-- A subscription is accepted if and only if there is a partition of that number. -/
theorem subscribe_cases (bus : Bus M) (topic group : String) (number : UInt32) :
    (bus.partitionCount ≤ number ∧
      bus.subscribe topic group number = .error ⟨number, bus.partitionCount⟩) ∨
    ∃ later, bus.Subscribes later topic group number ∧
      bus.subscribe topic group number = .ok (bus.nextSubscription, later) := by
  by_cases beyond : bus.partitionCount ≤ number
  · exact .inl ⟨beyond, if_pos beyond⟩
  refine .inr ⟨_, ?_, if_neg beyond⟩
  constructor
  · exact UInt32.not_le.mp beyond
  · rfl
  · rfl
  · rfl
  · intro other place
    simp only [partition, Table.get?_insert]
    split
    · next same => cases same; rfl
    · rfl
  · intro other place name
    simp only [partition, Table.get?_insert]
    split
    · next same =>
        cases same
        simp
        split <;> simp_all
    · next different => simp_all
  · intro other
    refine Eq.trans (publishedCount_of_insert 0 rfl other) ?_
    rw [ite_self, Nat.add_zero]
  · intro id
    simp only [Table.get?_insert]
    split
    · simp
    · rfl

theorem partition_publish (bus : Bus M) (topic key : String) (message : M) (other : String)
    (place : UInt32) :
    (bus.publish topic key message).partition other place =
      if other = topic ∧ place = Partition.ofKey key bus.partitionCount then
        { bus.partition other place with
          retained := retain bus.retention ((bus.partition other place).retained ++ [message])
          published := (bus.partition other place).published + 1 }
      else bus.partition other place := by
  simp only [publish, partition, Table.get?_insert, Prod.mk.injEq]
  split
  · next same => obtain ⟨rfl, rfl⟩ := same; rfl
  · rfl

theorem publishedCount_publish (bus : Bus M) (topic key : String) (message : M) (other : String) :
    (bus.publish topic key message).publishedCount other =
      bus.publishedCount other + if topic = other then 1 else 0 :=
  publishedCount_of_insert 1 rfl other

theorem get?_setPending {bus : Bus M} {id : Nat} {found : BusSubscription M}
    (live : bus.subscriptions.get? id = some found) (messages : List M) (other : Nat) :
    (bus.setPending id messages).subscriptions.get? other =
      if other = id then some { found with pending := messages }
      else bus.subscriptions.get? other := by
  simp only [setPending, live, Table.get?_insert]

/-- Taking messages changes nothing but what a subscription has still to take. -/
theorem setPending_frame (bus : Bus M) (id : Nat) (messages : List M) :
    (bus.setPending id messages).partitionCount = bus.partitionCount ∧
      (bus.setPending id messages).retention = bus.retention ∧
      (bus.setPending id messages).partitions = bus.partitions ∧
      (bus.setPending id messages).nextSubscription = bus.nextSubscription := by
  cases live : bus.subscriptions.get? id <;> simp [setPending, live]

/-- What is done with a bus. -/
inductive Use (M : Type) where
  | publish (topic : String) (message : M)
  | subscribe (topic group : String) (number : UInt32)
  | take (subscription : Nat)
  | drain (subscription : Nat)
  | unsubscribe (subscription : Nat)

def Use.message? (topic : String) : Use M → Option M
  | .publish other message => if other = topic then some message else none
  | .subscribe _ _ _ | .take _ | .drain _ | .unsubscribe _ => none

/-- The use is to subscribe a group to a partition of a topic. -/
def Use.joins (topic group : String) (number : UInt32) : Use M → Bool
  | .subscribe other name place => (other, name, place) = (topic, group, number)
  | .publish _ _ | .take _ | .drain _ | .unsubscribe _ => false

/-- The messages that were published to a topic, the oldest first. -/
def published (topic : String) (uses : List (Use M)) : List M :=
  uses.filterMap (Use.message? topic)

/-- The messages that were published to a partition of a topic, the oldest first. -/
def sent (key : M → String) (count : UInt32) (topic : String) (number : UInt32)
    (uses : List (Use M)) : List M :=
  (published topic uses).filter fun message => Partition.ofKey (key message) count = number

@[simp] theorem published_append (topic : String) (first more : List (Use M)) :
    published topic (first ++ more) = published topic first ++ published topic more := by
  simp [published]

@[simp] theorem sent_append (key : M → String) (count : UInt32) (topic : String) (number : UInt32)
    (first more : List (Use M)) :
    sent key count topic number (first ++ more) =
      sent key count topic number first ++ sent key count topic number more := by
  simp [sent]

theorem published_of_silent {use : Use M} (silent : ∀ topic, use.message? topic = none)
    (topic : String) : published topic [use] = [] := by
  simp [published, silent]

theorem sent_of_silent {use : Use M} (silent : ∀ topic, use.message? topic = none)
    (key : M → String) (count : UInt32) (topic : String) (number : UInt32) :
    sent key count topic number [use] = [] := by
  simp [sent, published_of_silent silent]

theorem sent_publish (key : M → String) (count : UInt32) (topic other : String) (number : UInt32)
    (message : M) :
    sent key count topic number [.publish other message] =
      if other = topic ∧ Partition.ofKey (key message) count = number then [message] else [] := by
  by_cases same : other = topic <;>
    simp [sent, published, Use.message?, same, List.filter_singleton]

/-- What a new subscription goes back to after certain uses: the last messages of its partition, if
its group has not subscribed there before. -/
def replay (key : M → String) (count : UInt32) (retention : Nat) (topic group : String)
    (number : UInt32) (before : List (Use M)) : List M :=
  if before.any (Use.joins topic group number) then []
  else (sent key count topic number before).rtake retention

theorem replay_suffix (key : M → String) (count : UInt32) (retention : Nat) (topic group : String)
    (number : UInt32) (before : List (Use M)) :
    replay key count retention topic group number before <:+
      sent key count topic number before := by
  rw [replay]
  split
  · exact List.nil_suffix
  · exact List.drop_suffix _ _

/-- All messages of a key go to one partition. -/
theorem filter_sent_suffix (key : M → String) (count : UInt32) (topic : String) (number : UInt32)
    (uses : List (Use M)) (name : String) :
    (sent key count topic number uses).filter (key · = name) <:+
      (published topic uses).filter (key · = name) := by
  rw [sent, List.filter_filter]
  by_cases here : Partition.ofKey name count = number
  · have same : ∀ message ∈ published topic uses,
        (decide (key message = name) && decide (Partition.ofKey (key message) count = number)) =
          decide (key message = name) := by
      intro message _
      by_cases named : key message = name <;> simp [named, here]
    exact ⟨[], List.filter_congr same⟩
  · have nothing : (published topic uses).filter (fun message =>
        decide (key message = name) &&
          decide (Partition.ofKey (key message) count = number)) = [] := by
      refine List.filter_eq_nil_iff.mpr fun message _ both => ?_
      obtain ⟨rfl, there⟩ : key message = name ∧ _ := by simpa using both
      exact here there
    rw [nothing]
    exact List.nil_suffix

/-- A bus, and what each of its subscriptions has received, the oldest first. -/
structure Traffic (M : Type) where
  bus : Bus M
  received : Nat → List M

namespace Traffic

def receive (traffic : Traffic M) (id : Nat) (messages : List M) (bus : Bus M) : Traffic M :=
  ⟨bus, Function.update traffic.received id (traffic.received id ++ messages)⟩

def use (key : M → String) (traffic : Traffic M) : Use M → Traffic M
  | .publish topic message =>
      { traffic with bus := traffic.bus.publish topic (key message) message }
  | .subscribe topic group number =>
      match traffic.bus.subscribe topic group number with
      | .ok (_, bus) => { traffic with bus }
      | .error _ => traffic
  | .take id =>
      match traffic.bus.take? id with
      | some (message, bus) => traffic.receive id [message] bus
      | none => traffic
  | .drain id => traffic.receive id (traffic.bus.drain id).1 (traffic.bus.drain id).2
  | .unsubscribe id => { traffic with bus := traffic.bus.unsubscribe id }

/-- The traffic on a new bus after it was used. -/
def after (key : M → String) (count : UInt32) (retention : Nat) (uses : List (Use M)) : Traffic M :=
  uses.foldl (use key) ⟨create count retention, fun _ => []⟩

/-- What a subscription has received, and then what it has still to take. -/
def delivered (traffic : Traffic M) (id : Nat) : List M :=
  traffic.received id ++ traffic.bus.pending id

variable {key : M → String} {count : UInt32} {retention : Nat} {uses : List (Use M)}
  {traffic later : Traffic M} {step : Use M}

/-- What was never subscribed receives nothing. -/
theorem receive_absent (traffic : Traffic M) {id : Nat} {front rest : List M}
    (pending : traffic.bus.pending id = front ++ rest) {other : Nat}
    (absent : traffic.bus.subscriptions.get? other = none) (nothing : traffic.received other = []) :
    (traffic.receive id front (traffic.bus.setPending id rest)).bus.subscriptions.get? other = none ∧
      (traffic.receive id front (traffic.bus.setPending id rest)).received other = [] := by
  simp only [receive, Function.update_apply]
  by_cases same : other = id
  · subst same
    have empty : front = [] := by
      rw [Bus.pending, absent] at pending
      exact (List.append_eq_nil_iff.mp pending.symm).1
    simp [setPending, absent, nothing, empty]
  · refine ⟨?_, by rw [if_neg same, nothing]⟩
    cases live : traffic.bus.subscriptions.get? id with
    | none => rw [setPending, live]; exact absent
    | some found => rw [get?_setPending live, if_neg same]; exact absent

theorem after_snoc (key : M → String) (count : UInt32) (retention : Nat) (uses : List (Use M))
    (last : Use M) :
    after key count retention (uses ++ [last]) = (after key count retention uses).use key last := by
  simp [after]

/-- What one use does to a bus. -/
inductive Turn (key : M → String) (traffic : Traffic M) : Use M → Traffic M → Prop where
  | published (topic : String) (message : M) :
      Turn key traffic (.publish topic message)
        { traffic with bus := traffic.bus.publish topic (key message) message }
  | subscribed (topic group : String) (number : UInt32) (bus : Bus M)
      (subscribes : traffic.bus.Subscribes bus topic group number) :
      Turn key traffic (.subscribe topic group number) { traffic with bus }
  | refused (topic group : String) (number : UInt32)
      (beyond : traffic.bus.partitionCount ≤ number) :
      Turn key traffic (.subscribe topic group number) traffic
  | received (step : Use M) (id : Nat) (front rest : List M)
      (receives : step = .take id ∨ step = .drain id)
      (pending : traffic.bus.pending id = front ++ rest) :
      Turn key traffic step (traffic.receive id front (traffic.bus.setPending id rest))
  | idle (id : Nat) : Turn key traffic (.take id) traffic
  | ended (id : Nat) :
      Turn key traffic (.unsubscribe id) { traffic with bus := traffic.bus.unsubscribe id }

theorem turn_use (key : M → String) (traffic : Traffic M) (step : Use M) :
    Turn key traffic step (traffic.use key step) := by
  cases step with
  | publish topic message => exact .published topic message
  | subscribe topic group number =>
      simp only [use]
      rcases traffic.bus.subscribe_cases topic group number with
        ⟨beyond, refused⟩ | ⟨bus, subscribes, accepted⟩
      · rw [refused]
        exact .refused topic group number beyond
      · rw [accepted]
        exact .subscribed topic group number bus subscribes
  | take id =>
      simp only [use, take?]
      cases pending : traffic.bus.pending id with
      | nil => exact .idle id
      | cons message rest => exact .received _ id [message] rest (.inl rfl) pending
  | drain id => exact .received _ id _ [] (.inr rfl) (List.append_nil _).symm
  | unsubscribe id => exact .ended id

/-- A bus accounts for all that was done with it. -/
structure Accounts (key : M → String) (count : UInt32) (retention : Nat) (uses : List (Use M))
    (traffic : Traffic M) : Prop where
  divided : traffic.bus.partitionCount = max count 1
  limit : traffic.bus.retention = retention
  retained : ∀ topic number, (traffic.bus.partition topic number).retained =
    (sent key count topic number uses).rtake retention
  groups : ∀ topic group number, number < max count 1 →
    (group ∈ (traffic.bus.partition topic number).groups ↔
      uses.any (Use.joins topic group number) = true)
  counted : ∀ topic, traffic.bus.publishedCount topic = (published topic uses).length
  unused : ∀ id, traffic.bus.nextSubscription ≤ id →
    traffic.bus.subscriptions.get? id = none ∧ traffic.received id = []

theorem accounts_nil (key : M → String) (count : UInt32) (retention : Nat) :
    Accounts key count retention [] (after key count retention []) where
  divided := rfl
  limit := rfl
  retained := by intro topic number; simp [after, create, Bus.partition, sent, published]
  groups := by intro topic group number _; simp [after, create, Bus.partition]
  counted := fun _ => rfl
  unused := fun _ _ => ⟨rfl, rfl⟩

/-- What concerns only the receiving end is not accounted for. -/
theorem Accounts.receiving (accounts : Accounts key count retention uses traffic)
    (silent : ∀ topic, step.message? topic = none)
    (noGroup : ∀ topic group number, number < max count 1 →
      step.joins topic group number = false)
    (divided : later.bus.partitionCount = traffic.bus.partitionCount)
    (limit : later.bus.retention = traffic.bus.retention)
    (partitions : later.bus.partitions = traffic.bus.partitions)
    (unused : ∀ id, later.bus.nextSubscription ≤ id →
      later.bus.subscriptions.get? id = none ∧ later.received id = []) :
    Accounts key count retention (uses ++ [step]) later where
  divided := divided.trans accounts.divided
  limit := limit.trans accounts.limit
  retained := by
    intro topic number
    rw [Bus.partition, partitions, sent_append, sent_of_silent silent, List.append_nil]
    exact accounts.retained topic number
  groups := by
    intro topic group number inRange
    rw [Bus.partition, partitions, List.any_append, List.any_cons, List.any_nil,
      noGroup topic group number inRange, Bool.or_false, Bool.or_false]
    exact accounts.groups topic group number inRange
  counted := by
    intro topic
    rw [publishedCount, partitions, published_append, published_of_silent silent, List.append_nil]
    exact accounts.counted topic
  unused := unused

/-- A key goes to the same partition whether there are no partitions or one. -/
theorem ofKey_max_one (key : String) (count : UInt32) :
    Partition.ofKey key (max count 1) = Partition.ofKey key count := by
  have unfolded : max count 1 = if count ≤ 1 then 1 else count := rfl
  rw [unfolded]
  split
  · next few => simp [Partition.ofKey, few]
  · rfl

theorem retain_snoc (retention : Nat) (messages : List M) (message : M) :
    retain retention (messages.rtake retention ++ [message]) =
      (messages ++ [message]).rtake retention := by
  have fewer : messages.length - retention ≤ messages.length := Nat.sub_le _ _
  rw [retain, List.rtake, List.rtake, ← List.drop_append_of_le_length fewer, List.drop_drop]
  simp only [List.length_drop, List.length_append, List.length_singleton]
  congr 1
  omega

theorem Accounts.turn (accounts : Accounts key count retention uses traffic)
    (turn : Turn key traffic step later) : Accounts key count retention (uses ++ [step]) later := by
  cases turn with
  | published topic message =>
      constructor
      · exact accounts.divided
      · exact accounts.limit
      · intro other number
        have retained := accounts.retained other number
        rw [partition_publish, accounts.divided, ofKey_max_one, sent_append, sent_publish]
        by_cases here : other = topic ∧ number = Partition.ofKey (key message) count
        · obtain ⟨rfl, rfl⟩ := here
          simp only [and_self, if_true]
          rw [retained, accounts.limit, retain_snoc]
        · rw [if_neg here, if_neg fun same => here ⟨same.1.symm, same.2.symm⟩, List.append_nil]
          exact retained
      · intro other group number inRange
        have groups := accounts.groups other group number inRange
        rw [partition_publish]
        split <;> simpa [Use.joins] using groups
      · intro other
        rw [publishedCount_publish, accounts.counted, published_append]
        by_cases same : topic = other <;> simp [published, Use.message?, same]
      · intro id beyond
        obtain ⟨absent, nothing⟩ := accounts.unused id beyond
        refine ⟨?_, nothing⟩
        simp only [publish, Table.get?_mapValues, absent, Option.map_none]
  | subscribed topic group number bus subscribes =>
      constructor
      · exact subscribes.count.trans accounts.divided
      · exact subscribes.retention.trans accounts.limit
      · intro other place
        have silent : ∀ topic', (Use.subscribe topic group number : Use M).message? topic' = none := fun _ => rfl
        rw [subscribes.retained, sent_append, sent_of_silent silent, List.append_nil]
        exact accounts.retained other place
      · intro other name place inRange
        rw [subscribes.groups, accounts.groups other name place inRange]
        have joins : (Use.subscribe topic group number : Use M).joins other name place = true ↔
            (other, place, name) = (topic, number, group) := by
          simp only [Use.joins, decide_eq_true_eq, Prod.mk.injEq]
          constructor <;> rintro ⟨rfl, rfl, rfl⟩ <;> exact ⟨rfl, rfl, rfl⟩
        rw [List.any_append, Bool.or_eq_true, List.any_cons, List.any_nil, Bool.or_false, joins]
      · intro other
        rw [subscribes.published, accounts.counted]
        simp [published, Use.message?]
      · intro id beyond
        rw [subscribes.next] at beyond
        obtain ⟨absent, nothing⟩ := accounts.unused id (by omega)
        rw [subscribes.subscriptions, if_neg (by omega)]
        exact ⟨absent, nothing⟩
  | refused topic group number beyond =>
      refine accounts.receiving (fun _ => rfl) ?_ rfl rfl rfl accounts.unused
      intro other name place inRange
      refine decide_eq_false fun same => ?_
      cases same
      rw [accounts.divided] at beyond
      exact absurd inRange (UInt32.not_lt.mpr beyond)
  | received _ id front rest receives pending =>
      obtain ⟨divided, limit, partitions, next⟩ := traffic.bus.setPending_frame id rest
      refine accounts.receiving ?_ ?_ divided limit partitions ?_
      · rcases receives with rfl | rfl <;> exact fun _ => rfl
      · rcases receives with rfl | rfl <;> exact fun _ _ _ _ => rfl
      · intro other beyond
        obtain ⟨absent, nothing⟩ := accounts.unused other (next ▸ beyond)
        exact traffic.receive_absent pending absent nothing
  | idle id =>
      exact accounts.receiving (fun _ => rfl) (fun _ _ _ _ => rfl) rfl rfl rfl
        accounts.unused
  | ended id =>
      refine accounts.receiving (fun _ => rfl) (fun _ _ _ _ => rfl) rfl rfl rfl ?_
      intro other beyond
      obtain ⟨absent, nothing⟩ := accounts.unused other beyond
      refine ⟨?_, nothing⟩
      simp only [unsubscribe, Table.get?_erase, absent, ite_self]

theorem accounts_after (key : M → String) (count : UInt32) (retention : Nat)
    (uses : List (Use M)) :
    Accounts key count retention uses (after key count retention uses) := by
  induction uses using List.reverseRecOn with
  | nil => exact accounts_nil key count retention
  | append_singleton earlier last ih =>
      rw [after_snoc]
      exact ih.turn (turn_use key _ last)

/-- A subscription is live, and certain messages were delivered to it. -/
def Delivers (traffic : Traffic M) (id : Nat) (topic : String) (number : UInt32)
    (messages : List M) : Prop :=
  ∃ pending, traffic.bus.subscriptions.get? id = some ⟨topic, number, pending⟩ ∧
    traffic.received id ++ pending = messages

theorem Delivers.delivered {id : Nat} {topic : String} {number : UInt32} {messages : List M}
    (delivers : traffic.Delivers id topic number messages) : traffic.delivered id = messages := by
  obtain ⟨pending, live, same⟩ := delivers
  rw [Traffic.delivered, Bus.pending, live]
  exact same

/-- A use adds to the stream of a live subscription what it sends to its partition. -/
theorem Delivers.turn {id : Nat} {topic : String} {number : UInt32} {messages : List M}
    (delivers : traffic.Delivers id topic number messages)
    (accounts : Accounts key count retention uses traffic) (turn : Turn key traffic step later)
    (stays : step ≠ .unsubscribe id) :
    later.Delivers id topic number (messages ++ sent key count topic number [step]) := by
  obtain ⟨pending, live, rfl⟩ := delivers
  cases turn with
  | published other message =>
      refine ⟨pending ++ sent key count topic number [.publish other message], ?_, by simp⟩
      simp only [publish, Table.get?_mapValues, live, Option.map_some, BusSubscription.offer,
        accounts.divided, ofKey_max_one, sent_publish]
      by_cases here : topic = other ∧ number = Partition.ofKey (key message) count
      · obtain ⟨rfl, rfl⟩ := here
        simp
      · rw [if_neg here, if_neg fun same => here ⟨same.1.symm, same.2.symm⟩, List.append_nil]
  | subscribed other group place bus subscribes =>
      refine ⟨pending, ?_, ?_⟩
      · rw [subscribes.subscriptions, if_neg, live]
        rintro rfl
        rw [(accounts.unused _ (Nat.le_refl _)).1] at live
        cases live
      · simp [sent, published, Use.message?]
  | refused other group place beyond =>
      exact ⟨pending, live, by simp [sent, published, Use.message?]⟩
  | received _ other front rest receives isPending =>
      have silent : sent key count topic number [step] = [] := by
        rcases receives with rfl | rfl <;> exact sent_of_silent (fun _ => rfl) key count topic number
      rw [silent, List.append_nil]
      simp only [Traffic.Delivers, receive, Function.update_apply]
      by_cases same : id = other
      · subst same
        rw [Bus.pending, live] at isPending
        obtain rfl : pending = front ++ rest := isPending
        refine ⟨rest, ?_, ?_⟩
        · rw [get?_setPending live, if_pos rfl]
        · rw [if_pos rfl, List.append_assoc]
      · refine ⟨pending, ?_, by rw [if_neg same]⟩
        cases found : traffic.bus.subscriptions.get? other with
        | none => rw [setPending, found]; exact live
        | some _ => rw [get?_setPending found, if_neg same]; exact live
  | idle other => exact ⟨pending, live, by simp [sent, published, Use.message?]⟩
  | ended other =>
      refine ⟨pending, ?_, by simp [sent, published, Use.message?]⟩
      have different : id ≠ other := fun same => stays (same ▸ rfl)
      simp only [unsubscribe, Table.get?_erase, if_neg different, live]

/-- A new subscription of a group goes back to what its partition retained, unless the group has
subscribed there before. -/
theorem delivers_of_subscribes {topic group : String} {number : UInt32} {bus : Bus M}
    (accounts : Accounts key count retention uses traffic)
    (subscribes : traffic.bus.Subscribes bus topic group number) :
    ({ traffic with bus } : Traffic M).Delivers traffic.bus.nextSubscription topic number
      (replay key count retention topic group number uses) := by
  have inRange : number < max count 1 := accounts.divided ▸ subscribes.inRange
  refine ⟨_, (subscribes.subscriptions _).trans (if_pos rfl), ?_⟩
  rw [(accounts.unused _ (Nat.le_refl _)).2, List.nil_append, accounts.retained]
  rw [replay]
  by_cases before : uses.any (Use.joins topic group number) = true
  · rw [if_pos before, if_pos ((accounts.groups topic group number inRange).mpr before)]
  · rw [if_neg before, if_neg (mt (accounts.groups topic group number inRange).mp before)]

/-- A subscription that does not end is delivered all that is sent to its partition. -/
theorem delivers_later {before rest : List (Use M)} {topic group : String} {number : UInt32}
    {id : Nat} {bus : Bus M}
    (accepted : (after key count retention before).bus.subscribe topic group number = .ok (id, bus))
    (stays : .unsubscribe id ∉ rest) :
    (after key count retention (before ++ .subscribe topic group number :: rest)).Delivers id topic
      number (replay key count retention topic group number before ++
          sent key count topic number rest) := by
  induction rest using List.reverseRecOn with
  | nil =>
      have accounts := accounts_after key count retention before
      rcases (after key count retention before).bus.subscribe_cases topic group number with
        ⟨_, refused⟩ | ⟨later, subscribes, same⟩
      · rw [refused] at accepted
        cases accepted
      · rw [same] at accepted
        cases accepted
        have delivers := delivers_of_subscribes accounts subscribes
        simpa only [after_snoc, use, same, sent, published, List.filterMap_nil, List.filter_nil,
          List.append_nil] using delivers
  | append_singleton earlier last ih =>
      have shorter := ih fun member => stays (List.mem_append_left _ member)
      have accounts := accounts_after key count retention
        (before ++ .subscribe topic group number :: earlier)
      rw [← List.cons_append, ← List.append_assoc, after_snoc, sent_append, ← List.append_assoc]
      refine shorter.turn accounts (turn_use key _ last) ?_
      rintro rfl
      exact stays (List.mem_append_right _ (List.mem_singleton.mpr rfl))

end Traffic

open Traffic

/-- A bus with any number of partitions and any retention is published to and subscribed to, and its
subscriptions receive and end, in any order. Then a subscription that has not ended was delivered,
whatever part of it waits to be received, first what the first subscription of a group goes back to,
the last messages that were sent to its partition before, and then all that was sent to it after. So
the messages of one key come in the order of their publishing, and from the first that comes on all
of them. A subscription is accepted if and only if there is a partition of that number, and the
messages of a topic are counted. -/
theorem delivers_stream (key : M → String) (count : UInt32) (retention : Nat)
    (uses : List (Use M)) :
    (∀ topic, (after key count retention uses).bus.publishedCount topic =
      (published topic uses).length) ∧
    (∀ topic group number, (∃ accepted,
      (after key count retention uses).bus.subscribe topic group number = .ok accepted) ↔
        number < max count 1) ∧
    ∀ before rest topic group number id bus,
      uses = before ++ .subscribe topic group number :: rest →
      (after key count retention before).bus.subscribe topic group number = .ok (id, bus) →
      .unsubscribe id ∉ rest →
        (after key count retention uses).delivered id =
          replay key count retention topic group number before ++
            sent key count topic number rest ∧
        ∀ name, (((after key count retention uses).delivered id).filter (key · = name)) <:+
          (published topic uses).filter (key · = name) := by
  have accounts := accounts_after key count retention uses
  refine ⟨accounts.counted, ?_, ?_⟩
  · intro topic group number
    rw [← accounts.divided]
    rcases (after key count retention uses).bus.subscribe_cases topic group number with
      ⟨beyond, refused⟩ | ⟨bus, subscribes, accepted⟩
    · rw [refused]
      simp [UInt32.not_lt.mpr beyond]
    · rw [accepted]
      simp [subscribes.inRange]
  · intro before rest topic group number id bus split accepted stays
    have delivers := delivers_later accepted stays
    rw [← split] at delivers
    refine ⟨delivers.delivered, fun name => ?_⟩
    rw [delivers.delivered, split]
    have whole := filter_sent_suffix key count topic number
      (before ++ .subscribe topic group number :: rest) name
    refine List.IsSuffix.trans ?_ whole
    have silent : sent key count topic number [(.subscribe topic group number : Use M)] = [] :=
      sent_of_silent (fun _ => rfl) key count topic number
    rw [← List.singleton_append, sent_append, sent_append, silent, List.nil_append]
    obtain ⟨missed, whole'⟩ := replay_suffix key count retention topic group number before
    exact List.IsSuffix.filter _ ⟨missed, by rw [← List.append_assoc, whole']⟩

/-- A bus that retains one message. The last use but one asks for a message, and the last one
subscribes the group once more. -/
def rejoined : List (Use String) :=
  [.publish "t" "a", .publish "t" "b"] ++ .subscribe "t" "g" 0 ::
    [.publish "t" "c", .take 0, .subscribe "t" "g" 0]

theorem delivered_rejoined :
    (after id 0 1 (rejoined.take 2)).bus.subscribe "t" "g" 0 =
        .ok (0, (after id 0 1 (rejoined.take 3)).bus) ∧
      Use.unsubscribe 0 ∉ rejoined.drop 3 ∧
      (after id 0 1 rejoined).delivered 0 = ["b", "c"] ∧
      (after id 0 1 rejoined).received 0 = ["b"] ∧ (after id 0 1 rejoined).delivered 1 = [] := by
  have accepted : (after id 0 1 (rejoined.take 2)).bus.subscribe "t" "g" 0 =
    .ok (0, (after id 0 1 (rejoined.take 3)).bus) := rfl
  have stays : Use.unsubscribe 0 ∉ rejoined.drop 3 := by simp [rejoined]
  refine ⟨accepted, stays, ?_, by decide, by decide⟩
  have delivered := ((delivers_stream id 0 1 rejoined).2.2 _ _ "t" "g" 0 0 _ rfl accepted stays).1
  exact delivered.trans (by decide)

end Bus

end CacheFill
