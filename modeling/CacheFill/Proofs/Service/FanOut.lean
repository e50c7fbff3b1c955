import CacheFill.Proofs.Service.Hearing

/-!
What the listeners of groups are told in the end. The consumers can always deliver what waits for
them, and once they have, each listener was told all that was published for its group. Main
statement: `FanOut.reaches_every_listener`.
-/

set_option autoImplicit false

namespace CacheFill

namespace FanOut

open Bus Traffic

variable {topics : Topics} {count : UInt32} {retention : Nat} {fanOut : FanOut} {hearing : Hearing}
  {uses : List (Use Notification)} {notifications : List Notification} {groups : List ListenerGroup}
  {place number : Nat}

/-- A consumer of the group in a place has nothing to do. -/
def Idle (fanOut : FanOut) (place number : Nat) : Prop :=
  ∀ hearing, fanOut.hearings[place]? = some hearing →
    hearing.IsIdle fanOut.backend.notifications number

theorem workers_call (hearing : Hearing) (number : Nat) :
    (hearing.call number).workers = hearing.workers := by
  unfold Hearing.call
  split <;> rfl

/-- A consumer has nothing to do until something is published. -/
theorem Idle.made {service : Service} {move : Move} {later : FanOut}
    (idle : fanOut.Idle place number) (made : Made service fanOut move later)
    (silent : move.notified? = none) : later.Idle place number := by
  cases made with
  | notified _ => cases silent
  | unmoved _ _ => exact idle
  | called other otherNumber hearing found =>
      intro now there worker isWorker
      rcases getElem?_set_cases there with ⟨rfl, rfl⟩ | ⟨_, there⟩
      · rw [workers_call] at isWorker
        obtain ⟨noCalls, nothing⟩ := idle hearing found worker isWorker
        refine ⟨?_, nothing⟩
        unfold Hearing.call
        split
        · exact noCalls
        next heard rest isDue =>
          refine (Function.update_of_ne ?_ _ _).trans noCalls
          rintro rfl
          rw [noCalls] at isDue
          cases isDue
      · exact idle now there worker isWorker
  | tookUp other otherNumber answers hearing taker id notification bus found isTaker free subscribed taken =>
      obtain ⟨waits, others⟩ := pending_of_take? taken
      have stays (idle : Nat) (nothing : fanOut.backend.notifications.pending idle = []) :
          bus.pending idle = [] := by
        rw [others idle, nothing]
        rintro rfl
        rw [nothing] at waits
        cases waits
      intro now there worker isWorker
      rcases getElem?_set_cases there with ⟨rfl, rfl⟩ | ⟨_, there⟩
      · rw [Hearing.takeUp_eq] at isWorker ⊢
        obtain ⟨noCalls, nothing⟩ := idle hearing found worker isWorker
        refine ⟨?_, fun seat isSeat => stays seat (nothing seat isSeat)⟩
        refine (Function.update_of_ne ?_ _ _).trans noCalls
        rintro rfl
        cases isTaker.symm.trans isWorker
        rw [nothing id subscribed] at waits
        cases waits
      · obtain ⟨noCalls, nothing⟩ := idle now there worker isWorker
        exact ⟨noCalls, fun seat isSeat => stays seat (nothing seat isSeat)⟩

theorem Idle.run {service : Service} {moves : List Move} (idle : fanOut.Idle place number)
    (silent : notified moves = []) : (fanOut.run service moves).Idle place number := by
  induction moves generalizing fanOut with
  | nil => exact idle
  | cons move rest ih =>
      rw [notified_cons, List.append_eq_nil_iff, Option.toList_eq_nil_iff] at silent
      exact ih (idle.made (made_make service fanOut move) silent.1) silent.2

theorem make_takeUp (service : Service) (answers : Nat → Listener) {worker : Worker} {id : Nat}
    {notification : Notification} {bus : Bus Notification}
    (found : fanOut.hearings[place]? = some hearing)
    (isWorker : hearing.workers[number]? = some worker) (free : hearing.due number = [])
    (subscribed : worker.subscription = some id)
    (taken : fanOut.backend.notifications.take? id = some (notification, bus)) :
    fanOut.make service (.takeUp place number answers) =
      ⟨{ fanOut.backend with notifications := bus },
        fanOut.hearings.set place (hearing.takeUp number worker answers notification)⟩ := by
  simp only [make, found, isWorker, free, subscribed, Option.bind_some, taken]

/-- A consumer can make the calls that are due. -/
theorem exists_calls (service : Service) (number : Nat) (found : fanOut.hearings[place]? = some hearing) :
    ∃ further later, notified further = [] ∧
      (fanOut.run service further).backend = fanOut.backend ∧
      (fanOut.run service further).hearings[place]? = some later ∧
      later.workers = hearing.workers ∧ later.due number = [] := by
  induction isDue : hearing.due number generalizing fanOut hearing with
  | nil => exact ⟨[], hearing, rfl, rfl, found, rfl, isDue⟩
  | cons heard rest ih =>
      have moved : fanOut.make service (.call place number) =
          { fanOut with hearings := fanOut.hearings.set place (hearing.call number) } := by
        simp only [make, found]
      have called : (fanOut.make service (.call place number)).hearings[place]? =
          some (hearing.call number) := by
        rw [moved]
        exact List.getElem?_set_self (List.getElem?_eq_some_iff.mp found).1
      have fewer : (hearing.call number).due number = rest := by
        rw [Hearing.call, isDue]
        exact Function.update_self ..
      obtain ⟨further, later, silent, backend, there, workers, done⟩ := ih called fewer
      refine ⟨.call place number :: further, later, silent, ?_, there, ?_, done⟩
      · exact backend.trans (congrArg (·.backend) moved)
      · rw [workers, workers_call]

theorem idle_of_done {worker : Worker} (found : fanOut.hearings[place]? = some hearing)
    (isWorker : hearing.workers[number]? = some worker) (done : hearing.due number = [])
    (nothing : ∀ id ∈ worker.subscription, fanOut.backend.notifications.pending id = []) :
    fanOut.Idle place number := by
  intro now isNow other isOther
  cases found.symm.trans isNow
  cases isWorker.symm.trans isOther
  exact ⟨done, nothing⟩

/-- A consumer can deliver all that waits for its subscription. -/
theorem exists_idle_of_subscribed (service : Service) {worker : Worker} {id : Nat}
    (subscribed : worker.subscription = some id)
    (found : fanOut.hearings[place]? = some hearing)
    (isWorker : hearing.workers[number]? = some worker) :
    ∃ further, notified further = [] ∧ (fanOut.run service further).Idle place number := by
  -- each round makes the calls that are due and takes up one more of what waits
  induction waits : fanOut.backend.notifications.pending id generalizing fanOut hearing with
  | nil =>
      obtain ⟨further, later, silent, backend, there, workers, done⟩ :=
        exists_calls service number found
      refine ⟨further, silent, idle_of_done there (workers ▸ isWorker) done fun seat isSeat => ?_⟩
      cases subscribed.symm.trans isSeat
      rw [backend, waits]
  | cons notification rest ih =>
      obtain ⟨first, later, silent, backend, there, workers, done⟩ :=
        exists_calls service number found
      rw [← workers] at isWorker
      have taken : (fanOut.run service first).backend.notifications.take? id =
          some (notification, fanOut.backend.notifications.setPending id rest) := by
        rw [backend, take?, waits]
      have moved := make_takeUp service (fun _ _ => none) there isWorker done subscribed taken
      have isPlace : ((fanOut.run service first).make service
          (.takeUp place number fun _ _ => none)).hearings[place]? =
          some (later.takeUp number worker (fun _ _ => none) notification) := by
        rw [moved]
        exact List.getElem?_set_self (List.getElem?_eq_some_iff.mp there).1
      have stillWorker : (later.takeUp number worker (fun _ _ => none)
          notification).workers[number]? = some worker := by
        rw [Hearing.takeUp_eq]
        exact isWorker
      have fewer : ((fanOut.run service first).make service
          (.takeUp place number fun _ _ => none)).backend.notifications.pending id = rest := by
        have front := (pending_of_take? taken).1
        rw [backend, waits] at front
        rw [moved]
        exact (List.cons.inj front).2.symm
      obtain ⟨further, silentToo, idle⟩ := ih isPlace stillWorker fewer
      refine ⟨first ++ .takeUp place number (fun _ _ => none) :: further, ?_, ?_⟩
      · rw [notified_append, silent]
        exact silentToo
      · rw [run_append]
        exact idle

theorem exists_idle (service : Service) (fanOut : FanOut) (place number : Nat) :
    ∃ further, notified further = [] ∧ (fanOut.run service further).Idle place number := by
  cases found : fanOut.hearings[place]? with
  | none =>
      refine ⟨[], rfl, fun hearing there => ?_⟩
      cases found.symm.trans there
  | some hearing =>
      cases isWorker : hearing.workers[number]? with
      | none =>
          refine ⟨[], rfl, fun now there worker isOther => ?_⟩
          cases found.symm.trans there
          cases isWorker.symm.trans isOther
      | some worker =>
          cases subscribed : worker.subscription with
          | some id => exact exists_idle_of_subscribed service subscribed found isWorker
          | none =>
              obtain ⟨further, later, silent, _, there, workers, done⟩ :=
                exists_calls service number found
              refine ⟨further, silent, idle_of_done there (workers ▸ isWorker) done ?_⟩
              intro id isId
              cases subscribed.symm.trans isId

/-- All these consumers can. -/
theorem exists_all_idle (service : Service) (fanOut : FanOut) (consumers : List (Nat × Nat)) :
    ∃ further, notified further = [] ∧
      ∀ consumer ∈ consumers, (fanOut.run service further).Idle consumer.1 consumer.2 := by
  induction consumers generalizing fanOut with
  | nil => exact ⟨[], rfl, fun _ none => (List.not_mem_nil none).elim⟩
  | cons consumer rest ih =>
      obtain ⟨first, silent, idle⟩ := exists_idle service fanOut consumer.1 consumer.2
      obtain ⟨further, silentToo, others⟩ := ih (fanOut.run service first)
      refine ⟨first ++ further, ?_, fun other member => ?_⟩
      · rw [notified_append, silent, silentToo, List.append_nil]
      · rw [run_append]
        rcases List.mem_cons.mp member with rfl | later
        · exact idle.run silentToo
        · exact others other later

/-- The consumers of all groups can finish. -/
theorem Follows.exists_finished {service : Service}
    (follows : Follows service.topics count retention groups notifications uses fanOut) :
    ∃ further, notified further = [] ∧ ∀ hearing ∈ (fanOut.run service further).hearings,
      hearing.Finished (fanOut.run service further).backend.notifications := by
  obtain ⟨further, silent, idle⟩ := exists_all_idle service fanOut
    (List.range groups.length ×ˢ List.range (numbers count).length)
  obtain ⟨more, onward⟩ := follows.run further
  refine ⟨further, silent, fun hearing member number worker isWorker => ?_⟩
  obtain ⟨place, found⟩ := List.mem_iff_getElem?.mp member
  refine idle (place, number) (List.pair_mem_product.mpr ⟨?_, ?_⟩) hearing found worker isWorker
  · rw [List.mem_range, ← onward.groups, List.length_map]
    exact (List.getElem?_eq_some_iff.mp found).1
  · have below := (List.getElem?_eq_some_iff.mp isWorker).1
    rw [(onward.hears place hearing found).workers, List.length_map, seats, List.length_zipIdx]
      at below
    exact List.mem_range.mpr below

/-- When the consumers of a group are done, its listeners were told of each key what was published
for it. -/
theorem Follows.told_of_finished
    (follows : Follows topics count retention groups notifications uses fanOut)
    (found : fanOut.hearings[place]? = some hearing)
    (finished : hearing.Finished fanOut.backend.notifications) {listener : Nat}
    (isListener : listener < hearing.group.listeners.length) (key : String) :
    (Heard.told listener hearing.made).filter (·.key = key) =
      (notifications.filter (·.type = hearing.group.type)).filter (·.key = key) := by
  have hears := follows.hears place hearing found
  -- just one consumer of the group hears of the key, the one of its partition
  have isNumber : Partition.ofKey key count ∈ numbers count :=
    mem_partitionNumbers_iff.mpr (ofKey_lt key count)
  obtain ⟨number, there⟩ := List.mem_iff_getElem?.mp isNumber
  obtain ⟨seat, isSeat, here⟩ : ∃ seat, (seats count place)[number]? = some seat ∧
      Partition.ofKey key count = seat.1 :=
    ⟨(_, _), getElem?_seats.mpr ⟨there, rfl⟩, rfl⟩
  obtain ⟨idle, empty⟩ := finished number ⟨.listen hearing.group seat.1, some seat.2, false⟩ (by
    rw [hears.workers, List.getElem?_map, isSeat]
    rfl)
  have told := hears.told number seat isSeat listener isListener
  have received := (hears.serves seat (List.mem_of_getElem? isSeat)).delivered
  rw [Traffic.delivered, ← follows.bus, empty seat.2 rfl, List.append_nil, sent,
    follows.published] at received
  rw [idle, received, ← here] at told
  rw [← filter_partition_key Notification.key count,
    ← filter_partition_key Notification.key count (notifications.filter _), ← told]
  simp [Heard.told]

end FanOut

/-- Groups of listeners are launched on a new bus with any number of partitions. After that, any
notifications are published, and the consumers take them up and call the listeners in any order,
whatever the listeners answer. Once the consumers of a group are done, each of its listeners was
called with each notification of its type once and with no other, and in the order of publishing as
far as they have the same key. Without anything more being published, the consumers of all groups
can come to be done. -/
theorem FanOut.reaches_every_listener (service : Service) (backend : Backend) (count : UInt32)
    (retention : Nat) (groups : List ListenerGroup) (moves : List Move) :
    let fanOut := (opening service { backend with notifications := .create count retention }
      groups).run service moves
    fanOut.hearings.map (·.group) = groups ∧
      (∀ hearing ∈ fanOut.hearings, hearing.Finished fanOut.backend.notifications →
        ∀ listener < hearing.group.listeners.length,
          let told := Heard.told listener hearing.made
          let published := (notified moves).filter (·.type = hearing.group.type)
          told.Perm published ∧
            ∀ key, told.filter (·.key = key) = published.filter (·.key = key)) ∧
      ∃ further, notified further = [] ∧
        ∀ hearing ∈ (fanOut.run service further).hearings,
          hearing.Finished (fanOut.run service further).backend.notifications := by
  obtain ⟨before, opened, _⟩ := follows_opening service
    { backend with notifications := .create count retention } rfl groups
  obtain ⟨more, follows⟩ := opened.run moves
  refine ⟨follows.groups, fun hearing member finished listener isListener => ?_,
    follows.exists_finished⟩
  obtain ⟨place, found⟩ := List.mem_iff_getElem?.mp member
  have keys := follows.told_of_finished found finished isListener
  refine ⟨List.perm_iff_count.mpr fun notification => ?_, keys⟩
  have counts := congrArg (List.count notification) (keys notification.key)
  rw [List.count_filter (by simp), List.count_filter (by simp)] at counts
  exact counts

namespace FanOut

/-- The announcement of a task of a certain type. -/
def announcement (type : LoadType) : Notification :=
  ⟨type, "k", .minted 0 1, .initial Instant.epoch⟩

def failing : Listener := fun _ => some "out"

/-- Two notifications, only one of them of the type of the group, and how it is delivered. -/
def failedMoves : List Move :=
  [.notify (announcement default), .notify (announcement ⟨"b", by decide, by decide⟩),
    .takeUp 0 0 fun _ => failing, .call 0 0, .call 0 0]

theorem told_though_failing :
    let fanOut := (opening default { (default : Backend) with notifications := .create 1 0 }
      [⟨"audit", default, [failing, failing]⟩]).run default failedMoves
    ∃ hearing ∈ fanOut.hearings, hearing.Finished fanOut.backend.notifications ∧
      1 < hearing.group.listeners.length ∧
      (Heard.told 1 hearing.made).Perm [announcement default] := by
  intro fanOut
  obtain ⟨hearing, member, idle, subscribed, empty, many, type⟩ : ∃ hearing,
      hearing ∈ fanOut.hearings ∧ hearing.due 0 = [] ∧
        hearing.workers.map (·.subscription) = [some 0] ∧
        fanOut.backend.notifications.pending 0 = [] ∧ hearing.group.listeners.length = 2 ∧
        hearing.group.type = default :=
    ⟨_, List.mem_cons_self, rfl, rfl, rfl, rfl, rfl⟩
  have finished : hearing.Finished fanOut.backend.notifications := by
    intro number worker found
    have seat : [some 0][number]? = some worker.subscription := by
      rw [← subscribed, List.getElem?_map, found]
      rfl
    cases number with
    | succ _ => cases seat
    | zero =>
        refine ⟨idle, fun id isId => ?_⟩
        rw [← Option.some.inj seat] at isId
        cases isId
        exact empty
  have isListener : 1 < hearing.group.listeners.length := by omega
  refine ⟨hearing, member, finished, isListener, ?_⟩
  have told := ((reaches_every_listener default default 1 0 _ failedMoves).2.1 hearing member finished 1
    isListener).1
  rwa [type] at told

end FanOut

end CacheFill
