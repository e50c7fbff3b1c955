import CacheFill.Worker.Consumer
import Mathlib.Tactic.Common

/-!
A consumer on a channel, with any handler and any requests to stop. What it does with one delivery
is a course: calls that fail, then perhaps one that succeeds and the acknowledgement. A whole run is
one course after the other, in the order of the deliveries. Main statement: `Consumer.run_worksOff`.
-/

set_option autoImplicit false

namespace CacheFill

namespace Channel

variable {M : Type}

/-- What the sender of a channel does. -/
inductive Sending (M : Type) where
  | send (delivery : Delivery M)
  | close

/-- The channel after some of what its sender does. -/
def after (channel : Channel M) : List (Sending M) → Channel M
  | [] => channel
  | .send delivery :: rest => (channel.send delivery).2.after rest
  | .close :: rest => channel.close.after rest

/-- What is sent before the channel is closed. -/
def sent : List (Sending M) → List (Delivery M)
  | [] => []
  | .send delivery :: rest => delivery :: sent rest
  | .close :: _ => []

/-- What the waits of a receiver bring while its sender goes on, which does as much as listed before
and during each wait. After them a closed channel is emptied, and of an open one no more is told. -/
def arrivals (channel : Channel M) : List (List (Sending M)) → List (Option (Delivery M))
  | [] => if channel.isOpen then [] else channel.queue.map some
  | sendings :: rest =>
      match (channel.after sendings).receiveDelivery .timeout with
      | .ok (delivery, channel) => some delivery :: channel.arrivals rest
      | .error .disconnected => []
      | .error _ => none :: (channel.after sendings).arrivals rest

/-- What a channel can still take of what its sender does. -/
def accepted (channel : Channel M) (sendings : List (Sending M)) : List (Delivery M) :=
  if channel.isOpen then sent sendings else []

theorem after_of_closed {channel : Channel M} (closed : channel.isOpen = false)
    (sendings : List (Sending M)) : channel.after sendings = channel := by
  induction sendings with
  | nil => rfl
  | cons sending rest ih =>
      have closes : channel.close = channel := by rw [close, ← closed]
      cases sending with
      | send delivery => simpa only [after, send, closed, Bool.false_eq_true, if_false] using ih
      | close => simpa only [after, closes] using ih

theorem after_append (channel : Channel M) (first more : List (Sending M)) :
    channel.after (first ++ more) = (channel.after first).after more := by
  induction first generalizing channel with
  | nil => rfl
  | cons sending rest ih => cases sending <;> exact ih _

/-- The queue grows by what the channel accepts, and what it accepts later is the rest of it. -/
theorem queue_after (channel : Channel M) (sendings more : List (Sending M)) :
    (channel.after sendings).queue ++ (channel.after sendings).accepted more =
      channel.queue ++ channel.accepted (sendings ++ more) := by
  induction sendings generalizing channel with
  | nil => rfl
  | cons sending rest ih =>
      cases isOpen : channel.isOpen with
      | false =>
          rw [after_of_closed isOpen]
          simp only [accepted, isOpen]
          rfl
      | true =>
          cases sending with
          | send delivery =>
              rw [after, ih]
              simp [send, accepted, isOpen, sent]
          | close =>
              rw [after, ih]
              simp [close, accepted, isOpen, sent]

/-- Whether a channel is closed does not depend on what waits in it. -/
theorem isOpen_after (channel other : Channel M) (same : channel.isOpen = other.isOpen)
    (sendings : List (Sending M)) :
    (channel.after sendings).isOpen = (other.after sendings).isOpen := by
  induction sendings generalizing channel other with
  | nil => exact same
  | cons sending rest ih =>
      cases sending with
      | send delivery =>
          refine ih _ _ ?_
          simp only [send, same]
          split <;> simp [same]
      | close => exact ih _ _ rfl

/-- A receiver gets the deliveries in the order in which they were sent, and all of them once the
channel is closed. -/
theorem arrivals_inOrder (channel : Channel M) (waits : List (List (Sending M))) :
    (channel.arrivals waits).filterMap id <+: channel.queue ++ channel.accepted waits.flatten ∧
      ((channel.after waits.flatten).isOpen = false →
        (channel.arrivals waits).filterMap id = channel.queue ++ channel.accepted waits.flatten) := by
  induction waits generalizing channel with
  | nil =>
      cases isOpen : channel.isOpen with
      | true =>
          simp only [arrivals, isOpen, List.flatten_nil, after, if_true]
          exact ⟨List.nil_prefix, fun closed => by cases closed⟩
      | false =>
          have all : (channel.queue.map some).filterMap id = channel.queue := by
            rw [List.filterMap_map]
            exact List.filterMap_some
          simp only [arrivals, isOpen, List.flatten_nil, accepted, Bool.false_eq_true, if_false, all,
            List.append_nil]
          exact ⟨List.prefix_rfl, fun _ => trivial⟩
  | cons sendings rest ih =>
      rw [List.flatten_cons, after_append, ← queue_after]
      generalize isLater : channel.after sendings = later
      simp only [arrivals, isLater, receiveDelivery]
      -- the wait takes the front of the queue if there is one, and the rest goes on from there
      cases waiting : later.queue with
      | cons delivery queue =>
          obtain ⟨inOrder, whole⟩ := ih { later with queue := queue }
          refine ⟨List.cons_prefix_cons.mpr ⟨rfl, inOrder⟩, fun closed => ?_⟩
          have same := isOpen_after { later with queue := queue } later rfl rest.flatten
          exact congrArg (delivery :: ·) (whole (same.trans closed))
      | nil =>
          cases isOpen : later.isOpen with
          | true =>
              obtain ⟨inOrder, whole⟩ := ih later
              rw [waiting] at inOrder whole
              simpa [nothing, isOpen] using ⟨inOrder, whole⟩
          | false =>
              simp [nothing, isOpen, accepted]

end Channel

namespace Consumer

variable {σ M : Type}

/-- The state that a handler is left in by what a consumer does with it, if all its answers are those
that the handler gives. -/
def replay (handler : Handler σ M) : List (Event M) → σ → Option σ
  | [], state => some state
  | .called message error :: rest, state =>
      if (handler message state).1 = error then replay handler rest (handler message state).2
      else none
  | .acknowledged _ :: rest, state => replay handler rest state

theorem replay_append (handler : Handler σ M) (first more : List (Event M)) (state : σ) :
    replay handler (first ++ more) state = (replay handler first state).bind (replay handler more) := by
  induction first generalizing state with
  | nil => rfl
  | cons event rest ih =>
      cases event with
      | acknowledged message => exact ih state
      | called message error =>
          simp only [List.cons_append, replay]
          split
          · exact ih _
          · rfl

/-- What a consumer does with one delivery. -/
structure Course (M : Type) where
  delivery : Delivery M
  /-- The errors of the calls that fail. -/
  failures : List String
  ending : Ending
  /-- The number of the look for a request in its first pause. -/
  firstLook : Nat

namespace Course

def calls (course : Course M) : List (Event M) :=
  course.failures.map (fun error => .called course.delivery.message (some error)) ++
    if course.ending = .done then [.called course.delivery.message none] else []

/-- A message is acknowledged after a call for it succeeded. -/
def events (course : Course M) : List (Event M) :=
  course.calls ++
    if course.ending = .done ∧ course.delivery.settles = true then
      [.acknowledged course.delivery.message]
    else []

/-- A failing call is followed by a pause unless it is the last one that is allowed. -/
def pauses (course : Course M) (limit : Nat) : Nat := min course.failures.length (limit - 1)

/-- A course with at most this many calls, which goes on until a call succeeds or a request is found
in a pause. -/
structure IsProper (course : Course M) (stop : Nat → Bool) (limit : Nat) : Prop where
  done : course.ending = .done → course.failures.length < limit
  gaveUp : course.ending = .gaveUp → course.failures.length = limit
  stopped : course.ending = .stopped →
    0 < course.failures.length ∧ course.failures.length < limit
  /-- A request that is found in a pause ends the course there, and nothing else stops it. -/
  asked : ∀ pause < course.pauses limit, stop (course.firstLook + pause) = true ↔
    course.ending = .stopped ∧ pause + 1 = course.pauses limit

/-- The calls of a course are all for its message. -/
theorem mem_calls {course : Course M} {event : Event M} (mem : event ∈ course.calls) :
    ∃ error, event = .called course.delivery.message error := by
  rcases List.mem_append.mp mem with failed | succeeded
  · obtain ⟨error, _, rfl⟩ := List.mem_map.mp failed
    exact ⟨some error, rfl⟩
  · split at succeeded
    · exact ⟨none, List.mem_singleton.mp succeeded⟩
    · cases succeeded

theorem acknowledged_flatMap (courses : List (Course M)) :
    (courses.flatMap events).filterMap Event.acknowledged? = (courses.filter fun course =>
      course.ending = .done && course.delivery.settles).map (·.delivery.message) := by
  have none (course : Course M) : course.calls.filterMap Event.acknowledged? = [] := by
    rw [List.filterMap_eq_nil_iff]
    intro event mem
    obtain ⟨error, rfl⟩ := mem_calls mem
    rfl
  induction courses with
  | nil => rfl
  | cons course rest ih =>
      rw [List.flatMap_cons, List.filterMap_append, ih, events, List.filterMap_append, none,
        List.nil_append]
      by_cases settled : course.ending = .done ∧ course.delivery.settles = true
      · simp [settled, Event.acknowledged?]
      · have left : (decide (course.ending = .done) && course.delivery.settles) = false := by
          simpa using settled
        simp [settled, left]

/-- A course that begins with one more call, which fails, and a pause in which nothing is found. -/
def afterFailure (course : Course M) (error : String) (firstLook : Nat) : Course M :=
  { course with failures := error :: course.failures, firstLook }

variable {course : Course M} {stop : Nat → Bool} {left look : Nat}

theorem pauses_afterFailure (error : String) :
    (course.afterFailure error look).pauses (left + 2) = course.pauses (left + 1) + 1 := by
  simp only [pauses, afterFailure, List.length_cons]
  omega

theorem length_calls (course : Course M) :
    course.calls.length = course.failures.length + if course.ending = .done then 1 else 0 := by
  rw [calls, List.length_append, List.length_map]
  split <;> rfl

theorem IsProper.length_calls (proper : course.IsProper stop (left + 1)) :
    1 ≤ course.calls.length ∧ course.calls.length ≤ left + 1 := by
  rw [course.length_calls]
  cases ending : course.ending with
  | done =>
      have failures := proper.done ending
      rw [if_pos rfl]
      omega
  | gaveUp =>
      have failures := proper.gaveUp ending
      rw [if_neg (by decide)]
      omega
  | stopped =>
      have failures := proper.stopped ending
      rw [if_neg (by decide)]
      omega

theorem IsProper.message_mem (proper : course.IsProper stop (left + 1)) :
    course.delivery.message ∈ course.events.filterMap Event.called? := by
  obtain ⟨event, mem⟩ := List.exists_mem_of_length_pos proper.length_calls.1
  refine List.mem_filterMap.mpr ⟨event, List.mem_append_left _ mem, ?_⟩
  obtain ⟨error, rfl⟩ := mem_calls mem
  rfl

theorem IsProper.pauses_pos {limit : Nat} (proper : course.IsProper stop limit)
    (stopped : course.ending = .stopped) : 0 < course.pauses limit := by
  have failures := proper.stopped stopped
  simp only [pauses]
  omega

theorem IsProper.afterFailure (proper : course.IsProper stop (left + 1)) (error : String)
    (next : course.firstLook = look + 1) (unasked : stop look = false) :
    (course.afterFailure error look).IsProper stop (left + 2) where
  done ending := Nat.succ_lt_succ (proper.done ending)
  gaveUp ending := congrArg Nat.succ (proper.gaveUp ending)
  stopped ending := ⟨Nat.succ_pos _, Nat.succ_lt_succ (proper.stopped ending).2⟩
  asked pause within := by
    rw [pauses_afterFailure] at within ⊢
    cases pause with
    | zero =>
        change stop look = true ↔ course.ending = .stopped ∧ _
        rw [unasked]
        constructor
        · intro asked
          cases asked
        · intro ⟨stopped, only⟩
          have paused := proper.pauses_pos stopped
          omega
    | succ pause =>
        have asked := proper.asked pause (Nat.lt_of_succ_lt_succ within)
        rw [next, Nat.add_assoc, Nat.add_comm 1 pause] at asked
        rw [Nat.add_right_cancel_iff]
        exact asked

end Course

/-- What a consumer does with a delivery: whether it goes on, and how far it got. -/
def takeDelivery (name : String) (handler : Handler σ M) (stop : Nat → Bool)
    (delivery : Delivery M) (progress : Progress σ M) : Bool × Progress σ M :=
  match handle name handler stop delivery.message callLimit progress with
  | (.stopped, progress) => (false, progress)
  | (.gaveUp, progress) => (true, progress)
  | (.done, progress) =>
      (true, if delivery.settles then progress.acknowledge delivery.message else progress)

variable (name : String) (handler : Handler σ M) (stop : Nat → Bool)

theorem consume_delivery (delivery : Delivery M) (rest : List (Option (Delivery M)))
    (progress : Progress σ M) (unasked : stop progress.looks = false) :
    consume name handler stop (some delivery :: rest) progress =
      match takeDelivery name handler stop delivery (progress.look stop).2 with
      | (true, later) => consume name handler stop rest later
      | (false, later) => later := by
  rw [consume, takeDelivery]
  simp only [Progress.look, unasked]
  rcases handle name handler stop delivery.message callLimit _ with ⟨_ | _ | _, later⟩ <;> rfl

/-- The progress from one point of a run to a later one, in which the consumer did this. -/
structure Advances (progress : Progress σ M) (does : List (Event M)) (later : Progress σ M) :
    Prop where
  events : later.events = progress.events ++ does
  replays : replay handler does progress.state = some later.state

variable {handler}

theorem Advances.refl (progress : Progress σ M) : Advances handler progress [] progress :=
  ⟨(List.append_nil _).symm, rfl⟩

theorem Advances.trans {progress between later : Progress σ M} {first more : List (Event M)}
    (begins : Advances handler progress first between)
    (goesOn : Advances handler between more later) :
    Advances handler progress (first ++ more) later := by
  constructor
  · rw [goesOn.events, begins.events, List.append_assoc]
  · rw [replay_append, begins.replays]
    exact goesOn.replays

theorem Advances.call {progress later : Progress σ M} {message : M} {error : Option String}
    (called : progress.call handler message = (error, later)) :
    Advances handler progress [.called message error] later := by
  obtain ⟨rfl, rfl⟩ := Prod.mk.inj called
  exact ⟨rfl, by simp [replay]⟩

variable (handler)

/-- Handling a message with this many calls left follows a proper course. -/
theorem handle_course (delivery : Delivery M) (left : Nat) (progress : Progress σ M) :
    ∃ course : Course M, course.delivery = delivery ∧ course.firstLook = progress.looks ∧
      course.ending = (handle name handler stop delivery.message left progress).1 ∧
      course.IsProper stop left ∧
      Advances handler progress course.calls
        (handle name handler stop delivery.message left progress).2 ∧
      (handle name handler stop delivery.message left progress).2.looks =
        progress.looks + course.pauses left := by
  induction left generalizing progress with
  | zero =>
      refine ⟨⟨delivery, [], .gaveUp, progress.looks⟩, rfl, rfl, rfl, ?_, .refl progress, rfl⟩
      constructor <;> simp [Course.pauses]
  | succ left ih =>
      unfold handle
      rcases called : progress.call handler delivery.message with ⟨answer, next⟩
      have begins := Advances.call called
      have looks : next.looks = progress.looks := by rw [← (Prod.mk.inj called).2]
      cases answer with
      | none =>
          refine ⟨⟨delivery, [], .done, progress.looks⟩, rfl, rfl, rfl, ?_, begins, ?_⟩
          · constructor <;> simp [Course.pauses]
          · simp [Course.pauses, looks]
      | some error =>
          cases left with
          | zero =>
              refine ⟨⟨delivery, [error], .gaveUp, progress.looks⟩, rfl, rfl, rfl, ?_, ?_, ?_⟩
              · constructor <;> simp [Course.pauses]
              · exact ⟨begins.events, begins.replays⟩
              · simp [Course.pauses, Progress.addLine, looks]
          | succ left =>
              simp only [Nat.succ_ne_zero, if_false, Progress.look, Progress.addLine]
              cases asked : stop next.looks with
              | true =>
                  refine ⟨⟨delivery, [error], .stopped, progress.looks⟩, rfl, rfl, rfl, ?_, ?_, ?_⟩
                  · constructor <;> simp [Course.pauses, ← looks, asked]
                  · exact ⟨begins.events, begins.replays⟩
                  · simp [Course.pauses, looks]
              | false =>
                  -- the course of the calls that are left, after this call and its pause
                  dsimp only
                  generalize isPaused : { next with
                      looks := next.looks + 1
                      log := next.log ++ [Log.warn "consumer worker handler failed; retrying"
                        (callFields name (callLimit - (left + 1)) error)] } = paused
                  have pauses : Advances handler progress [.called delivery.message (some error)]
                      paused := by
                    rw [← isPaused]
                    exact ⟨begins.events, begins.replays⟩
                  have second : paused.looks = progress.looks + 1 := by rw [← isPaused, ← looks]
                  obtain ⟨course, rfl, first, ending, proper, goesOn, later⟩ := ih paused
                  refine ⟨course.afterFailure error progress.looks, rfl, rfl, ending,
                    proper.afterFailure error (first.trans second) (looks ▸ asked),
                    pauses.trans goesOn, ?_⟩
                  rw [later, second, Course.pauses_afterFailure]
                  omega

/-- Courses that a consumer takes from one point of a run to a later one, in which the waits bring
these deliveries. -/
structure Takes (progress : Progress σ M) (courses : List (Course M)) (later : Progress σ M)
    (deliveries : List (Delivery M)) : Prop where
  advances : Advances handler progress (courses.flatMap Course.events) later
  proper : ∀ course ∈ courses, course.IsProper stop callLimit
  inOrder : courses.map Course.delivery <+: deliveries
  /-- Only the last course may be stopped, and a course begins after the one before has ended. -/
  inTurn : courses.Pairwise fun first second =>
    first.ending ≠ .stopped ∧ first.firstLook + first.pauses callLimit < second.firstLook
  within : ∀ course ∈ courses, progress.looks < course.firstLook ∧
    course.firstLook + course.pauses callLimit ≤ later.looks ∧
    (course.ending = .stopped → course.firstLook + course.pauses callLimit = later.looks)
  looked : progress.looks < later.looks
  unasked : ∀ look, progress.looks ≤ look → look + 1 < later.looks → stop look = false
  whole : stop (later.looks - 1) = false → courses.map Course.delivery = deliveries

/-- The course from one point of a run to a later one. -/
structure Course.Leads (course : Course M) (progress later : Progress σ M) : Prop where
  advances : Advances handler progress course.events later
  proper : course.IsProper stop callLimit
  first : course.firstLook = progress.looks
  looks : later.looks = progress.looks + course.pauses callLimit

/-- A delivery is taken along one course, and the consumer goes on unless it is stopped. -/
theorem takeDelivery_course (delivery : Delivery M) (progress : Progress σ M) :
    ∃ course : Course M, course.delivery = delivery ∧
      ((takeDelivery name handler stop delivery progress).1 = false ↔ course.ending = .stopped) ∧
      course.Leads handler stop progress (takeDelivery name handler stop delivery progress).2 := by
  obtain ⟨course, rfl, first, ending, proper, calls, looks⟩ :=
    handle_course name handler stop delivery callLimit progress
  refine ⟨course, rfl, ?_⟩
  unfold takeDelivery
  generalize handle name handler stop course.delivery.message callLimit progress = handled
    at ending calls looks ⊢
  rcases handled with ⟨_ | _ | _, later⟩ <;> dsimp only at ending calls looks ⊢ <;> rw [ending]
  · refine ⟨by simp, ?_, proper, first, ?_⟩
    · cases settles : course.delivery.settles with
      | false => simpa [Course.events, settles] using calls
      | true =>
          have acknowledges : Advances handler later [.acknowledged course.delivery.message]
              (later.acknowledge course.delivery.message) := ⟨rfl, rfl⟩
          simpa [Course.events, ending, settles] using calls.trans acknowledges
    · cases course.delivery.settles <;> exact looks
  · exact ⟨by simp, by simpa [Course.events, ending] using calls, proper, first, looks⟩
  · exact ⟨by simp, by simpa [Course.events, ending] using calls, proper, first, looks⟩

section Steps

variable {handler stop} {progress later : Progress σ M} {deliveries : List (Delivery M)}

/-- The end of a run, at a look that finds a request or with nothing more to come. -/
theorem Takes.nil (ends : stop progress.looks = false → deliveries = []) :
    Takes handler stop progress [] (progress.look stop).2 deliveries where
  advances := ⟨(List.append_nil _).symm, rfl⟩
  proper := by simp
  inOrder := List.nil_prefix
  inTurn := .nil
  within := by simp
  looked := Nat.lt_succ_self _
  unasked look later earlier := by
    simp only [Progress.look] at earlier
    omega
  whole unasked := (ends unasked).symm

/-- A wait that brings nothing. -/
theorem Takes.wait {courses : List (Course M)} (unasked : stop progress.looks = false)
    (takes : Takes handler stop (progress.look stop).2 courses later deliveries) :
    Takes handler stop progress courses later deliveries where
  advances := ⟨takes.advances.events, takes.advances.replays⟩
  proper := takes.proper
  inOrder := takes.inOrder
  inTurn := takes.inTurn
  within course mem := ⟨Nat.lt_of_succ_lt (takes.within course mem).1, (takes.within course mem).2⟩
  looked := Nat.lt_of_succ_lt takes.looked
  unasked look late early := by
    rcases Nat.eq_or_lt_of_le late with rfl | later
    · exact unasked
    · exact takes.unasked look later early
  whole := takes.whole

theorem Course.Leads.looks_le {course : Course M} (leads : course.Leads handler stop progress later) :
    progress.looks ≤ later.looks := leads.looks ▸ Nat.le_add_right _ _

/-- No request is found in the pauses of a course but in the last one. -/
theorem Course.Leads.unasked {course : Course M} (leads : course.Leads handler stop progress later)
    {look : Nat} (late : progress.looks ≤ look)
    (early : look < later.looks ∧ (course.ending = .stopped → look + 1 < later.looks)) :
    stop look = false := by
  obtain ⟨pause, rfl⟩ := Nat.exists_eq_add_of_le late
  have looks := leads.looks
  have asked := leads.proper.asked pause (by omega)
  rw [leads.first] at asked
  apply Bool.eq_false_iff.mpr
  intro found
  obtain ⟨stopped, last⟩ := asked.mp found
  have := early.2 stopped
  omega

/-- A course that is stopped ends the run. -/
theorem Course.Leads.stops {course : Course M} (unasked : stop progress.looks = false)
    (leads : course.Leads handler stop (progress.look stop).2 later)
    (stopped : course.ending = .stopped) :
    Takes handler stop progress [course] later (course.delivery :: deliveries) := by
  have first : course.firstLook = progress.looks + 1 := leads.first
  have looks : later.looks = progress.looks + 1 + course.pauses callLimit := leads.looks
  have pauses := leads.proper.pauses_pos stopped
  refine ⟨?_, by simpa using leads.proper, by simp, by simp, ?_, by omega, ?_, ?_⟩
  · rw [List.flatMap_singleton]
    exact ⟨leads.advances.events, leads.advances.replays⟩
  · intro other mem
    rw [List.mem_singleton.mp mem]
    omega
  · intro look late early
    rcases Nat.eq_or_lt_of_le late with rfl | after
    · exact unasked
    · exact leads.unasked after ⟨by omega, fun _ => early⟩
  · intro notAsked
    have asked := (leads.proper.asked (course.pauses callLimit - 1) (by omega)).mpr
      ⟨stopped, by omega⟩
    rw [first, show progress.looks + 1 + (course.pauses callLimit - 1) = later.looks - 1 by omega,
      notAsked] at asked
    cases asked

/-- A course that is not stopped comes before the rest of the run. -/
theorem Takes.cons {course : Course M} {courses : List (Course M)} {between : Progress σ M}
    (unasked : stop progress.looks = false)
    (leads : course.Leads handler stop (progress.look stop).2 between)
    (goesOn : course.ending ≠ .stopped)
    (takes : Takes handler stop between courses later deliveries) :
    Takes handler stop progress (course :: courses) later (course.delivery :: deliveries) := by
  have first : course.firstLook = progress.looks + 1 := leads.first
  have looks : between.looks = progress.looks + 1 + course.pauses callLimit := leads.looks
  have looked := takes.looked
  refine ⟨?_, ?_, ?_, ?_, ?_, by omega, ?_, ?_⟩
  · rw [List.flatMap_cons]
    have begins : Advances handler progress course.events between :=
      ⟨leads.advances.events, leads.advances.replays⟩
    exact begins.trans takes.advances
  · exact List.forall_mem_cons.mpr ⟨leads.proper, takes.proper⟩
  · exact List.cons_prefix_cons.mpr ⟨rfl, takes.inOrder⟩
  · refine List.pairwise_cons.mpr ⟨fun second mem => ⟨goesOn, ?_⟩, takes.inTurn⟩
    have := (takes.within second mem).1
    omega
  · refine List.forall_mem_cons.mpr ⟨⟨by omega, by omega, fun stopped => absurd stopped goesOn⟩, ?_⟩
    intro second mem
    exact ⟨by have := (takes.within second mem).1; omega, (takes.within second mem).2⟩
  · intro look late early
    rcases Nat.eq_or_lt_of_le late with rfl | after
    · exact unasked
    · rcases Nat.lt_or_ge look between.looks with within | beyond
      · exact leads.unasked after ⟨within, fun stopped => absurd stopped goesOn⟩
      · exact takes.unasked look beyond early
  · intro notAsked
    exact congrArg (course.delivery :: ·) (takes.whole notAsked)

end Steps

/-- What a consumer does with what its waits bring. -/
theorem consume_courses (waits : List (Option (Delivery M))) (progress : Progress σ M) :
    ∃ courses, Takes handler stop progress courses (consume name handler stop waits progress)
      (waits.filterMap id) := by
  induction waits generalizing progress with
  | nil =>
      refine ⟨[], ?_⟩
      unfold consume Progress.look
      cases stop progress.looks <;> exact Takes.nil fun _ => rfl
  | cons wait rest ih =>
      cases asked : stop progress.looks with
      | true =>
          refine ⟨[], ?_⟩
          rw [consume]
          simp only [Progress.look, asked]
          exact Takes.nil fun unasked => by rw [asked] at unasked; cases unasked
      | false =>
          cases wait with
          | none =>
              obtain ⟨courses, takes⟩ := ih (progress.look stop).2
              refine ⟨courses, ?_⟩
              rw [consume]
              simp only [Progress.look, asked]
              exact takes.wait asked
          | some delivery =>
              obtain ⟨course, rfl, stops, leads⟩ :=
                takeDelivery_course name handler stop delivery (progress.look stop).2
              rw [consume_delivery _ _ _ _ _ _ asked]
              generalize takeDelivery name handler stop course.delivery (progress.look stop).2 = taken
                at stops leads ⊢
              rcases taken with ⟨_ | _, between⟩
              · exact ⟨[course], leads.stops asked (stops.mp rfl)⟩
              · obtain ⟨courses, takes⟩ := ih between
                have goesOn : course.ending ≠ .stopped := fun stopped => by
                  cases stops.mpr stopped
                exact ⟨course :: courses, takes.cons asked leads goesOn⟩

/-- What a consumer has done at the end of a run, on a channel whose sender does this meanwhile. -/
structure WorkedOff (sendings : List (Channel.Sending M)) (state : σ) (progress : Progress σ M)
    (courses : List (Course M)) : Prop where
  events : progress.events = courses.flatMap Course.events
  replays : replay handler progress.events state = some progress.state
  proper : ∀ course ∈ courses, course.IsProper stop callLimit
  called : ∀ course ∈ courses, 1 ≤ course.calls.length ∧ course.calls.length ≤ callLimit
  /-- What was handled is acknowledged once each, and nothing else is. -/
  acknowledged : progress.acknowledged = (courses.filter fun course =>
    course.ending = .done && course.delivery.settles).map (·.delivery.message)
  inOrder : courses.map Course.delivery <+: Channel.sent sendings
  inTurn : courses.Pairwise fun first second =>
    first.ending ≠ .stopped ∧ first.firstLook + first.pauses callLimit < second.firstLook
  /-- The run ends with the look that finds a request. -/
  stopped : ∀ course ∈ courses, course.ending = .stopped →
    course.firstLook + course.pauses callLimit = progress.looks
  unasked : ∀ look, look + 1 < progress.looks → stop look = false
  drained : (∀ look < progress.looks, stop look = false) →
    (Channel.create.after sendings).isOpen = false →
    courses.map Course.delivery = Channel.sent sendings

/-- A consumer works off its channel in order: it calls its handler for each message until a call
succeeds, at most a few times, acknowledges it then and only then, and is stopped by nothing but a
request. -/
theorem run_worksOff (waits : List (List (Channel.Sending M))) (state : σ) :
    ∃ courses, WorkedOff handler stop waits.flatten state
      (run name handler stop (Channel.create.arrivals waits) state) courses := by
  obtain ⟨courses, takes⟩ := consume_courses name handler stop (Channel.create.arrivals waits)
    ((Progress.start state).addLine (startLine name))
  obtain ⟨inOrder, whole⟩ := Channel.arrivals_inOrder (Channel.create : Channel M) waits
  unfold run
  generalize consume name handler stop (Channel.create.arrivals waits)
    ((Progress.start state).addLine (startLine name)) = later at takes ⊢
  have events : later.events = courses.flatMap Course.events := takes.advances.events
  refine ⟨courses, events, ?_, takes.proper, ?_, ?_, takes.inOrder.trans inOrder, takes.inTurn, ?_,
    ?_, ?_⟩
  · exact (congrArg (replay handler · state) events).trans takes.advances.replays
  · exact fun course mem => (takes.proper course mem).length_calls
  · change later.events.filterMap Event.acknowledged? = _
    rw [events]
    exact Course.acknowledged_flatMap courses
  · exact fun course mem => (takes.within course mem).2.2
  · exact fun look early => takes.unasked look (Nat.zero_le look) early
  · intro unasked closed
    rw [takes.whole (unasked _ (Nat.sub_lt takes.looked Nat.one_pos)), whole closed]
    rfl

end Consumer

end CacheFill
