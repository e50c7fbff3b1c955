import CacheFill.Proofs.Concurrency.Keeping

/-!
What each operation does, access by access. The rule of `Service.Permits` tells what a call may do to
tasks and buses; the script of an operation also tells the order of its accesses, what it does to the
cache, and how a loader is run. Main statement: `Operation.program_scripted`.
-/

set_option autoImplicit false

namespace CacheFill

/-- What the loader of a task is called with. -/
def Record.load (record : Record) (attempt : UInt32) : LoadCall :=
  ⟨record.task, record.type, record.key, attempt, record.resume⟩

/-- The record that a task is created with. -/
def Record.created (type : LoadType) (key : String) (task : TaskId) (now : Instant) : Record :=
  { task, type, key, status := .initial now, version := 0, resume := none }

/-- The steps by which a task is executed, and how the execution ends. Only a caching loader leaves
its value to be saved, and it ends well only if that succeeds. -/
inductive Service.Runs (service : Service) (load : LoadCall) :
    List Step → Except LoaderError Unit → Prop where
  | missing (unknown : service.loaders.get? load.type = none) :
      Runs service load [] (.error (.permanent (Failure.unknownLoadType load.type).message))
  | finished (kind : LoaderKind) (found : service.loaders.get? load.type = some kind) :
      Runs service load [⟨.callLoader load, .finished⟩] (.ok ())
  | stored (data : Json) (found : service.loaders.get? load.type = some .storing) :
      Runs service load [⟨.callLoader load, .value data⟩] (.ok ())
  | saved (data : Json) (now : Instant) (kept : Bool)
      (found : service.loaders.get? load.type = some .caching) :
      Runs service load [⟨.callLoader load, .value data⟩, ⟨.readClock, now⟩,
        ⟨.saveValue (load.type, load.key) ⟨data, now⟩, .ok kept⟩] (.ok ())
  | unsaved (data : Json) (now : Instant) (error : StoreError)
      (found : service.loaders.get? load.type = some .caching) :
      Runs service load [⟨.callLoader load, .value data⟩, ⟨.readClock, now⟩,
        ⟨.saveValue (load.type, load.key) ⟨data, now⟩, .error error⟩]
        (.error (.transient ("saving loaded value: " ++ (Failure.store error).message) none))
  | failed (kind : LoaderKind) (error : LoaderError)
      (found : service.loaders.get? load.type = some kind) :
      Runs service load [⟨.callLoader load, .failed error⟩] (.error error)
  | panicked (kind : LoaderKind) (payload : Option String)
      (found : service.loaders.get? load.type = some kind) :
      Runs service load [⟨.callLoader load, .panicked payload⟩]
        (.error (.transient (Service.panicMessage payload) none))

/-- A call that sweeps touches neither the cache nor a loader. -/
def Access.isSweeping : Access → Bool
  | .readClock | .dueTasks _ _ | .updateTask _ _ _ _ | .publish _ _ | .announce _ _ | .log _
  | .enterSweep | .leaveSweep => true
  | .insertTask _ | .readTask _ | .readValue _ | .saveValue _ _ | .removeValue _ | .readPointer _
  | .putPointer _ _ | .removePointer _ | .callLoader _ | .mint => false

/-- What a call does once the stores are written. -/
def Access.isReport : Access → Bool
  | .publish _ _ | .announce _ _ | .log _ => true
  | _ => false

namespace Step

/-- The step tries to write over a record. -/
def isWrite (step : Step) : Bool :=
  match step.access with
  | .updateTask _ _ _ _ => true
  | _ => false

end Step

namespace Script

/-- A reader looks at the value first, then for the latest task, then at the task. -/
inductive Reads (slot : Slot) : List Step → Access → Prop where
  | value : Reads slot [] (.readValue slot)
  | pointer (value : Option (CachedValue Json)) :
      Reads slot [⟨.readValue slot, .ok value⟩] (.readPointer slot)
  | task (value : Option (CachedValue Json)) (task : TaskId) :
      Reads slot [⟨.readValue slot, .ok value⟩, ⟨.readPointer slot, .ok (some task)⟩]
        (.readTask task)

/-- What a reader has seen when it ends with an entry. -/
inductive Read (slot : Slot) : List Step → CacheEntry Json → Prop where
  | untracked (value : Option (CachedValue Json)) :
      Read slot [⟨.readValue slot, .ok value⟩, ⟨.readPointer slot, .ok none⟩]
        (.compose value none)
  | tracked (value : Option (CachedValue Json)) (task : TaskId) (record : Option Record) :
      Read slot [⟨.readValue slot, .ok value⟩, ⟨.readPointer slot, .ok (some task)⟩,
        ⟨.readTask task, .ok record⟩] (.compose value (record.map (·.status)))

inductive Saves (slot : Slot) (data : Json) : List Step → Access → Prop where
  | clock : Saves slot data [] .readClock
  | save (now : Instant) : Saves slot data [⟨.readClock, now⟩] (.saveValue slot ⟨data, now⟩)

inductive Removes (slot : Slot) : List Step → Access → Prop where
  | value : Removes slot [] (.removeValue slot)
  | pointer : Removes slot [⟨.removeValue slot, .ok ()⟩] (.removePointer slot)

/-- A task is created after certain steps. -/
inductive Schedules (type : LoadType) (key : String) (task : TaskId) (before : List Step) :
    List Step → Access → Prop where
  | clock : Schedules type key task before before .readClock
  | insert (now : Instant) :
      Schedules type key task before (before ++ [⟨.readClock, now⟩])
        (.insertTask (.created type key task now))
  | report (past : List Step) {access : Access} (report : access.isReport = true) :
      Schedules type key task before past access

/-- The steps by which a new task becomes the latest of a key. -/
def pointing (slot : Slot) (task : TaskId) : List Step :=
  [⟨.mint, task⟩, ⟨.putPointer slot task, .ok ()⟩]

inductive Updates (type : LoadType) (key : String) : List Step → Access → Prop where
  | mint : Updates type key [] .mint
  | point (task : TaskId) : Updates type key [⟨.mint, task⟩] (.putPointer (type, key) task)
  | schedule (task : TaskId) {past : List Step} {access : Access}
      (schedules : Schedules type key task (pointing (type, key) task) past access) :
      Updates type key past access

/-- The dispatch finds its task to be executed. -/
def found (message : Dispatch) (record : Record) : Step :=
  ⟨.readTask message.task, .ok (some record)⟩

inductive Handles (service : Service) (message : Dispatch) : List Step → Access → Prop where
  | read : Handles service message [] (.readTask message.task)
  | load {record : Record} {attempt : UInt32} {kind : LoaderKind}
      (admitted : record.status.admission message.attempt = .execute attempt)
      (registered : service.loaders.get? record.type = some kind) :
      Handles service message [found message record] (.callLoader (record.load attempt))
  | clock (past : List Step) : Handles service message past .readClock
  | save {record : Record} {attempt : UInt32} (data : Json) (now : Instant)
      (admitted : record.status.admission message.attempt = .execute attempt)
      (registered : service.loaders.get? record.type = some .caching) :
      Handles service message
        [found message record, ⟨.callLoader (record.load attempt), .value data⟩,
          ⟨.readClock, now⟩]
        (.saveValue (record.type, record.key) ⟨data, now⟩)
  | write {record : Record} {attempt : UInt32} {own lines : List Step}
      {ended : Except LoaderError Unit} (now : Instant)
      (admitted : record.status.admission message.attempt = .execute attempt)
      (runs : service.Runs (record.load attempt) own ended)
      (logged : ∀ step ∈ lines, step.access.isReport = true) :
      Handles service message (found message record :: (own ++ ⟨.readClock, now⟩ :: lines))
        (.updateTask record.task (.exact record.version)
          (service.result record attempt ended now).1.1
          (service.result record attempt ended now).2)
  | report (past : List Step) {access : Access} (report : access.isReport = true) :
      Handles service message past access

/-- A call that found its task to be executed has run the loader and tried to write the result. -/
def Handled (service : Service) (message : Dispatch) (past : List Step) : Prop :=
  ∀ record attempt own, past = found message record :: own →
    record.status.admission message.attempt = .execute attempt →
      (∃ step ∈ own, step.isWrite = true) ∧
        ∀ kind, service.loaders.get? record.type = some kind →
          ∃ answer, ⟨.callLoader (record.load attempt), answer⟩ ∈ own

end Script

namespace Service

/-- What a call of an operation does next after the steps it has made. -/
def Script (service : Service) : Operation → List Step → Access → Prop
  | .read type key => Script.Reads (type, key)
  | .save type key data => Script.Saves (type, key) data
  | .remove type key => Script.Removes (type, key)
  | .update type key => Script.Updates type key
  | .schedule type key task => Script.Schedules type key task []
  | .handle message => Script.Handles service message
  | .sweep => fun _ access => access.isSweeping = true

/-- What a call of an operation has done when it ends. -/
def ScriptEnds (service : Service) : Operation → List Step → Except Failure Reply → Prop
  | .read type key, past, .ok reply =>
      ∃ entry, reply = .entry entry ∧ Script.Read (type, key) past entry
  | .save type key data, past, .ok _ =>
      ∃ now kept, past = [⟨.readClock, now⟩, ⟨.saveValue (type, key) ⟨data, now⟩, .ok kept⟩]
  | .remove type key, past, .ok _ =>
      past = [⟨.removeValue (type, key), .ok ()⟩, ⟨.removePointer (type, key), .ok ()⟩]
  | .update type key, past, .ok reply =>
      ∃ task now stored reports, reply = .started task ∧
        past = Script.pointing (type, key) task ++ [⟨.readClock, now⟩] ++
          ⟨.insertTask (.created type key task now), .ok stored⟩ :: reports ∧
        ∀ step ∈ reports, step.access.isReport = true
  | .handle message, past, _ => Script.Handled service message past
  | _, _, _ => True

end Service

open Program Script

variable {α : Type} {service : Service} {past : List Step}

namespace Service

/-- Scheduling a task ends well only after it was inserted; the rest is reports. -/
theorem schedule_scripted {permits : List Step → Access → Prop} {type : LoadType} {key : String}
    {task : TaskId} {ends : List Step → Except Failure Unit → Prop}
    (permitted : ∀ after access, Schedules type key task past after access →
      permits after access)
    (inserted : ∀ now stored reports, (∀ step ∈ reports, step.access.isReport = true) →
      ends (past ++ [⟨.readClock, now⟩] ++
        ⟨.insertTask (.created type key task now), .ok stored⟩ :: reports) (.ok ()))
    (failed : ∀ past failure, ends past (.error failure)) :
    (service.schedule type key task).Ensures (.plain permits) ends past := by
  refine ensures_access (permitted _ _ .clock) fun now =>
    ensures_access (permitted _ _ (.insert now)) fun answer => ?_
  cases answer with
  | error error => exact failed _ _
  | ok stored =>
      refine ensures_access (permitted _ _ (.report _ rfl)) fun answer => ?_
      cases answer with
      | ok _ =>
          let published : Step := ⟨.publish (service.topics.dispatch type) ⟨type, key, task, 0⟩, .ok ()⟩
          have ended := inserted now stored [published] fun step member => by
            rw [List.mem_singleton.mp member]
            rfl
          have steps : past ++ [⟨.readClock, now⟩] ++
              [⟨.insertTask (.created type key task now), .ok stored⟩] ++ [published] =
              past ++ [⟨.readClock, now⟩] ++
                ⟨.insertTask (.created type key task now), .ok stored⟩ :: [published] :=
            List.append_assoc _ _ _
          rw [← steps] at ended
          exact ended
      | error reason => exact ensures_access (permitted _ _ (.report _ rfl)) fun _ => failed _ _

end Service

namespace Operation

theorem read_scripted (type : LoadType) (key : String) :
    ((Operation.read type key).program service).Ensures
      (.plain (service.Script (.read type key))) (service.ScriptEnds (.read type key)) [] := by
  simp only [Operation.program, View.get, bind_eq, pure_eq]
  refine ensures_access Reads.value fun value => ?_
  cases value with
  | error error => trivial
  | ok value =>
  have decoded : (View.json type).decodeValue value = .done value := by
    cases value <;> rfl
  simp only [ofStore, done_bind, decoded]
  refine ensures_access (Reads.pointer value) fun pointer => ?_
  cases pointer with
  | error error => trivial
  | ok pointer =>
  cases pointer with
  | none => exact ⟨_, rfl, .untracked value⟩
  | some task =>
      refine ensures_access (Reads.task value task) fun answer => ?_
      cases answer with
      | error error => trivial
      | ok record => exact ⟨_, rfl, .tracked value task record⟩

theorem save_scripted (type : LoadType) (key : String) (data : Json) :
    ((Operation.save type key data).program service).Ensures
      (.plain (service.Script (.save type key data)))
      (service.ScriptEnds (.save type key data)) [] := by
  refine ensures_access Saves.clock fun now => ensures_access (Saves.save now) fun answer => ?_
  cases answer with
  | error error => trivial
  | ok kept => exact ⟨now, kept, rfl⟩

theorem remove_scripted (type : LoadType) (key : String) :
    ((Operation.remove type key).program service).Ensures
      (.plain (service.Script (.remove type key))) (service.ScriptEnds (.remove type key)) [] := by
  refine ensures_access Removes.value fun answer => ?_
  cases answer with
  | error error => trivial
  | ok _ =>
      refine ensures_access Removes.pointer fun answer => ?_
      cases answer with
      | error error => trivial
      | ok _ => rfl

theorem update_scripted (type : LoadType) (key : String) :
    ((Operation.update type key).program service).Ensures
      (.plain (service.Script (.update type key))) (service.ScriptEnds (.update type key)) [] := by
  simp only [Operation.program, View.update, bind_eq, pure_eq]
  refine ensures_access Updates.mint fun task =>
    ensures_access (Updates.point task) fun answer => ?_
  cases answer with
  | error error => trivial
  | ok _ =>
  simp only [ofStore, done_bind]
  rw [ensures_bind, ensures_bind]
  refine Service.schedule_scripted (fun _ _ schedules => .schedule task schedules) ?_ ?_
  · intro now stored reports all
    refine ensures_access (Updates.schedule task (.report _ rfl)) fun _ => ?_
    refine ⟨task, now, stored, reports ++ [⟨.log _, ()⟩], rfl, List.append_assoc _ _ _, ?_⟩
    intro step member
    rcases List.mem_append.mp member with earlier | last
    · exact all step earlier
    · rw [List.mem_singleton.mp last]
      rfl
  · intro past failure
    trivial

end Operation

namespace Service

theorem uses_logAll {allowed : Access → Prop} (logs : ∀ line, allowed (.log line))
    (lines : List Log.Line) : (logAll lines).Uses allowed := by
  induction lines with
  | nil => trivial
  | cons line rest ih => exact ⟨logs line, fun _ => ih⟩

theorem uses_announceRecord {allowed : Access → Prop}
    (reports : ∀ access, access.isReport = true → allowed access) (record : Record) :
    (service.announceRecord record).Uses allowed := by
  refine ⟨reports _ rfl, fun answer => ?_⟩
  cases answer with
  | ok _ => trivial
  | error reason => exact ⟨reports _ rfl, fun _ => trivial⟩

/-- After the write there are only reports. -/
theorem uses_afterWrite {allowed : Access → Prop}
    (reports : ∀ access, access.isReport = true → allowed access) (record : Record)
    (attempt : UInt32) (written : Except Failure Record) :
    (service.afterWrite record attempt written).Uses allowed := by
  cases written with
  | ok updated =>
      simp only [afterWrite, bind_eq, pure_eq]
      refine (uses_logAll (fun _ => reports _ rfl) _).bind fun _ => ?_
      split
      · exact (uses_announceRecord reports _).bind fun _ => trivial
      · trivial
  | error failure =>
      simp only [afterWrite]
      split
      · trivial
      · exact ⟨reports _ rfl, fun _ => trivial⟩
      · trivial

theorem logAll_scripted {permits : List Step → Access → Prop} {lines : List Log.Line}
    {next : Unit → Program α} {ends : List Step → Except Failure α → Prop}
    (logs : ∀ past line, permits past (.log line))
    (goesOn : ∀ own, (∀ step ∈ own, step.access.isReport = true) →
      (next ()).Ensures (.plain permits) ends (past ++ own)) :
    ((logAll lines).bind next).Ensures (.plain permits) ends past := by
  induction lines generalizing past with
  | nil =>
      have now := goesOn [] (by simp)
      rwa [List.append_nil] at now
  | cons line rest ih =>
      refine ensures_access (logs past line) fun answer => ih fun own reports => ?_
      have longer := goesOn (⟨.log line, answer⟩ :: own) (by
        intro step member
        rcases List.mem_cons.mp member with rfl | later
        · rfl
        · exact reports step later)
      simpa using longer

variable {message : Dispatch} {record : Record} {attempt : UInt32}

/-- The loader of a task that is to be executed is run as `Runs` says. -/
theorem runLoader_scripted {next : Except LoaderError Unit → Program α}
    {ends : List Step → Except Failure α → Prop}
    (admitted : record.status.admission message.attempt = .execute attempt)
    (goesOn : ∀ own ended, service.Runs (record.load attempt) own ended →
      (next ended).Ensures (.plain (Handles service message)) ends (found message record :: own)) :
    ((service.runLoader (record.load attempt)).bind next).Ensures
      (.plain (Handles service message)) ends [found message record] := by
  unfold runLoader
  split
  · next unknown => exact goesOn [] _ (.missing unknown)
  · next kind registered =>
      refine ensures_access (Handles.load admitted registered) fun answer => ?_
      cases answer with
      | finished => exact goesOn _ _ (.finished kind registered)
      | failed error => exact goesOn _ _ (.failed kind error registered)
      | panicked payload => exact goesOn _ _ (.panicked kind payload registered)
      | value data =>
          cases kind with
          | storing => exact goesOn _ _ (.stored data registered)
          | caching =>
              refine ensures_access (Handles.clock _) fun now =>
                ensures_access (Handles.save data now admitted registered) fun answer => ?_
              cases answer with
              | ok kept => exact goesOn _ _ (.saved data now kept registered)
              | error error => exact goesOn _ _ (.unsaved data now error registered)

theorem Runs.called {load : LoadCall} {own : List Step} {ended : Except LoaderError Unit}
    (runs : service.Runs load own ended) {kind : LoaderKind}
    (registered : service.loaders.get? load.type = some kind) :
    ∃ answer, ⟨.callLoader load, answer⟩ ∈ own := by
  cases runs with
  | missing unknown => rw [unknown] at registered; cases registered
  | finished | stored | saved | unsaved | failed | panicked => exact ⟨_, List.mem_cons_self⟩

theorem Runs.handled {own lines : List Step} {ended : Except LoaderError Unit}
    (runs : service.Runs (record.load attempt) own ended) {write : Step}
    (writes : write.isWrite = true)
    (admitted : record.status.admission message.attempt = .execute attempt)
    (clock : Step) (more : List Step) :
    Handled service message (found message record :: (own ++ clock :: lines) ++ [write] ++ more) := by
  intro other attempt' own' split admitted'
  rw [List.cons_append, List.cons_append] at split
  obtain ⟨same, rfl⟩ := List.cons.inj split
  obtain rfl : record = other := by
    have answers := eq_of_heq (Step.mk.inj same).2
    exact Option.some.inj (Except.ok.inj answers)
  obtain rfl := Admission.execute.inj (admitted.symm.trans admitted')
  refine ⟨⟨write, by simp, writes⟩, fun kind registered => ?_⟩
  obtain ⟨answer, member⟩ := runs.called registered
  exact ⟨answer, by simp [member]⟩

theorem execute_scripted {ends : List Step → Except Failure Outcome → Prop}
    (admitted : record.status.admission message.attempt = .execute attempt)
    (ended : ∀ past result, Handled service message past → ends past result) :
    (service.execute record attempt).Ensures (.plain (Handles service message)) ends
      [found message record] := by
  obtain ⟨scheduled, status, _, isAttempt⟩ := Status.of_admission_execute admitted
  simp only [execute, bind_eq]
  refine runLoader_scripted admitted fun own ended' runs =>
    ensures_access (Handles.clock _) fun now => ?_
  refine logAll_scripted (fun past _ => Handles.report past rfl) fun lines logged => ?_
  have follows := status ▸ service.result_follows record scheduled ended' now
  rw [← isAttempt] at follows
  rw [follows.checkTransition]
  have steps : found message record :: own ++ [⟨.readClock, now⟩] ++ lines =
      found message record :: (own ++ ⟨.readClock, now⟩ :: lines) := by simp
  rw [steps]
  refine ensures_access (Handles.write now admitted runs logged) fun answer => ?_
  have rest : ((ofStore answer).attempt.bind fun written =>
      service.afterWrite record attempt written).Uses (fun access => access.isReport = true) :=
    (uses_ofStore answer).attempt.bind (uses_afterWrite (fun _ report => report) record attempt)
  refine rest.ensures (fun past _ report => Handles.report past report) fun more result _ => ?_
  exact ended _ _ (runs.handled rfl admitted _ more)

/-- A dispatch that does not find its task to be executed is handled as it stands. -/
theorem handled_of_unadmitted {answer : Except StoreError (Option Record)} {more : List Step}
    (unadmitted : ∀ record, answer = .ok (some record) →
      ∀ attempt, record.status.admission message.attempt ≠ .execute attempt) :
    Handled service message (⟨.readTask message.task, answer⟩ :: more) := by
  intro record attempt own split admitted
  obtain ⟨same, _⟩ := List.cons.inj split
  exact absurd admitted (unadmitted record (eq_of_heq (Step.mk.inj same).2) attempt)

theorem handle_scripted (message : Dispatch) {ends : List Step → Except Failure Outcome → Prop}
    (ended : ∀ past result, Handled service message past → ends past result) :
    (service.handle message).Ensures (.plain (Handles service message)) ends [] := by
  simp only [handle, bind_eq, pure_eq]
  refine ensures_access Handles.read fun answer => ?_
  cases answer with
  | error error =>
      exact ended _ _ (handled_of_unadmitted fun _ same => by cases same)
  | ok answer =>
  cases answer with
  | none =>
      refine ensures_access (Handles.report _ rfl) fun _ => ?_
      exact ended _ _ (handled_of_unadmitted fun _ same => by cases same)
  | some record =>
  simp only [ofStore, done_bind]
  split
  · next attempt admitted => exact execute_scripted admitted ended
  · next here admitted =>
      have handled (more : List Step) : Handled service message (found message record :: more) :=
        handled_of_unadmitted fun other same attempt executes => by
          cases same
          rw [admitted] at executes
          cases executes
      split
      · have rest : ((service.announceRecord record).bind fun _ =>
            .done (.skipped .alreadyTerminal) : Program Outcome).Uses
              (fun access => access.isReport = true) :=
          (uses_announceRecord (fun _ report => report) record).bind fun _ => trivial
        refine rest.ensures (fun past _ report => Handles.report past report) fun more result _ => ?_
        exact ended _ _ (handled more)
      · exact ended _ _ (handled [])
  · next admitted =>
      refine ended _ _ (handled_of_unadmitted fun other same attempt executes => ?_)
      cases same
      rw [admitted] at executes
      cases executes

theorem uses_dispatch (message : Dispatch) :
    (service.dispatch message).Uses (fun access => access.isSweeping = true) := by
  refine ⟨rfl, fun answer => ?_⟩
  cases answer with
  | ok _ => trivial
  | error reason => exact ⟨rfl, fun _ => trivial⟩

theorem uses_giveUp (record : Record) (waiting : Waiting) (now : Instant) :
    (service.giveUp record waiting now).Uses (fun access => access.isSweeping = true) := by
  simp only [giveUp, bind_eq, pure_eq]
  split
  · trivial
  · refine ⟨rfl, fun answer => (uses_ofBus answer).bind fun _ => ⟨rfl, fun answer => ?_⟩⟩
    exact (uses_ofStore answer).bind fun _ => trivial

theorem uses_retry (record : Record) (waiting : Waiting) (now : Instant) :
    (service.retry record waiting now).Uses (fun access => access.isSweeping = true) := by
  simp only [retry, bind_eq, pure_eq]
  split
  · trivial
  · refine ⟨rfl, fun answer => (uses_ofStore answer).bind fun _ => ?_⟩
    exact (uses_dispatch _).bind fun _ => trivial

theorem uses_sweepRecord (record : Record) :
    (service.sweepRecord record).Uses (fun access => access.isSweeping = true) := by
  simp only [sweepRecord, bind_eq]
  split
  · refine ⟨rfl, fun now => ?_⟩
    simp only [done_bind]
    split
    · exact uses_giveUp record _ now
    · exact uses_retry record _ now
  · trivial

theorem uses_sweepRecords (report : SweepReport) (due : List Record) :
    (service.sweepRecords report due).Uses (fun access => access.isSweeping = true) := by
  induction due generalizing report with
  | nil => trivial
  | cons record rest ih =>
      simp only [sweepRecords, bind_eq]
      refine (uses_sweepRecord record).attempt.bind fun swept => ?_
      cases swept with
      | ok _ => exact ih _
      | error failure =>
          simp only
          split
          · exact ⟨rfl, fun _ => ih _⟩
          · exact ih _

theorem uses_sweepOnce : service.sweepOnce.Uses (fun access => access.isSweeping = true) := by
  refine ⟨rfl, fun enters => ?_⟩
  simp only [done_bind, bind_eq, pure_eq]
  cases enters with
  | false => trivial
  | true =>
      refine Uses.bind (Uses.attempt ?_) fun swept => ⟨rfl, fun _ => by cases swept <;> trivial⟩
      simp only [sweep, bind_eq, pure_eq]
      refine ⟨rfl, fun now => ⟨rfl, fun answer => (uses_ofStore answer).bind fun due => ?_⟩⟩
      split
      · trivial
      · exact ⟨rfl, fun _ => (uses_sweepRecords _ due).bind fun _ => ⟨rfl, fun _ => trivial⟩⟩

end Service

/-- Every operation goes by its script. -/
theorem Operation.program_scripted (service : Service) (operation : Operation) :
    (operation.program service).Ensures (.plain (service.Script operation))
      (service.ScriptEnds operation) [] := by
  cases operation with
  | read type key => exact read_scripted type key
  | save type key data => exact save_scripted type key data
  | remove type key => exact remove_scripted type key
  | update type key => exact update_scripted type key
  | schedule type key task =>
      have permitted (after : List Step) (access : Access)
          (schedules : Schedules type key task [] after access) :
          service.Script (.schedule type key task) after access := schedules
      refine ensures_map (Service.schedule_scripted permitted ?_ ?_)
      · intro now stored reports _
        trivial
      · intro past failure
        trivial
  | handle message =>
      exact ensures_map (Service.handle_scripted message fun _ _ handled => handled)
  | sweep =>
      have uses : (Operation.sweep.program service).Uses (fun access => access.isSweeping = true) :=
        Service.uses_sweepOnce.bind fun _ => trivial
      exact uses.ensures (fun _ _ sweeping => sweeping) fun _ _ _ => trivial

namespace World

abbrev Scripted (world : World) : Prop := world.Keeps Service.Script Service.ScriptEnds

theorem scripted_opening (backend : Backend) : (opening backend).Scripted :=
  keeps_opening _ _ backend

theorem Reaches.scripted {fair : World → Move → Prop} {backend : Backend} {world : World}
    (reached : Reaches fair (opening backend) world) (keyed : backend.tasks.IsKeyed) :
    world.Scripted :=
  reached.keeps (sound_opening (fun _ => True) backend keyed) (fun _ _ _ => movesOf_any)
    Operation.program_scripted (scripted_opening backend)

/-- What every move of a run keeps in which all calls go by their scripts. -/
theorem Reaches.scripted_invariant {fair : World → Move → Prop} {services : Service → Prop}
    {backend : Backend} {world : World} (reached : Reaches fair (opening backend) world)
    (holds : World → Prop) (keyed : backend.tasks.IsKeyed)
    (fits : ∀ world move, fair world move → MovesOf services world move)
    (here : holds (opening backend))
    (start : ∀ (world : World) (service : Service) (operation : Operation), world.Sound services →
      fair world (.start service operation) → holds world →
      holds (world.make (.start service operation)))
    (clock : ∀ (world : World) (now : Instant), holds world → holds (world.make (.setClock now)))
    (advance : ∀ (world later : World) (number : Nat) (surroundings : Surroundings) (call : Call)
      (step : Step), world.Sound services → world.Scripted →
      world.Advances surroundings later number call step → holds world → holds later) :
    holds world := by
  have both : world.Scripted ∧ holds world := by
    refine reached.invariant (fun world => world.Scripted ∧ holds world)
      (sound_opening services backend keyed) fits ⟨scripted_opening backend, here⟩ ?_ ?_ ?_
    · intro world service operation sound isFair both
      have scripted := both.1.start sound service operation (operation.program_scripted service)
      exact ⟨scripted, start world service operation sound isFair both.2⟩
    · intro world now both
      exact ⟨⟨both.1.rest, both.1.past⟩, clock world now both.2⟩
    · intro world later number surroundings call step sound _ advances both
      exact ⟨both.1.advance advances,
        advance world later number surroundings call step sound both.1 advances both.2⟩
  exact both.2

end World

end CacheFill
