import CacheFill.Proofs.Concurrency.Commits
import CacheFill.Proofs.Concurrency.Sweeping

/-!
Calls that end do what they began. An update that made a task the latest has tried to insert it, and a
removal forgets the latest task after the value. A dispatch is handled as loaded only over a record that
was written as loaded; by then its loader has left no value that is not saved. Main statement:
`Service.unloaded_of_unsaved`.
-/

set_option autoImplicit false

namespace CacheFill

open Script Program

/-- Every answer was one that the stores may give. -/
abbrev Answered (past : List Step) : Prop :=
  Justified (fun before step => Answers before step.access step.answer) past

namespace Program

variable {α β : Type} {past : List Step}

/-- Whatever a program does first, the rest may go on from there. -/
theorem ensures_bind_any {first : Program α} {next : α → Program β}
    {ends : List Step → Except Failure β → Prop}
    (goesOn : ∀ own value, (next value).Ensures (.plain fun _ _ => True) ends (past ++ own))
    (failed : ∀ own failure, ends (past ++ own) (.error failure)) :
    (first.bind next).Ensures (.plain fun _ _ => True) ends past := by
  rw [ensures_bind]
  refine first.uses_any.ensures (fun _ _ _ => trivial) fun own result _ => ?_
  cases result with
  | ok value => exact goesOn own value
  | error failure => exact failed own failure

theorem Ensures.and {program : Program α} {permits others : List Step → Access → Prop}
    {one other : List Step → Except Failure α → Prop}
    (first : program.Ensures (.plain permits) one past)
    (second : program.Ensures (.plain others) other past) :
    program.Ensures (.plain permits) (fun past result => one past result ∧ other past result) past := by
  induction program generalizing past with
  | done value => exact ⟨first, second⟩
  | fail failure => exact ⟨first, second⟩
  | perform access next ih =>
      exact ⟨first.1, fun answer counted => ih answer (first.2 answer counted) (second.2 answer counted)⟩

/-- A program that keeps a plain rule does so whatever its accesses are answered by, and the steps that
it has made when it ends bear that out. -/
theorem Ensures.recorded {program : Program α} {permits : List Step → Access → Prop}
    {ends : List Step → Except Failure α → Prop}
    (ensures : program.Ensures (.plain permits) ends past) (permitted : Permitted permits past)
    (answered : Answered past) :
    program.Ensures ⟨fun _ _ => True, Answers⟩
      (fun past result => ends past result ∧ Permitted permits past ∧ Answered past) past := by
  induction program generalizing past with
  | done value => exact ⟨ensures, permitted, answered⟩
  | fail failure => exact ⟨ensures, permitted, answered⟩
  | perform access next ih =>
      refine ⟨trivial, fun answer counted => ih answer (ensures.2 answer trivial) ?_ ?_⟩
      · exact permitted.snoc ensures.1
      · exact answered.snoc counted

end Program

namespace Service

variable {service : Service} {past : List Step}

/-- What a call has done for sure when it has ended, well or not. -/
def Finishes (_ : Service) : Operation → List Step → Except Failure Reply → Prop
  | .update type key, past, _ => ∀ task, ⟨.putPointer (type, key) task, .ok ()⟩ ∈ past →
      ∃ step ∈ past, ∃ record : Record, step.access = .insertTask record ∧ record.task = task
  | .remove type key, past, _ => ⟨.removeValue (type, key), .ok ()⟩ ∈ past →
      ∃ step ∈ past, step.access = .removePointer (type, key)
  | .handle _, past, result => result = .ok (.handled .loaded) →
      ∃ record, Wrote past record ∧ record.status.state = .loaded
  | _, _, _ => True

theorem loaded_of_report {record : Record} {attempt : UInt32}
    (loaded : (report record attempt).1 = .loaded) : record.status.state = .loaded := by
  unfold report at loaded
  cases status : record.status with
  | loaded _ => rfl
  | scheduled _ | waiting _ | failed _ => simp only [status] at loaded; cases loaded

theorem afterWrite_finishes {record : Record} {attempt : UInt32} {written : Except Failure Record}
    (wrote : ∀ updated, written = .ok updated → Wrote past updated) :
    (service.afterWrite record attempt written).Ensures (.plain fun _ _ => True)
      (fun past result => result = .ok .loaded →
        ∃ record, Wrote past record ∧ record.status.state = .loaded) past := by
  cases written with
  | ok updated =>
      have loaded (own : List Step) : (report updated attempt).1 = .loaded →
          ∃ record, Wrote (past ++ own) record ∧ record.status.state = .loaded := fun same =>
        ⟨updated, (wrote updated rfl).append own, loaded_of_report same⟩
      simp only [afterWrite, bind_eq, pure_eq]
      refine ensures_bind_any (fun own _ => ?_) fun own failure same => by cases same
      split
      · refine ensures_bind_any (fun more _ same => ?_) fun more failure same => by cases same
        rw [List.append_assoc]
        exact loaded _ (Except.ok.inj same)
      · exact fun same => loaded own (Except.ok.inj same)
  | error failure =>
      simp only [afterWrite]
      split
      · next same => cases same
      · exact ensures_access trivial fun _ same => by cases same
      · exact fun same => by cases same

theorem execute_finishes (record : Record) (attempt : UInt32) :
    (service.execute record attempt).Ensures (.plain fun _ _ => True)
      (fun past result => result = .ok .loaded →
        ∃ record, Wrote past record ∧ record.status.state = .loaded) past := by
  simp only [execute, bind_eq]
  refine ensures_bind_any (fun own ended => ?_) fun own failure same => by cases same
  refine ensures_access trivial fun now => ?_
  rw [done_bind]
  refine ensures_bind_any (fun lines _ => ?_) fun lines failure same => by cases same
  split
  · exact fun same => by cases same
  · refine ensures_access trivial fun answer => ?_
    cases answer with
    | error error => exact afterWrite_finishes fun updated same => by cases same
    | ok updated =>
        change (service.afterWrite record attempt (.ok updated)).Ensures _ _ _
        refine afterWrite_finishes fun other same => ?_
        cases same
        exact ⟨_, List.mem_append_right _ List.mem_cons_self, rfl⟩

theorem handle_finishes (message : Dispatch) :
    (service.handle message).Ensures (.plain fun _ _ => True)
      (fun past result => result = .ok .loaded →
        ∃ record, Wrote past record ∧ record.status.state = .loaded) past := by
  simp only [handle, bind_eq, pure_eq]
  refine ensures_access trivial fun answer => ?_
  cases answer with
  | error error => exact fun same => by cases same
  | ok answer =>
  cases answer with
  | none => exact ensures_access trivial fun _ same => by cases same
  | some record =>
  simp only [ofStore, done_bind]
  split
  · exact execute_finishes record _
  · split
    · exact ensures_bind_any (fun _ _ same => by cases same) fun _ _ same => by cases same
    · exact fun same => by cases same
  · exact fun same => by cases same

theorem update_finishes (type : LoadType) (key : String) :
    ((Operation.update type key).program service).Ensures (.plain fun _ _ => True)
      (service.Finishes (.update type key)) [] := by
  simp only [Operation.program, View.update, bind_eq, pure_eq]
  refine ensures_access trivial fun task => ensures_access trivial fun answer => ?_
  cases answer with
  | error error =>
      intro other member
      simp only [List.nil_append, List.mem_append, List.mem_singleton] at member
      rcases member with same | same <;> cases same
  | ok _ =>
      refine ensures_access trivial fun now => ensures_access trivial fun answer => ?_
      have rest : ((((ofStore answer).bind fun _ => service.dispatch ⟨type, key, task, 0⟩).bind fun _ =>
          (Program.log (Log.info "cache update scheduled" [("load_type", .text type.name),
            ("key", .text key), ("task_id", .text task.render)])).bind fun _ => .done task).bind
              fun task => .done (.started task) : Program Reply).Uses
            (fun access => access.isSweeping = true) := by
        refine Uses.bind (Uses.bind ((uses_ofStore answer).bind fun _ => uses_dispatch _) fun _ => ?_)
          fun _ => trivial
        exact ⟨rfl, fun _ => trivial⟩
      refine rest.ensures (fun _ _ _ => trivial) fun own result sweeping other member => ?_
      refine ⟨_, List.mem_append_left _ List.mem_concat_self, _, rfl, ?_⟩
      rcases List.mem_append.mp member with four | after
      · simp only [List.nil_append, List.cons_append, List.mem_cons, List.not_mem_nil, or_false] at four
        rcases four with same | same | same | same <;> cases same
        rfl
      · cases sweeping _ after

theorem remove_finishes (type : LoadType) (key : String) :
    ((Operation.remove type key).program service).Ensures (.plain fun _ _ => True)
      (service.Finishes (.remove type key)) [] := by
  refine ensures_access trivial fun answer => ?_
  cases answer with
  | error error =>
      intro member
      cases List.mem_singleton.mp member
  | ok _ =>
      refine ensures_access trivial fun answer => ?_
      cases answer <;> exact fun _ => ⟨_, List.mem_cons_of_mem _ List.mem_cons_self, rfl⟩

end Service

theorem Operation.program_finishes (service : Service) (operation : Operation) :
    (operation.program service).Ensures (.plain fun _ _ => True) (service.Finishes operation) [] := by
  cases operation with
  | update type key => exact Service.update_finishes type key
  | remove type key => exact Service.remove_finishes type key
  | handle message =>
      refine ensures_map ((Service.handle_finishes message).mono fun past result finishes loaded => ?_)
      cases result with
      | ok outcome => exact finishes (by cases loaded; rfl)
      | error failure => cases loaded
  | read _ _ | save _ _ _ | schedule _ _ _ | sweep =>
      exact (uses_any _).ensures (fun _ _ _ => trivial) fun _ _ _ => trivial

namespace Script

variable {service : Service} {message : Dispatch} {past : List Step}

theorem Handles.unsaved_after_write {before after : List Step} {write : Step}
    (permitted : Permitted (Handles service message) (before ++ write :: after))
    (writes : write.isWrite = true) :
    ∀ step ∈ after, ∀ slot value, step.access ≠ .saveValue slot value := by
  intro step member slot value saves
  obtain ⟨first, rest, rfl⟩ := List.append_of_mem member
  have next := permitted (before ++ write :: first) step rest (by simp)
  rcases next.after_write (List.mem_append_right _ List.mem_cons_self) writes with clock | report
  · rw [saves] at clock
    cases clock
  · rw [saves] at report
    cases report

/-- A record is written as loaded after a run of its loader that ended well; nothing is saved after
that run. -/
theorem Handles.loaded_run (permitted : Permitted (Handles service message) past)
    (answered : Answered past) {record : Record} (wrote : Wrote past record)
    (loaded : record.status.state = .loaded) :
    ∃ old attempt own more, old.status.admission message.attempt = .execute attempt ∧
      service.Runs (old.load attempt) own (.ok ()) ∧ past = found message old :: (own ++ more) ∧
      ∀ step ∈ more, ∀ slot value, step.access ≠ .saveValue slot value := by
  obtain ⟨⟨access, answer⟩, member, written⟩ := wrote
  obtain ⟨before, after, rfl⟩ := List.append_of_mem member
  have writes := permitted before _ after rfl
  have counted := answered before _ after rfl
  cases access with
  | insertTask given =>
      cases writes with
      | report _ report => cases report
  | updateTask task expected status resume =>
      cases answer with
      | error error => cases written
      | ok stored =>
      cases written
      have silent := Handles.unsaved_after_write permitted rfl
      obtain ⟨old, attempt, own, ended, now, lines, admitted, runs, logged, rfl, rfl, rfl, rfl, rfl⟩ :=
        writes.of_update
      -- The store has put what it was given.
      have seen : Seen (found message old :: (own ++ ⟨.readClock, now⟩ :: lines)) old :=
        ⟨_, List.mem_cons_self, .read _⟩
      rcases counted old seen rfl rfl with same | ⟨actual, refused⟩
      · cases same
        rw [Service.ended_of_loaded loaded] at runs
        refine ⟨old, attempt, own, _, admitted, runs, List.append_assoc (found message old :: own)
          (⟨.readClock, now⟩ :: lines) _, ?_⟩
        intro step isMore slot value saves
        simp only [List.cons_append, List.mem_cons, List.mem_append] at isMore
        rcases isMore with rfl | isLine | rfl | isAfter
        · cases saves
        · have report := logged step isLine
          rw [saves] at report
          cases report
        · cases saves
        · exact silent step isAfter slot value saves
      · cases refused
  | _ => cases written

end Script

/-- The step failed to save a value. -/
def Step.isUnsaved : Step → Bool
  | ⟨.saveValue _ _, .error _⟩ => true
  | _ => false

theorem Step.saves_of_unsaved {step : Step} (unsaved : step.isUnsaved = true) :
    ∃ slot value, step.access = .saveValue slot value := by
  obtain ⟨access, answer⟩ := step
  cases access with
  | saveValue slot value => exact ⟨slot, value, rfl⟩
  | _ => cases unsaved

/-- A run of a loader that ended well has failed to save nothing. -/
theorem Service.Runs.not_unsaved {service : Service} {load : LoadCall} {own : List Step}
    (runs : service.Runs load own (.ok ())) : ∀ step ∈ own, step.isUnsaved = false := by
  intro step member
  cases runs with
  | finished _ _ | stored _ _ =>
      rw [List.mem_singleton.mp member]
      rfl
  | saved _ _ _ _ =>
      simp only [List.mem_cons, List.not_mem_nil, or_false] at member
      rcases member with rfl | rfl | rfl <;> rfl

/-- A dispatch whose value could not be saved leaves its task unloaded, and is not handled as loaded,
whatever the stores and buses answer besides. -/
theorem Service.unloaded_of_unsaved (service : Service) (message : Dispatch) :
    ((Operation.handle message).program service).Ensures ⟨fun _ _ => True, Answers⟩
      (fun past result => (∃ step ∈ past, step.isUnsaved = true) →
        result ≠ .ok (.handled .loaded) ∧
          ∀ record, Wrote past record → record.status.state ≠ .loaded) [] := by
  have scripted := Operation.program_scripted service (.handle message)
  have recorded := (scripted.and (Operation.program_finishes service (.handle message))).recorded
    (justified_nil _) (justified_nil _)
  refine recorded.mono fun past result ended unsaved => ?_
  obtain ⟨⟨_, finishes⟩, permitted, answered⟩ := ended
  obtain ⟨step, member, unsaved⟩ := unsaved
  have unloaded : ∀ record, Wrote past record → record.status.state ≠ .loaded := by
    intro record wrote loaded
    obtain ⟨old, attempt, own, more, _, runs, rfl, silent⟩ :=
      Handles.loaded_run permitted answered wrote loaded
    rcases List.mem_cons.mp member with rfl | later
    · cases unsaved
    · rcases List.mem_append.mp later with isOwn | isMore
      · rw [runs.not_unsaved step isOwn] at unsaved
        cases unsaved
      · obtain ⟨slot, value, saves⟩ := Step.saves_of_unsaved unsaved
        exact silent step isMore slot value saves
  refine ⟨fun same => ?_, unloaded⟩
  obtain ⟨record, wrote, loaded⟩ := finishes same
  exact unloaded record wrote loaded

namespace World

variable {fair : World → Move → Prop} {backend : Backend} {world : World}

theorem Reaches.answered (reached : Reaches fair (opening backend) world)
    (keyed : backend.tasks.IsKeyed) (number : Nat) : Answered (world.steps number) := by
  have all : ∀ number, Answered (world.steps number) := by
    apply reached.invariant (fun world => ∀ number, Answered (world.steps number))
      (sound_opening (fun _ => True) backend keyed) (fun _ _ _ => movesOf_any)
    · exact fun _ => justified_nil _
    · exact fun _ _ _ _ _ answered => answered
    · exact fun _ _ answered => answered
    · intro world later number surroundings call step sound _ advances answered other
      rw [advances.steps]
      split
      · next same =>
          subst same
          refine (answered number).snoc ?_
          rw [advances.answered]
          exact surroundings.answers sound.keyed (sound.known_steps number) step.access
      · exact answered other
  exact all number

abbrev Finishes (world : World) : Prop := world.Keeps (fun _ _ _ _ => True) Service.Finishes

theorem Reaches.finishes (reached : Reaches fair (opening backend) world)
    (keyed : backend.tasks.IsKeyed) : world.Finishes :=
  reached.keeps (sound_opening (fun _ => True) backend keyed) (fun _ _ _ => movesOf_any)
    Operation.program_finishes (keeps_opening _ _ backend)

end World

end CacheFill
