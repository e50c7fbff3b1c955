import CacheFill.Proofs.Concurrency.Script

/-!
What a sweep does, access by access. It lists the due records once, as of a reading of the clock, and
writes over each of them after a further reading, which dates what it writes. Main statement:
`Reaches.sweeps`.
-/

set_option autoImplicit false

namespace CacheFill

/-- Certain records were listed as due, as of a reading of the clock right before. -/
def Lists (past : List Step) (start : Instant) (due : List Record) : Prop :=
  ∃ before limit after,
    past = before ++ ⟨.readClock, start⟩ :: ⟨.dueTasks start limit, .ok due⟩ :: after

theorem Lists.append {past : List Step} {start : Instant} {due : List Record}
    (lists : Lists past start due) (more : List Step) : Lists (past ++ more) start due := by
  obtain ⟨before, limit, after, rfl⟩ := lists
  exact ⟨before, limit, after ++ more, by simp⟩

namespace Script

/-- What a sweep does next after the steps it has made. -/
inductive Sweeps (past : List Step) : Access → Prop where
  | list (now : Instant) (limit : Nat) : Sweeps past (.dueTasks now limit)
  | retry {due : List Record} {record : Record} {waiting : Waiting} (before : List Step)
      (start now : Instant) (lists : Lists before start due) (listed : record ∈ due)
      (status : record.status = .waiting waiting) (steps : past = before ++ [⟨.readClock, now⟩]) :
      Sweeps past (.updateTask record.task (.exact record.version)
        (.scheduled ⟨now, waiting.attempt + 1⟩) record.resume)
  | giveUp {record : Record} {waiting : Waiting} (now : Instant)
      (read : ⟨.readClock, now⟩ ∈ past) :
      Sweeps past (.updateTask record.task (.exact record.version) (waiting.givenUp now)
        record.resume)
  | report {access : Access} (report : access.isReport = true) : Sweeps past access
  | clock : Sweeps past .readClock
  | enter : Sweeps past .enterSweep
  | leave : Sweeps past .leaveSweep

end Script

open Program Script

variable {α : Type} {service : Service} {past : List Step}

namespace Service

theorem retry_sweeps {record : Record} {waiting : Waiting} {before : List Step} {start now : Instant}
    {due : List Record} (lists : Lists before start due) (listed : record ∈ due)
    (status : record.status = .waiting waiting) :
    (service.retry record waiting now).Ensures (.plain Sweeps) (fun _ _ => True)
      (before ++ [⟨.readClock, now⟩]) := by
  simp only [retry, bind_eq, pure_eq]
  split
  · trivial
  · refine ensures_access (.retry before start now lists listed status rfl) fun answer => ?_
    cases answer with
    | error error => trivial
    | ok updated =>
        refine ensures_access (.report rfl) fun answer => ?_
        cases answer with
        | ok _ => trivial
        | error reason => exact ensures_access (.report rfl) fun _ => trivial

theorem giveUp_sweeps {record : Record} {waiting : Waiting} {now : Instant}
    (read : ⟨.readClock, now⟩ ∈ past) :
    (service.giveUp record waiting now).Ensures (.plain Sweeps) (fun _ _ => True) past := by
  simp only [giveUp, bind_eq, pure_eq]
  split
  · trivial
  · refine ensures_access (.report rfl) fun answer => ?_
    cases answer with
    | error reason => trivial
    | ok _ =>
        refine ensures_access (.giveUp now (by simp [read])) fun answer => ?_
        cases answer <;> trivial

theorem sweepRecord_sweeps {record : Record} {start : Instant} {due : List Record}
    (lists : Lists past start due) (listed : record ∈ due) :
    (service.sweepRecord record).Ensures (.plain Sweeps) (fun _ _ => True) past := by
  simp only [sweepRecord, bind_eq]
  split
  · next waiting status =>
      refine ensures_access .clock fun now => ?_
      simp only [done_bind]
      split
      · exact giveUp_sweeps (by simp)
      · exact retry_sweeps lists listed status
  · trivial

theorem sweepRecords_sweeps {start : Instant} {due rest : List Record} {report : SweepReport}
    (lists : Lists past start due) (listed : ∀ record ∈ rest, record ∈ due) :
    (service.sweepRecords report rest).Ensures (.plain Sweeps) (fun _ _ => True) past := by
  induction rest generalizing past report with
  | nil => trivial
  | cons record rest ih =>
      have first : (service.sweepRecord record).Ensures (.plain Sweeps) (fun _ _ => True) past :=
        sweepRecord_sweeps lists (listed record List.mem_cons_self)
      simp only [sweepRecords, bind_eq]
      rw [ensures_bind, ensures_attempt]
      refine first.extends.mono ?_
      rintro later swept ⟨_, own, rfl⟩
      have others : ∀ other ∈ rest, other ∈ due := fun other member =>
        listed other (List.mem_cons_of_mem _ member)
      cases swept with
      | ok _ => exact ih (lists.append own) others
      | error failure =>
          simp only [thenEnds]
          split
          · exact ensures_access (.report rfl) fun _ => ih ((lists.append own).append _) others
          · exact ih (lists.append own) others

theorem sweep_sweeps : service.sweep.Ensures (.plain Sweeps) (fun _ _ => True) past := by
  simp only [sweep, bind_eq, pure_eq]
  refine ensures_access .clock fun now => ensures_access (.list now service.batchSize) fun answer => ?_
  cases answer with
  | error error => trivial
  | ok due =>
  simp only [ofStore, done_bind]
  split
  · trivial
  · have lists : Lists (past ++ [⟨.readClock, now⟩] ++ [⟨.dueTasks now service.batchSize, .ok due⟩])
        now due := ⟨past, service.batchSize, [], by simp⟩
    refine ensures_access (.report rfl) fun _ => ?_
    rw [done_bind, ensures_bind]
    refine (sweepRecords_sweeps (lists.append _) fun _ member => member).mono fun later result _ => ?_
    cases result with
    | ok report => exact ensures_access (.report rfl) fun _ => trivial
    | error failure => trivial

theorem sweepOnce_sweeps :
    service.sweepOnce.Ensures (.plain Sweeps) (fun _ _ => True) past := by
  simp only [sweepOnce, bind_eq, pure_eq]
  refine ensures_access .enter fun enters => ?_
  cases enters with
  | false => trivial
  | true =>
      simp only [done_bind, if_true]
      rw [ensures_bind, ensures_attempt]
      refine sweep_sweeps.mono fun later swept _ => ensures_access .leave fun _ => ?_
      cases swept <;> trivial

/-- What a call does next if it sweeps. -/
def Sweeping (_ : Service) (operation : Operation) (past : List Step) (access : Access) : Prop :=
  operation = .sweep → Sweeps past access

end Service

theorem Program.uses_any (program : Program α) : program.Uses (fun _ => True) := by
  induction program with
  | done value => trivial
  | fail failure => trivial
  | perform access next ih => exact ⟨trivial, ih⟩

theorem Operation.program_sweeps (service : Service) (operation : Operation) :
    (operation.program service).Ensures (.plain (service.Sweeping operation))
      (fun _ _ => True) [] := by
  by_cases sweeps : operation = .sweep
  · subst sweeps
    have rule : service.Sweeping .sweep = fun past access => Sweeps past access := by
      funext past access
      simp [Service.Sweeping]
    rw [rule]
    exact ensures_bind.mpr (Service.sweepOnce_sweeps.mono fun _ result _ => by cases result <;> trivial)
  · exact (uses_any _).ensures (fun _ _ _ same => absurd same sweeps) fun _ _ _ => trivial

namespace World

abbrev Sweeps (world : World) : Prop := world.Keeps Service.Sweeping fun _ _ _ _ => True

theorem Reaches.sweeps {fair : World → Move → Prop} {backend : Backend} {world : World}
    (reached : Reaches fair (opening backend) world) (keyed : backend.tasks.IsKeyed) :
    world.Sweeps :=
  reached.keeps (sound_opening (fun _ => True) backend keyed) (fun _ _ _ => movesOf_any)
    Operation.program_sweeps (keeps_opening _ _ backend)

end World

end CacheFill
