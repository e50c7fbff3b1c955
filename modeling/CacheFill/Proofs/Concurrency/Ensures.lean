import CacheFill.Proofs.Concurrency.World

/-!
Rules for programs. A rule says which access a call may make after the steps it has made, and which
answers it may count on; a program that keeps the rule may then be judged by its steps alone,
whatever else goes on between them. Main statements: the rule of a bind and of an attempt, and the
frame rule for programs that touch neither tasks nor buses.
-/

set_option autoImplicit false

namespace CacheFill

/-- What a call may do after the steps it has made, and what it may count on in return. -/
structure Rule where
  permits : List Step → Access → Prop
  answers : List Step → (access : Access) → access.Answer → Prop

namespace Program

variable {α β : Type} {rule : Rule} {past : List Step}

/-- After the given steps the program keeps the rule, and ends as asked for. -/
def Ensures (rule : Rule) (ends : List Step → Except Failure α → Prop) :
    Program α → List Step → Prop
  | .done value, past => ends past (.ok value)
  | .fail failure, past => ends past (.error failure)
  | .perform access next, past =>
      rule.permits past access ∧
        ∀ answer, rule.answers past access answer →
          (next answer).Ensures rule ends (past ++ [⟨access, answer⟩])

@[simp] theorem ensures_done {ends : List Step → Except Failure α → Prop} {value : α} :
    (Program.done value).Ensures rule ends past ↔ ends past (.ok value) := Iff.rfl

@[simp] theorem ensures_fail {ends : List Step → Except Failure α → Prop} {failure : Failure} :
    (Program.fail failure : Program α).Ensures rule ends past ↔ ends past (.error failure) :=
  Iff.rfl

theorem ensures_perform {ends : List Step → Except Failure α → Prop} {access : Access}
    {next : access.Answer → Program α} :
    (Program.perform access next).Ensures rule ends past ↔
      rule.permits past access ∧
        ∀ answer, rule.answers past access answer →
          (next answer).Ensures rule ends (past ++ [⟨access, answer⟩]) := Iff.rfl

/-- How a program has to end for the next one to go on. -/
def thenEnds (rule : Rule) (next : α → Program β) (ends : List Step → Except Failure β → Prop)
    (past : List Step) : Except Failure α → Prop
  | .ok value => (next value).Ensures rule ends past
  | .error failure => ends past (.error failure)

theorem ensures_bind {program : Program α} {next : α → Program β}
    {ends : List Step → Except Failure β → Prop} :
    (program.bind next).Ensures rule ends past ↔
      program.Ensures rule (thenEnds rule next ends) past := by
  induction program generalizing past with
  | done value => rfl
  | fail failure => rfl
  | perform access rest ih => simp only [perform_bind, ensures_perform, ih]

theorem ensures_attempt {program : Program α}
    {ends : List Step → Except Failure (Except Failure α) → Prop} :
    program.attempt.Ensures rule ends past ↔
      program.Ensures rule (fun past result => ends past (.ok result)) past := by
  induction program generalizing past with
  | done value => rfl
  | fail failure => rfl
  | perform access rest ih => simp only [attempt, ensures_perform, ih]

theorem Ensures.mono {program : Program α} {first last : List Step → Except Failure α → Prop}
    (ensures : program.Ensures rule first past)
    (weaker : ∀ past result, first past result → last past result) :
    program.Ensures rule last past := by
  induction program generalizing past with
  | done value => exact weaker _ _ ensures
  | fail failure => exact weaker _ _ ensures
  | perform access rest ih =>
      obtain ⟨permitted, continues⟩ := ensures
      exact ⟨permitted, fun answer counted => ih answer (continues answer counted)⟩

/-- A program only adds to the steps that were made before it. -/
theorem Ensures.extends {program : Program α} {ends : List Step → Except Failure α → Prop}
    (ensures : program.Ensures rule ends past) :
    program.Ensures rule (fun later result => ends later result ∧ ∃ own, later = past ++ own) past := by
  induction program generalizing past with
  | done value => exact ⟨ensures, [], by simp⟩
  | fail failure => exact ⟨ensures, [], by simp⟩
  | perform access rest ih =>
      obtain ⟨permitted, goesOn⟩ := ensures
      refine ⟨permitted, fun answer counted => (ih answer (goesOn answer counted)).mono ?_⟩
      rintro later result ⟨ended, own, rfl⟩
      exact ⟨ended, ⟨access, answer⟩ :: own, by simp⟩

end Program

def Access.isAside : Access → Bool
  | .insertTask _ | .readTask _ | .dueTasks _ _ | .updateTask _ _ _ _ | .publish _ _
  | .announce _ _ => false
  | .readClock | .readValue _ | .saveValue _ _ | .removeValue _ | .readPointer _
  | .putPointer _ _ | .removePointer _ | .callLoader _ | .mint | .log _ | .enterSweep
  | .leaveSweep => true

def Step.isAside (step : Step) : Bool := step.access.isAside

namespace Program

variable {α β : Type}

/-- The program touches neither tasks nor buses, and checks no transition. -/
def StaysAside : Program α → Prop
  | .done _ => True
  | .fail failure => ∀ error, failure ≠ .transition error
  | .perform access next => access.isAside = true ∧ ∀ answer, (next answer).StaysAside

@[simp] theorem staysAside_done (value : α) : (Program.done value).StaysAside := trivial

theorem StaysAside.bind {program : Program α} {next : α → Program β}
    (first : program.StaysAside) (rest : ∀ value, (next value).StaysAside) :
    (program.bind next).StaysAside := by
  induction program with
  | done value => exact rest value
  | fail failure => exact first
  | perform access continuation ih =>
      exact ⟨first.1, fun answer => ih answer (first.2 answer)⟩

theorem StaysAside.attempt {program : Program α} (first : program.StaysAside) :
    program.attempt.StaysAside := by
  induction program with
  | done value => trivial
  | fail failure => trivial
  | perform access continuation ih => exact ⟨first.1, fun answer => ih answer (first.2 answer)⟩

/-- A program that touches neither tasks nor buses keeps every rule that leaves this open. -/
theorem StaysAside.ensures {rule : Rule} {program : Program α}
    {ends : List Step → Except Failure α → Prop} {past : List Step}
    (aside : program.StaysAside)
    (open_ : ∀ past access, access.isAside = true → rule.permits past access)
    (ended : ∀ own result, (∀ step ∈ own, step.isAside = true) →
      (∀ error, result ≠ .error (.transition error)) → ends (past ++ own) result) :
    program.Ensures rule ends past := by
  induction program generalizing past with
  | done value => simpa using ended [] (.ok value) (by simp) (by simp)
  | fail failure =>
      simpa using ended [] (.error failure) (by simp) fun error same =>
        aside error (Except.error.inj same)
  | perform access rest ih =>
      refine ⟨open_ _ _ aside.1, fun answer _ => ih answer (aside.2 answer) ?_⟩
      intro own result allAside noTransition
      have longer := ended (⟨access, answer⟩ :: own) result (by
        intro step member
        rcases List.mem_cons.mp member with rfl | later
        · exact aside.1
        · exact allAside step later) noTransition
      simpa using longer

end Program

end CacheFill
