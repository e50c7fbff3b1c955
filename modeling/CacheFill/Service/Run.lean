import CacheFill.Service.Program

/-!
Running a program from start to end, without anything in between. How an access is answered is up to
the caller. Main statements: a run of two programs in a row is the run of one after the other, and
an attempted program runs like the program itself.
-/

set_option autoImplicit false

namespace CacheFill

/-- How the accesses of a program are answered, and what they do to a state. -/
abbrev Performer (σ : Type) := (access : Access) → σ → access.Answer × σ

namespace Program

variable {σ α β : Type}

/-- Runs a program, one access after the other. -/
def run (perform : Performer σ) : Program α → σ → Except Failure α × σ
  | .done value, state => (.ok value, state)
  | .fail failure, state => (.error failure, state)
  | .perform access next, state =>
      let (answer, state) := perform access state
      (next answer).run perform state

@[simp] theorem run_done (perform : Performer σ) (value : α) (state : σ) :
    (Program.done value).run perform state = (.ok value, state) := rfl

@[simp] theorem run_fail (perform : Performer σ) (failure : Failure) (state : σ) :
    (Program.fail failure : Program α).run perform state = (.error failure, state) := rfl

@[simp] theorem run_perform (perform : Performer σ) (access : Access)
    (next : access.Answer → Program α) (state : σ) :
    (Program.perform access next).run perform state =
      (next (perform access state).1).run perform (perform access state).2 := rfl

theorem run_bind (perform : Performer σ) (program : Program α) (next : α → Program β)
    (state : σ) :
    (program.bind next).run perform state =
      match program.run perform state with
      | (.ok value, later) => (next value).run perform later
      | (.error failure, later) => (.error failure, later) := by
  induction program generalizing state with
  | done value => rfl
  | fail failure => rfl
  | perform access rest ih => simp only [perform_bind, run_perform, ih]

theorem run_attempt (perform : Performer σ) (program : Program α) (state : σ) :
    program.attempt.run perform state =
      (.ok (program.run perform state).1, (program.run perform state).2) := by
  induction program generalizing state with
  | done value => rfl
  | fail failure => rfl
  | perform access rest ih => simp only [attempt, run_perform, ih]

end Program

end CacheFill
