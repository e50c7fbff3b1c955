import CacheFill.Proofs.Concurrency.Interleaving
import Mathlib.Data.List.Pairwise

/-!
What the history of a run tells about its records. Each write raises the rank of its task, so a
record is written once, by one call. What was stored at first is what every record of its task came
from. Main statements: `Rising.same_write` and `Rooted.advance`.
-/

set_option autoImplicit false

namespace CacheFill

/-- One write comes before another only if the record of the one ranks below that of the other. -/
def Step.RisesTo (first second : Step) : Prop :=
  ∀ record next, first.written? = some record → second.written? = some next →
    record.task = next.task → record.status.rank < next.status.rank

/-- Steps that rise write a record once, so there is one way to tell what came after it. -/
theorem Step.RisesTo.eq_of_append_cons {before after before' after' : List Step} {write : Step}
    {record : Record} (rises : (before ++ write :: after).Pairwise RisesTo)
    (written : write.written? = some record)
    (same : before ++ write :: after = before' ++ write :: after') : after = after' := by
  have once : ¬ write.RisesTo write := fun rises =>
    Nat.lt_irrefl _ (rises record record written written rfl)
  obtain ⟨_, risesAfter, apart⟩ := List.pairwise_append.mp rises
  rcases List.append_eq_append_iff.mp same with ⟨between, _, rest⟩ | ⟨between, earlier, rest⟩
  · cases between with
    | nil => exact (List.cons.inj rest).2
    | cons head tail =>
        have again : write ∈ after := by
          rw [(List.cons.inj rest).2]
          exact List.mem_append_right _ List.mem_cons_self
        exact absurd ((List.pairwise_cons.mp risesAfter).1 write again) once
  · cases between with
    | nil => exact (List.cons.inj rest).2.symm
    | cons head tail =>
        have before : write ∈ before := by
          rw [earlier, ← (List.cons.inj rest).1]
          exact List.mem_append_right _ List.mem_cons_self
        exact absurd (apart write before write List.mem_cons_self) once

namespace World

variable {first world later : World} {surroundings : Surroundings} {number : Nat} {call : Call}
  {step : Step} {services : Service → Prop}

def Rising (world : World) : Prop :=
  world.history.Pairwise fun earlier later => earlier.step.RisesTo later.step

theorem Rising.advance (rising : world.Rising) (sound : world.Sound services)
    (advances : world.Advances surroundings later number call step) : later.Rising := by
  unfold Rising
  rw [advances.history, List.pairwise_append]
  refine ⟨rising, List.pairwise_singleton _ _, ?_⟩
  intro event member last isLast record next written isNext task
  rw [List.mem_singleton.mp isLast] at isNext
  have seen : Seen world.trace record :=
    ⟨event.step, List.mem_map.mpr ⟨event, member, rfl⟩, .of_written? written⟩
  obtain ⟨current, found, becomes⟩ := sound.known record seen
  rcases advances.effect.writes with ⟨unwritten, _⟩ | ⟨next', isNext', _, writes⟩
  · rw [unwritten] at isNext; cases isNext
  obtain rfl := Option.some.inj (isNext.symm.trans isNext')
  rw [task] at found
  cases writes with
  | insert now new absent => rw [absent] at found; cases found
  | rewrite old isOld rewrites =>
      obtain rfl := Option.some.inj (found.symm.trans isOld)
      exact Nat.lt_of_le_of_lt becomes.rank_le rewrites.follows.rank_lt

/-- A record is written in one step only. -/
theorem Rising.same_write (rising : world.Rising) {one other : Event} {record : Record}
    (isOne : one ∈ world.history) (isOther : other ∈ world.history)
    (written : one.step.written? = some record) (too : other.step.written? = some record) :
    one = other := by
  have once : world.history.Pairwise fun earlier later =>
      ¬ (earlier.step.written? = some record ∧ later.step.written? = some record) := by
    refine rising.imp fun rises both => ?_
    exact Nat.lt_irrefl _ (rises record record both.1 both.2 rfl)
  have symmetric : Std.Symm fun earlier later : Event =>
      ¬ (earlier.step.written? = some record ∧ later.step.written? = some record) :=
    ⟨fun _ _ apart both => apart both.symm⟩
  by_contra different
  exact once.forall isOne isOther different ⟨written, too⟩

theorem Rising.steps (rising : world.Rising) (number : Nat) :
    (world.steps number).Pairwise Step.RisesTo := by
  unfold World.steps
  rw [List.pairwise_filterMap]
  refine rising.imp fun {earlier later} rises one isOne other isOther => ?_
  split at isOne <;> cases isOne
  split at isOther <;> cases isOther
  exact rises

/-- What was stored at first has become what is stored and what calls were shown. -/
structure Rooted (services : Service → Prop) (first world : World) : Prop where
  stored : ∀ task record, first.backend.tasks.get? task = some record → ∃ current,
    world.backend.tasks.get? task = some current ∧ record.Becomes services current
  seen : ∀ record old, Seen world.trace record →
    first.backend.tasks.get? record.task = some old → old.Becomes services record
  absent : ∀ task, ⟨.readTask task, .ok none⟩ ∈ world.trace →
    first.backend.tasks.get? task = none

theorem rooted_self (services : Service → Prop) (backend : Backend) :
    (opening backend).Rooted services (opening backend) where
  stored := fun _ record found => ⟨record, found, .refl record⟩
  seen := by
    rintro record old ⟨step, member, _⟩
    cases member
  absent := by
    intro task member
    cases member

end World

theorem Effect.absent_of_read {service : Service} {operation : Operation} {past : List Step}
    {tasks later : TaskStore} {task : TaskId}
    (effect : Effect service operation past tasks ⟨.readTask task, .ok none⟩ later) :
    tasks.get? task = none := by
  generalize same : (⟨.readTask task, .ok none⟩ : Step) = step at effect
  cases effect with
  | aside aside => subst same; cases aside
  | read other =>
      obtain ⟨sameAccess, answer⟩ := Step.mk.inj same
      obtain rfl := Access.readTask.inj sameAccess
      exact (Except.ok.inj (eq_of_heq answer)).symm
  | _ => cases (Step.mk.inj same).1

namespace World

variable {first world later : World} {surroundings : Surroundings} {number : Nat} {call : Call}
  {step : Step} {services : Service → Prop}

theorem Rooted.advance (rooted : first.Rooted services world) (sound : world.Sound services)
    (advances : world.Advances surroundings later number call step) :
    first.Rooted services later := by
  have fits := sound.fits number call advances.called
  have stored : ∀ task record, first.backend.tasks.get? task = some record → ∃ current,
      later.backend.tasks.get? task = some current ∧ record.Becomes services current := by
    intro task record found
    obtain ⟨current, isCurrent, becomes⟩ := rooted.stored task record found
    obtain ⟨next, isNext, more⟩ := advances.effect.becomes fits isCurrent
    exact ⟨next, isNext, becomes.trans more⟩
  refine ⟨stored, ?_, ?_⟩
  · rintro record old ⟨other, member, shows⟩ found
    rw [advances.trace] at member
    rcases List.mem_append.mp member with earlier | now
    · exact rooted.seen record old ⟨other, earlier, shows⟩ found
    · rw [List.mem_singleton.mp now] at shows
      obtain ⟨current, isCurrent, becomes⟩ := stored record.task old found
      rw [advances.effect.current sound.keyed shows] at isCurrent
      obtain rfl := Option.some.inj isCurrent
      exact becomes
  · intro task member
    rw [advances.trace] at member
    rcases List.mem_append.mp member with earlier | now
    · exact rooted.absent task earlier
    · have effect := advances.effect
      rw [← List.mem_singleton.mp now] at effect
      cases found : first.backend.tasks.get? task with
      | none => rfl
      | some record =>
          obtain ⟨current, isCurrent, _⟩ := rooted.stored task record found
          rw [effect.absent_of_read] at isCurrent
          cases isCurrent

end World

end CacheFill
