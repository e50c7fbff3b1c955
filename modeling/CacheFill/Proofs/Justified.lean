import Mathlib.Data.List.Basic

/-!
Lists that grow at their end, as histories do, and in which each item is justified by the ones before
it.
-/

set_option autoImplicit false

namespace CacheFill

variable {α : Type}

/-- An item of a list that has grown by one is the new one or was there before. -/
theorem split_snoc {items before after : List α} {last item : α}
    (split : items ++ [last] = before ++ item :: after) :
    items = before ∧ last = item ∧ after = [] ∨
      ∃ front, after = front ++ [last] ∧ items = before ++ item :: front := by
  rcases List.eq_nil_or_concat after with rfl | ⟨front, other, rfl⟩
  · obtain ⟨same, new⟩ := List.append_inj' split rfl
    exact .inl ⟨same, List.singleton_inj.mp new, rfl⟩
  · rw [List.concat_eq_append, ← List.cons_append, ← List.append_assoc] at split
    obtain ⟨same, new⟩ := List.append_inj' split rfl
    rw [List.concat_eq_append, List.singleton_inj.mp new]
    exact .inr ⟨front, rfl, same⟩

/-- Each item of a list is justified by the ones before it. -/
def Justified (justifies : List α → α → Prop) (items : List α) : Prop :=
  ∀ before item after, items = before ++ item :: after → justifies before item

theorem justified_nil (justifies : List α → α → Prop) : Justified justifies [] := by
  intro before item after split
  cases before <;> cases split

theorem Justified.snoc {justifies : List α → α → Prop} {items : List α} {item : α}
    (justified : Justified justifies items) (now : justifies items item) :
    Justified justifies (items ++ [item]) := by
  intro before other after split
  rcases split_snoc split with ⟨rfl, rfl, rfl⟩ | ⟨front, rfl, earlier⟩
  · exact now
  · exact justified before other front earlier

end CacheFill
