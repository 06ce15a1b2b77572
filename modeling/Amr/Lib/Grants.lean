/-
# Resources that are granted

Each of some holders has a resource or none. The book is exact if the resources in use are those
that are held, each by one holder: then there are as many of either. A grant keeps it exact; a
holder that is forgotten leaves one more in use than there are holders.
-/
import Mathlib

namespace Grants

variable {F R : Type*} {g : F → Option R} {used : Finset R} {f : F} {i : R}

def holders [Fintype F] (g : F → Option R) : Finset F := Finset.univ.filter fun f => (g f).isSome

theorem mem_holders [Fintype F] : f ∈ holders g ↔ ∃ i, g f = some i := by
  rw [holders, Finset.mem_filter, and_iff_right (Finset.mem_univ f), Option.isSome_iff_exists]

/-- What is in use is held, by one holder. -/
structure Exact (g : F → Option R) (used : Finset R) : Prop where
  held : ∀ f i, g f = some i → i ∈ used
  unique : ∀ f f' i, g f = some i → g f' = some i → f = f'
  noLeak : ∀ i ∈ used, ∃ f, g f = some i

/-- **As many are in use as there are holders.** -/
theorem Exact.card [Fintype F] (h : Exact g used) : used.card = (holders g).card := by
  refine (Finset.card_bij' (fun f hf => (g f).get (Option.isSome_iff_exists.mpr (mem_holders.mp hf)))
    (fun i hi => (h.noLeak i hi).choose) ?_ ?_ ?_ ?_).symm
  · intro f hf
    exact h.held f _ (Option.some_get _).symm
  · intro i hi
    exact mem_holders.mpr ⟨i, (h.noLeak i hi).choose_spec⟩
  · intro f hf
    have hheld : g f = some ((g f).get (Option.isSome_iff_exists.mpr (mem_holders.mp hf))) :=
      (Option.some_get _).symm
    exact h.unique _ _ _ (h.noLeak _ (h.held f _ hheld)).choose_spec hheld
  · intro i hi
    exact Option.get_of_eq_some _ (h.noLeak i hi).choose_spec

/-- **A grant** of a resource that is not in use. -/
theorem Exact.grant [DecidableEq F] [DecidableEq R] (h : Exact g used) (hf : g f = none)
    (hi : i ∉ used) : Exact (Function.update g f (some i)) (insert i used) := by
  have hcases : ∀ f' j, Function.update g f (some i) f' = some j →
      f' = f ∧ j = i ∨ f' ≠ f ∧ g f' = some j := by
    intro f' j hj
    by_cases hff : f' = f
    · rw [hff, Function.update_self] at hj
      exact .inl ⟨hff, (Option.some.inj hj).symm⟩
    · rw [Function.update_of_ne hff] at hj
      exact .inr ⟨hff, hj⟩
  refine ⟨fun f' j hj => ?_, fun f₁ f₂ j h₁ h₂ => ?_, fun j hj => ?_⟩
  · rcases hcases f' j hj with ⟨-, rfl⟩ | ⟨-, hold⟩
    · exact Finset.mem_insert_self ..
    · exact Finset.mem_insert_of_mem (h.held f' j hold)
  · rcases hcases f₁ j h₁ with ⟨rfl, rfl⟩ | ⟨-, hold₁⟩ <;>
      rcases hcases f₂ j h₂ with ⟨rfl, hj⟩ | ⟨-, hold₂⟩
    · rfl
    · exact absurd (h.held f₂ j hold₂) hi
    · exact absurd (h.held f₁ j hold₁) (hj ▸ hi)
    · exact h.unique f₁ f₂ j hold₁ hold₂
  · rcases Finset.mem_insert.mp hj with rfl | hold
    · exact ⟨f, Function.update_self ..⟩
    · obtain ⟨f', hf'⟩ := h.noLeak j hold
      refine ⟨f', ?_⟩
      rw [Function.update_of_ne, hf']
      rintro rfl
      rw [hf] at hf'
      cases hf'

/-- One holder at most is added. -/
theorem card_holders_update_le [Fintype F] [DecidableEq F] (hf : (g f).isSome) (x : Option R) :
    (holders (Function.update g f x)).card ≤ (holders g).card := by
  refine Finset.card_le_card fun f' hf' => ?_
  obtain ⟨j, hj⟩ := mem_holders.mp hf'
  by_cases hff : f' = f
  · exact mem_holders.mpr (hff ▸ Option.isSome_iff_exists.mp hf)
  · rw [Function.update_of_ne hff] at hj
    exact mem_holders.mpr ⟨j, hj⟩

/-- A holder that is forgotten. -/
theorem card_holders_update_none [Fintype F] [DecidableEq F] (hf : (g f).isSome) :
    (holders (Function.update g f none)).card < (holders g).card := by
  refine Finset.card_lt_card ⟨fun f' hf' => ?_, fun hsub => ?_⟩
  · obtain ⟨j, hj⟩ := mem_holders.mp hf'
    by_cases hff : f' = f
    · rw [hff, Function.update_self] at hj
      cases hj
    · rw [Function.update_of_ne hff] at hj
      exact mem_holders.mpr ⟨j, hj⟩
  · obtain ⟨j, hj⟩ := mem_holders.mp (hsub (mem_holders.mpr (Option.isSome_iff_exists.mp hf)))
    rw [Function.update_self] at hj
    cases hj

end Grants
