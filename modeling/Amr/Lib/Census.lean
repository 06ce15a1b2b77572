/-
# Counting the parties that are in a given situation

`n` parties each have a situation. A census counts the parties whose situation has a property; when
one party changes its situation, the count changes by what this party contributes.
-/
import Mathlib

namespace Census

variable {ι α : Type*} [Fintype ι] (p : α → Bool)

/-- How many parties are in a situation with the property. -/
def census (f : ι → α) : ℕ := (Finset.univ.filter fun i => p (f i) = true).card

variable {p}

theorem census_eq_zero {f : ι → α} : census p f = 0 ↔ ∀ i, p (f i) = false := by
  unfold census
  rw [Finset.card_eq_zero, Finset.filter_eq_empty_iff]
  simp

theorem census_pos {f : ι → α} {i : ι} (h : p (f i) = true) : 0 < census p f :=
  Finset.card_pos.mpr ⟨i, by simpa using h⟩

/-- No party is in a situation with the property when all are in the same one without it. -/
theorem census_const {a : α} (h : p a = false) : census p (fun _ : ι => a) = 0 :=
  census_eq_zero.mpr fun _ => h

/-- **One party changes its situation.** -/
theorem census_update [DecidableEq ι] (f : ι → α) (i : ι) (a : α) :
    census p (Function.update f i a) + (if p (f i) then 1 else 0) =
      census p f + if p a then 1 else 0 := by
  have hsplit : ∀ g : ι → α, census p g =
      (∑ j ∈ Finset.univ.erase i, if p (g j) = true then 1 else 0) + if p (g i) then 1 else 0 := by
    intro g
    unfold census
    rw [Finset.card_filter, ← Finset.sum_erase_add _ _ (Finset.mem_univ i)]
  have hrest : (∑ j ∈ Finset.univ.erase i, if p (Function.update f i a j) = true then 1 else 0) =
      ∑ j ∈ Finset.univ.erase i, if p (f j) = true then 1 else 0 := by
    refine Finset.sum_congr rfl fun j hj => ?_
    rw [Function.update_of_ne (Finset.ne_of_mem_erase hj)]
  rw [hsplit (Function.update f i a), hsplit f, hrest, Function.update_self]
  omega

end Census
