/-
# Ranks along an infinite run

A rank in the natural numbers that never grows along a sequence is constant from some index on. A
run of which every step lowers the rank or belongs to a kind `P` of steps that leave it alone is
therefore, from some step on, made of steps of that kind only: this is how a loop that puts work
back is shown to end unless it does nothing else.
-/
import Mathlib

namespace Ranking

/-- A rank that never grows stops changing. -/
theorem eventually_eq (μ : ℕ → ℕ) (h : ∀ k, μ (k + 1) ≤ μ k) : ∃ N, ∀ k, N ≤ k → μ k = μ N := by
  have hanti : Antitone μ := antitone_nat_of_succ_le h
  refine ⟨Function.argmin μ, fun k hk => ?_⟩
  have hmin : μ (Function.argmin μ) ≤ μ k := Function.argmin_le μ k
  have hle : μ k ≤ μ (Function.argmin μ) := hanti hk
  omega

/-- If every step but those of a kind lowers the rank, only steps of that kind go on. -/
theorem eventually_of_rank (μ : ℕ → ℕ) (P : ℕ → Prop) (N : ℕ)
    (hkeep : ∀ k, N ≤ k → μ (k + 1) ≤ μ k)
    (hlower : ∀ k, N ≤ k → ¬ P k → μ (k + 1) < μ k) : ∃ M, N ≤ M ∧ ∀ k, M ≤ k → P k := by
  obtain ⟨M, hM⟩ := eventually_eq (fun k => μ (N + k)) fun k => hkeep (N + k) (by omega)
  refine ⟨N + M, by omega, fun k hk => ?_⟩
  obtain ⟨j, rfl⟩ : ∃ j, k = N + j := ⟨k - N, by omega⟩
  by_contra hP
  have hlt := hlower (N + j) (by omega) hP
  have hj : μ (N + j) = μ (N + M) := hM j (by omega)
  have hj' : μ (N + (j + 1)) = μ (N + M) := hM (j + 1) (by omega)
  rw [← Nat.add_assoc] at hj'
  omega

end Ranking
