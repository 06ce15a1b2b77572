/-
# Polling until something is decided

A loop that asks again until it gets an answer is given by the answers, `f k` in round `k` and
`none` where the loop goes on. It ends exactly where some round has an answer, and then with the
answer of the first such round, however many rounds it is allowed.
-/
import Mathlib

namespace Polling

variable {β : Type*} {f : ℕ → Option β} {k n : ℕ} {b : β}

/-- The answer within `n` rounds, from round `k` on. -/
def poll (f : ℕ → Option β) : ℕ → ℕ → Option β
  | 0, _ => none
  | n + 1, k =>
    match f k with
    | some b => some b
    | none => poll f n (k + 1)

/-- `b` is the first answer. -/
def Answers (f : ℕ → Option β) (b : β) : Prop := ∃ k, f k = some b ∧ ∀ i < k, f i = none

def Settles (f : ℕ → Option β) : Prop := ∃ k, (f k).isSome

theorem Settles.answers (h : Settles f) : ∃ b, Answers f b := by
  classical
  obtain ⟨b, hb⟩ := Option.isSome_iff_exists.mp (Nat.find_spec h)
  exact ⟨b, Nat.find h, hb, fun i hi => Option.not_isSome_iff_eq_none.mp (Nat.find_min h hi)⟩

theorem Answers.settles (h : Answers f b) : Settles f := by
  obtain ⟨k, hk, -⟩ := h
  exact ⟨k, Option.isSome_iff_exists.mpr ⟨b, hk⟩⟩

theorem Answers.unique {b' : β} (h : Answers f b) (h' : Answers f b') : b = b' := by
  obtain ⟨k, hk, hbefore⟩ := h
  obtain ⟨k', hk', hbefore'⟩ := h'
  rcases Nat.lt_trichotomy k k' with hlt | rfl | hlt
  · rw [hbefore' k hlt] at hk
    cases hk
  · exact Option.some.inj (hk.symm.trans hk')
  · rw [hbefore k' hlt] at hk'
    cases hk'

theorem poll_spec (h : poll f n k = some b) :
    ∃ j, k ≤ j ∧ j < k + n ∧ f j = some b ∧ ∀ i, k ≤ i → i < j → f i = none := by
  induction n generalizing k with
  | zero => cases h
  | succ n ih =>
    rw [poll] at h
    cases hk : f k with
    | some c =>
      rw [hk] at h
      exact ⟨k, le_rfl, by omega, hk.trans h, fun i h₁ h₂ => absurd h₂ (by omega)⟩
    | none =>
      rw [hk] at h
      obtain ⟨j, hkj, hjn, hj, hbefore⟩ := ih h
      refine ⟨j, by omega, by omega, hj, fun i hki hij => ?_⟩
      rcases Nat.eq_or_lt_of_le hki with rfl | hlt
      · exact hk
      · exact hbefore i hlt hij

/-- **What a loop that ends has found.** -/
theorem answers_of_poll (h : poll f n 0 = some b) : Answers f b := by
  obtain ⟨j, -, -, hj, hbefore⟩ := poll_spec h
  exact ⟨j, hj, fun i hi => hbefore i (Nat.zero_le i) hi⟩

/-- **An answer is found**, given rounds enough. -/
theorem Answers.poll (h : Answers f b) : ∃ n, ∀ m, n ≤ m → poll f m 0 = some b := by
  obtain ⟨k, hk, hbefore⟩ := h
  have hfrom : ∀ j i, i + j = k → ∀ m, j + 1 ≤ m → Polling.poll f m i = some b := by
    intro j
    induction j with
    | zero =>
      rintro i rfl m hm
      obtain ⟨m, rfl⟩ := Nat.exists_eq_add_of_le' hm
      rw [Polling.poll, show f i = some b from hk]
    | succ j ih =>
      rintro i hi m hm
      obtain ⟨m, rfl⟩ := Nat.exists_eq_add_of_le' (Nat.one_le_of_lt hm)
      rw [Polling.poll, hbefore i (by omega)]
      exact ih (i + 1) (by omega) m (by omega)
  exact ⟨k + 1, hfrom k 0 (Nat.zero_add k)⟩

end Polling
