/-
# Pieces of one size in an address space that wraps

A loop that goes over `n` pieces of `u` bytes from `a` on, with addresses modulo `M`, reaches the
addresses `address M a u i`. As long as a window is shorter than the address space, the pieces lie
in it exactly when they neither wrap nor run past either end: a piece that wraps comes out before
the window that held the piece before it.
-/
import Mathlib

namespace Stride

/-- The address of piece `i`. -/
def address (M a u i : ℕ) : ℕ := (a + i * u) % M

/-- The first `n` pieces lie in `[lo, hi)`. -/
def Inside (M a u n lo hi : ℕ) : Prop :=
  ∀ i < n, lo ≤ address M a u i ∧ address M a u i + u ≤ hi

/-- The pieces start behind the start of `[lo, hi)`, end before its end, and do not wrap. -/
def Fits (M a u n lo hi : ℕ) : Prop := lo ≤ a ∧ a + n * u ≤ hi ∧ a + (n - 1) * u < M

instance (M a u n lo hi : ℕ) : Decidable (Fits M a u n lo hi) :=
  inferInstanceAs (Decidable (_ ∧ _ ∧ _))

theorem address_zero {M a : ℕ} (u : ℕ) (ha : a < M) : address M a u 0 = a := by
  unfold address
  rw [Nat.zero_mul, Nat.add_zero, Nat.mod_eq_of_lt ha]

/-- One piece on. -/
theorem address_step (M a u i : ℕ) : address M ((a + u) % M) u i = address M a u (i + 1) := by
  unfold address
  rw [Nat.mod_add_mod, Nat.succ_mul]
  congr 1
  omega

/-- The blocks that hold the pieces are the pieces of the block of `a`. -/
theorem block_address {M S : ℕ} (hS : S ∣ M) (a i : ℕ) :
    address M a S i / S * S = address M (a / S * S) S i := by
  obtain ⟨k, rfl⟩ := hS
  rcases Nat.eq_zero_or_pos S with rfl | hpos
  · simp [address]
  unfold address
  rw [Nat.mod_mul_right_div_self, Nat.add_mul_div_right _ _ hpos, ← Nat.add_mul,
    Nat.mul_comm S k, Nat.mul_mod_mul_right]

/-- Pieces in a window that is shorter than the address space do not wrap. -/
theorem Inside.no_wrap {M a u n lo hi : ℕ} (h : Inside M a u n lo hi) (ha : a < M) (hu : u ≤ M)
    (hspan : hi < lo + M) : ∀ i < n, a + i * u < M := by
  intro i
  induction i with
  | zero => intro _; omega
  | succ i ih =>
    intro hi'
    have hlt := ih (by omega)
    by_contra hwrap
    obtain ⟨-, hend⟩ := h i (by omega)
    obtain ⟨hstart, -⟩ := h (i + 1) hi'
    have hi_eq : address M a u i = a + i * u := Nat.mod_eq_of_lt hlt
    have hnext : address M a u (i + 1) = a + (i + 1) * u - M := by
      unfold address
      rw [Nat.mod_eq_sub_mod (by omega), Nat.mod_eq_of_lt]
      rw [Nat.succ_mul]
      omega
    rw [hi_eq] at hend
    rw [hnext] at hstart
    rw [Nat.succ_mul] at hstart hwrap
    omega

/-- **Containment.** In a window that is shorter than the address space, pieces lie inside exactly
when they fit. -/
theorem inside_iff {M a u n lo hi : ℕ} (ha : a < M) (hu : u ≤ M) (hspan : hi < lo + M)
    (hn : 0 < n) :
    Inside M a u n lo hi ↔ Fits M a u n lo hi := by
  constructor
  · intro h
    have hlast := h.no_wrap ha hu hspan (n - 1) (by omega)
    obtain ⟨hstart, -⟩ := h 0 hn
    obtain ⟨-, hend⟩ := h (n - 1) (by omega)
    rw [address_zero u ha] at hstart
    have hval : address M a u (n - 1) = a + (n - 1) * u := Nat.mod_eq_of_lt hlast
    rw [hval, Nat.add_assoc, ← Nat.succ_mul, Nat.succ_eq_add_one, Nat.sub_add_cancel hn] at hend
    exact ⟨hstart, hend, hlast⟩
  · rintro ⟨hstart, hend, hlast⟩ i hi'
    have hle : i * u ≤ (n - 1) * u := Nat.mul_le_mul_right u (by omega)
    have hle' : (i + 1) * u ≤ n * u := Nat.mul_le_mul_right u hi'
    have hval : address M a u i = a + i * u := Nat.mod_eq_of_lt (by omega)
    rw [hval]
    rw [Nat.succ_mul] at hle'
    omega

end Stride
