/-
# Free-running 32-bit counters and their unbounded ghosts

A ring buffer that keeps free-running 32-bit counters compares them by subtraction modulo `2^32`
and selects a slot by masking. `ctr base k` is the value such a counter shows after `k`
increments from `base`; `k` itself never wraps. As long as two ghosts differ by less than `2^32`
the machine comparison and the mask say about the shown values what the ghosts say.
-/
import Mathlib

namespace WrapCounter

/-- The value a 32-bit counter shows after `k` increments from `base`. -/
def ctr (base : UInt32) (k : ℕ) : UInt32 := base + UInt32.ofNat k

variable (base : UInt32)

@[simp] theorem ctr_zero : ctr base 0 = base := by
  simp [ctr]

/-- One increment of the shown value is one increment of the ghost. -/
theorem ctr_succ (k : ℕ) : ctr base k + 1 = ctr base (k + 1) := by
  simp [ctr, add_assoc]

theorem toNat_ctr (k : ℕ) :
    (ctr base k).toNat = (base.toNat + k) % 2 ^ 32 := by
  simp [ctr, UInt32.toNat_add]

/-- The machine difference of two counters is the difference of their ghosts. -/
theorem toNat_ctr_sub {a b : ℕ} (hba : b ≤ a) (hlt : a - b < 2 ^ 32) :
    (ctr base a - ctr base b).toNat = a - b := by
  rw [UInt32.toNat_sub, toNat_ctr, toNat_ctr]
  have hbase := base.toNat_lt
  omega

/-- Counters less than a full turn apart show the same value only when their ghosts agree. -/
theorem ctr_inj {a b : ℕ} (hba : b ≤ a) (hlt : a - b < 2 ^ 32) :
    ctr base a = ctr base b ↔ a = b := by
  refine ⟨fun h => ?_, fun h => by rw [h]⟩
  have hsub := toNat_ctr_sub base hba hlt
  rw [h] at hsub
  simp only [sub_self, UInt32.toNat_zero] at hsub
  omega

variable {n : UInt32}

/-- Masking a 32-bit value with a power of two less one is reduction modulo the power. -/
theorem toNat_and_mask {k : ℕ} (hn : n.toNat = 2 ^ k) (x : UInt32) :
    (x &&& (n - 1)).toNat = x.toNat % n.toNat := by
  have hpos : 1 ≤ n.toNat := hn ▸ Nat.one_le_two_pow
  have hmask : (n - 1).toNat = 2 ^ k - 1 := by
    rw [UInt32.toNat_sub_of_le n 1 (UInt32.le_iff_toNat_le.mpr (by simpa using hpos)), hn]
    rfl
  rw [UInt32.toNat_and, hmask, Nat.and_two_pow_sub_one_eq_mod, hn]

/-- The slot of a counter is its ghost modulo the number of slots, the wrap notwithstanding:
the number of slots divides `2^32`. -/
theorem toNat_ctr_and_mask {k : ℕ} (hn : n.toNat = 2 ^ k) (base : UInt32) (a : ℕ) :
    (ctr base a &&& (n - 1)).toNat = (base.toNat + a) % n.toNat := by
  have hk : k ≤ 32 := by
    have hlt := n.toNat_lt
    rw [hn] at hlt
    exact ((Nat.pow_lt_pow_iff_right (by norm_num)).mp hlt).le
  rw [toNat_and_mask hn, toNat_ctr, hn, Nat.mod_mod_of_dvd _ (Nat.pow_dvd_pow 2 hk)]

/-- Two ghosts select one slot exactly when they are congruent modulo the number of slots. -/
theorem mask_ctr_eq_iff {k : ℕ} (hn : n.toNat = 2 ^ k) (base : UInt32) (a b : ℕ) :
    (ctr base a &&& (n - 1)).toNat = (ctr base b &&& (n - 1)).toNat ↔ a ≡ b [MOD n.toNat] := by
  rw [toNat_ctr_and_mask hn, toNat_ctr_and_mask hn]
  exact ⟨fun h => Nat.ModEq.add_left_cancel' base.toNat h, fun h => h.add_left base.toNat⟩

/-- Distinct ghosts less than one lap apart select distinct slots. -/
theorem mask_ctr_ne {k : ℕ} (hn : n.toNat = 2 ^ k) (base : UInt32) {a b : ℕ}
    (hba : b < a) (hlap : a - b < n.toNat) :
    (ctr base a &&& (n - 1)).toNat ≠ (ctr base b &&& (n - 1)).toNat := by
  rw [Ne, mask_ctr_eq_iff hn]
  intro hmod
  have hdvd := (Nat.modEq_iff_dvd' hba.le).mp hmod.symm
  exact absurd (Nat.le_of_dvd (by omega) hdvd) (by omega)

end WrapCounter
