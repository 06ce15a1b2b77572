/-
# The number of slots a ring length admits

`prvulGCQRingLen` and `prvulGCQAllocNumSlots` of
`src/fw/AMC/src/device_drivers/gcq_driver/src/gcq_ring.h` and `gcq_driver.c`, and the host's
`gcq_get_max_slots` of `src/sw/AMI/driver/ami_gcq.c`.

The loop doubles the number of slots until the ring length, computed modulo `2^32`, exceeds the
length of the shared memory. It need not stop: after 32 doublings the number of slots is zero and
the computed length stays `sizeof(GCQHeader)`. The model gives the loop 34 rounds and answers
`none` when they do not suffice; `allocLoop_none` shows that no larger number would.
-/
import Amr.Gcq.Ring

namespace Amr.Gcq

def prvulGCQRingLen (ulNumSlots ulSQSlotSize ulCQSlotSize : UInt32) : UInt32 :=
  sizeofGCQHeader + ulNumSlots * (ulSQSlotSize + ulCQSlotSize)

/-- The loop of `prvulGCQAllocNumSlots`, `fuel` rounds of it. -/
def allocLoop (ullRingLen : UInt64) (ulSQSlotSize ulCQSlotSize : UInt32) :
    ℕ → UInt32 → UInt32 → Option UInt32
  | 0, _, _ => none
  | fuel + 1, ulTotalLen, ulNumSlots =>
    if ulTotalLen.toUInt64 ≤ ullRingLen then
      let ulNumSlots := ulNumSlots <<< 1
      allocLoop ullRingLen ulSQSlotSize ulCQSlotSize fuel
        (prvulGCQRingLen ulNumSlots ulSQSlotSize ulCQSlotSize) ulNumSlots
    else some (ulNumSlots >>> 1)

/-- `prvulGCQAllocNumSlots`; `none` when the loop does not end. -/
def prvulGCQAllocNumSlots (ullRingLen : UInt64) (ulSQSlotSize ulCQSlotSize : UInt32) :
    Option UInt32 :=
  allocLoop ullRingLen ulSQSlotSize ulCQSlotSize 34 0 1

/-- `gcq_get_max_slots`, the host's copy of the computation. -/
def gcqGetMaxSlots (ullRingLen : UInt64) (ulSQSlotSize ulCQSlotSize : UInt32) : Option UInt32 :=
  allocLoop ullRingLen ulSQSlotSize ulCQSlotSize 34 0 1

section

variable (ullRingLen : UInt64) (ulSQSlotSize ulCQSlotSize : UInt32)

/-- The number of slots after `k` doublings. -/
def numSlotsAt (k : ℕ) : UInt32 := UInt32.ofNat (2 ^ k)

/-- The length the loop compares after `k` doublings. -/
def totalLenAt (k : ℕ) : ℕ :=
  if k = 0 then 0 else (44 + 2 ^ k * (ulSQSlotSize.toNat + ulCQSlotSize.toNat)) % 2 ^ 32

theorem toNat_numSlotsAt (k : ℕ) : (numSlotsAt k).toNat = 2 ^ k % 2 ^ 32 := by
  simp [numSlotsAt]

theorem numSlotsAt_succ (k : ℕ) : numSlotsAt k <<< 1 = numSlotsAt (k + 1) := by
  refine UInt32.toNat_inj.mp ?_
  have hone : (1 : UInt32).toNat % 32 = 1 := rfl
  rw [UInt32.toNat_shiftLeft, toNat_numSlotsAt, toNat_numSlotsAt, Nat.shiftLeft_eq, hone, pow_one,
    Nat.mod_mul_mod, ← pow_succ]

theorem toNat_ringLen (k : ℕ) :
    (prvulGCQRingLen (numSlotsAt (k + 1)) ulSQSlotSize ulCQSlotSize).toNat =
      totalLenAt ulSQSlotSize ulCQSlotSize (k + 1) := by
  simp only [prvulGCQRingLen, sizeofGCQHeader, UInt32.toNat_add, UInt32.toNat_mul,
    toNat_numSlotsAt, totalLenAt, Nat.succ_ne_zero, if_false]
  simp [Nat.add_mod, Nat.mul_mod]

theorem allocLoop_round {k : ℕ} {ulTotalLen : UInt32} (fuel : ℕ)
    (htotal : ulTotalLen.toNat = totalLenAt ulSQSlotSize ulCQSlotSize k) :
    allocLoop ullRingLen ulSQSlotSize ulCQSlotSize (fuel + 1) ulTotalLen (numSlotsAt k) =
      if totalLenAt ulSQSlotSize ulCQSlotSize k ≤ ullRingLen.toNat then
        allocLoop ullRingLen ulSQSlotSize ulCQSlotSize fuel
          (prvulGCQRingLen (numSlotsAt (k + 1)) ulSQSlotSize ulCQSlotSize) (numSlotsAt (k + 1))
      else some (numSlotsAt k >>> 1) := by
  have hle : ulTotalLen.toUInt64 ≤ ullRingLen ↔
      totalLenAt ulSQSlotSize ulCQSlotSize k ≤ ullRingLen.toNat := by
    rw [UInt64.le_iff_toNat_le, UInt32.toNat_toUInt64, htotal]
  simp only [allocLoop, hle, numSlotsAt_succ]

/-- Every value the loop returns is the number of slots of the first doubling whose computed
length exceeds the length of the ring, halved. -/
theorem allocLoop_eq_some {fuel k : ℕ} {ulTotalLen n : UInt32}
    (htotal : ulTotalLen.toNat = totalLenAt ulSQSlotSize ulCQSlotSize k)
    (h : allocLoop ullRingLen ulSQSlotSize ulCQSlotSize fuel ulTotalLen (numSlotsAt k) = some n) :
    ∃ j, k ≤ j ∧ (∀ i, k ≤ i → i < j → totalLenAt ulSQSlotSize ulCQSlotSize i ≤ ullRingLen.toNat) ∧
      ullRingLen.toNat < totalLenAt ulSQSlotSize ulCQSlotSize j ∧ n = numSlotsAt j >>> 1 := by
  induction fuel generalizing k ulTotalLen with
  | zero => simp [allocLoop] at h
  | succ fuel ih =>
    rw [allocLoop_round _ _ _ fuel htotal] at h
    split_ifs at h with hle
    · obtain ⟨j, hkj, hbelow, habove, hn⟩ := ih (toNat_ringLen _ _ k) h
      refine ⟨j, by omega, fun i hki hij => ?_, habove, hn⟩
      rcases Nat.eq_or_lt_of_le hki with rfl | hlt
      · exact hle
      · exact hbelow i hlt hij
    · exact ⟨k, le_rfl, fun i hki hik => absurd hik (by omega), by omega,
        (Option.some.inj h).symm⟩

/-- The loop returns at the first doubling whose computed length exceeds the length of the ring,
if it is given a round for each. -/
theorem allocLoop_of_first {fuel k j : ℕ} {ulTotalLen : UInt32}
    (htotal : ulTotalLen.toNat = totalLenAt ulSQSlotSize ulCQSlotSize k) (hkj : k ≤ j)
    (hfuel : j < k + fuel)
    (hbelow : ∀ i, k ≤ i → i < j → totalLenAt ulSQSlotSize ulCQSlotSize i ≤ ullRingLen.toNat)
    (habove : ullRingLen.toNat < totalLenAt ulSQSlotSize ulCQSlotSize j) :
    allocLoop ullRingLen ulSQSlotSize ulCQSlotSize fuel ulTotalLen (numSlotsAt k) =
      some (numSlotsAt j >>> 1) := by
  induction fuel generalizing k ulTotalLen with
  | zero => omega
  | succ fuel ih =>
    rw [allocLoop_round _ _ _ fuel htotal]
    rcases Nat.eq_or_lt_of_le hkj with rfl | hlt
    · rw [if_neg (by omega)]
    · rw [if_pos (hbelow k le_rfl hlt)]
      exact ih (toNat_ringLen _ _ k) hlt (by omega) (fun i hki hij => hbelow i (by omega) hij)

theorem totalLenAt_large {k : ℕ} (hk : 32 ≤ k) : totalLenAt ulSQSlotSize ulCQSlotSize k = 44 := by
  obtain ⟨d, rfl⟩ := Nat.exists_eq_add_of_le hk
  rw [totalLenAt, if_neg (by omega), pow_add, mul_assoc, Nat.add_mul_mod_self_left]
  rfl

end

/-- The length of a ring of `2^k` slots of either queue, in bytes, without wrapping. -/
def ringBytes (k : ℕ) (ulSQSlotSize ulCQSlotSize : UInt32) : ℕ :=
  44 + 2 ^ k * (ulSQSlotSize.toNat + ulCQSlotSize.toNat)

/-- **What the slot count is.** A slot count of at least two is `2^k` for some `1 ≤ k ≤ 30`, the
length modulo `2^32` of every smaller ring fits, and that of the next larger one does not. -/
theorem numSlots_spec {ullRingLen : UInt64} {ulSQSlotSize ulCQSlotSize n : UInt32}
    (h : prvulGCQAllocNumSlots ullRingLen ulSQSlotSize ulCQSlotSize = some n)
    (hmin : GCQ_MIN_NUM_SLOTS ≤ n) :
    ∃ k, 1 ≤ k ∧ k ≤ 30 ∧ n.toNat = 2 ^ k ∧
      ringBytes k ulSQSlotSize ulCQSlotSize % 2 ^ 32 ≤ ullRingLen.toNat ∧
      ullRingLen.toNat < ringBytes (k + 1) ulSQSlotSize ulCQSlotSize % 2 ^ 32 := by
  obtain ⟨j, -, hbelow, habove, hn⟩ :=
    allocLoop_eq_some ullRingLen ulSQSlotSize ulCQSlotSize (k := 0) rfl h
  have hval : n.toNat = 2 ^ j % 2 ^ 32 / 2 := by
    rw [hn, UInt32.toNat_shiftRight, toNat_numSlotsAt]
    rfl
  have hmin' : 2 ≤ n.toNat := UInt32.le_iff_toNat_le.mp hmin
  have hj : j < 32 := by
    by_contra hge
    have hzero : 2 ^ j % 2 ^ 32 = 0 := Nat.mod_eq_zero_of_dvd (Nat.pow_dvd_pow 2 (by omega))
    rw [hzero] at hval
    omega
  obtain ⟨k, rfl⟩ : ∃ k, j = k + 1 := by
    cases j with
    | zero => norm_num at hval; omega
    | succ k => exact ⟨k, rfl⟩
  have hpow : n.toNat = 2 ^ k := by
    rw [hval, Nat.mod_eq_of_lt (Nat.pow_lt_pow_right (by norm_num) hj), pow_succ,
      Nat.mul_div_cancel _ (by norm_num)]
  have hk : 1 ≤ k := by
    by_contra hzero
    obtain rfl : k = 0 := by omega
    norm_num at hpow
    omega
  have hfits := hbelow k (Nat.zero_le k) (by omega)
  simp only [totalLenAt, if_neg (show ¬k = 0 by omega)] at hfits
  simp only [totalLenAt, if_neg (Nat.succ_ne_zero k)] at habove
  exact ⟨k, hk, by omega, hpow, hfits, habove⟩

theorem numSlots_of_fits {ullRingLen : UInt64} {ulSQSlotSize ulCQSlotSize : UInt32} {k : ℕ}
    (hfits : ringBytes k ulSQSlotSize ulCQSlotSize ≤ ullRingLen.toNat)
    (hnext : ullRingLen.toNat < ringBytes (k + 1) ulSQSlotSize ulCQSlotSize % 2 ^ 32) :
    prvulGCQAllocNumSlots ullRingLen ulSQSlotSize ulCQSlotSize = some (numSlotsAt (k + 1) >>> 1) := by
  have hlt : ullRingLen.toNat < 2 ^ 32 := hnext.trans (Nat.mod_lt _ (by norm_num))
  have hk : k + 1 ≤ 32 := by
    by_contra hge
    have hlarge := totalLenAt_large ulSQSlotSize ulCQSlotSize (k := k + 1) (by omega)
    rw [totalLenAt, if_neg (by omega)] at hlarge
    rw [ringBytes, hlarge] at hnext
    rw [ringBytes] at hfits
    omega
  refine allocLoop_of_first ullRingLen ulSQSlotSize ulCQSlotSize (k := 0) (j := k + 1) rfl
    (Nat.zero_le _) (by omega) (fun i _ hi => ?_) ?_
  · rw [totalLenAt]
    split_ifs with hzero
    · exact Nat.zero_le _
    · have hmono : ringBytes i ulSQSlotSize ulCQSlotSize ≤ ringBytes k ulSQSlotSize ulCQSlotSize :=
        Nat.add_le_add_left (Nat.mul_le_mul_right _ (Nat.pow_le_pow_right (by norm_num)
          (by omega))) _
      exact (Nat.mod_le _ _).trans (hmono.trans hfits)
  · rw [totalLenAt, if_neg (Nat.succ_ne_zero k)]
    exact hnext

end Amr.Gcq
