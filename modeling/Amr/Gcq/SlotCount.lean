/-
# The largest ring that fits

What `prvulGCQAllocNumSlots` and the host's `gcq_get_max_slots` are for: the largest power of two
`n ≥ 2` such that a header and `n` slots of either queue fit into the ring, or a number that the
caller refuses. The comparison is made with a length modulo `2^32`, so this holds exactly when the
first ring that does not fit is seen not to: the loop otherwise doubles past it, for ever when the
ring is 4 GiB or longer.
-/
import Amr.Gcq.Slots

namespace Amr.Gcq

/-- `n` slots of either queue, behind the header, are the most that fit into a ring of `L` bytes
among the powers of two from 2 on. -/
def IsMaxSlots (L : UInt64) (sq cq n : UInt32) : Prop :=
  ∃ k, 1 ≤ k ∧ n.toNat = 2 ^ k ∧ ringBytes k sq cq ≤ L.toNat ∧
    ∀ j, 1 ≤ j → ringBytes j sq cq ≤ L.toNat → j ≤ k

/-- The computation ends with the right number of slots, or, if not even two of them fit, with a
number that its caller refuses. -/
def SlotCountRight (count : UInt64 → UInt32 → UInt32 → Option UInt32) (L : UInt64)
    (sq cq : UInt32) : Prop :=
  ∃ n, count L sq cq = some n ∧
    (IsMaxSlots L sq cq n ∨
      (∀ k, 1 ≤ k → ¬ ringBytes k sq cq ≤ L.toNat) ∧ GCQ_MIN_NUM_SLOTS > n)

/-- A ring of two slots is seen not to fit, or a ring of `2^k ≥ 2` slots fits and the next larger
one does not and is shorter than 4 GiB. -/
def NextRingSeen (L : UInt64) (sq cq : UInt32) : Prop :=
  L.toNat < ringBytes 1 sq cq % 2 ^ 32 ∨
    ∃ k, 1 ≤ k ∧ ringBytes k sq cq ≤ L.toNat ∧ L.toNat < ringBytes (k + 1) sq cq ∧
      ringBytes (k + 1) sq cq < 2 ^ 32

theorem ringBytes_mono (sq cq : UInt32) {j k : ℕ} (h : j ≤ k) :
    ringBytes j sq cq ≤ ringBytes k sq cq :=
  Nat.add_le_add_left (Nat.mul_le_mul_right _ (Nat.pow_le_pow_right (by norm_num) h)) _

theorem ringBytes_succ (k : ℕ) (sq cq : UInt32) :
    ringBytes (k + 1) sq cq + 44 = 2 * ringBytes k sq cq := by
  unfold ringBytes
  rw [pow_succ]
  ring

theorem toNat_numSlotsAt_half {k : ℕ} (hk : k + 1 < 32) :
    (numSlotsAt (k + 1) >>> 1).toNat = 2 ^ k := by
  have hhalf : (numSlotsAt (k + 1) >>> 1).toNat = (numSlotsAt (k + 1)).toNat / 2 := by
    rw [UInt32.toNat_shiftRight]
    rfl
  rw [hhalf, toNat_numSlotsAt, Nat.mod_eq_of_lt (Nat.pow_lt_pow_right (by norm_num) hk), pow_succ,
    Nat.mul_div_cancel _ (by norm_num)]

theorem lt_of_ringBytes_lt {k : ℕ} {sq cq : UInt32} (hsq : sq ≠ 0)
    (h : ringBytes k sq cq < 2 ^ 32) : k < 32 := by
  by_contra hk
  have hpow : 2 ^ 32 ≤ 2 ^ k := Nat.pow_le_pow_right (by norm_num) (by omega)
  have hpos : 1 ≤ sq.toNat + cq.toNat := by
    have : sq.toNat ≠ 0 := fun h => hsq (UInt32.toNat_inj.mp h)
    omega
  have := Nat.mul_le_mul hpow hpos
  unfold ringBytes at h
  omega

/-- **The count is right** when the first ring that does not fit is seen not to. -/
theorem slotCountRight_of_seen {L : UInt64} {sq cq : UInt32} (hsq : sq ≠ 0)
    (h : NextRingSeen L sq cq) : SlotCountRight prvulGCQAllocNumSlots L sq cq := by
  rcases h with h | ⟨k, hk, hfits, hnext, hshort⟩
  · refine ⟨numSlotsAt 1 >>> 1, ?_, .inr ⟨fun k hk hfits => ?_, by decide⟩⟩
    · refine allocLoop_of_first L sq cq (k := 0) rfl (Nat.zero_le 1) (by omega)
        (fun i _ hi => ?_) ?_
      · obtain rfl : i = 0 := by omega
        exact Nat.zero_le _
      · exact h
    · have hmono := ringBytes_mono sq cq hk
      have := Nat.mod_le (ringBytes 1 sq cq) (2 ^ 32)
      omega
  · have hk' := lt_of_ringBytes_lt hsq hshort
    refine ⟨_, numSlots_of_fits hfits ?_, .inl ⟨k, hk, toNat_numSlotsAt_half hk', hfits, ?_⟩⟩
    · rwa [Nat.mod_eq_of_lt hshort]
    · intro j _ hj
      by_contra hlt
      have := ringBytes_mono sq cq (show k + 1 ≤ j by omega)
      omega

/-- **A right count is one for which the first ring that does not fit is seen not to.** -/
theorem seen_of_slotCountRight {L : UInt64} {sq cq : UInt32}
    (h : SlotCountRight prvulGCQAllocNumSlots L sq cq) : NextRingSeen L sq cq := by
  obtain ⟨n, hn, ⟨k, hk, hpow, hfits, hmax⟩ | ⟨hnone, hmin⟩⟩ := h
  · have hmin : GCQ_MIN_NUM_SLOTS ≤ n := by
      rw [UInt32.le_iff_toNat_le, hpow]
      exact Nat.le_self_pow (by omega) 2
    obtain ⟨k', -, -, hpow', -, hnext⟩ := numSlots_spec hn hmin
    obtain rfl : k' = k := Nat.pow_right_injective le_rfl (hpow'.symm.trans hpow)
    have hexact : L.toNat < ringBytes (k' + 1) sq cq :=
      hnext.trans_le (Nat.mod_le _ _)
    refine .inr ⟨k', hk, hfits, hexact, ?_⟩
    -- a wrapped length is at most the unwrapped one less 4 GiB, which the ring exceeds
    by_contra hlong
    have hdouble := ringBytes_succ k' sq cq
    have hsub : ringBytes (k' + 1) sq cq % 2 ^ 32 ≤ ringBytes (k' + 1) sq cq - 2 ^ 32 := by
      rw [Nat.mod_eq_sub_mod (by omega)]
      exact Nat.mod_le _ _
    have := Nat.mod_lt (ringBytes (k' + 1) sq cq) (show 0 < 2 ^ 32 by norm_num)
    omega
  · obtain ⟨j, -, hbelow, habove, hval⟩ := allocLoop_eq_some L sq cq (k := 0) rfl hn
    have hzero : j ≠ 0 := by
      rintro rfl
      exact absurd habove (Nat.not_lt_zero _)
    left
    by_cases hone : j = 1
    · subst hone
      exact habove
    have hsmall : n.toNat < 2 := UInt32.lt_iff_toNat_lt.mp hmin
    have hlarge : 32 ≤ j := by
      by_contra hlt
      obtain ⟨k, rfl⟩ : ∃ k, j = k + 1 := ⟨j - 1, by omega⟩
      rw [hval, toNat_numSlotsAt_half (by omega)] at hsmall
      have := Nat.pow_le_pow_right (show 0 < 2 by norm_num) (show 1 ≤ k by omega)
      omega
    -- a length that stays below the header's for seven doublings has not been reached at all
    have habove' : L.toNat < 44 := by
      rwa [totalLenAt_large sq cq hlarge] at habove
    have hwrap : ∀ i, 1 ≤ i → i < 8 →
        (44 + 2 ^ i * (sq.toNat + cq.toNat)) % 2 ^ 32 < 44 := by
      intro i hi hi'
      have := hbelow i (Nat.zero_le _) (by omega)
      rw [totalLenAt, if_neg (by omega)] at this
      omega
    have h1 := hwrap 1 (by norm_num) (by norm_num)
    have h2 := hwrap 2 (by norm_num) (by norm_num)
    have h3 := hwrap 3 (by norm_num) (by norm_num)
    have h4 := hwrap 4 (by norm_num) (by norm_num)
    have h5 := hwrap 5 (by norm_num) (by norm_num)
    have h6 := hwrap 6 (by norm_num) (by norm_num)
    have h7 := hwrap 7 (by norm_num) (by norm_num)
    norm_num at h1 h2 h3 h4 h5 h6 h7
    omega

/-- **The slot count, exactly.** For slot sizes that init admits, the firmware's and the host's
computation both end with the largest power of two that fits, or with a number that the caller
refuses when there is none, if and only if the first ring that does not fit is seen not to. -/
theorem slotCount_right_iff (L : UInt64) (sq cq : UInt32) (hsq : sq ≠ 0) (_hcq : cq ≠ 0)
    (_halign : sq % 4 = 0 ∧ cq % 4 = 0) :
    SlotCountRight prvulGCQAllocNumSlots L sq cq ∧ SlotCountRight gcqGetMaxSlots L sq cq ↔
      NextRingSeen L sq cq :=
  ⟨fun h => seen_of_slotCountRight h.1, fun h =>
    ⟨slotCountRight_of_seen hsq h, slotCountRight_of_seen hsq h⟩⟩

theorem slotCount_right_at_page :
    SlotCountRight prvulGCQAllocNumSlots 0x1000 512 16 ∧
      SlotCountRight gcqGetMaxSlots 0x1000 512 16 :=
  (slotCount_right_iff 0x1000 512 16 (by decide) (by decide) (by decide)).mpr
    (.inr ⟨2, by norm_num, by decide, by decide, by decide⟩)

/-- In a ring of 4 GiB the computation never ends: every length it compares is shorter. -/
theorem slotCount_endless :
    ¬ ∀ (L : UInt64) (sq cq : UInt32), sq ≠ 0 → cq ≠ 0 → sq % 4 = 0 ∧ cq % 4 = 0 →
      SlotCountRight prvulGCQAllocNumSlots L sq cq := by
  intro hall
  obtain ⟨n, hn, -⟩ := hall 0x100000000 512 16 (by decide) (by decide) (by decide)
  have hnone : prvulGCQAllocNumSlots 0x100000000 512 16 = none := by decide +kernel
  rw [hnone] at hn
  cases hn

end Amr.Gcq
