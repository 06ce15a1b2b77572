/-
# Layout of the shared ring memory

`xGCQInit` places the header, the SQ slot array and the CQ slot array one behind the other and
addresses slots by masked counters. `LayoutSafe` says that the three lie in the caller's window
`[ringAddr, ringAddr + ringLen)`, do not overlap, and that a counter selects a slot of its own
array, the same one for two counters exactly when they are congruent modulo the number of slots.

The slot count is computed from a length taken modulo `2^32`, so success of init does not imply
a safe layout. `layoutSafe_iff` gives the inputs for which it does: some power of two of slots
fits, the next power is seen not to fit, and the rings end below the end of the address space.
-/
import Amr.Lib.AddressSpan
import Amr.Gcq.Driver

namespace Amr.Gcq

open AddressSpan

def GCQRing.slots (r : GCQRing) : Set UInt64 :=
  span r.ullRingSlotAddr (r.ulRingNumSlots.toNat * r.ulRingSlotSize.toNat)

/-- The bytes of the slot that a counter selects. -/
def GCQRing.slot (r : GCQRing) (ulCounter : UInt32) : Set UInt64 :=
  span (r.slotAddr ulCounter) r.ulRingSlotSize.toNat

def headerBytes (ullRingAddr : UInt64) : Set UInt64 := span ullRingAddr sizeofGCQHeader.toNat

/-- A counter selects a slot of its own array, and two counters select one slot exactly when they
are congruent modulo the number of slots. -/
structure SlotsSafe (r : GCQRing) : Prop where
  inside : ∀ c, r.slot c ⊆ r.slots
  same_iff : ∀ c c', r.slotAddr c = r.slotAddr c' ↔ c.toNat ≡ c'.toNat [MOD r.ulRingNumSlots.toNat]

/-- The memory layout of a sGCQ over the window of `ringLen` bytes at `ringAddr`. -/
structure LayoutSafe (ullRingAddr ullRingLen : UInt64) (sq cq : GCQRing) : Prop where
  header_inside : headerBytes ullRingAddr ⊆ window ullRingAddr ullRingLen.toNat
  sq_inside : sq.slots ⊆ window ullRingAddr ullRingLen.toNat
  cq_inside : cq.slots ⊆ window ullRingAddr ullRingLen.toNat
  header_sq : Disjoint (headerBytes ullRingAddr) sq.slots
  header_cq : Disjoint (headerBytes ullRingAddr) cq.slots
  sq_cq : Disjoint sq.slots cq.slots
  sq_slots : SlotsSafe sq
  cq_slots : SlotsSafe cq

/-- Some power of two of slots fits in the ring length, the length computed for twice as many
exceeds it even modulo `2^32`, and the rings end inside the address space. -/
def RingFits (ullRingAddr ullRingLen : UInt64) (ulSQSlotSize ulCQSlotSize : UInt32) : Prop :=
  ∃ k, 1 ≤ k ∧ ringBytes k ulSQSlotSize ulCQSlotSize ≤ ullRingLen.toNat ∧
    ullRingLen.toNat < ringBytes (k + 1) ulSQSlotSize ulCQSlotSize % 2 ^ 32 ∧
    ullRingAddr.toNat + ringBytes k ulSQSlotSize ulCQSlotSize ≤ 2 ^ 64

/-! ### One slot array -/

theorem toNat_slotAddr {r : GCQRing} {k : ℕ} (hn : r.ulRingNumSlots.toNat = 2 ^ k)
    (hpos : 0 < r.ulRingSlotSize.toNat)
    (hfit : r.ullRingSlotAddr.toNat + r.ulRingNumSlots.toNat * r.ulRingSlotSize.toNat ≤ 2 ^ 64)
    (c : UInt32) :
    (r.slotAddr c).toNat =
      r.ullRingSlotAddr.toNat + r.ulRingSlotSize.toNat * (c.toNat % r.ulRingNumSlots.toNat) := by
  have hlt : c.toNat % r.ulRingNumSlots.toNat < r.ulRingNumSlots.toNat :=
    Nat.mod_lt _ (hn ▸ Nat.two_pow_pos k)
  have hoff : r.ulRingSlotSize.toNat * (c.toNat % r.ulRingNumSlots.toNat) +
      r.ulRingSlotSize.toNat ≤ r.ulRingNumSlots.toNat * r.ulRingSlotSize.toNat := by
    calc r.ulRingSlotSize.toNat * (c.toNat % r.ulRingNumSlots.toNat) + r.ulRingSlotSize.toNat
        = (c.toNat % r.ulRingNumSlots.toNat + 1) * r.ulRingSlotSize.toNat := by ring
      _ ≤ _ := Nat.mul_le_mul_right _ hlt
  rw [GCQRing.slotAddr, GCQRing.slotIndex, UInt64.toNat_add, UInt64.toNat_mul,
    UInt32.toNat_toUInt64, UInt32.toNat_toUInt64, WrapCounter.toNat_and_mask hn,
    Nat.mod_eq_of_lt (show r.ulRingSlotSize.toNat * (c.toNat % r.ulRingNumSlots.toNat) < 2 ^ 64 by
      omega), Nat.mod_eq_of_lt (by omega)]

theorem slotsSafe {r : GCQRing} {k : ℕ} (hn : r.ulRingNumSlots.toNat = 2 ^ k)
    (hpos : 0 < r.ulRingSlotSize.toNat)
    (hfit : r.ullRingSlotAddr.toNat + r.ulRingNumSlots.toNat * r.ulRingSlotSize.toNat ≤ 2 ^ 64) :
    SlotsSafe r where
  inside c := by
    have hlt : c.toNat % r.ulRingNumSlots.toNat < r.ulRingNumSlots.toNat :=
      Nat.mod_lt _ (hn ▸ Nat.two_pow_pos k)
    have hend : r.ulRingSlotSize.toNat * (c.toNat % r.ulRingNumSlots.toNat) +
        r.ulRingSlotSize.toNat ≤ r.ulRingNumSlots.toNat * r.ulRingSlotSize.toNat := by
      rw [← Nat.mul_succ, Nat.mul_comm]
      exact Nat.mul_le_mul_right _ hlt
    have haddr := toNat_slotAddr hn hpos hfit c
    exact span_subset_span hfit (by omega) (by omega)
  same_iff c c' := by
    rw [← UInt64.toNat_inj, toNat_slotAddr hn hpos hfit, toNat_slotAddr hn hpos hfit,
      Nat.add_left_cancel_iff, Nat.mul_right_inj hpos.ne']
    rfl

/-! ### The whole layout -/

/-- The layout fields of a ring: where its slots start, how many there are and their size. -/
def GCQRing.HasLayout (r : GCQRing) (slotAddr : UInt64) (numSlots slotSize : UInt32) : Prop :=
  r.ullRingSlotAddr = slotAddr ∧ r.ulRingNumSlots = numSlots ∧ r.ulRingSlotSize = slotSize

theorem hdrOffset (ra : UInt64) : ra + sizeofGCQHeader.toUInt64 = ra + UInt64.ofNat 44 := rfl

theorem cqSlotAddr_eq (ra : UInt64) (n sq : UInt32) :
    ra + sizeofGCQHeader.toUInt64 + (n * sq).toUInt64 =
      ra + UInt64.ofNat (44 + n.toNat * sq.toNat % 2 ^ 32) := by
  have hprod : (n * sq).toUInt64 = UInt64.ofNat (n.toNat * sq.toNat % 2 ^ 32) := by
    refine UInt64.toNat_inj.mp ?_
    rw [UInt32.toNat_toUInt64, UInt32.toNat_mul, UInt64.toNat_ofNat_of_lt']
    exact (Nat.mod_lt _ (by norm_num)).trans (by norm_num [UInt64.size])
  rw [hprod, UInt64.ofNat_add, ← add_assoc]
  rfl

section

variable {ra L : UInt64} {n sqSize cqSize : UInt32} {sq cq : GCQRing}

theorem slotValidation_sizes (h : slotValidation L sqSize cqSize = some (.ok n)) :
    0 < sqSize.toNat ∧ 0 < cqSize.toNat ∧ ∃ k, 1 ≤ k ∧ k ≤ 30 ∧ n.toNat = 2 ^ k ∧
      ringBytes k sqSize cqSize % 2 ^ 32 ≤ L.toNat ∧
      L.toNat < ringBytes (k + 1) sqSize cqSize % 2 ^ 32 := by
  obtain ⟨-, -, hsq, hcq, hn, hmin⟩ := slotValidation_ok.mp h
  refine ⟨Nat.pos_of_ne_zero fun h0 => hsq (UInt32.toNat_inj.mp h0),
    Nat.pos_of_ne_zero fun h0 => hcq (UInt32.toNat_inj.mp h0), numSlots_spec hn hmin⟩

theorem layoutSafe_of_fits (h : slotValidation L sqSize cqSize = some (.ok n))
    (hsq : sq.HasLayout (ra + sizeofGCQHeader.toUInt64) n sqSize)
    (hcq : cq.HasLayout (ra + sizeofGCQHeader.toUInt64 + (n * sqSize).toUInt64) n cqSize)
    (hfits : RingFits ra L sqSize cqSize) : LayoutSafe ra L sq cq := by
  obtain ⟨hsqpos, hcqpos, k', -, -, hn', -, -⟩ := slotValidation_sizes h
  obtain ⟨k, hk, hle, hnext, hend⟩ := hfits
  -- the count that init computed is the one that fits
  have hcount := numSlots_of_fits hle hnext
  rw [(slotValidation_ok.mp h).2.2.2.2.1, Option.some.injEq] at hcount
  have hL : L.toNat < 2 ^ 32 := hnext.trans (Nat.mod_lt _ (by norm_num))
  have hbytes : ringBytes k sqSize cqSize =
      44 + 2 ^ k * sqSize.toNat + 2 ^ k * cqSize.toNat := by
    rw [ringBytes]; ring
  have hk31 : k + 1 < 32 := by
    by_contra hge
    have hpow : 2 ^ 31 ≤ 2 ^ k := Nat.pow_le_pow_right (by norm_num) (by omega)
    have hmul : 2 ^ k * 1 ≤ 2 ^ k * sqSize.toNat := Nat.mul_le_mul_left _ hsqpos
    have hmul' : 2 ^ k * 1 ≤ 2 ^ k * cqSize.toNat := Nat.mul_le_mul_left _ hcqpos
    omega
  have hn : n.toNat = 2 ^ k := by
    rw [hcount, UInt32.toNat_shiftRight, toNat_numSlotsAt,
      Nat.mod_eq_of_lt (Nat.pow_lt_pow_right (by norm_num) hk31)]
    show 2 ^ (k + 1) >>> 1 = 2 ^ k
    rw [Nat.shiftRight_one, pow_succ, Nat.mul_div_cancel _ (by norm_num)]
  have hsqPos : 0 < 2 ^ k * sqSize.toNat := Nat.mul_pos (Nat.two_pow_pos k) hsqpos
  have hcqPos : 0 < 2 ^ k * cqSize.toNat := Nat.mul_pos (Nat.two_pow_pos k) hcqpos
  obtain ⟨hsqAddr, hsqNum, hsqSize⟩ := hsq
  obtain ⟨hcqAddr, hcqNum, hcqSize⟩ := hcq
  have hprod : n.toNat * sqSize.toNat % 2 ^ 32 = 2 ^ k * sqSize.toNat := by
    rw [hn, Nat.mod_eq_of_lt (by omega)]
  rw [cqSlotAddr_eq, hprod] at hcqAddr
  have hsqVal : sq.ullRingSlotAddr.toNat = ra.toNat + 44 := by
    rw [hsqAddr, hdrOffset, toNat_add_ofNat (by omega)]
  have hcqVal : cq.ullRingSlotAddr.toNat = ra.toNat + (44 + 2 ^ k * sqSize.toNat) := by
    rw [hcqAddr, toNat_add_ofNat (by omega)]
  have hsqLen : sq.ulRingNumSlots.toNat * sq.ulRingSlotSize.toNat = 2 ^ k * sqSize.toNat := by
    rw [hsqNum, hsqSize, hn]
  have hcqLen : cq.ulRingNumSlots.toNat * cq.ulRingSlotSize.toNat = 2 ^ k * cqSize.toNat := by
    rw [hcqNum, hcqSize, hn]
  have hra := ra.toNat_lt
  have hhdr : sizeofGCQHeader.toNat = 44 := rfl
  exact {
    header_inside := by
      intro x hx
      rw [headerBytes, mem_span_iff (by omega)] at hx
      exact ⟨by omega, by omega⟩
    sq_inside := by
      intro x hx
      rw [GCQRing.slots, mem_span_iff (by omega)] at hx
      exact ⟨by omega, by omega⟩
    cq_inside := by
      intro x hx
      rw [GCQRing.slots, mem_span_iff (by omega)] at hx
      exact ⟨by omega, by omega⟩
    header_sq := (disjoint_span_iff (by omega) (by omega) (by omega) (by omega)).mpr (by omega)
    header_cq := (disjoint_span_iff (by omega) (by omega) (by omega) (by omega)).mpr (by omega)
    sq_cq := (disjoint_span_iff (by omega) (by omega) (by omega) (by omega)).mpr (by omega)
    sq_slots := slotsSafe (k := k) (by rw [hsqNum, hn]) (by rw [hsqSize]; exact hsqpos) (by omega)
    cq_slots := slotsSafe (k := k) (by rw [hcqNum, hn]) (by rw [hcqSize]; exact hcqpos) (by omega) }

theorem fits_of_layoutSafe (h : slotValidation L sqSize cqSize = some (.ok n))
    (hsq : sq.HasLayout (ra + sizeofGCQHeader.toUInt64) n sqSize)
    (hcq : cq.HasLayout (ra + sizeofGCQHeader.toUInt64 + (n * sqSize).toUInt64) n cqSize)
    (hsafe : LayoutSafe ra L sq cq) : RingFits ra L sqSize cqSize := by
  obtain ⟨hsqpos, hcqpos, k, hk, hk30, hn, -, hnext⟩ := slotValidation_sizes h
  obtain ⟨hsqAddr, hsqNum, hsqSize⟩ := hsq
  obtain ⟨hcqAddr, hcqNum, hcqSize⟩ := hcq
  have hpow : 2 ^ k ≤ 2 ^ 30 := Nat.pow_le_pow_right (by norm_num) hk30
  have hsqlt := sqSize.toNat_lt
  have hcqlt := cqSize.toNat_lt
  have hsqPos : 0 < n.toNat * sqSize.toNat := Nat.mul_pos (hn ▸ Nat.two_pow_pos k) hsqpos
  have hcqPos : 0 < n.toNat * cqSize.toNat := Nat.mul_pos (hn ▸ Nat.two_pow_pos k) hcqpos
  have hsqBound : n.toNat * sqSize.toNat ≤ 2 ^ 30 * 2 ^ 32 :=
    Nat.mul_le_mul (hn ▸ hpow) hsqlt.le
  have hcqBound : n.toNat * cqSize.toNat ≤ 2 ^ 30 * 2 ^ 32 :=
    Nat.mul_le_mul (hn ▸ hpow) hcqlt.le
  have hmod : n.toNat * sqSize.toNat % 2 ^ 32 < 2 ^ 32 := Nat.mod_lt _ (by norm_num)
  have hsqIn := hsafe.sq_inside
  rw [GCQRing.slots, hsqAddr, hsqNum, hsqSize, hdrOffset,
    span_subset_window_iff hsqPos (by omega)] at hsqIn
  rw [cqSlotAddr_eq] at hcqAddr
  have hcqIn := hsafe.cq_inside
  rw [GCQRing.slots, hcqAddr, hcqNum, hcqSize, span_subset_window_iff hcqPos (by omega)] at hcqIn
  have hsqVal : sq.ullRingSlotAddr.toNat = ra.toNat + 44 := by
    rw [hsqAddr, hdrOffset, toNat_add_ofNat (by omega)]
  have hcqVal : cq.ullRingSlotAddr.toNat = ra.toNat + (44 + n.toNat * sqSize.toNat % 2 ^ 32) := by
    rw [hcqAddr, toNat_add_ofNat (by omega)]
  have hdisj := hsafe.sq_cq
  rw [GCQRing.slots, GCQRing.slots, hsqNum, hsqSize, hcqNum, hcqSize,
    disjoint_span_iff hsqPos hcqPos (by omega) (by omega)] at hdisj
  -- so the SQ array ends where the CQ array starts, and the product did not wrap
  have hexact : n.toNat * sqSize.toNat % 2 ^ 32 = n.toNat * sqSize.toNat :=
    (Nat.mod_le _ _).antisymm (by omega)
  have hbytes : ringBytes k sqSize cqSize =
      44 + n.toNat * sqSize.toNat + n.toNat * cqSize.toNat := by
    rw [ringBytes, hn]; ring
  exact ⟨k, hk, by omega, hnext, by omega⟩

end

/-! ### The layout that init leaves -/

theorem initInstance_sq (mem : Mem) (a : GCQInitArgs) (n : UInt32) :
    (initInstance mem a n).2.xGCQSq.HasLayout (a.ullRingAddr + sizeofGCQHeader.toUInt64) n
      a.ulSQSlotSize := by
  unfold initInstance populateInstance
  split_ifs <;> exact ⟨rfl, rfl, rfl⟩

theorem initInstance_cq (mem : Mem) (a : GCQInitArgs) (n : UInt32) :
    (initInstance mem a n).2.xGCQCq.HasLayout
      (a.ullRingAddr + sizeofGCQHeader.toUInt64 + (n * a.ulSQSlotSize).toUInt64) n
      a.ulCQSlotSize := by
  unfold initInstance populateInstance
  split_ifs <;> exact ⟨rfl, rfl, rfl⟩

theorem xGCQInit_success {N : ℕ} {p p' : Peer N} {handle handle' : Option (Fin N)}
    {a : GCQInitArgs} (h : xGCQInit p handle a = some (.none, p', handle')) :
    ∃ i n, handle' = some i ∧ p' = committed p a i n ∧
      slotValidation a.ullRingLen a.ulSQSlotSize a.ulCQSlotSize = some (.ok n) := by
  rcases xGCQInit_cases h with ⟨hs, -⟩ | ⟨i, hs, -⟩ | ⟨i, n, -, -, hi, hp, -, hv⟩
  · exact absurd rfl hs
  · exact absurd rfl hs
  · exact ⟨i, n, hi, hp, hv⟩

@[simp] theorem committed_instance {N : ℕ} (p : Peer N) (a : GCQInitArgs) (i : Fin N)
    (n : UInt32) : (committed p a i n).pxThis.xGCQInstances i = (initInstance p.mem a n).2 := by
  simp [committed, GCQPrivateData.setInstance]

/-- **When init lays the ring out safely.** For every call of `xGCQInit` that succeeds, the
header and the two slot arrays lie in the caller's window, are pairwise disjoint, and every
counter selects a slot of its own array by its value modulo the number of slots, if and only if
the rings fit. -/
theorem xGCQInit_layoutSafe_iff {N : ℕ} {p p' : Peer N} {handle : Option (Fin N)} {i : Fin N}
    {a : GCQInitArgs} (h : xGCQInit p handle a = some (.none, p', some i)) :
    LayoutSafe a.ullRingAddr a.ullRingLen (p'.pxThis.xGCQInstances i).xGCQSq
        (p'.pxThis.xGCQInstances i).xGCQCq ↔
      RingFits a.ullRingAddr a.ullRingLen a.ulSQSlotSize a.ulCQSlotSize := by
  obtain ⟨j, n, hi, rfl, hv⟩ := xGCQInit_success h
  obtain rfl : i = j := Option.some.inj hi
  rw [committed_instance]
  exact ⟨fits_of_layoutSafe hv (initInstance_sq _ _ _) (initInstance_cq _ _ _),
    layoutSafe_of_fits hv (initInstance_sq _ _ _) (initInstance_cq _ _ _)⟩

/-- The layout of 512-byte SQ slots and 16-byte CQ slots in 4 KiB of shared memory. -/
def exampleArgs : GCQInitArgs where
  xMode := .producerMode
  ullBaseAddr := 0x80010000
  ullRingAddr := 0x38000000
  ullRingLen := 0x1000
  ulSQSlotSize := 512
  ulCQSlotSize := 16

/-- The driver at start-up over zeroed memory. -/
def freshPeer (N : ℕ) : Peer N := ⟨xLocalData N, fun _ => 0⟩

/-- The equivalence at a call that succeeds. -/
theorem xGCQInit_layoutSafe_iff_at_exampleArgs :
    LayoutSafe 0x38000000 0x1000
        ((committed (freshPeer 1) exampleArgs 0 4).pxThis.xGCQInstances 0).xGCQSq
        ((committed (freshPeer 1) exampleArgs 0 4).pxThis.xGCQInstances 0).xGCQCq ↔
      RingFits 0x38000000 0x1000 512 16 :=
  have hinit : xGCQInit (freshPeer 1) none exampleArgs =
      some (.none, committed (freshPeer 1) exampleArgs 0 4, some 0) :=
    xGCQInit_ok (by decide) (by decide) (by decide)
  xGCQInit_layoutSafe_iff hinit

/-- Slot sizes whose sum is just above `2^31`: the length computed for four slots of either queue
is 60 modulo `2^32`, and init accepts a ring of 60 bytes for them. -/
def wrappingArgs : GCQInitArgs where
  xMode := .producerMode
  ullBaseAddr := 0x80010000
  ullRingAddr := 0x38000000
  ullRingLen := 60
  ulSQSlotSize := 0x40000000
  ulCQSlotSize := 0x40000004

/-- **Success of init does not make the layout safe**: at `wrappingArgs` it succeeds, with slot
arrays of four gigabytes over a window of 60 bytes. -/
theorem xGCQInit_layout_unsafe :
    ¬∀ (N : ℕ) (p p' : Peer N) (handle : Option (Fin N)) (i : Fin N) (a : GCQInitArgs),
      xGCQInit p handle a = some (.none, p', some i) →
        LayoutSafe a.ullRingAddr a.ullRingLen (p'.pxThis.xGCQInstances i).xGCQSq
          (p'.pxThis.xGCQInstances i).xGCQCq := by
  intro hall
  have hv : slotValidation wrappingArgs.ullRingLen wrappingArgs.ulSQSlotSize
      wrappingArgs.ulCQSlotSize = some (.ok 4) := by decide
  have hsafe := hall 1 (freshPeer 1) (committed (freshPeer 1) wrappingArgs 0 4) none 0 wrappingArgs
    (xGCQInit_ok (by decide) (by decide) hv)
  rw [committed_instance] at hsafe
  obtain ⟨k, -, hle, -⟩ :=
    fits_of_layoutSafe hv (initInstance_sq _ _ _) (initInstance_cq _ _ _) hsafe
  have hpow : 1 ≤ 2 ^ k := Nat.one_le_two_pow
  have hbytes : 44 + 2 ^ k * 2147483652 ≤ 60 := hle
  omega

end Amr.Gcq
