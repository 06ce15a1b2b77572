/-
# What a successful attach agrees on

A consumer (`xGCQAttachConsumer` of the firmware, `gcq_attach_consumer` of the host) compares the
header in the ring memory with the layout it computed itself: magic number, major version, number
of slots and SQ slot size. The offsets are not compared, but follow; the CQ slot size is not in
the header. `attach_agreement` says what a success implies for the two layouts, and that a failed
attach changes nothing; `attach_cqSlotSize_differs` is a pair of configurations that attaches
with different CQ slot sizes.
-/
import Amr.Gcq.Host

namespace Amr.Gcq

open Transition

/-! ### The header a producer publishes -/

theorem publishHeader_mem (mem : Mem) (P : GCQInstance) :
    ∃ sqConsumed cqConsumed, (publishHeader mem P).1 =
      xGCQWriteMem32 (xGCQWriteMem32 (xGCQWriteMem32
        (prvvGCQCopyToRing mem (initHeader P).toWords P.ullRingAddr)
        P.xGCQSq.ullRingConsumedAddr sqConsumed) P.xGCQCq.ullRingConsumedAddr cqConsumed)
        P.ullRingAddr GCQ_ALLOC_MAGIC :=
  ⟨_, _, rfl⟩

theorem readHeader_publishHeader (mem : Mem) (P : GCQInstance)
    (hsq : P.xGCQSq.ullRingConsumedAddr = P.ullRingAddr + offsetofHdrConsumed .sq)
    (hcq : P.xGCQCq.ullRingConsumedAddr = P.ullRingAddr + offsetofHdrConsumed .cq) :
    ∃ sqConsumed cqConsumed, readHeader (publishHeader mem P).1 P.ullRingAddr =
      { initHeader P with
        ulHdrMagic := GCQ_ALLOC_MAGIC
        ulHdrSQConsumed := sqConsumed
        ulHdrCQConsumed := cqConsumed } := by
  obtain ⟨v, w, hmem⟩ := publishHeader_mem mem P
  refine ⟨v, w, ?_⟩
  rw [hmem, hsq, hcq]
  generalize initHeader P = hdr
  -- the eleven words and the three later writes are at distinct offsets from the ring address
  simp [readHeader, prvvGCQCopyToRing, prvvGCQCopyFromRing, xGCQReadMem32, xGCQWriteMem32,
    offsetofHdrConsumed, GCQHeader.toWords, add_assoc]

/-- Two headers agree on everything the producer's init fixes: all but the counters. -/
structure SameHeader (h h' : GCQHeader) : Prop where
  ulHdrMagic : h.ulHdrMagic = h'.ulHdrMagic
  ulHdrVersion : h.ulHdrVersion = h'.ulHdrVersion
  ulHdrNumSlots : h.ulHdrNumSlots = h'.ulHdrNumSlots
  ulHdrSQOffset : h.ulHdrSQOffset = h'.ulHdrSQOffset
  ulHdrSQSlotSize : h.ulHdrSQSlotSize = h'.ulHdrSQSlotSize
  ulHdrCQOffset : h.ulHdrCQOffset = h'.ulHdrCQOffset

theorem initInstance_header (mem : Mem) {a : GCQInitArgs} (hmode : a.xMode = .producerMode)
    (n : UInt32) :
    SameHeader (readHeader (initInstance mem a n).1 a.ullRingAddr)
      { initHeader (initInstance mem a n).2 with ulHdrMagic := GCQ_ALLOC_MAGIC } := by
  obtain ⟨v, w, h⟩ := readHeader_publishHeader
    (xGCQHWInit mem a.xMode a.ullBaseAddr a.ullRingAddr).2 (populateInstance a n)
    (by simp [populateInstance, hmode, initSq, prvvGCQInitRing])
    (by simp [populateInstance, hmode, initCq, prvvGCQInitRing])
  have hra : (populateInstance a n).ullRingAddr = a.ullRingAddr := by
    simp [populateInstance, hmode]
  rw [hra] at h
  simp only [initInstance, hmode, if_true] at h ⊢
  rw [h]
  exact ⟨rfl, rfl, rfl, rfl, rfl, rfl⟩

/-! ### Agreement of two layouts -/

/-- Two rings, seen from their ring addresses, select the same slot for every counter. -/
def SameSlots (raP : UInt64) (P : GCQRing) (raC : UInt64) (C : GCQRing) : Prop :=
  ∀ c, P.slotAddr c - raP = C.slotAddr c - raC

/-- What a successful attach implies for the rings `sqP`, `cqP` of the producer and `sqC`, `cqC`
of the consumer. -/
structure Agreement (raP : UInt64) (sqP cqP : GCQRing) (raC : UInt64) (sqC cqC : GCQRing) :
    Prop where
  numSlots : sqP.ulRingNumSlots = sqC.ulRingNumSlots ∧ cqP.ulRingNumSlots = cqC.ulRingNumSlots
  sqSlotSize : sqP.ulRingSlotSize = sqC.ulRingSlotSize
  sqOffset : sqP.ullRingSlotAddr - raP = sqC.ullRingSlotAddr - raC
  cqOffset : cqP.ullRingSlotAddr - raP = cqC.ullRingSlotAddr - raC
  sqSlots : SameSlots raP sqP raC sqC
  cqSlots_iff : SameSlots raP cqP raC cqC ↔ cqP.ulRingSlotSize = cqC.ulRingSlotSize

theorem sameSlots_of_layout {raP raC off : UInt64} {P C : GCQRing} {n size : UInt32}
    (hP : P.HasLayout (raP + off) n size) (hC : C.HasLayout (raC + off) n size) :
    SameSlots raP P raC C := by
  intro c
  obtain ⟨hP1, hP2, hP3⟩ := hP
  obtain ⟨hC1, hC2, hC3⟩ := hC
  simp only [GCQRing.slotAddr, GCQRing.slotIndex, hP1, hP2, hP3, hC1, hC2, hC3, add_assoc,
    add_sub_cancel_left]

theorem slotSize_eq_of_sameSlots {raP raC off : UInt64} {P C : GCQRing} {n sizeP sizeC : UInt32}
    {k : ℕ} (hk : 1 ≤ k) (hn : n.toNat = 2 ^ k) (hP : P.HasLayout (raP + off) n sizeP)
    (hC : C.HasLayout (raC + off) n sizeC) (h : SameSlots raP P raC C) : sizeP = sizeC := by
  obtain ⟨hP1, hP2, hP3⟩ := hP
  obtain ⟨hC1, hC2, hC3⟩ := hC
  have hone : (1 : UInt32) &&& (n - 1) = 1 := by
    refine UInt32.toNat_inj.mp ?_
    rw [WrapCounter.toNat_and_mask hn, hn]
    exact Nat.mod_eq_of_lt (Nat.one_lt_two_pow (by omega))
  have hslot := h 1
  simp only [GCQRing.slotAddr, GCQRing.slotIndex, hP1, hP2, hP3, hC1, hC2, hC3, hone, add_assoc,
    add_sub_cancel_left, add_right_inj] at hslot
  have hval : sizeP.toUInt64 = sizeC.toUInt64 := by simpa using hslot
  have hnat := congrArg UInt64.toNat hval
  rw [UInt32.toNat_toUInt64, UInt32.toNat_toUInt64] at hnat
  exact UInt32.toNat_inj.mp hnat

theorem agreement_of_layouts {raP raC : UInt64} {sqP cqP sqC cqC : GCQRing}
    (hP : LaidOut raP sqP cqP) (hC : LaidOut raC sqC cqC)
    (hn : sqP.ulRingNumSlots = sqC.ulRingNumSlots)
    (hsize : sqP.ulRingSlotSize = sqC.ulRingSlotSize) :
    Agreement raP sqP cqP raC sqC cqC := by
  obtain ⟨L, sqSize, cqSize, n, hv, hsqP, hcqP⟩ := hP
  obtain ⟨L', sqSize', cqSize', n', hv', hsqC, hcqC⟩ := hC
  obtain ⟨-, -, k, hk, -, hpow, -⟩ := slotValidation_sizes hv
  obtain rfl : n = n' := by rw [← hsqP.2.1, ← hsqC.2.1, hn]
  obtain rfl : sqSize = sqSize' := by rw [← hsqP.2.2, ← hsqC.2.2, hsize]
  rw [add_assoc] at hcqP hcqC
  exact {
    numSlots := ⟨hn, by rw [hcqP.2.1, hcqC.2.1]⟩
    sqSlotSize := hsize
    sqOffset := by rw [hsqP.1, hsqC.1, add_sub_cancel_left, add_sub_cancel_left]
    cqOffset := by rw [hcqP.1, hcqC.1, add_sub_cancel_left, add_sub_cancel_left]
    sqSlots := sameSlots_of_layout hsqP hsqC
    cqSlots_iff := by
      constructor
      · intro h
        rw [hcqP.2.2, hcqC.2.2]
        exact slotSize_eq_of_sameSlots hk hpow hcqP hcqC h
      · intro h
        rw [hcqP.2.2, hcqC.2.2] at h
        exact sameSlots_of_layout hcqP (h ▸ hcqC) }

/-! ### Attaching to a producer -/

theorem attachStatus_producer {P : GCQInstance} {hdr : GCQHeader} {sqC : GCQRing}
    (h : SameHeader hdr { initHeader P with ulHdrMagic := GCQ_ALLOC_MAGIC }) :
    attachStatus hdr sqC = .none ↔ P.xGCQSq.ulRingNumSlots = sqC.ulRingNumSlots ∧
      P.xGCQSq.ulRingSlotSize = sqC.ulRingSlotSize := by
  have hversion : GCQ_VER_MAJOR = getGcqMajor hdr.ulHdrVersion := by
    rw [h.ulHdrVersion]
    show GCQ_VER_MAJOR = getGcqMajor ((GCQ_VER_MAJOR <<< 16) + GCQ_VER_MINOR)
    decide
  unfold attachStatus
  rw [if_neg (not_not.mpr h.ulHdrMagic), if_neg (not_not.mpr hversion), h.ulHdrNumSlots,
    h.ulHdrSQSlotSize]
  split_ifs with h1 h2
  · simp only [false_iff]
    exact fun hn => h1 hn.1.symm
  · simp only [false_iff]
    exact fun hn => h2 hn.2.symm
  · simp only [true_iff]
    exact ⟨(not_not.mp h1).symm, (not_not.mp h2).symm⟩

/-- What an attach promises, given the producer's rings, the consumer's rings, its status and
whether it left the consumer unchanged. -/
structure AttachContract (raP : UInt64) (sqP cqP : GCQRing) (raC : UInt64) (sqC cqC : GCQRing)
    (xStatus : GCQErrors) (unchanged : Prop) : Prop where
  success_iff : xStatus = .none ↔
    sqP.ulRingNumSlots = sqC.ulRingNumSlots ∧ sqP.ulRingSlotSize = sqC.ulRingSlotSize
  agreement : xStatus = .none → Agreement raP sqP cqP raC sqC cqC
  failure : xStatus ≠ .none → unchanged

theorem xGCQInit_laidOut {N : ℕ} {p p' : Peer N} {handle : Option (Fin N)} {i : Fin N}
    {a : GCQInitArgs} (h : xGCQInit p handle a = some (.none, p', some i)) :
    LaidOut a.ullRingAddr (p'.pxThis.xGCQInstances i).xGCQSq
      (p'.pxThis.xGCQInstances i).xGCQCq := by
  obtain ⟨j, n, hi, rfl, hv⟩ := xGCQInit_success h
  obtain rfl : i = j := Option.some.inj hi
  rw [committed_instance]
  exact ⟨_, _, _, n, hv, initInstance_sq _ _ _, initInstance_cq _ _ _⟩

theorem xGCQInit_header {N : ℕ} {p p' : Peer N} {handle : Option (Fin N)} {i : Fin N}
    {a : GCQInitArgs} (h : xGCQInit p handle a = some (.none, p', some i))
    (hmode : a.xMode = .producerMode) :
    SameHeader (readHeader p'.mem a.ullRingAddr)
      { initHeader (p'.pxThis.xGCQInstances i) with ulHdrMagic := GCQ_ALLOC_MAGIC } := by
  obtain ⟨j, n, hi, rfl, -⟩ := xGCQInit_success h
  obtain rfl : i = j := Option.some.inj hi
  rw [committed_instance]
  exact initInstance_header p.mem hmode n

theorem SameHeader.trans {h₁ h₂ h₃ : GCQHeader} (h : SameHeader h₁ h₂) (h' : SameHeader h₂ h₃) :
    SameHeader h₁ h₃ :=
  ⟨h.1.trans h'.1, h.2.trans h'.2, h.3.trans h'.3, h.4.trans h'.4, h.5.trans h'.5,
    h.6.trans h'.6⟩

/-- The firmware's attach of an initialised instance reports the verdict of the comparisons and
changes nothing unless they all hold. -/
theorem xGCQAttachConsumer_status {N : ℕ} {p : Peer N} {i : Fin N}
    (hfw : p.pxThis.firewallsOk = true) (hinit : (p.pxThis.xGCQInstances i).iInitialised = true) :
    (xGCQAttachConsumer p (some i)).1 =
        attachStatus (readHeader p.mem (p.pxThis.xGCQInstances i).ullRingAddr)
          (p.pxThis.xGCQInstances i).xGCQSq ∧
      ((xGCQAttachConsumer p (some i)).1 ≠ .none → (xGCQAttachConsumer p (some i)).2 = p) := by
  simp only [xGCQAttachConsumer, hfw, hinit, if_true]
  split <;> rename_i heq
  · exact ⟨heq.symm, by simp⟩
  · exact ⟨rfl, fun _ => rfl⟩

theorem gcqAttachConsumer_status {p : Host.Peer} (hfw : p.firewallsOk = true)
    (hinit : p.xGCQInstance.iInitialised = true) :
    (Host.gcqAttachConsumer p true).1 =
        attachStatus (readHeader p.mem p.xGCQInstance.ullRingAddr) p.xGCQInstance.xGCQSq ∧
      ((Host.gcqAttachConsumer p true).1 ≠ .none → (Host.gcqAttachConsumer p true).2 = p) := by
  simp only [Host.gcqAttachConsumer, hfw, hinit, if_true]
  rw [if_neg (by decide)]
  split <;> rename_i heq
  · exact ⟨heq.symm, by simp⟩
  · exact ⟨rfl, fun _ => rfl⟩

/-- **Attach agreement.** Let a producer-mode init succeed, and let a consumer (an initialised
instance of a firmware driver, or of the host driver, in any state its calls can reach) attach
while the memory at its ring address shows the header that init wrote. The attach succeeds
exactly when the number of slots and the SQ slot size agree. Then the offsets of both queues and
all SQ slots agree too, and the CQ slots agree exactly when the CQ slot sizes do. An attach that
fails leaves the consumer as it was. -/
theorem attach_agreement {N : ℕ} {p p' : Peer N} {handle : Option (Fin N)} {i : Fin N}
    {a : GCQInitArgs} (hinit : xGCQInit p handle a = some (.none, p', some i))
    (hmode : a.xMode = .producerMode) :
    (∀ (M : ℕ) (mem : Mem) (s : Session M) (j : Fin M),
      Reaches Session.step always (Session.start M mem) s → j ∈ initialised s.peer.pxThis →
      SameHeader (readHeader s.peer.mem (s.peer.pxThis.xGCQInstances j).ullRingAddr)
        (readHeader p'.mem a.ullRingAddr) →
      AttachContract a.ullRingAddr (p'.pxThis.xGCQInstances i).xGCQSq
        (p'.pxThis.xGCQInstances i).xGCQCq (s.peer.pxThis.xGCQInstances j).ullRingAddr
        (s.peer.pxThis.xGCQInstances j).xGCQSq (s.peer.pxThis.xGCQInstances j).xGCQCq
        (xGCQAttachConsumer s.peer (some j)).1
        ((xGCQAttachConsumer s.peer (some j)).2 = s.peer)) ∧
    (∀ (mem : Mem) (c : Host.Peer),
      Reaches Host.step always (Host.Peer.start mem) c → c.xGCQInstance.iInitialised = true →
      SameHeader (readHeader c.mem c.xGCQInstance.ullRingAddr) (readHeader p'.mem a.ullRingAddr) →
      AttachContract a.ullRingAddr (p'.pxThis.xGCQInstances i).xGCQSq
        (p'.pxThis.xGCQInstances i).xGCQCq c.xGCQInstance.ullRingAddr c.xGCQInstance.xGCQSq
        c.xGCQInstance.xGCQCq (Host.gcqAttachConsumer c true).1
        ((Host.gcqAttachConsumer c true).2 = c)) := by
  have hP := xGCQInit_laidOut hinit
  have hhdrP := xGCQInit_header hinit hmode
  constructor
  · intro M mem s j hs hj hhdr
    have hinv := sessionInv_of_reaches hs
    have hj := mem_initialised.mp hj
    obtain ⟨hstatus, hfail⟩ := xGCQAttachConsumer_status hinv.firewalls hj
    have hiff := hstatus ▸ attachStatus_producer (hhdr.trans hhdrP)
    exact ⟨hiff, fun h => agreement_of_layouts hP (hinv.laidOut j hj) (hiff.mp h).1
      (hiff.mp h).2, hfail⟩
  · intro mem c hc hcinit hhdr
    have hinv := Host.peerInv_of_reaches hc
    obtain ⟨hstatus, hfail⟩ := gcqAttachConsumer_status hinv.1 hcinit
    have hiff := hstatus ▸ attachStatus_producer (hhdr.trans hhdrP)
    exact ⟨hiff, fun h => agreement_of_layouts hP (hinv.2 hcinit) (hiff.mp h).1 (hiff.mp h).2,
      hfail⟩

attribute [local instance] instNeZeroOne

/-- The firmware as producer, after init at `exampleArgs`. -/
def exampleProducer : Peer 1 := committed (freshPeer 1) exampleArgs 0 4

/-- A consumer over the producer's memory, with the given CQ slot size. -/
def exampleConsumerArgs (ulCQSlotSize : UInt32) : GCQInitArgs where
  xMode := .consumerMode
  ullBaseAddr := 0x90010000
  ullRingAddr := 0x38000000
  ullRingLen := 0x1000
  ulSQSlotSize := 512
  ulCQSlotSize := ulCQSlotSize

/-- The session of that consumer, after its init. -/
def exampleConsumer (ulCQSlotSize : UInt32) : Session 1 where
  peer := committed ⟨xLocalData 1, exampleProducer.mem⟩ (exampleConsumerArgs ulCQSlotSize) 0 4
  history := [(.init none (exampleConsumerArgs ulCQSlotSize), ⟨.none, some 0⟩)]

theorem exampleProducer_init :
    xGCQInit (freshPeer 1) none exampleArgs = some (.none, exampleProducer, some 0) :=
  xGCQInit_ok (by decide) (by decide) (by decide)

theorem exampleConsumer_reached {ulCQSlotSize : UInt32}
    (hv : slotValidation 0x1000 512 ulCQSlotSize = some (.ok 4)) :
    Reaches Session.step always (Session.start 1 exampleProducer.mem)
      (exampleConsumer ulCQSlotSize) := by
  have hinit : xGCQInit ⟨xLocalData 1, exampleProducer.mem⟩ none (exampleConsumerArgs ulCQSlotSize) =
      some (.none, (exampleConsumer ulCQSlotSize).peer, some 0) :=
    xGCQInit_ok (by rfl) (by rfl) hv
  refine Reaches.start.next (a := .init none (exampleConsumerArgs ulCQSlotSize)) trivial ?_
  simp only [Session.step, Session.start, exec, hinit, Option.map_some]
  rfl

/-- The agreement at a consumer of the same configuration: it attaches, to the same layout. -/
theorem attach_agreement_at_example :
    AttachContract 0x38000000 (exampleProducer.pxThis.xGCQInstances 0).xGCQSq
      (exampleProducer.pxThis.xGCQInstances 0).xGCQCq
      ((exampleConsumer 16).peer.pxThis.xGCQInstances 0).ullRingAddr
      ((exampleConsumer 16).peer.pxThis.xGCQInstances 0).xGCQSq
      ((exampleConsumer 16).peer.pxThis.xGCQInstances 0).xGCQCq
      (xGCQAttachConsumer (exampleConsumer 16).peer (some 0)).1
      ((xGCQAttachConsumer (exampleConsumer 16).peer (some 0)).2 = (exampleConsumer 16).peer) :=
  (attach_agreement exampleProducer_init rfl).1 1 exampleProducer.mem (exampleConsumer 16) 0
    (exampleConsumer_reached (by decide)) (mem_initialised.mpr (by decide))
    ⟨by decide, by decide, by decide, by decide, by decide, by decide⟩

/-- **A consumer can attach with another CQ slot size**: 512-byte SQ slots give four slots in
4 KiB with CQ slots of 16 and of 32 bytes, and the header does not tell them apart. -/
theorem attach_cqSlotSize_differs :
    ¬∀ (N M : ℕ) (p p' : Peer N) (handle : Option (Fin N)) (i : Fin N) (a : GCQInitArgs) (mem : Mem)
        (s : Session M) (j : Fin M),
      xGCQInit p handle a = some (.none, p', some i) → a.xMode = .producerMode →
      Reaches Session.step always (Session.start M mem) s → j ∈ initialised s.peer.pxThis →
      SameHeader (readHeader s.peer.mem (s.peer.pxThis.xGCQInstances j).ullRingAddr)
        (readHeader p'.mem a.ullRingAddr) →
      (xGCQAttachConsumer s.peer (some j)).1 = .none →
      (p'.pxThis.xGCQInstances i).xGCQCq.ulRingSlotSize =
          (s.peer.pxThis.xGCQInstances j).xGCQCq.ulRingSlotSize ∧
        SameSlots a.ullRingAddr (p'.pxThis.xGCQInstances i).xGCQCq
          (s.peer.pxThis.xGCQInstances j).ullRingAddr
          (s.peer.pxThis.xGCQInstances j).xGCQCq := by
  intro hall
  have hsame := hall 1 1 (freshPeer 1) exampleProducer none 0 exampleArgs exampleProducer.mem
    (exampleConsumer 32) 0 exampleProducer_init rfl (exampleConsumer_reached (by decide))
    (mem_initialised.mpr (by decide))
    ⟨by decide, by decide, by decide, by decide, by decide, by decide⟩ (by decide)
  exact absurd hsame.1 (by decide)

end Amr.Gcq
