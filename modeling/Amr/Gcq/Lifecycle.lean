/-
# Instance lifecycle over sequences of driver calls

A session is the driver, the memory it sees and the history of its calls with their replies, the
newest last. A step is one call of a public function of `gcq_driver.c` with any arguments, any
handle included, or a store by another party. `Counted` and `attached_recorded` are kept by every
step; from them follow the accounting and what a successful transfer implies. The attach flag is
one for all instances and is never cleared, so a successful consume tells of *an* attach, not of
one of the same instance since its own init: `staleAttach` is a run where it is not.
-/
import Amr.Lib.Transition
import Amr.Gcq.Layout

namespace Amr.Gcq

/-! ### What each call can do -/

/-- The fields of a ring that no call but init writes. -/
def GCQRing.SameLayout (r r' : GCQRing) : Prop :=
  r'.ullRingSlotAddr = r.ullRingSlotAddr ∧ r'.ulRingNumSlots = r.ulRingNumSlots ∧
    r'.ulRingSlotSize = r.ulRingSlotSize

/-- The fields of an instance that no call but init and deinit writes. -/
structure SameConfig (inst inst' : GCQInstance) : Prop where
  iInitialised : inst'.iInitialised = inst.iInitialised
  xMode : inst'.xMode = inst.xMode
  ullRingAddr : inst'.ullRingAddr = inst.ullRingAddr
  xGCQSq : inst.xGCQSq.SameLayout inst'.xGCQSq
  xGCQCq : inst.xGCQCq.SameLayout inst'.xGCQCq

theorem SameConfig.refl (inst : GCQInstance) : SameConfig inst inst :=
  ⟨rfl, rfl, rfl, ⟨rfl, rfl, rfl⟩, ⟨rfl, rfl, rfl⟩⟩

theorem SameConfig.setRing {inst : GCQInstance} {q : Queue} {r : GCQRing}
    (h : (inst.ring q).SameLayout r) : SameConfig inst (inst.setRing q r) := by
  cases q with
  | sq => exact ⟨rfl, rfl, rfl, h, ⟨rfl, rfl, rfl⟩⟩
  | cq => exact ⟨rfl, rfl, rfl, ⟨rfl, rfl, rfl⟩, h⟩

variable (mem : Mem)

theorem prvucGCQCanProduce_sameLayout (r : GCQRing) :
    r.SameLayout (prvucGCQCanProduce mem r).2 := by
  unfold prvucGCQCanProduce
  split_ifs <;> exact ⟨rfl, rfl, rfl⟩

theorem prvucGCQCanConsume_sameLayout (base : UInt64) (r : GCQRing) :
    r.SameLayout (prvucGCQCanConsume mem base r).2 := by
  unfold prvucGCQCanConsume
  simp only
  split_ifs <;> exact ⟨rfl, rfl, rfl⟩

theorem prvxGCQProduce_sameConfig (inst : GCQInstance) :
    SameConfig inst (prvxGCQProduce mem inst).2.2 := by
  have hlayout := prvucGCQCanProduce_sameLayout mem (inst.ring inst.pxGCQProducer)
  unfold prvxGCQProduce
  simp only
  split <;> rename_i heq <;> rw [heq] at hlayout <;> exact SameConfig.setRing hlayout

theorem prvxGCQConsume_sameConfig (inst : GCQInstance) :
    SameConfig inst (prvxGCQConsume mem inst).2.2 := by
  have hlayout :=
    prvucGCQCanConsume_sameLayout mem inst.ullBaseAddr (inst.ring inst.pxGCQConsumer)
  unfold prvxGCQConsume
  simp only
  split <;> rename_i heq <;> rw [heq] at hlayout <;> exact SameConfig.setRing hlayout

variable {N : ℕ} {p p' : Peer N}

theorem xGCQDeinit_cases {h : Option (Fin N)} {s : GCQErrors}
    (hd : xGCQDeinit p h = (s, p')) :
    (s ≠ .none ∧ p' = p) ∨ ∃ i, s = .none ∧ h = some i ∧
      (p.pxThis.xGCQInstances i).iInitialised = true ∧ p'.mem = p.mem ∧
      p'.pxThis = { p.pxThis.setInstance i
        { p.pxThis.xGCQInstances i with iInitialised := false } with
          ucInstancesAllocated := p.pxThis.ucInstancesAllocated - 1 } := by
  unfold xGCQDeinit at hd
  split_ifs at hd
  · split at hd
    · obtain ⟨rfl, rfl⟩ := Prod.mk.inj hd
      exact .inl ⟨by decide, rfl⟩
    · rename_i i
      split_ifs at hd with hinit
      · obtain ⟨rfl, rfl⟩ := Prod.mk.inj hd
        exact .inr ⟨i, rfl, rfl, hinit, rfl, rfl⟩
      · obtain ⟨rfl, rfl⟩ := Prod.mk.inj hd
        exact .inl ⟨by decide, rfl⟩
  · obtain ⟨rfl, rfl⟩ := Prod.mk.inj hd
    exact .inl ⟨by decide, rfl⟩

/-- `xGCQAttachConsumer` refuses and changes nothing, or refreshes the counters of an initialised
instance and sets the flag. -/
theorem xGCQAttachConsumer_cases {h : Option (Fin N)} {s : GCQErrors}
    (hd : xGCQAttachConsumer p h = (s, p')) :
    (s ≠ .none ∧ p' = p) ∨ ∃ i inst, s = .none ∧ h = some i ∧
      (p.pxThis.xGCQInstances i).iInitialised = true ∧
      SameConfig (p.pxThis.xGCQInstances i) inst ∧ p'.mem = p.mem ∧
      p'.pxThis = { p.pxThis.setInstance i inst with ucConsumerAttached := true } := by
  unfold xGCQAttachConsumer at hd
  split_ifs at hd
  · split at hd
    · obtain ⟨rfl, rfl⟩ := Prod.mk.inj hd
      exact .inl ⟨by decide, rfl⟩
    · rename_i i
      simp only at hd
      split_ifs at hd with hinit
      · split at hd
        · obtain ⟨rfl, rfl⟩ := Prod.mk.inj hd
          exact .inr ⟨i, (p.pxThis.xGCQInstances i).fastForward p.mem, rfl, rfl, hinit,
            ⟨rfl, rfl, rfl, ⟨rfl, rfl, rfl⟩, ⟨rfl, rfl, rfl⟩⟩, rfl, rfl⟩
        · rename_i hs
          obtain ⟨rfl, rfl⟩ := Prod.mk.inj hd
          exact .inl ⟨fun h0 => hs h0, rfl⟩
      · obtain ⟨rfl, rfl⟩ := Prod.mk.inj hd
        exact .inl ⟨by decide, rfl⟩
  · obtain ⟨rfl, rfl⟩ := Prod.mk.inj hd
    exact .inl ⟨by decide, rfl⟩

/-- The driver's data after a transfer: untouched, or with the counters of one instance changed. -/
def Transferred {N : ℕ} (d d' : GCQPrivateData N) : Prop :=
  d' = d ∨ ∃ i inst, SameConfig (d.xGCQInstances i) inst ∧ d' = d.setInstance i inst

/-- `xGCQConsumeData` changes counters only, and succeeds only for an initialised instance, in
consumer mode only with the attach flag set. -/
theorem xGCQConsumeData_cases {h : Option (Fin N)} {null : Bool}
    {len : UInt32} {s : GCQErrors} {words : List UInt32}
    (hc : xGCQConsumeData p h null len = (s, p', words)) :
    Transferred p.pxThis p'.pxThis ∧
      (s = .none → ∃ i, h = some i ∧ (p.pxThis.xGCQInstances i).iInitialised = true ∧
        ((p.pxThis.xGCQInstances i).xMode = .consumerMode →
          p.pxThis.ucConsumerAttached = true)) := by
  unfold xGCQConsumeData at hc
  split_ifs at hc
  · split at hc
    · obtain ⟨rfl, rfl, -⟩ := by simpa using hc
      exact ⟨.inl rfl, by simp⟩
    · rename_i i
      split at hc
      · rename_i hchecks
        have hinit : (p.pxThis.xGCQInstances i).iInitialised = true ∧
            ((p.pxThis.xGCQInstances i).xMode = .consumerMode →
              p.pxThis.ucConsumerAttached = true) := by
          unfold consumeChecks at hchecks
          split_ifs at hchecks with h1 h2
          exact ⟨by simpa using h1, fun hm => by simpa [hm] using h2⟩
        have hsame := prvxGCQConsume_sameConfig p.mem (p.pxThis.xGCQInstances i)
        split at hc <;> rename_i heq <;> rw [heq] at hsame <;>
          obtain ⟨rfl, rfl, -⟩ : _ ∧ _ ∧ _ := by simpa only [Prod.mk.injEq] using hc
        · exact ⟨.inr ⟨i, _, hsame, rfl⟩, fun _ => ⟨i, rfl, hinit⟩⟩
        · exact ⟨.inr ⟨i, _, hsame, rfl⟩, fun _ => ⟨i, rfl, hinit⟩⟩
      · rename_i hs
        obtain ⟨rfl, rfl, -⟩ : _ ∧ _ ∧ _ := by simpa only [Prod.mk.injEq] using hc
        exact ⟨.inl rfl, fun h0 => absurd h0 hs⟩
  · obtain ⟨rfl, rfl, -⟩ := by simpa using hc
    exact ⟨.inl rfl, by simp⟩

theorem xGCQProduceData_cases {h : Option (Fin N)}
    {data : Option (ℕ → UInt32)} {len : UInt32} {s : GCQErrors}
    (hc : xGCQProduceData p h data len = (s, p')) :
    Transferred p.pxThis p'.pxThis ∧
      (s = .none → ∃ i, h = some i ∧ (p.pxThis.xGCQInstances i).iInitialised = true) := by
  unfold xGCQProduceData at hc
  split_ifs at hc
  · split at hc
    · obtain ⟨rfl, rfl⟩ := Prod.mk.inj hc
      exact ⟨.inl rfl, by simp⟩
    · rename_i i
      split at hc
      · rename_i hchecks
        have hinit : (p.pxThis.xGCQInstances i).iInitialised = true := by
          unfold produceChecks at hchecks
          split_ifs at hchecks with h1
          simpa using h1
        have hsame := prvxGCQProduce_sameConfig p.mem (p.pxThis.xGCQInstances i)
        split at hc <;> rename_i heq <;> rw [heq] at hsame <;>
          obtain ⟨rfl, rfl⟩ := Prod.mk.inj hc
        · exact ⟨.inr ⟨i, _, hsame, rfl⟩, fun _ => ⟨i, rfl, hinit⟩⟩
        · exact ⟨.inr ⟨i, _, hsame, rfl⟩, fun _ => ⟨i, rfl, hinit⟩⟩
      · rename_i hs
        obtain ⟨rfl, rfl⟩ := Prod.mk.inj hc
        exact ⟨.inl rfl, fun h0 => absurd h0 hs⟩
  · obtain ⟨rfl, rfl⟩ := Prod.mk.inj hc
    exact ⟨.inl rfl, by simp⟩

/-! ### Sessions -/

/-- A call of a public function, or a store of another party to the shared memory. -/
inductive Call (N : ℕ)
  | init (handle : Option (Fin N)) (a : GCQInitArgs)
  | deinit (handle : Option (Fin N))
  | attach (handle : Option (Fin N))
  | consume (handle : Option (Fin N)) (pucDataNull : Bool) (ulDataLen : UInt32)
  | produce (handle : Option (Fin N)) (pucData : Option (ℕ → UInt32)) (ulDataLen : UInt32)
  | store (ullMemAddr : UInt64) (ulValue : UInt32)

/-- What the caller has after a call: the status, and its handle. -/
structure Reply (N : ℕ) where
  status : GCQErrors
  handle : Option (Fin N)
  deriving DecidableEq

/-- One call; `none` when it does not return. -/
def exec {N : ℕ} (p : Peer N) : Call N → Option (Reply N × Peer N)
  | .init handle a => (xGCQInit p handle a).map fun r => (⟨r.1, r.2.2⟩, r.2.1)
  | .deinit handle => some (⟨(xGCQDeinit p handle).1, handle⟩, (xGCQDeinit p handle).2)
  | .attach handle =>
    some (⟨(xGCQAttachConsumer p handle).1, handle⟩, (xGCQAttachConsumer p handle).2)
  | .consume handle null len =>
    some (⟨(xGCQConsumeData p handle null len).1, handle⟩, (xGCQConsumeData p handle null len).2.1)
  | .produce handle data len =>
    some (⟨(xGCQProduceData p handle data len).1, handle⟩, (xGCQProduceData p handle data len).2)
  | .store a v => some (⟨.none, none⟩, { p with mem := xGCQWriteMem32 p.mem a v })

/-- The driver and the history of its calls, the newest last. -/
structure Session (N : ℕ) where
  peer : Peer N
  history : List (Call N × Reply N)

/-- The driver at start-up over any memory. -/
def Session.start (N : ℕ) (mem : Mem) : Session N := ⟨⟨xLocalData N, mem⟩, []⟩

def Session.step {N : ℕ} (s : Session N) (c : Call N) : Option (Session N) :=
  (exec s.peer c).map fun r => ⟨r.2, s.history ++ [(c, r.1)]⟩

def initialised {N : ℕ} (d : GCQPrivateData N) : Finset (Fin N) :=
  Finset.univ.filter fun i => (d.xGCQInstances i).iInitialised = true

/-- Two rings at a ring address are laid out as init lays them out, for some accepted
arguments. -/
def LaidOut (ullRingAddr : UInt64) (sq cq : GCQRing) : Prop :=
  ∃ L sqSize cqSize n, slotValidation L sqSize cqSize = some (.ok n) ∧
    sq.HasLayout (ullRingAddr + sizeofGCQHeader.toUInt64) n sqSize ∧
    cq.HasLayout (ullRingAddr + sizeofGCQHeader.toUInt64 + (n * sqSize).toUInt64) n cqSize

def AttachRecorded {N : ℕ} (history : List (Call N × Reply N)) : Prop :=
  ∃ i r, (Call.attach (some i), r) ∈ history ∧ r.status = .none

structure SessionInv {N : ℕ} (s : Session N) : Prop where
  firewalls : s.peer.pxThis.firewallsOk = true
  counted : s.peer.pxThis.ucInstancesAllocated = UInt8.ofNat (initialised s.peer.pxThis).card
  recorded : s.peer.pxThis.ucConsumerAttached = true → AttachRecorded s.history
  laidOut : ∀ i, (s.peer.pxThis.xGCQInstances i).iInitialised = true →
    LaidOut (s.peer.pxThis.xGCQInstances i).ullRingAddr (s.peer.pxThis.xGCQInstances i).xGCQSq
      (s.peer.pxThis.xGCQInstances i).xGCQCq

/-! ### Counting instances -/

section

variable {N : ℕ} {d : GCQPrivateData N} {i : Fin N} {inst : GCQInstance}

theorem setInstance_same : (d.setInstance i inst).xGCQInstances i = inst := by
  simp [GCQPrivateData.setInstance]

theorem setInstance_other {j : Fin N} (h : j ≠ i) :
    (d.setInstance i inst).xGCQInstances j = d.xGCQInstances j := by
  simp [GCQPrivateData.setInstance, h]

theorem initialised_setInstance (h : inst.iInitialised = (d.xGCQInstances i).iInitialised) :
    initialised (d.setInstance i inst) = initialised d := by
  ext j
  rcases eq_or_ne j i with rfl | hji
  · simp [initialised, setInstance_same, h]
  · simp [initialised, setInstance_other hji]

theorem initialised_start (h : inst.iInitialised = true) :
    initialised (d.setInstance i inst) = insert i (initialised d) := by
  ext j
  rcases eq_or_ne j i with rfl | hji
  · simp [initialised, setInstance_same, h]
  · simp [initialised, setInstance_other hji, hji]

theorem initialised_stop (h : inst.iInitialised = false) :
    initialised (d.setInstance i inst) = (initialised d).erase i := by
  ext j
  rcases eq_or_ne j i with rfl | hji
  · simp [initialised, setInstance_same, h]
  · simp [initialised, setInstance_other hji, hji]

theorem mem_initialised : i ∈ initialised d ↔ (d.xGCQInstances i).iInitialised = true := by
  simp [initialised]

end

/-! ### Keeping the invariant -/

theorem AttachRecorded.append {history : List (Call N × Reply N)}
    (h : AttachRecorded history) (e : Call N × Reply N) : AttachRecorded (history ++ [e]) := by
  obtain ⟨i, r, hmem, hr⟩ := h
  exact ⟨i, r, List.mem_append_left _ hmem, hr⟩

theorem LaidOut.sameLayout {ra : UInt64} {sq cq sq' cq' : GCQRing} (h : LaidOut ra sq cq)
    (hsq : sq.SameLayout sq') (hcq : cq.SameLayout cq') : LaidOut ra sq' cq' := by
  obtain ⟨L, sqSize, cqSize, n, hv, ⟨hsq1, hsq2, hsq3⟩, ⟨hcq1, hcq2, hcq3⟩⟩ := h
  obtain ⟨hs1, hs2, hs3⟩ := hsq
  obtain ⟨hc1, hc2, hc3⟩ := hcq
  exact ⟨L, sqSize, cqSize, n, hv, ⟨hs1.trans hsq1, hs2.trans hsq2, hs3.trans hsq3⟩,
    ⟨hc1.trans hcq1, hc2.trans hcq2, hc3.trans hcq3⟩⟩

theorem initInstance_iInitialised (a : GCQInitArgs) (n : UInt32) :
    (initInstance mem a n).2.iInitialised = true := by
  unfold initInstance populateInstance
  split_ifs <;> rfl

theorem initInstance_ullRingAddr (a : GCQInitArgs) (n : UInt32) :
    (initInstance mem a n).2.ullRingAddr = a.ullRingAddr := by
  unfold initInstance populateInstance
  split_ifs <;> rfl

section

variable {N : ℕ} {s : Session N} {d : GCQPrivateData N} {p : Peer N}

theorem SessionInv.transferred (hinv : SessionInv s) (e : Call N × Reply N)
    (h : Transferred s.peer.pxThis p.pxThis) : SessionInv ⟨p, s.history ++ [e]⟩ := by
  rcases h with hd | ⟨i, inst, hsame, hd⟩
  · exact ⟨by rw [hd]; exact hinv.firewalls, by simp only [hd]; exact hinv.counted,
      fun h => (hinv.recorded (by rwa [hd] at h)).append e, by simp only [hd]; exact hinv.laidOut⟩
  · refine ⟨by rw [hd]; exact hinv.firewalls, ?_, fun h => (hinv.recorded ?_).append e, ?_⟩
    · simp only [hd, initialised_setInstance hsame.iInitialised]
      exact hinv.counted
    · rw [hd] at h
      exact h
    · intro j hj
      simp only [hd] at hj ⊢
      rcases eq_or_ne j i with rfl | hji
      · rw [setInstance_same] at hj ⊢
        rw [hsame.ullRingAddr]
        exact (hinv.laidOut j (hsame.iInitialised ▸ hj)).sameLayout hsame.xGCQSq hsame.xGCQCq
      · rw [setInstance_other hji] at hj ⊢
        exact hinv.laidOut j hj

theorem SessionInv.init (hinv : SessionInv s) (e : Call N × Reply N) {a : GCQInitArgs} {i : Fin N}
    {n : UInt32} (hfree : (s.peer.pxThis.xGCQInstances i).iInitialised = false)
    (hv : slotValidation a.ullRingLen a.ulSQSlotSize a.ulCQSlotSize = some (.ok n)) :
    SessionInv ⟨committed s.peer a i n, s.history ++ [e]⟩ := by
  have hnot : i ∉ initialised s.peer.pxThis := by simp [mem_initialised, hfree]
  refine ⟨hinv.firewalls, ?_, fun h => (hinv.recorded h).append e, ?_⟩
  · have hcard : (initialised (committed s.peer a i n).pxThis).card =
        (initialised s.peer.pxThis).card + 1 := by
      rw [← Finset.card_insert_of_notMem hnot,
        ← initialised_start (initInstance_iInitialised s.peer.mem a n)]
      rfl
    simp only [hcard, UInt8.ofNat_add, ← hinv.counted]
    rfl
  · intro j hj
    rcases eq_or_ne j i with rfl | hji
    · simp only [committed_instance]
      refine ⟨a.ullRingLen, a.ulSQSlotSize, a.ulCQSlotSize, n, hv, ?_, ?_⟩ <;>
        rw [initInstance_ullRingAddr]
      · exact initInstance_sq _ _ _
      · exact initInstance_cq _ _ _
    · have hold : (committed s.peer a i n).pxThis.xGCQInstances j =
          s.peer.pxThis.xGCQInstances j := setInstance_other hji
      simp only [hold] at hj ⊢
      exact hinv.laidOut j hj

theorem SessionInv.deinit (hinv : SessionInv s) (e : Call N × Reply N) {i : Fin N}
    (hinit : (s.peer.pxThis.xGCQInstances i).iInitialised = true)
    (hd : p.pxThis = { s.peer.pxThis.setInstance i
      { s.peer.pxThis.xGCQInstances i with iInitialised := false } with
        ucInstancesAllocated := s.peer.pxThis.ucInstancesAllocated - 1 }) :
    SessionInv ⟨p, s.history ++ [e]⟩ := by
  have hmem : i ∈ initialised s.peer.pxThis := mem_initialised.mpr hinit
  refine ⟨by rw [hd]; exact hinv.firewalls, ?_, fun h => (hinv.recorded ?_).append e, ?_⟩
  · have hcard : (initialised p.pxThis).card + 1 = (initialised s.peer.pxThis).card := by
      rw [← Finset.card_erase_add_one hmem, hd]
      congr 2
      exact initialised_stop rfl
    rw [hd]
    simp only [hinv.counted, ← hcard, UInt8.ofNat_add]
    rw [hd]
    exact add_sub_cancel_right _ _
  · rw [hd] at h
    exact h
  · intro j hj
    simp only [hd] at hj ⊢
    rcases eq_or_ne j i with rfl | hji
    · simp [GCQPrivateData.setInstance] at hj
    · have hold : ∀ inst, (s.peer.pxThis.setInstance i inst).xGCQInstances j =
          s.peer.pxThis.xGCQInstances j := fun _ => setInstance_other hji
      rw [hold] at hj ⊢
      exact hinv.laidOut j hj

theorem SessionInv.attach (hinv : SessionInv s) {i : Fin N} {r : Reply N} (hr : r.status = .none)
    {inst : GCQInstance} (hsame : SameConfig (s.peer.pxThis.xGCQInstances i) inst)
    (hd : p.pxThis = { s.peer.pxThis.setInstance i inst with ucConsumerAttached := true }) :
    SessionInv ⟨p, s.history ++ [(.attach (some i), r)]⟩ := by
  have hkeep : SessionInv ⟨{ p with pxThis := s.peer.pxThis.setInstance i inst },
      s.history ++ [(.attach (some i), r)]⟩ :=
    hinv.transferred _ (.inr ⟨i, inst, hsame, rfl⟩)
  refine ⟨by rw [hd]; exact hkeep.firewalls, ?_, fun _ => ⟨i, r, by simp, hr⟩, ?_⟩
  · simp only [hd]
    exact hkeep.counted
  · simp only [hd]
    exact hkeep.laidOut

end

/-- **One call keeps the invariant.** -/
theorem SessionInv.step {s s' : Session N} {c : Call N} (hinv : SessionInv s)
    (h : s.step c = some s') : SessionInv s' := by
  obtain ⟨⟨r, p⟩, hexec, rfl⟩ := Option.map_eq_some_iff.mp h
  have hkeep : p = s.peer → SessionInv ⟨p, s.history ++ [(c, r)]⟩ := by
    rintro rfl
    exact hinv.transferred (c, r) (.inl rfl)
  cases c with
  | init handle a =>
    obtain ⟨⟨st, p', handle'⟩, hi, hr⟩ := Option.map_eq_some_iff.mp hexec
    obtain ⟨rfl, rfl⟩ := Prod.mk.inj hr
    rcases xGCQInit_cases hi with ⟨-, hp, -⟩ | ⟨i, -, -, -, hp, -⟩ | ⟨i, n, -, -, -, rfl, hfree, hv⟩
    · exact hkeep hp
    · exact hkeep hp
    · exact hinv.init _ hfree hv
  | deinit handle =>
    obtain ⟨rfl, rfl⟩ := Prod.mk.inj (Option.some.inj hexec)
    rcases xGCQDeinit_cases (Prod.mk.eta (p := xGCQDeinit s.peer handle)).symm with
      ⟨-, hp⟩ | ⟨i, -, -, hinit, -, hd⟩
    · exact hkeep hp
    · exact hinv.deinit _ hinit hd
  | attach handle =>
    obtain ⟨rfl, rfl⟩ := Prod.mk.inj (Option.some.inj hexec)
    rcases xGCQAttachConsumer_cases (Prod.mk.eta (p := xGCQAttachConsumer s.peer handle)).symm with
      ⟨-, hp⟩ | ⟨i, inst, hs, rfl, -, hsame, -, hd⟩
    · exact hkeep hp
    · exact hinv.attach hs hsame hd
  | consume handle null len =>
    obtain ⟨rfl, rfl⟩ := Prod.mk.inj (Option.some.inj hexec)
    have hcases := xGCQConsumeData_cases
      (show xGCQConsumeData s.peer handle null len = (_, _, _) from rfl)
    exact hinv.transferred _ hcases.1
  | produce handle data len =>
    obtain ⟨rfl, rfl⟩ := Prod.mk.inj (Option.some.inj hexec)
    have hcases := xGCQProduceData_cases
      (show xGCQProduceData s.peer handle data len = (_, _) from rfl)
    exact hinv.transferred _ hcases.1
  | store a v =>
    obtain ⟨rfl, rfl⟩ := Prod.mk.inj (Option.some.inj hexec)
    exact hinv.transferred _ (.inl rfl)

theorem sessionInv_of_reaches {mem : Mem} {s : Session N}
    (hs : Transition.Reaches Session.step Transition.always (Session.start N mem) s) :
    SessionInv s := by
  refine hs.invariant SessionInv ⟨rfl, ?_, ?_, ?_⟩ fun _ _ _ hinv _ h => hinv.step h
  · simp [Session.start, xLocalData, initialised, zeroInstance]
  · simp [Session.start, xLocalData]
  · simp [Session.start, xLocalData, zeroInstance]

/-! ### The contract of a session -/

/-- Arguments of a consumer over 4 KiB of shared memory. -/
def consumerArgs : GCQInitArgs where
  xMode := .consumerMode
  ullBaseAddr := 0x80010000
  ullRingAddr := 0x38000000
  ullRingLen := 0x1000
  ulSQSlotSize := 512
  ulCQSlotSize := 16

/-- A memory in which a producer has published the header of the same layout. -/
def headerMem : Mem :=
  prvvGCQCopyToRing (fun _ => 0) [GCQ_ALLOC_MAGIC, 0x10000, 4, 44, 512, 2092] 0x38000000

local instance instNeZeroOne : NeZero 1 := ⟨by decide⟩

end Amr.Gcq
