/-
# The sGCQ driver of the host

`src/sw/AMI/driver/ami_gcq.c`: the consumer-mode twin of the firmware's driver, with one instance
and a state field in place of the instance array. It produces onto the SQ and consumes from the
CQ. Unlike the firmware's, its argument checks do not stop at the first failure: each failing
check overwrites the status. A handle is `NULL` or the one instance, so it is a `Bool` that tells
whether it is set. The memory copies of a message are taken word by word.

Left out: the interface layer around these functions (`gcq_open`, `gcq_close`, `gcq_read` and
`gcq_write`, which check the interface state and call them), the firewalls of the instance, the
rings' back pointers and the debug prints.
-/
import Amr.Gcq.Lifecycle

namespace Amr.Gcq.Host

inductive GCQState
  | closed
  | init
  | opened
  | attached
  deriving DecidableEq, Repr

def GCQ_INSTANCE_UPPER_FIREWALL : UInt32 := 0xBEEFCAFE
def GCQ_INSTANCE_LOWER_FIREWALL : UInt32 := 0xDEADFACE
def GCQ_CONSUMER_CQ_TAIL_POINTER : UInt64 := 0x0100
def GCQ_CONSUMER_SQ_TAIL_POINTER : UInt64 := 0x0000

/-- `GCQInstance` of the host; its producer ring is the SQ and its consumer ring the CQ. -/
structure GCQInstance where
  iInitialised : Bool
  ullBaseAddr : UInt64
  ullRingAddr : UInt64
  ulConsumerSlotSize : UInt32
  ulProducerSlotSize : UInt32
  xGCQSq : GCQRing
  xGCQCq : GCQRing
  xState : GCQState
  deriving DecidableEq, Repr

/-- `GCQPrivateData` of the host, and the memory its I/O accessors reach. -/
structure Peer where
  ulUpperFirewall : UInt32
  ucConsumerAttached : Bool
  xGCQInstance : GCQInstance
  ulLowerFirewall : UInt32
  mem : Mem

def Peer.start (mem : Mem) : Peer where
  ulUpperFirewall := GCQ_INSTANCE_UPPER_FIREWALL
  ucConsumerAttached := false
  xGCQInstance :=
    { iInitialised := false
      ullBaseAddr := 0
      ullRingAddr := 0
      ulConsumerSlotSize := 0
      ulProducerSlotSize := 0
      xGCQSq := prvvGCQInitRing 0 0 0 0 0
      xGCQCq := prvvGCQInitRing 0 0 0 0 0
      xState := .closed }
  ulLowerFirewall := GCQ_INSTANCE_LOWER_FIREWALL
  mem := mem

def Peer.firewallsOk (p : Peer) : Bool :=
  decide (GCQ_INSTANCE_UPPER_FIREWALL = p.ulUpperFirewall) &&
    decide (GCQ_INSTANCE_LOWER_FIREWALL = p.ulLowerFirewall)

/-- The arguments of `gcq_initialise` besides the handle. -/
structure GCQCfg where
  ullBaseAddr : UInt64
  ullRingAddr : UInt64
  ullRingLen : UInt64
  ulSQSlotSize : UInt32
  ulCQSlotSize : UInt32
  deriving DecidableEq, Repr

/-- The instance `gcq_initialise` populates. -/
def populateInstance (c : GCQCfg) (ulNumSlots : UInt32) : GCQInstance where
  iInitialised := true
  ullBaseAddr := c.ullBaseAddr
  ullRingAddr := c.ullRingAddr
  ulProducerSlotSize := c.ulSQSlotSize
  ulConsumerSlotSize := c.ulCQSlotSize
  xGCQSq := initSq c.ullRingAddr (c.ullBaseAddr + GCQ_CONSUMER_SQ_TAIL_POINTER) ulNumSlots
    c.ulSQSlotSize
  xGCQCq := initCq c.ullRingAddr (c.ullBaseAddr + GCQ_CONSUMER_CQ_TAIL_POINTER) ulNumSlots
    c.ulSQSlotSize c.ulCQSlotSize
  xState := .init

/-- `gcq_initialise`: the status, the driver and the handle it leaves; `none` when its slot count
computation, `gcq_get_max_slots`, does not end. -/
def gcqInitialise (p : Peer) (ppxGCQInstance : Bool) (c : GCQCfg) :
    Option (GCQErrors × Peer × Bool) :=
  if p.firewallsOk then
    if ppxGCQInstance then some (.invalidArg, p, true)
    else if p.xGCQInstance.iInitialised then some (.noFreeInstances, p, false)
    else if c.ulSQSlotSize % 4 ≠ 0 ∨ c.ulCQSlotSize % 4 ≠ 0 then
      some (.invalidSlotSize, p, true)
    else if c.ulSQSlotSize = 0 ∨ c.ulCQSlotSize = 0 then some (.invalidSlotSize, p, true)
    else
      (gcqGetMaxSlots c.ullRingLen c.ulSQSlotSize c.ulCQSlotSize).map fun ulNumSlots =>
        if ulNumSlots < GCQ_MIN_NUM_SLOTS then (.invalidNumSlots, p, true)
        else (.none, { p with xGCQInstance := populateInstance c ulNumSlots }, true)
  else some (.invalidArg, p, ppxGCQInstance)

def gcqDeinitialise (p : Peer) (pxGCQInstance : Bool) : GCQErrors × Peer :=
  if p.firewallsOk then
    if pxGCQInstance = false ∨ p.xGCQInstance.iInitialised = false then (.invalidInstance, p)
    else (.none, { p with xGCQInstance := { p.xGCQInstance with
      iInitialised := false
      xState := .closed } })
  else (.invalidArg, p)

def gcqFastForward (mem : Mem) (pxRing : GCQRing) : GCQRing :=
  { pxRing with
    ulRingProduced := xGCQReadMem32 mem pxRing.ullRingProducedAddr
    ulRingConsumed := xGCQReadMem32 mem pxRing.ullRingConsumedAddr }

def gcqAttachConsumer (p : Peer) (pxGCQInstance : Bool) : GCQErrors × Peer :=
  if p.firewallsOk then
    if pxGCQInstance = false ∨ p.xGCQInstance.iInitialised = false then (.invalidInstance, p)
    else
      match attachStatus (readHeader p.mem p.xGCQInstance.ullRingAddr) p.xGCQInstance.xGCQSq with
      | .none => (.none, { p with
          ucConsumerAttached := true
          xGCQInstance := { p.xGCQInstance with
            xGCQSq := gcqFastForward p.mem p.xGCQInstance.xGCQSq
            xGCQCq := gcqFastForward p.mem p.xGCQInstance.xGCQCq
            xState := .attached } })
      | xStatus => (xStatus, p)
  else (.invalidArg, p)

/-- `gcq_can_produce`, with the ring it leaves. -/
def gcqCanProduce (mem : Mem) (pxRing : GCQRing) : Bool × GCQRing :=
  if prvucGCQRingIsFull pxRing = false then (true, pxRing)
  else
    let pxRing := prvvGCQRingReadConsumed mem pxRing
    (!prvucGCQRingIsFull pxRing, pxRing)

/-- `gcq_can_consume`, with the ring it leaves. -/
def gcqCanConsume (mem : Mem) (ullBaseAddr : UInt64) (pxRing : GCQRing) : Bool × GCQRing :=
  let ulSqTailPointer := xGCQReadMem32 mem (ullBaseAddr + GCQ_PRODUCER_SQ_TAIL_POINTER)
  let ulCqTailPointer := xGCQReadMem32 mem (ullBaseAddr + GCQ_PRODUCER_CQ_TAIL_POINTER)
  if ulSqTailPointer = 0xFFFFFFFF ∧ ulCqTailPointer = 0xFFFFFFFF then (false, pxRing)
  else if prvucGCQRingIsEmpty pxRing = false then (true, pxRing)
  else
    let pxRing := prvvGCQRingReadProduced mem pxRing
    (!prvucGCQRingIsEmpty pxRing, pxRing)

/-- The status after one of the host's checks: a failing check overwrites it. -/
def check (fails : Prop) [Decidable fails] (e xStatus : GCQErrors) : GCQErrors :=
  if fails then e else xStatus

/-- `xGCQConsumeData` of the host for a handle that is set, with the words it stores. -/
def xGCQConsumeData (p : Peer) (pucDataNull : Bool) (ulDataLen : UInt32) :
    GCQErrors × Peer × List UInt32 :=
  if p.firewallsOk then
    let inst := p.xGCQInstance
    let xStatus := check (inst.iInitialised = false) .invalidInstance .none
    let xStatus := check (p.ucConsumerAttached = false) .consumerNotAttached xStatus
    let xStatus := check (pucDataNull = true) .invalidArg xStatus
    let xStatus := check (ulDataLen &&& 3 ≠ 0) .invalidArg xStatus
    let xStatus := check (ulDataLen > inst.ulConsumerSlotSize) .invalidArg xStatus
    match xStatus with
    | .none =>
      match gcqCanConsume p.mem inst.ullBaseAddr inst.xGCQCq with
      | (true, pxRing) =>
        let pxRing' := { pxRing with ulRingConsumed := pxRing.ulRingConsumed + 1 }
        (.none, { p with
          xGCQInstance := { inst with xGCQCq := pxRing' }
          mem := prvvGCQRingWriteConsumed p.mem pxRing' },
          prvvGCQCopyFromRing p.mem (prvullGCQRingGetSlotPtrConsumed pxRing)
            (ulDataLen.toNat / 4))
      | (false, pxRing) =>
        (.consumerNoDataReceived, { p with xGCQInstance := { inst with xGCQCq := pxRing } }, [])
    | xStatus => (xStatus, p, [])
  else (.invalidArg, p, [])

/-- `gcq_produce_data` for a handle that is set; `pucData` gives the words of the caller's
buffer, if there is one. -/
def gcqProduceData (p : Peer) (pucData : Option (ℕ → UInt32)) (ulDataLen : UInt32) :
    GCQErrors × Peer :=
  if p.firewallsOk then
    let inst := p.xGCQInstance
    let xStatus := check (inst.iInitialised = false) .invalidInstance .none
    let xStatus := check (pucData = none) .invalidArg xStatus
    let xStatus := check (ulDataLen &&& 3 ≠ 0) .invalidArg xStatus
    let xStatus := check (ulDataLen > inst.ulProducerSlotSize) .invalidArg xStatus
    match xStatus with
    | .none =>
      match gcqCanProduce p.mem inst.xGCQSq with
      | (true, pxRing) =>
        let words := (List.range (ulDataLen.toNat / 4)).map (pucData.getD fun _ => 0)
        let mem := prvvGCQCopyToRing p.mem words (prvullGCQRingGetSlotPtrProduced pxRing)
        let pxRing := { pxRing with ulRingProduced := pxRing.ulRingProduced + 1 }
        (.none, { p with
          xGCQInstance := { inst with xGCQSq := pxRing }
          mem := prvvGCQRingWriteProduced mem pxRing })
      | (false, pxRing) =>
        (.producerNoFreeSlots, { p with xGCQInstance := { inst with xGCQSq := pxRing } })
    | xStatus => (xStatus, p)
  else (.invalidArg, p)

/-! ### Runs of the host driver -/

/-- A call of a driver function, or a store of another party to the shared memory. -/
inductive Call
  | init (handle : Bool) (c : GCQCfg)
  | deinit (handle : Bool)
  | attach (handle : Bool)
  | consume (pucDataNull : Bool) (ulDataLen : UInt32)
  | produce (pucData : Option (ℕ → UInt32)) (ulDataLen : UInt32)
  | store (ullMemAddr : UInt64) (ulValue : UInt32)

/-- The driver after one call; `none` when the call does not return. -/
def step (p : Peer) : Call → Option Peer
  | .init handle c => (gcqInitialise p handle c).map fun r => r.2.1
  | .deinit handle => some (gcqDeinitialise p handle).2
  | .attach handle => some (gcqAttachConsumer p handle).2
  | .consume null len => some (xGCQConsumeData p null len).2.1
  | .produce data len => some (gcqProduceData p data len).2
  | .store a v => some { p with mem := xGCQWriteMem32 p.mem a v }

/-- The rings of an initialised instance are laid out as `gcq_initialise` lays them out. -/
def PeerInv (p : Peer) : Prop :=
  p.firewallsOk = true ∧ (p.xGCQInstance.iInitialised = true →
    LaidOut p.xGCQInstance.ullRingAddr p.xGCQInstance.xGCQSq p.xGCQInstance.xGCQCq)

/-- The fields of the host driver that no call but init and deinit writes. -/
structure SameConfig (p p' : Peer) : Prop where
  firewalls : p'.firewallsOk = p.firewallsOk
  iInitialised : p'.xGCQInstance.iInitialised = p.xGCQInstance.iInitialised
  ullRingAddr : p'.xGCQInstance.ullRingAddr = p.xGCQInstance.ullRingAddr
  xGCQSq : p.xGCQInstance.xGCQSq.SameLayout p'.xGCQInstance.xGCQSq
  xGCQCq : p.xGCQInstance.xGCQCq.SameLayout p'.xGCQInstance.xGCQCq

variable (p : Peer)

theorem SameConfig.refl : SameConfig p p :=
  ⟨rfl, rfl, rfl, ⟨rfl, rfl, rfl⟩, ⟨rfl, rfl, rfl⟩⟩

theorem PeerInv.sameConfig {p p' : Peer} (h : PeerInv p) (hsame : SameConfig p p') :
    PeerInv p' := by
  refine ⟨hsame.firewalls.trans h.1, fun hinit => ?_⟩
  rw [hsame.ullRingAddr]
  exact (h.2 (hsame.iInitialised ▸ hinit)).sameLayout hsame.xGCQSq hsame.xGCQCq

theorem gcqCanProduce_sameLayout (mem : Mem) (r : GCQRing) :
    r.SameLayout (gcqCanProduce mem r).2 := by
  unfold gcqCanProduce
  split_ifs <;> exact ⟨rfl, rfl, rfl⟩

theorem gcqCanConsume_sameLayout (mem : Mem) (base : UInt64) (r : GCQRing) :
    r.SameLayout (gcqCanConsume mem base r).2 := by
  unfold gcqCanConsume
  simp only
  split_ifs <;> exact ⟨rfl, rfl, rfl⟩

theorem xGCQConsumeData_sameConfig (null : Bool) (len : UInt32) :
    SameConfig p (xGCQConsumeData p null len).2.1 := by
  unfold xGCQConsumeData
  split_ifs
  · simp only
    split
    · have hlayout :=
        gcqCanConsume_sameLayout p.mem p.xGCQInstance.ullBaseAddr p.xGCQInstance.xGCQCq
      split <;> rename_i heq <;> rw [heq] at hlayout <;>
        exact ⟨rfl, rfl, rfl, ⟨rfl, rfl, rfl⟩, hlayout⟩
    · exact .refl p
  · exact .refl p

theorem gcqProduceData_sameConfig (data : Option (ℕ → UInt32)) (len : UInt32) :
    SameConfig p (gcqProduceData p data len).2 := by
  unfold gcqProduceData
  split_ifs
  · simp only
    split
    · have hlayout := gcqCanProduce_sameLayout p.mem p.xGCQInstance.xGCQSq
      split <;> rename_i heq <;> rw [heq] at hlayout <;>
        exact ⟨rfl, rfl, rfl, hlayout, ⟨rfl, rfl, rfl⟩⟩
    · exact .refl p
  · exact .refl p

theorem gcqAttachConsumer_sameConfig (handle : Bool) :
    SameConfig p (gcqAttachConsumer p handle).2 := by
  unfold gcqAttachConsumer
  split_ifs
  · exact .refl p
  · split
    · exact ⟨rfl, rfl, rfl, ⟨rfl, rfl, rfl⟩, ⟨rfl, rfl, rfl⟩⟩
    · exact .refl p
  · exact .refl p

theorem gcqInitialise_cases {p p' : Peer} {handle handle' : Bool} {c : GCQCfg} {s : GCQErrors}
    (h : gcqInitialise p handle c = some (s, p', handle')) :
    (s ≠ .none ∧ p' = p) ∨ ∃ n, s = .none ∧ handle' = true ∧
      p' = { p with xGCQInstance := populateInstance c n } ∧
      slotValidation c.ullRingLen c.ulSQSlotSize c.ulCQSlotSize = some (.ok n) := by
  unfold gcqInitialise at h
  split_ifs at h with hfw hnull hbusy halign hzero
  case neg =>
    obtain ⟨n, hn, hres⟩ := Option.map_eq_some_iff.mp h
    split_ifs at hres with hmin
    · obtain ⟨rfl, rfl, -⟩ : GCQErrors.invalidNumSlots = s ∧ p = p' ∧ true = handle' := by
        simpa using hres
      exact .inl ⟨by decide, rfl⟩
    · obtain ⟨rfl, rfl, rfl⟩ : GCQErrors.none = s ∧
          ({ p with xGCQInstance := populateInstance c n } : Peer) = p' ∧ true = handle' := by
        simpa using hres
      simp only [not_or, not_not] at halign hzero
      exact .inr ⟨n, rfl, rfl, rfl, slotValidation_ok.mpr
        ⟨halign.1, halign.2, hzero.1, hzero.2, hn, UInt32.not_lt.mp hmin⟩⟩
  all_goals
    obtain ⟨rfl, rfl, -⟩ : _ ∧ _ ∧ _ := by
      simpa only [Option.some.injEq, Prod.mk.injEq] using h
    exact .inl ⟨by decide, rfl⟩

theorem PeerInv.step {p p' : Peer} {c : Call} (hinv : PeerInv p) (h : step p c = some p') :
    PeerInv p' := by
  cases c with
  | init handle cfg =>
    obtain ⟨⟨s, q, handle'⟩, hi, rfl⟩ := Option.map_eq_some_iff.mp h
    rcases gcqInitialise_cases hi with ⟨-, hq⟩ | ⟨n, -, -, hq, hv⟩
    · exact hq ▸ hinv
    · rw [show (s, q, handle').2.1 = q from rfl, hq]
      exact ⟨hinv.1, fun _ => ⟨_, _, _, n, hv, ⟨rfl, rfl, rfl⟩, ⟨rfl, rfl, rfl⟩⟩⟩
  | deinit handle =>
    obtain rfl := Option.some.inj h
    unfold gcqDeinitialise
    split_ifs
    · exact hinv
    · exact ⟨hinv.1, by simp⟩
    · exact hinv
  | attach handle =>
    obtain rfl := Option.some.inj h
    exact hinv.sameConfig (gcqAttachConsumer_sameConfig p handle)
  | consume null len =>
    obtain rfl := Option.some.inj h
    exact hinv.sameConfig (xGCQConsumeData_sameConfig p null len)
  | produce data len =>
    obtain rfl := Option.some.inj h
    exact hinv.sameConfig (gcqProduceData_sameConfig p data len)
  | store a v =>
    obtain rfl := Option.some.inj h
    exact hinv

theorem peerInv_of_reaches {mem : Mem} {p : Peer}
    (hp : Transition.Reaches step Transition.always (Peer.start mem) p) : PeerInv p :=
  hp.invariant PeerInv ⟨rfl, by simp [Peer.start]⟩ fun _ _ _ hinv _ h => hinv.step h

end Amr.Gcq.Host
