/-
# The sGCQ driver of the firmware

`src/fw/AMC/src/device_drivers/gcq_driver/src/gcq_driver.c`. The driver's private data holds a
fixed array of `N = GCQ_MAX_INSTANCES` instances, one attach flag and one count for all of them. A
handle is `NULL` or points into the array, so it is an `Option (Fin N)`. Each public function maps
the driver and the memory it sees to a status, the driver and the memory it leaves; `xGCQInit`
answers `none` when its slot count computation does not end.

Left out: the instance fields that are written and never read (its firewalls, its own copy of the
ring address, the rings' back pointers), the debug prints, and the accessor table, whose two
functions are the reads and writes of `Mem`.
-/
import Amr.Gcq.Slots

namespace Amr.Gcq

/-- `GCQInstance`; `pxGCQProducer` and `pxGCQConsumer` name the ring they point to. -/
structure GCQInstance where
  iInitialised : Bool
  ullBaseAddr : UInt64
  xMode : GCQMode
  ullRingAddr : UInt64
  ulConsumerSlotSize : UInt32
  ulProducerSlotSize : UInt32
  xGCQSq : GCQRing
  xGCQCq : GCQRing
  pxGCQProducer : Queue
  pxGCQConsumer : Queue
  deriving DecidableEq, Repr

/-- The ring that a queue pointer of the instance points to. -/
def GCQInstance.ring (pxGCQInstance : GCQInstance) : Queue → GCQRing
  | .sq => pxGCQInstance.xGCQSq
  | .cq => pxGCQInstance.xGCQCq

/-- The instance with the ring behind a queue pointer replaced. -/
def GCQInstance.setRing (pxGCQInstance : GCQInstance) (q : Queue) (pxRing : GCQRing) :
    GCQInstance :=
  match q with
  | .sq => { pxGCQInstance with xGCQSq := pxRing }
  | .cq => { pxGCQInstance with xGCQCq := pxRing }

@[simp] theorem setRing_iInitialised (i : GCQInstance) (q : Queue) (r : GCQRing) :
    (i.setRing q r).iInitialised = i.iInitialised := by
  cases q <;> rfl

/-- `GCQPrivateData` of a build with `N` instances. -/
structure GCQPrivateData (N : ℕ) where
  ulUpperFirewall : UInt32
  ucConsumerAttached : Bool
  ucInstancesAllocated : UInt8
  xGCQInstances : Fin N → GCQInstance
  ulLowerFirewall : UInt32

def zeroInstance : GCQInstance where
  iInitialised := false
  ullBaseAddr := 0
  xMode := .consumerMode
  ullRingAddr := 0
  ulConsumerSlotSize := 0
  ulProducerSlotSize := 0
  xGCQSq := prvvGCQInitRing 0 0 0 0 0
  xGCQCq := prvvGCQInitRing 0 0 0 0 0
  pxGCQProducer := .sq
  pxGCQConsumer := .cq

/-- `xLocalData`, the private data the driver starts with. -/
def xLocalData (N : ℕ) : GCQPrivateData N where
  ulUpperFirewall := UPPER_FIREWALL
  ucConsumerAttached := false
  ucInstancesAllocated := 0
  xGCQInstances := fun _ => zeroInstance
  ulLowerFirewall := LOWER_FIREWALL

/-- The private data is intact: both firewalls hold their values. -/
def GCQPrivateData.firewallsOk {N : ℕ} (pxThis : GCQPrivateData N) : Bool :=
  decide (UPPER_FIREWALL = pxThis.ulUpperFirewall) &&
    decide (LOWER_FIREWALL = pxThis.ulLowerFirewall)

def GCQPrivateData.setInstance {N : ℕ} (pxThis : GCQPrivateData N) (i : Fin N)
    (pxGCQInstance : GCQInstance) : GCQPrivateData N :=
  { pxThis with xGCQInstances := Function.update pxThis.xGCQInstances i pxGCQInstance }

@[simp] theorem setInstance_ucConsumerAttached {N : ℕ} (d : GCQPrivateData N) (i : Fin N)
    (inst : GCQInstance) : (d.setInstance i inst).ucConsumerAttached = d.ucConsumerAttached := rfl

/-- The driver's data and the memory behind the accessors. -/
structure Peer (N : ℕ) where
  pxThis : GCQPrivateData N
  mem : Mem

/-! ### Private functions -/

def prvvGCQFastForward (mem : Mem) (pxRing : GCQRing) : GCQRing :=
  prvvGCQRingReadConsumed mem (prvvGCQRingReadProduced mem pxRing)

/-- `prvucGCQCanProduce`, with the ring it leaves. -/
def prvucGCQCanProduce (mem : Mem) (pxRing : GCQRing) : Bool × GCQRing :=
  if prvucGCQRingIsFull pxRing = false then (true, pxRing)
  else
    let pxRing := prvvGCQRingReadConsumed mem pxRing
    (!prvucGCQRingIsFull pxRing, pxRing)

/-- `prvucGCQCanConsume`, with the ring it leaves. The two tail pointers read as all ones when
the device is gone. -/
def prvucGCQCanConsume (mem : Mem) (ullBaseAddr : UInt64) (pxRing : GCQRing) : Bool × GCQRing :=
  let ulSqTailPointer := xGCQReadMem32 mem (ullBaseAddr + GCQ_PRODUCER_SQ_TAIL_POINTER)
  let ulCqTailPointer := xGCQReadMem32 mem (ullBaseAddr + GCQ_PRODUCER_CQ_TAIL_POINTER)
  if ulSqTailPointer = 0xFFFFFFFF ∧ ulCqTailPointer = 0xFFFFFFFF then (false, pxRing)
  else if prvucGCQRingIsEmpty pxRing = false then (true, pxRing)
  else
    let pxRing := prvvGCQRingReadProduced mem pxRing
    (!prvucGCQRingIsEmpty pxRing, pxRing)

/-- `prvvGCQSoftReset`, with the memory and the ring it leaves. -/
def prvvGCQSoftReset (mem : Mem) (pxRing : GCQRing) : Mem × GCQRing :=
  let pxRing := prvvGCQRingReadProduced mem pxRing
  let pxRing := { pxRing with ulRingConsumed := pxRing.ulRingProduced }
  (prvvGCQRingWriteConsumed mem pxRing, pxRing)

/-- `prvxGCQProduce`: the status, the slot address and the instance it leaves. -/
def prvxGCQProduce (mem : Mem) (pxGCQInstance : GCQInstance) :
    GCQErrors × UInt64 × GCQInstance :=
  let q := pxGCQInstance.pxGCQProducer
  match prvucGCQCanProduce mem (pxGCQInstance.ring q) with
  | (true, pxRing) =>
    (.none, prvullGCQRingGetSlotPtrProduced pxRing,
      pxGCQInstance.setRing q { pxRing with ulRingProduced := pxRing.ulRingProduced + 1 })
  | (false, pxRing) => (.producerNoFreeSlots, 0, pxGCQInstance.setRing q pxRing)

/-- `prvxGCQConsume`: the status, the slot address and the instance it leaves. -/
def prvxGCQConsume (mem : Mem) (pxGCQInstance : GCQInstance) :
    GCQErrors × UInt64 × GCQInstance :=
  let q := pxGCQInstance.pxGCQConsumer
  match prvucGCQCanConsume mem pxGCQInstance.ullBaseAddr (pxGCQInstance.ring q) with
  | (true, pxRing) =>
    (.none, prvullGCQRingGetSlotPtrConsumed pxRing,
      pxGCQInstance.setRing q { pxRing with ulRingConsumed := pxRing.ulRingConsumed + 1 })
  | (false, pxRing) => (.consumerNoDataReceived, 0, pxGCQInstance.setRing q pxRing)

/-- `prviGCQFindNextFreeInstance`: the status and the handle it leaves. -/
def prviGCQFindNextFreeInstance {N : ℕ} (pxThis : GCQPrivateData N)
    (ppxGCQInstance : Option (Fin N)) : GCQErrors × Option (Fin N) :=
  if ppxGCQInstance ≠ none then (.invalidArg, ppxGCQInstance)
  else if N > pxThis.ucInstancesAllocated.toNat then
    match (List.finRange N).find? fun i => !(pxThis.xGCQInstances i).iInitialised with
    | some i => (.none, some i)
    | none => (.noFreeInstances, none)
  else (.noFreeInstances, none)

/-- `xGCQHWInit`: the ring address into the two address registers of the mode's own queue. -/
def xGCQHWInit (mem : Mem) (xMode : GCQMode) (ullBaseAddr ullRingAddr : UInt64) :
    GCQErrors × Mem :=
  match xMode with
  | .consumerMode =>
    let mem := xGCQWriteMem32 mem (ullBaseAddr + GCQ_CONSUMER_CQ_MEM_ADDR_LOW)
      ullRingAddr.toUInt32
    (.none, xGCQWriteMem32 mem (ullBaseAddr + GCQ_CONSUMER_CQ_MEM_ADDR_HIGH)
      (ullRingAddr >>> 32).toUInt32)
  | .producerMode =>
    let mem := xGCQWriteMem32 mem (ullBaseAddr + GCQ_PRODUCER_SQ_MEM_ADDR_LOW)
      ullRingAddr.toUInt32
    (.none, xGCQWriteMem32 mem (ullBaseAddr + GCQ_PRODUCER_SQ_MEM_ADDR_HIGH)
      (ullRingAddr >>> 32).toUInt32)
  | .maxGcqModeType => (.invalidArg, mem)

/-! ### Initialisation -/

/-- The arguments of `xGCQInit` besides the handle and the accessors. -/
structure GCQInitArgs where
  xMode : GCQMode
  ullBaseAddr : UInt64
  ullRingAddr : UInt64
  ullRingLen : UInt64
  ulSQSlotSize : UInt32
  ulCQSlotSize : UInt32
  deriving DecidableEq, Repr

/-- The slot validation of `xGCQInit` and of the host's `gcq_initialise`: an error, or the number
of slots. -/
def slotValidation (ullRingLen : UInt64) (ulSQSlotSize ulCQSlotSize : UInt32) :
    Option (Except GCQErrors UInt32) :=
  if ulSQSlotSize % 4 ≠ 0 ∨ ulCQSlotSize % 4 ≠ 0 then some (.error .invalidSlotSize)
  else if ulSQSlotSize = 0 ∨ ulCQSlotSize = 0 then some (.error .invalidSlotSize)
  else
    (prvulGCQAllocNumSlots ullRingLen ulSQSlotSize ulCQSlotSize).map fun ulNumSlots =>
      if GCQ_MIN_NUM_SLOTS > ulNumSlots then .error .invalidNumSlots else .ok ulNumSlots

def initSq (ullRingAddr ullSQProduced : UInt64) (ulNumSlots ulSQSlotSize : UInt32) : GCQRing :=
  prvvGCQInitRing ullSQProduced (ullRingAddr + offsetofHdrConsumed .sq)
    (ullRingAddr + sizeofGCQHeader.toUInt64) ulNumSlots ulSQSlotSize

/-- The CQ ring that init sets up: the product of the slot count and the SQ slot size is taken in
32 bits. -/
def initCq (ullRingAddr ullCQProduced : UInt64) (ulNumSlots ulSQSlotSize ulCQSlotSize : UInt32) :
    GCQRing :=
  prvvGCQInitRing ullCQProduced (ullRingAddr + offsetofHdrConsumed .cq)
    (ullRingAddr + sizeofGCQHeader.toUInt64 + (ulNumSlots * ulSQSlotSize).toUInt64)
    ulNumSlots ulCQSlotSize

/-- The instance `xGCQInit` populates, before the producer's soft reset. -/
def populateInstance (a : GCQInitArgs) (ulNumSlots : UInt32) : GCQInstance :=
  if a.xMode = .producerMode then
    { iInitialised := true
      ullBaseAddr := a.ullBaseAddr
      xMode := a.xMode
      ullRingAddr := a.ullRingAddr
      ulProducerSlotSize := a.ulCQSlotSize
      ulConsumerSlotSize := a.ulSQSlotSize
      pxGCQProducer := .cq
      pxGCQConsumer := .sq
      xGCQSq := initSq a.ullRingAddr (a.ullBaseAddr + GCQ_PRODUCER_SQ_TAIL_POINTER) ulNumSlots
        a.ulSQSlotSize
      xGCQCq := initCq a.ullRingAddr (a.ullBaseAddr + GCQ_PRODUCER_CQ_TAIL_POINTER) ulNumSlots
        a.ulSQSlotSize a.ulCQSlotSize }
  else
    { iInitialised := true
      ullBaseAddr := a.ullBaseAddr
      xMode := a.xMode
      ullRingAddr := a.ullRingAddr
      ulProducerSlotSize := a.ulSQSlotSize
      ulConsumerSlotSize := a.ulCQSlotSize
      pxGCQProducer := .sq
      pxGCQConsumer := .cq
      xGCQSq := initSq a.ullRingAddr (a.ullBaseAddr + GCQ_CONSUMER_SQ_TAIL_POINTER) ulNumSlots
        a.ulSQSlotSize
      xGCQCq := initCq a.ullRingAddr (a.ullBaseAddr + GCQ_CONSUMER_CQ_TAIL_POINTER) ulNumSlots
        a.ulSQSlotSize a.ulCQSlotSize }

/-- The header a producer writes, its magic number still zero. -/
def initHeader (pxGCQInstance : GCQInstance) : GCQHeader where
  ulHdrMagic := 0
  ulHdrVersion := (GCQ_VER_MAJOR <<< 16) + GCQ_VER_MINOR
  ulHdrNumSlots := pxGCQInstance.xGCQSq.ulRingNumSlots
  ulHdrSQOffset := (pxGCQInstance.xGCQSq.ullRingSlotAddr - pxGCQInstance.ullRingAddr).toUInt32
  ulHdrSQSlotSize := pxGCQInstance.xGCQSq.ulRingSlotSize
  ulHdrCQOffset := (pxGCQInstance.xGCQCq.ullRingSlotAddr - pxGCQInstance.ullRingAddr).toUInt32
  ulHdrSQConsumed := 0
  ulHdrCQConsumed := 0

/-- What a producer-mode init does to the memory and to its rings: the header, the soft reset of
either queue, and last the magic number. -/
def publishHeader (mem : Mem) (pxGCQInstance : GCQInstance) : Mem × GCQInstance :=
  let mem := prvvGCQCopyToRing mem (initHeader pxGCQInstance).toWords pxGCQInstance.ullRingAddr
  let (mem, xGCQSq) := prvvGCQSoftReset mem pxGCQInstance.xGCQSq
  let (mem, xGCQCq) := prvvGCQSoftReset mem pxGCQInstance.xGCQCq
  (prvvGCQCopyToRing mem [GCQ_ALLOC_MAGIC] pxGCQInstance.ullRingAddr,
    { pxGCQInstance with xGCQSq := xGCQSq, xGCQCq := xGCQCq })

/-- The memory and the instance that a successful `xGCQInit` leaves. -/
def initInstance (mem : Mem) (a : GCQInitArgs) (ulNumSlots : UInt32) : Mem × GCQInstance :=
  let mem := (xGCQHWInit mem a.xMode a.ullBaseAddr a.ullRingAddr).2
  if a.xMode = .producerMode then publishHeader mem (populateInstance a ulNumSlots)
  else (mem, populateInstance a ulNumSlots)

/-- `xGCQInit`: the status, the driver and memory, and the handle it leaves. The handle is
written as soon as an instance is found, before the slots are validated. -/
def xGCQInit {N : ℕ} (p : Peer N) (ppxGCQInstance : Option (Fin N)) (a : GCQInitArgs) :
    Option (GCQErrors × Peer N × Option (Fin N)) :=
  if p.pxThis.firewallsOk then
    match prviGCQFindNextFreeInstance p.pxThis ppxGCQInstance with
    | (.none, some i) =>
      (slotValidation a.ullRingLen a.ulSQSlotSize a.ulCQSlotSize).map fun
        | .error xStatus => (xStatus, p, some i)
        | .ok ulNumSlots =>
          let (mem, pxGCQInstance) := initInstance p.mem a ulNumSlots
          let pxThis := p.pxThis.setInstance i pxGCQInstance
          (.none, { pxThis := { pxThis with ucInstancesAllocated := pxThis.ucInstancesAllocated + 1 }
                    mem := mem }, some i)
    | (xStatus, handle) => some (xStatus, p, handle)
  else some (.invalidArg, p, ppxGCQInstance)

/-- The driver and memory that a successful `xGCQInit` of instance `i` leaves. -/
def committed {N : ℕ} (p : Peer N) (a : GCQInitArgs) (i : Fin N) (ulNumSlots : UInt32) : Peer N :=
  let pxThis := p.pxThis.setInstance i (initInstance p.mem a ulNumSlots).2
  { pxThis := { pxThis with ucInstancesAllocated := pxThis.ucInstancesAllocated + 1 }
    mem := (initInstance p.mem a ulNumSlots).1 }

/-- What `prviGCQFindNextFreeInstance` can answer: an error, the handle untouched, or a handle to
an instance that is not initialised, for a handle that was `NULL`. -/
theorem findNextFreeInstance_cases {N : ℕ} {pxThis : GCQPrivateData N}
    {handle handle' : Option (Fin N)} {s : GCQErrors}
    (h : prviGCQFindNextFreeInstance pxThis handle = (s, handle')) :
    (s ≠ .none ∧ handle' = handle) ∨
      (s = .none ∧ handle = none ∧
        ∃ i, handle' = some i ∧ (pxThis.xGCQInstances i).iInitialised = false) := by
  unfold prviGCQFindNextFreeInstance at h
  split_ifs at h with hnull hroom
  · obtain ⟨rfl, rfl⟩ := Prod.mk.inj h
    exact .inl ⟨by decide, rfl⟩
  · obtain rfl : handle = none := not_not.mp hnull
    split at h
    · rename_i i hfind
      obtain ⟨rfl, rfl⟩ := Prod.mk.inj h
      exact .inr ⟨rfl, rfl, i, rfl, by simpa using List.find?_some hfind⟩
    · obtain ⟨rfl, rfl⟩ := Prod.mk.inj h
      exact .inl ⟨by decide, rfl⟩
  · obtain rfl : handle = none := not_not.mp hnull
    obtain ⟨rfl, rfl⟩ := Prod.mk.inj h
    exact .inl ⟨by decide, rfl⟩

theorem slotValidation_error_ne_none {L : UInt64} {sq cq : UInt32} {s : GCQErrors}
    (h : slotValidation L sq cq = some (.error s)) : s ≠ .none := by
  unfold slotValidation at h
  split_ifs at h with halign hzero
  · cases h; decide
  · cases h; decide
  · obtain ⟨n, -, hn⟩ := Option.map_eq_some_iff.mp h
    split_ifs at hn
    cases hn
    decide

/-- **What `xGCQInit` can do.** It refuses before it picks an instance, and changes nothing; it
refuses the slot sizes or the number of slots, and changes the handle only; or it succeeds, and
initialises an instance that was not initialised. -/
theorem xGCQInit_cases {N : ℕ} {p p' : Peer N} {handle handle' : Option (Fin N)}
    {a : GCQInitArgs} {s : GCQErrors} (h : xGCQInit p handle a = some (s, p', handle')) :
    (s ≠ .none ∧ p' = p ∧ handle' = handle) ∨
      (∃ i, s ≠ .none ∧ handle = none ∧ handle' = some i ∧ p' = p ∧
        (p.pxThis.xGCQInstances i).iInitialised = false ∧
        slotValidation a.ullRingLen a.ulSQSlotSize a.ulCQSlotSize = some (.error s)) ∨
      ∃ i n, s = .none ∧ handle = none ∧ handle' = some i ∧ p' = committed p a i n ∧
        (p.pxThis.xGCQInstances i).iInitialised = false ∧
        slotValidation a.ullRingLen a.ulSQSlotSize a.ulCQSlotSize = some (.ok n) := by
  unfold xGCQInit at h
  split_ifs at h with hfw
  · generalize hfind : prviGCQFindNextFreeInstance p.pxThis handle = found at h
    obtain ⟨s₁, handle₁⟩ := found
    rcases findNextFreeInstance_cases hfind with ⟨hs, rfl⟩ | ⟨rfl, rfl, i, rfl, hfree⟩
    · left
      cases s₁ <;> first
        | exact absurd rfl hs
        | (simp only [Option.some.injEq, Prod.mk.injEq] at h
           obtain ⟨rfl, rfl, rfl⟩ := h
           exact ⟨hs, rfl, rfl⟩)
    · right
      simp only [Option.map_eq_some_iff] at h
      obtain ⟨v, hv, h⟩ := h
      cases v with
      | error e =>
        obtain ⟨rfl, rfl, rfl⟩ : e = s ∧ p = p' ∧ some i = handle' := by simpa using h
        exact .inl ⟨i, slotValidation_error_ne_none hv, rfl, rfl, rfl, hfree, hv⟩
      | ok n =>
        obtain ⟨rfl, rfl, rfl⟩ :
            GCQErrors.none = s ∧ committed p a i n = p' ∧ some i = handle' := by
          simpa [committed] using h
        exact .inr ⟨i, n, rfl, rfl, rfl, rfl, hfree, hv⟩
  · obtain ⟨rfl, rfl, rfl⟩ : GCQErrors.invalidArg = s ∧ p = p' ∧ handle = handle' := by
      simpa using h
    exact .inl ⟨by decide, rfl, rfl⟩

theorem xGCQInit_ok {N : ℕ} {p : Peer N} {a : GCQInitArgs} {i : Fin N} {n : UInt32}
    (hfw : p.pxThis.firewallsOk = true)
    (hfind : prviGCQFindNextFreeInstance p.pxThis none = (.none, some i))
    (hv : slotValidation a.ullRingLen a.ulSQSlotSize a.ulCQSlotSize = some (.ok n)) :
    xGCQInit p none a = some (.none, committed p a i n, some i) := by
  simp only [xGCQInit, hfw, if_true, hfind, hv, Option.map_some, committed]

theorem slotValidation_ok {L : UInt64} {sq cq n : UInt32} :
    slotValidation L sq cq = some (.ok n) ↔
      sq % 4 = 0 ∧ cq % 4 = 0 ∧ sq ≠ 0 ∧ cq ≠ 0 ∧
        prvulGCQAllocNumSlots L sq cq = some n ∧ GCQ_MIN_NUM_SLOTS ≤ n := by
  unfold slotValidation
  split_ifs with halign hzero
  · simp only [reduceCtorEq, Option.some.injEq, false_iff]
    tauto
  · simp only [reduceCtorEq, Option.some.injEq, false_iff]
    tauto
  · simp only [not_or, not_not] at halign hzero
    rw [Option.map_eq_some_iff]
    constructor
    · rintro ⟨m, hm, hmin⟩
      split_ifs at hmin with hlt
      obtain rfl : m = n := by simpa using hmin
      exact ⟨halign.1, halign.2, hzero.1, hzero.2, hm, UInt32.not_lt.mp hlt⟩
    · rintro ⟨-, -, -, -, hm, hmin⟩
      exact ⟨n, hm, by rw [if_neg (UInt32.not_lt.mpr hmin)]⟩

def xGCQDeinit {N : ℕ} (p : Peer N) (pxGCQInstance : Option (Fin N)) : GCQErrors × Peer N :=
  if p.pxThis.firewallsOk then
    match pxGCQInstance with
    | none => (.invalidInstance, p)
    | some i =>
      if (p.pxThis.xGCQInstances i).iInitialised then
        let pxThis := p.pxThis.setInstance i
          { p.pxThis.xGCQInstances i with iInitialised := false }
        (.none, { p with pxThis := { pxThis with
          ucInstancesAllocated := pxThis.ucInstancesAllocated - 1 } })
      else (.invalidInstance, p)
  else (.invalidArg, p)

/-! ### Attaching -/

/-- The comparisons of a header with the consumer's own SQ ring, in the order of
`xGCQAttachConsumer` and `gcq_attach_consumer`: magic number, major version, number of slots, SQ
slot size. -/
def attachStatus (xGCQHeader : GCQHeader) (xGCQSq : GCQRing) : GCQErrors :=
  if xGCQHeader.ulHdrMagic ≠ GCQ_ALLOC_MAGIC then .consumerNotAvailable
  else if GCQ_VER_MAJOR ≠ getGcqMajor xGCQHeader.ulHdrVersion then .invalidVersion
  else if xGCQSq.ulRingNumSlots ≠ xGCQHeader.ulHdrNumSlots then .invalidNumSlots
  else if xGCQSq.ulRingSlotSize ≠ xGCQHeader.ulHdrSQSlotSize then .invalidSlotSize
  else .none

/-- The instance with the cached counters of both rings read from memory. -/
def GCQInstance.fastForward (inst : GCQInstance) (mem : Mem) : GCQInstance :=
  { inst with
    xGCQSq := prvvGCQFastForward mem inst.xGCQSq
    xGCQCq := prvvGCQFastForward mem inst.xGCQCq }

def xGCQAttachConsumer {N : ℕ} (p : Peer N) (pxGCQInstance : Option (Fin N)) :
    GCQErrors × Peer N :=
  if p.pxThis.firewallsOk then
    match pxGCQInstance with
    | none => (.invalidInstance, p)
    | some i =>
      let inst := p.pxThis.xGCQInstances i
      if inst.iInitialised then
        match attachStatus (readHeader p.mem inst.ullRingAddr) inst.xGCQSq with
        | .none =>
          (.none, { p with pxThis := { p.pxThis.setInstance i (inst.fastForward p.mem) with
            ucConsumerAttached := true } })
        | xStatus => (xStatus, p)
      else (.invalidInstance, p)
  else (.invalidArg, p)

/-! ### Data transfer -/

/-- The checks `xGCQConsumeData` makes before it looks for data. -/
def consumeChecks {N : ℕ} (pxThis : GCQPrivateData N) (inst : GCQInstance) (pucDataNull : Bool)
    (ulDataLen : UInt32) : GCQErrors :=
  if inst.iInitialised = false then .invalidInstance
  else if inst.xMode = .consumerMode ∧ pxThis.ucConsumerAttached = false then
    .consumerNotAttached
  else if ulDataLen > inst.ulConsumerSlotSize then .invalidArg
  else if pucDataNull then .invalidArg
  else if ulDataLen &&& 3 ≠ 0 then .invalidArg
  else .none

/-- `xGCQConsumeData`, with the words it stores at `pucData`. -/
def xGCQConsumeData {N : ℕ} (p : Peer N) (pxGCQInstance : Option (Fin N)) (pucDataNull : Bool)
    (ulDataLen : UInt32) : GCQErrors × Peer N × List UInt32 :=
  if p.pxThis.firewallsOk then
    match pxGCQInstance with
    | none => (.invalidInstance, p, [])
    | some i =>
      match consumeChecks p.pxThis (p.pxThis.xGCQInstances i) pucDataNull ulDataLen with
      | .none =>
        match prvxGCQConsume p.mem (p.pxThis.xGCQInstances i) with
        | (.none, ullSlotAddr, inst) =>
          (.none, { pxThis := p.pxThis.setInstance i inst
                    mem := prvvGCQRingWriteConsumed p.mem (inst.ring inst.pxGCQConsumer) },
            prvvGCQCopyFromRing p.mem ullSlotAddr (ulDataLen.toNat / 4))
        | (xStatus, _, inst) => (xStatus, { p with pxThis := p.pxThis.setInstance i inst }, [])
      | xStatus => (xStatus, p, [])
  else (.invalidArg, p, [])

/-- The checks `xGCQProduceData` makes before it looks for a free slot. -/
def produceChecks (inst : GCQInstance) (pucDataNull : Bool) (ulDataLen : UInt32) : GCQErrors :=
  if inst.iInitialised = false then .invalidInstance
  else if ulDataLen > inst.ulProducerSlotSize then .invalidArg
  else if pucDataNull then .invalidArg
  else if ulDataLen &&& 3 ≠ 0 then .invalidArg
  else .none

/-- `xGCQProduceData`; `pucData` gives the words of the caller's buffer, if there is one. -/
def xGCQProduceData {N : ℕ} (p : Peer N) (pxGCQInstance : Option (Fin N))
    (pucData : Option (ℕ → UInt32)) (ulDataLen : UInt32) : GCQErrors × Peer N :=
  if p.pxThis.firewallsOk then
    match pxGCQInstance with
    | none => (.invalidInstance, p)
    | some i =>
      match produceChecks (p.pxThis.xGCQInstances i) pucData.isNone ulDataLen with
      | .none =>
        match prvxGCQProduce p.mem (p.pxThis.xGCQInstances i) with
        | (.none, ullSlotAddr, inst) =>
          let words := (List.range (ulDataLen.toNat / 4)).map (pucData.getD fun _ => 0)
          let mem := prvvGCQCopyToRing p.mem words ullSlotAddr
          (.none, { pxThis := p.pxThis.setInstance i inst
                    mem := prvvGCQRingWriteProduced mem (inst.ring inst.pxGCQProducer) })
        | (xStatus, _, inst) => (xStatus, { p with pxThis := p.pxThis.setInstance i inst })
      | xStatus => (xStatus, p)
  else (.invalidArg, p)

end Amr.Gcq
