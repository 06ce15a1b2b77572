/-
# sGCQ data model: header, rings, memory access

`src/fw/AMC/src/device_drivers/gcq_driver/src/gcq.h`, `gcq_internal.h` and `gcq_ring.h`, shared
word for word with the host's `src/sw/AMI/driver/ami_gcq.c`.

The shared memory begins with a `GCQHeader` of eleven 32-bit words, followed by the submission
queue (SQ) slots and the completion queue (CQ) slots. Each peer keeps a `GCQRing` for either
queue: the layout, and a cached copy of the two free-running counters. The fullness and emptiness
tests and the slot selection work on the cached copy only. Memory is a map from addresses to
32-bit words, which is what the bound-in accessors `xGCQReadMem32` and `xGCQWriteMem32` show.
-/
import Amr.Lib.WrapCounter

namespace Amr.Gcq

/-- `GCQ_ERRORS_TYPE`. -/
inductive GCQErrors
  | none
  | driverNotInitialised
  | noFreeInstances
  | invalidInstance
  | invalidArg
  | invalidSlotSize
  | invalidVersion
  | invalidNumSlots
  | consumerNotAttached
  | consumerNotAvailable
  | consumerNoDataReceived
  | producerNoFreeSlots
  deriving DecidableEq, Repr

/-- `GCQ_MODE_TYPE`, with its end marker. -/
inductive GCQMode
  | consumerMode
  | producerMode
  | maxGcqModeType
  deriving DecidableEq, Repr

inductive Queue
  | sq
  | cq
  deriving DecidableEq, Repr

/-! ### Constants -/

def UPPER_FIREWALL : UInt32 := 0xBABECAFE
def LOWER_FIREWALL : UInt32 := 0xDEADFACE
def GCQ_VER_MAJOR : UInt32 := 1
def GCQ_VER_MINOR : UInt32 := 0
def GCQ_ALLOC_MAGIC : UInt32 := 0x5847513F
def GCQ_MIN_NUM_SLOTS : UInt32 := 2
def GCQ_PRODUCER_SQ_TAIL_POINTER : UInt64 := 0x0000
def GCQ_PRODUCER_SQ_MEM_ADDR_LOW : UInt64 := 0x0008
def GCQ_PRODUCER_SQ_MEM_ADDR_HIGH : UInt64 := 0x0010
def GCQ_PRODUCER_CQ_TAIL_POINTER : UInt64 := 0x0100
def GCQ_CONSUMER_CQ_TAIL_POINTER : UInt64 := 0x0000
def GCQ_CONSUMER_CQ_MEM_ADDR_LOW : UInt64 := 0x0008
def GCQ_CONSUMER_CQ_MEM_ADDR_HIGH : UInt64 := 0x0010
def GCQ_CONSUMER_SQ_TAIL_POINTER : UInt64 := 0x0100

def getGcqMajor (version : UInt32) : UInt32 := version >>> 16

/-- `sizeof(GCQHeader)`: eleven words. -/
def sizeofGCQHeader : UInt32 := 44

/-- `offsetof(GCQHeader, ulHdrSQConsumed)` and `offsetof(GCQHeader, ulHdrCQConsumed)`. -/
def offsetofHdrConsumed : Queue → UInt64
  | .sq => 24
  | .cq => 28

/-! ### Memory -/

/-- The 32-bit words the bound-in accessors show at each address. -/
abbrev Mem := UInt64 → UInt32

def xGCQReadMem32 (mem : Mem) (ullMemAddr : UInt64) : UInt32 := mem ullMemAddr

def xGCQWriteMem32 (mem : Mem) (ullMemAddr : UInt64) (ulValue : UInt32) : Mem :=
  fun a => if a = ullMemAddr then ulValue else mem a

@[simp] theorem read_write_same (mem : Mem) (a : UInt64) (v : UInt32) :
    xGCQReadMem32 (xGCQWriteMem32 mem a v) a = v := by
  simp [xGCQReadMem32, xGCQWriteMem32]

theorem read_write_other (mem : Mem) {a b : UInt64} (v : UInt32) (h : b ≠ a) :
    xGCQReadMem32 (xGCQWriteMem32 mem a v) b = xGCQReadMem32 mem b := by
  simp [xGCQReadMem32, xGCQWriteMem32, h]

/-- `prvvGCQCopyToRing`: consecutive words from `ullDestAddr` on. -/
def prvvGCQCopyToRing (mem : Mem) : List UInt32 → UInt64 → Mem
  | [], _ => mem
  | w :: ws, ullDestAddr =>
    prvvGCQCopyToRing (xGCQWriteMem32 mem ullDestAddr w) ws (ullDestAddr + 4)

/-- `prvvGCQCopyFromRing`: `n` consecutive words from `ullSrcAddr` on. -/
def prvvGCQCopyFromRing (mem : Mem) (ullSrcAddr : UInt64) : ℕ → List UInt32
  | 0 => []
  | n + 1 => xGCQReadMem32 mem ullSrcAddr :: prvvGCQCopyFromRing mem (ullSrcAddr + 4) n

/-! ### The header -/

structure GCQHeader where
  ulHdrMagic : UInt32 := 0
  ulHdrVersion : UInt32 := 0
  ulHdrNumSlots : UInt32 := 0
  ulHdrSQOffset : UInt32 := 0
  ulHdrSQSlotSize : UInt32 := 0
  ulHdrCQOffset : UInt32 := 0
  ulHdrSQConsumed : UInt32 := 0
  ulHdrCQConsumed : UInt32 := 0
  ulHdrFlags : UInt32 := 0
  ulHdrSQProduced : UInt32 := 0
  ulHdrCQProduced : UInt32 := 0
  deriving DecidableEq, Repr

def GCQHeader.toWords (h : GCQHeader) : List UInt32 :=
  [h.ulHdrMagic, h.ulHdrVersion, h.ulHdrNumSlots, h.ulHdrSQOffset, h.ulHdrSQSlotSize,
    h.ulHdrCQOffset, h.ulHdrSQConsumed, h.ulHdrCQConsumed, h.ulHdrFlags, h.ulHdrSQProduced,
    h.ulHdrCQProduced]

/-- The header that a copy of eleven words from the ring fills in. -/
def readHeader (mem : Mem) (ullRingAddr : UInt64) : GCQHeader :=
  match prvvGCQCopyFromRing mem ullRingAddr 11 with
  | [magic, version, numSlots, sqOffset, sqSlotSize, cqOffset, sqConsumed, cqConsumed, flags,
      sqProduced, cqProduced] =>
    { ulHdrMagic := magic
      ulHdrVersion := version
      ulHdrNumSlots := numSlots
      ulHdrSQOffset := sqOffset
      ulHdrSQSlotSize := sqSlotSize
      ulHdrCQOffset := cqOffset
      ulHdrSQConsumed := sqConsumed
      ulHdrCQConsumed := cqConsumed
      ulHdrFlags := flags
      ulHdrSQProduced := sqProduced
      ulHdrCQProduced := cqProduced }
  | _ => {}

/-! ### One peer's copy of a ring -/

/-- `GCQRing`: the layout of one queue, and this peer's cached copies of its two counters. -/
structure GCQRing where
  ulRingNumSlots : UInt32
  ulRingSlotSize : UInt32
  ulRingProduced : UInt32
  ulRingConsumed : UInt32
  ullRingProducedAddr : UInt64
  ullRingConsumedAddr : UInt64
  ullRingSlotAddr : UInt64
  deriving DecidableEq, Repr

def prvvGCQInitRing (ullProducedAddr ullConsumedAddr ullSlotAddr : UInt64)
    (ulNumSlots ulSlotSize : UInt32) : GCQRing where
  ulRingNumSlots := ulNumSlots
  ulRingSlotSize := ulSlotSize
  ulRingProduced := 0
  ulRingConsumed := 0
  ullRingProducedAddr := ullProducedAddr
  ullRingConsumedAddr := ullConsumedAddr
  ullRingSlotAddr := ullSlotAddr

def prvucGCQRingIsFull (pxRing : GCQRing) : Bool :=
  decide (pxRing.ulRingProduced - pxRing.ulRingConsumed ≥ pxRing.ulRingNumSlots)

def prvucGCQRingIsEmpty (pxRing : GCQRing) : Bool :=
  decide (pxRing.ulRingProduced = pxRing.ulRingConsumed)

/-- The slot that a counter value selects: the counter masked with the number of slots less one. -/
def GCQRing.slotIndex (pxRing : GCQRing) (ulCounter : UInt32) : UInt32 :=
  ulCounter &&& (pxRing.ulRingNumSlots - 1)

/-- The address of the slot that a counter value selects. -/
def GCQRing.slotAddr (pxRing : GCQRing) (ulCounter : UInt32) : UInt64 :=
  pxRing.ullRingSlotAddr + pxRing.ulRingSlotSize.toUInt64 * (pxRing.slotIndex ulCounter).toUInt64

def prvullGCQRingGetSlotPtrProduced (pxRing : GCQRing) : UInt64 :=
  pxRing.slotAddr pxRing.ulRingProduced

def prvullGCQRingGetSlotPtrConsumed (pxRing : GCQRing) : UInt64 :=
  pxRing.slotAddr pxRing.ulRingConsumed

def prvvGCQRingReadProduced (mem : Mem) (pxRing : GCQRing) : GCQRing :=
  { pxRing with ulRingProduced := xGCQReadMem32 mem pxRing.ullRingProducedAddr }

def prvvGCQRingReadConsumed (mem : Mem) (pxRing : GCQRing) : GCQRing :=
  { pxRing with ulRingConsumed := xGCQReadMem32 mem pxRing.ullRingConsumedAddr }

def prvvGCQRingWriteProduced (mem : Mem) (pxRing : GCQRing) : Mem :=
  xGCQWriteMem32 mem pxRing.ullRingProducedAddr pxRing.ulRingProduced

def prvvGCQRingWriteConsumed (mem : Mem) (pxRing : GCQRing) : Mem :=
  xGCQWriteMem32 mem pxRing.ullRingConsumedAddr pxRing.ulRingConsumed

end Amr.Gcq
