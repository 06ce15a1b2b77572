/-
# The two peers of a sGCQ, one shared-memory access at a time

Host (`src/sw/AMI/driver/ami_gcq.c`) and firmware (`gcq_driver.c`, producer mode) share the two
queues: the host produces onto the SQ and consumes from the CQ, the firmware produces onto the CQ
and consumes from the SQ. Either side of a queue works on its own cached `GCQRing`. A step is one
read or write of the shared memory by one side of one queue, or the start of a call, which looks
at the cached counters only; any interleaving of steps is a run.

A side that is `detached` has not attached yet: its cached counters are arbitrary and its first
two accesses are the reads of the fast-forward. Besides the state, each side carries the status of
its last finished call and the log of the messages it has produced or returned.
-/
import Amr.Lib.Transition
import Amr.Gcq.Ring

namespace Amr.Gcq.Channel

abbrev Msg := List UInt32

/-- The shared memory of one queue: the tail pointer register, the consumed counter in the
header, and the words of every slot. -/
structure SharedRing where
  tail : UInt32
  consumed : UInt32
  slots : ℕ → ℕ → UInt32

/-- Where a producer is in `gcq_produce_data` or `xGCQProduceData`. -/
inductive ProducerPc
  /-- not attached; the next access reads the tail of the fast-forward -/
  | detached
  /-- the next access reads the consumed counter of the fast-forward -/
  | attaching
  | idle
  /-- the cached counters say full; the next access reads the consumed counter -/
  | readConsumed (msg : Msg)
  /-- a slot is claimed; the next access writes word `off` of it, or the tail after the last -/
  | writing (msg : Msg) (slot off : ℕ)
  deriving DecidableEq

/-- Where a consumer is in `xGCQConsumeData`. -/
inductive ConsumerPc
  | detached
  | attaching
  | idle
  /-- the next access reads the SQ tail for the check of a dead device -/
  | readSqTail (len : ℕ)
  /-- the next access reads the CQ tail for the check of a dead device -/
  | readCqTail (len : ℕ) (ulSqTailPointer : UInt32)
  /-- the cached counters say empty; the next access reads the own tail -/
  | readTail (len : ℕ)
  /-- a slot is taken; the next access reads a word of it, or writes the consumed counter -/
  | reading (len slot : ℕ) (got : Msg)
  deriving DecidableEq

structure Producer where
  ring : GCQRing
  pc : ProducerPc
  ret : GCQErrors
  produced : List Msg

structure Consumer where
  ring : GCQRing
  pc : ConsumerPc
  ret : GCQErrors
  returned : List Msg

structure Chan where
  shared : SharedRing
  producer : Producer
  consumer : Consumer

/-- What can happen to a queue: a call starts, or a side makes its next shared-memory access. -/
inductive Act
  | produce (pucData : ℕ → UInt32) (ulDataLen : UInt32)
  | producerAccess
  | consume (ulDataLen : UInt32)
  | consumerAccess

/-! ### The producing side -/

/-- The length checks of a call: at most a slot, and whole words. -/
def badLength (ulSlotSize ulDataLen : UInt32) : Bool :=
  decide (ulDataLen > ulSlotSize) || decide (ulDataLen &&& 3 ≠ 0)

/-- Claim the slot of the cached produced counter. -/
def Producer.claim (p : Producer) (ring : GCQRing) (msg : Msg) : Producer :=
  { p with
    ring := { ring with ulRingProduced := ring.ulRingProduced + 1 }
    pc := .writing msg (ring.slotIndex ring.ulRingProduced).toNat 0 }

def produceCall (c : Chan) (pucData : ℕ → UInt32) (ulDataLen : UInt32) : Option Chan :=
  match c.producer.pc with
  | .idle =>
    let msg := (List.range (ulDataLen.toNat / 4)).map pucData
    if badLength c.producer.ring.ulRingSlotSize ulDataLen then
      some { c with producer := { c.producer with ret := .invalidArg } }
    else if prvucGCQRingIsFull c.producer.ring = false then
      some { c with producer := c.producer.claim c.producer.ring msg }
    else some { c with producer := { c.producer with pc := .readConsumed msg } }
  | _ => none

/-- The next shared-memory access of the producer. -/
def producerAccess (c : Chan) : Option Chan :=
  match c.producer.pc with
  | .detached =>
    some { c with producer := { c.producer with
      ring := { c.producer.ring with ulRingProduced := c.shared.tail }
      pc := .attaching } }
  | .attaching =>
    some { c with producer := { c.producer with
      ring := { c.producer.ring with ulRingConsumed := c.shared.consumed }
      pc := .idle } }
  | .idle => none
  | .readConsumed msg =>
    let ring := { c.producer.ring with ulRingConsumed := c.shared.consumed }
    if prvucGCQRingIsFull ring = false then
      some { c with producer := c.producer.claim ring msg }
    else some { c with producer := { c.producer with
      ring := ring, pc := .idle, ret := .producerNoFreeSlots } }
  | .writing msg slot off =>
    match msg[off]? with
    | some w =>
      some { c with
        shared := { c.shared with slots := fun s o =>
          if s = slot ∧ o = off then w else c.shared.slots s o }
        producer := { c.producer with pc := .writing msg slot (off + 1) } }
    | none =>
      some { c with
        shared := { c.shared with tail := c.producer.ring.ulRingProduced }
        producer := { c.producer with
          pc := .idle, ret := .none, produced := c.producer.produced ++ [msg] } }

/-! ### The consuming side -/

/-- Take the slot of the cached consumed counter. -/
def Consumer.take (p : Consumer) (ring : GCQRing) (len : ℕ) : Consumer :=
  { p with
    ring := { ring with ulRingConsumed := ring.ulRingConsumed + 1 }
    pc := .reading len (ring.slotIndex ring.ulRingConsumed).toNat [] }

def consumeCall (c : Chan) (ulDataLen : UInt32) : Option Chan :=
  match c.consumer.pc with
  | .idle =>
    if badLength c.consumer.ring.ulRingSlotSize ulDataLen then
      some { c with consumer := { c.consumer with ret := .invalidArg } }
    else some { c with consumer := { c.consumer with pc := .readSqTail (ulDataLen.toNat / 4) } }
  | _ => none

/-- The next shared-memory access of the consumer, given the tails of both queues. -/
def consumerAccess (ulSqTail ulCqTail : UInt32) (c : Chan) : Option Chan :=
  match c.consumer.pc with
  | .detached =>
    some { c with consumer := { c.consumer with
      ring := { c.consumer.ring with ulRingProduced := c.shared.tail }
      pc := .attaching } }
  | .attaching =>
    some { c with consumer := { c.consumer with
      ring := { c.consumer.ring with ulRingConsumed := c.shared.consumed }
      pc := .idle } }
  | .idle => none
  | .readSqTail len =>
    some { c with consumer := { c.consumer with pc := .readCqTail len ulSqTail } }
  | .readCqTail len ulSqTailPointer =>
    if ulSqTailPointer = 0xFFFFFFFF ∧ ulCqTail = 0xFFFFFFFF then
      some { c with consumer := { c.consumer with pc := .idle, ret := .consumerNoDataReceived } }
    else if prvucGCQRingIsEmpty c.consumer.ring = false then
      some { c with consumer := c.consumer.take c.consumer.ring len }
    else some { c with consumer := { c.consumer with pc := .readTail len } }
  | .readTail len =>
    let ring := { c.consumer.ring with ulRingProduced := c.shared.tail }
    if prvucGCQRingIsEmpty ring = false then
      some { c with consumer := c.consumer.take ring len }
    else some { c with consumer := { c.consumer with
      ring := ring, pc := .idle, ret := .consumerNoDataReceived } }
  | .reading len slot got =>
    if got.length < len then
      some { c with consumer := { c.consumer with
        pc := .reading len slot (got ++ [c.shared.slots slot got.length]) } }
    else
      some { c with
        shared := { c.shared with consumed := c.consumer.ring.ulRingConsumed }
        consumer := { c.consumer with
          pc := .idle, ret := .none, returned := c.consumer.returned ++ [got] } }

/-! ### The pair -/

def chanStep (ulSqTail ulCqTail : UInt32) (c : Chan) : Act → Option Chan
  | .produce data len => produceCall c data len
  | .producerAccess => producerAccess c
  | .consume len => consumeCall c len
  | .consumerAccess => consumerAccess ulSqTail ulCqTail c

/-- The two queues between host and firmware. -/
structure Pair where
  sq : Chan
  cq : Chan

def Pair.chan (s : Pair) : Queue → Chan
  | .sq => s.sq
  | .cq => s.cq

/-- One step of the pair: one side of one queue. -/
def step (s : Pair) : Queue × Act → Option Pair
  | (.sq, a) => (chanStep s.sq.shared.tail s.cq.shared.tail s.sq a).map fun c => { s with sq := c }
  | (.cq, a) => (chanStep s.sq.shared.tail s.cq.shared.tail s.cq a).map fun c => { s with cq := c }

/-- A side whose init or attach is done has both cached counters equal to `base`. -/
def CachesAt (ring : GCQRing) (base : UInt32) : Prop :=
  ring.ulRingProduced = base ∧ ring.ulRingConsumed = base

/-- A queue after the producer-mode init's soft reset: the consumed counter equals the tail, at
any value `base`. Either side is initialised or attached at that value, or has yet to attach. -/
structure Chan.Initial (n base : UInt32) (c : Chan) : Prop where
  tail : c.shared.tail = base
  consumed : c.shared.consumed = base
  producerSlots : c.producer.ring.ulRingNumSlots = n
  consumerSlots : c.consumer.ring.ulRingNumSlots = n
  producer : c.producer.pc = .detached ∨ c.producer.pc = .idle ∧ CachesAt c.producer.ring base
  consumer : c.consumer.pc = .detached ∨ c.consumer.pc = .idle ∧ CachesAt c.consumer.ring base
  produced : c.producer.produced = []
  returned : c.consumer.returned = []

end Amr.Gcq.Channel
