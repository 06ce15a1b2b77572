/-
# Block writes from the bus master

`fw_if_smbus_block_io.c`: the callback `vWriteData` copies a block into the one buffer of the
interface and posts a semaphore, and `ulSmbusBlockIoRead` pends on the semaphore, copies the buffer
to its caller and clears it. The callback runs in an interrupt, so it comes between any two steps of
the reader.

The buffer is a mailbox for one block as long as no token of the semaphore outlives its block, no
block comes between the copy and the clear, and the callers' buffers are large enough.
-/
import Amr.Lib.Mailbox
import Amr.Lib.Transition

namespace Amr.Smbus.BlockIo

open Transition

abbrev Block := List UInt8

def SMBUS_DATA_SIZE_MAX : ℕ := 256

/-- `vWriteData` takes the block. -/
def Fits (pucData : Block) : Prop :=
  pucData.length ≤ SMBUS_DATA_SIZE_MAX ∧ pucData.length ≠ 0

instance (pucData : Block) : Decidable (Fits pucData) := by unfold Fits; infer_instance

/-- Where `ulSmbusBlockIoRead` is, with the size of its caller's buffer. -/
inductive Reader
  | idle
  | pended (pulSize : ℕ)
  | copied
  deriving DecidableEq, Repr

/-- A read that has returned `FW_IF_ERRORS_NONE`, or is about to. -/
structure Read where
  /-- The size of the caller's buffer. -/
  pulSize : ℕ
  /-- The bytes copied into it. -/
  pucData : Block
  deriving DecidableEq, Repr

/-- `FWIfSMBusBlockIOPrivateData`, with the reader of the interface. -/
structure PrivateData where
  pucCallBackWriteData : Block
  usCallBackWriteDataSize : ℕ
  /-- The semaphore has its token. -/
  pvWriteCallbackSem : Bool
  reader : Reader
  /-- The reads that were successful, oldest first. -/
  reads : List Read
  /-- The mailbox that the buffer is to be: each block that the bus master has written. -/
  mail : Mailbox Block

inductive Action
  /-- `vWriteData`, and whether the semaphore takes the token. -/
  | vWriteData (pucData : Block) (posted : Bool)
  /-- `ulSmbusBlockIoRead` pends on the semaphore. -/
  | pend (pulSize : ℕ)
  | copy
  | clear

namespace PrivateData

/-- The interface after its initialisation. -/
def start : PrivateData where
  pucCallBackWriteData := List.replicate SMBUS_DATA_SIZE_MAX 0
  usCallBackWriteDataSize := 0
  pvWriteCallbackSem := false
  reader := .idle
  reads := []
  mail := .empty

def held (s : PrivateData) : Block := s.pucCallBackWriteData.take s.usCallBackWriteDataSize

def vWriteData (s : PrivateData) (pucData : Block) (posted : Bool) : PrivateData :=
  if Fits pucData then
    { s with
      usCallBackWriteDataSize := pucData.length
      pucCallBackWriteData := pucData ++ s.pucCallBackWriteData.drop pucData.length
      pvWriteCallbackSem := s.pvWriteCallbackSem || posted
      mail := s.mail.put pucData }
  else { s with mail := s.mail.refuse pucData }

/-- The semaphore is taken, or the read times out. -/
def pend (s : PrivateData) (pulSize : ℕ) : PrivateData :=
  if s.pvWriteCallbackSem then { s with pvWriteCallbackSem := false, reader := .pended pulSize }
  else s

def copy (s : PrivateData) (pulSize : ℕ) : PrivateData :=
  { s with
    reader := .copied
    reads := s.reads ++ [⟨pulSize, s.held⟩]
    mail := s.mail.take }

/-- The buffer is cleared for the next block. -/
def clear (s : PrivateData) : PrivateData :=
  { s with
    reader := .idle
    pucCallBackWriteData := List.replicate s.usCallBackWriteDataSize 0 ++
      s.pucCallBackWriteData.drop s.usCallBackWriteDataSize
    usCallBackWriteDataSize := 0 }

end PrivateData

/-- One step of the reader, or the callback. -/
def step (s : PrivateData) : Action → Option PrivateData
  | .vWriteData pucData posted => some (s.vWriteData pucData posted)
  | .pend pulSize => if s.reader = .idle then some (s.pend pulSize) else none
  | .copy =>
    match s.reader with
    | .pended pulSize => some (s.copy pulSize)
    | _ => none
  | .clear => if s.reader = .copied then some s.clear else none

/-- What the interface promises of its blocks. -/
structure Delivers (s : PrivateData) : Prop where
  /-- The reads return blocks that were written, whole, each once and in the order of the writes. -/
  order : (s.reads.map (·.pucData)).Sublist s.mail.sent
  /-- A block that was written is returned once, or dropped, or not read yet. -/
  fate : s.mail.sent.Perm
    (s.reads.map (·.pucData) ++ s.mail.dropped ++ s.mail.slot.toList)
  /-- The block that is not read yet is in the buffer. -/
  kept : ∀ b ∈ s.mail.slot, s.held = b
  /-- No read writes more than its caller has room for. -/
  room : ∀ r ∈ s.reads, r.pucData.length ≤ r.pulSize

/-- The steps after which the interface keeps its promises: a token that is taken belongs to a block
that is not read yet, the caller has room for the block, and no block is cleared unread. -/
def Ok (s : PrivateData) : Action → Prop
  | .vWriteData .. => True
  | .pend _ => s.pvWriteCallbackSem = true → s.mail.slot.isSome
  | .copy => ∀ pulSize, s.reader = .pended pulSize → s.usCallBackWriteDataSize ≤ pulSize
  | .clear => s.mail.slot = none

instance : ∀ (s : PrivateData) (a : Action), Decidable (Ok s a)
  | _, .vWriteData .. => .isTrue trivial
  | s, .pend _ => inferInstanceAs (Decidable (s.pvWriteCallbackSem = true → s.mail.slot.isSome))
  | s, .copy =>
    match h : s.reader with
    | .pended size => decidable_of_iff (s.usCallBackWriteDataSize ≤ size) (by simp [Ok, h])
    | .idle => .isTrue (by simp [Ok, h])
    | .copied => .isTrue (by simp [Ok, h])
  | s, .clear => inferInstanceAs (Decidable (s.mail.slot = none))

/-! ### The buffer is a mailbox -/

/-- The buffer holds what its mailbox holds, and what was read was taken from the mailbox. -/
structure Mirrors (s : PrivateData) : Prop where
  taken : s.reads.map (·.pucData) = s.mail.taken
  kept : ∀ b ∈ s.mail.slot, s.held = b
  pended : ∀ pulSize, s.reader = .pended pulSize → s.mail.slot.isSome
  room : ∀ r ∈ s.reads, r.pucData.length ≤ r.pulSize

variable {s : PrivateData}

theorem Mirrors.delivers (h : Mirrors s) : Delivers s where
  order := h.taken ▸ s.mail.taken_sublist
  fate := h.taken ▸ s.mail.fate
  kept := h.kept
  room := h.room

theorem mirrors_start : Mirrors .start where
  taken := rfl
  kept _ h := by cases h
  pended _ h := by cases h
  room _ h := absurd h List.not_mem_nil

theorem Mirrors.vWriteData (h : Mirrors s) (pucData : Block) (posted : Bool) :
    Mirrors (s.vWriteData pucData posted) := by
  obtain ⟨htaken, hkept, hpended, hroom⟩ := h
  unfold PrivateData.vWriteData
  split_ifs with hfits
  · refine ⟨htaken, ?_, fun _ _ => rfl, hroom⟩
    intro b hb
    obtain rfl : pucData = b := Option.some.inj hb
    simp [PrivateData.held]
  · exact ⟨htaken, hkept, hpended, hroom⟩

theorem Mirrors.pend (h : Mirrors s) (pulSize : ℕ) (hok : Ok s (.pend pulSize)) :
    Mirrors (s.pend pulSize) := by
  unfold PrivateData.pend
  split_ifs with hsem
  · exact ⟨h.taken, h.kept, fun _ _ => hok hsem, h.room⟩
  · exact h

theorem Mirrors.copy (h : Mirrors s) {pulSize : ℕ}
    (hreader : s.reader = .pended pulSize) (hok : s.usCallBackWriteDataSize ≤ pulSize) : Mirrors (s.copy pulSize) := by
  obtain ⟨b, hb⟩ := Option.isSome_iff_exists.mp (h.pended _ hreader)
  have hheld : s.held = b := h.kept b hb
  refine ⟨?_, ?_, ?_, ?_⟩
  · simp [PrivateData.copy, h.taken, hb, hheld]
  · intro c hc
    cases hc
  · intro _ hpended
    cases hpended
  · intro r hr
    rcases List.mem_append.mp hr with hr | hr
    · exact h.room r hr
    · obtain rfl := List.mem_singleton.mp hr
      calc s.held.length
        _ ≤ s.usCallBackWriteDataSize := List.length_take_le _ _
        _ ≤ pulSize := hok

theorem Mirrors.clear (h : Mirrors s) (hok : s.mail.slot = none) :
    Mirrors s.clear where
  taken := h.taken
  kept b hb := by
    have hb : b ∈ s.mail.slot := hb
    rw [hok] at hb
    cases hb
  pended _ hpended := by cases hpended
  room := h.room

theorem Mirrors.step {s s' : PrivateData} {a : Action} (h : Mirrors s) (hok : Ok s a)
    (hs : step s a = some s') : Mirrors s' := by
  cases a with
  | vWriteData pucData posted =>
    obtain rfl := Option.some.inj hs
    exact h.vWriteData pucData posted
  | pend pulSize =>
    simp only [BlockIo.step] at hs
    split_ifs at hs with hreader
    obtain rfl := Option.some.inj hs
    exact h.pend pulSize hok
  | copy =>
    rcases hreader : s.reader with _ | pulSize | _ <;> simp only [BlockIo.step, hreader] at hs
    · cases hs
    · obtain rfl := Option.some.inj hs
      exact h.copy hreader (hok pulSize hreader)
    · cases hs
  | clear =>
    simp only [BlockIo.step] at hs
    split_ifs at hs with hreader
    obtain rfl := Option.some.inj hs
    exact h.clear hok

/-- In every run whose steps meet the condition, each block that the bus master writes is returned
by one read, whole and in order, or dropped as a whole, or still to be read, and no read overruns
its caller's buffer. -/
theorem blocks_delivered {s : PrivateData} (hs : Reaches step Ok .start s) : Delivers s :=
  (hs.invariant Mirrors mirrors_start fun _ _ _ h hok hstep => h.step hok hstep).delivers

/-- A block of two bytes replaces an unread one, and is read. -/
theorem blocks_delivered_replaced :
    ∃ s : PrivateData, (s.reads = [⟨16, [3, 4]⟩] ∧ s.mail.dropped = [[1]] ∧ s.mail.slot = some [5]) ∧
      Delivers s := by
  have hrun : (run (guarded step Ok) .start [.vWriteData [1] true, .vWriteData [3, 4] true,
      .pend 16, .copy, .clear, .vWriteData [5] true]).any (fun s =>
      decide (s.reads = [⟨16, [3, 4]⟩] ∧ s.mail.dropped = [[1]] ∧ s.mail.slot = some [5])) =
      true := by
    decide +kernel
  obtain ⟨s, hs, hfinal⟩ := (Option.any_eq_true _ _).mp hrun
  exact ⟨s, of_decide_eq_true hfinal, blocks_delivered (Reaches.of_guarded_run _ .start hs)⟩

/-- A block comes between the copy and the clear of a read: the next read succeeds with no byte. -/
theorem empty_block_returned : ¬ ∀ s, Reaches step always PrivateData.start s → Delivers s := by
  intro hall
  have hrun : (run step .start [.vWriteData [1] true, .pend 16, .copy, .vWriteData [2] true, .clear,
      .pend 16, .copy]).any (fun s => decide (s.reads.map (·.pucData) = [[1], []] ∧
      s.mail.sent = [[1], [2]])) = true := by
    decide +kernel
  obtain ⟨s, hs, hwrong⟩ := (Option.any_eq_true _ _).mp hrun
  obtain ⟨hreads, hsent⟩ := of_decide_eq_true hwrong
  have horder := (hall s (.of_run hs)).order
  rw [hreads, hsent] at horder
  have hmem : ([] : Block) ∈ ([[1], [2]] : List Block) := horder.subset (by simp)
  simp at hmem

end Amr.Smbus.BlockIo
