/-
# Byte access to the eMMC

`iEMMC_Read`, `iEMMC_Write` and `iValidateBlockCount` of `emmc.c`, and `ulEmmcWrite` and
`ulEmmcRead` of `fw_if_emmc_amc.c`, which split an access into a first block, whole blocks and a
last block. The card is its bytes; each call of the driver goes as the outcomes say, by its turn.
Integers are natural numbers, reduced where the code's own arithmetic wraps. A result of `none` is
an access outside a buffer.
-/
import Amr.Lib.BlockAccess

namespace Amr.Emmc

open ByteStore

def HAL_EMMC_BLOCK_SIZE : ℕ := 512

def BlkSize : ℕ := 512

def EMMC_BLOCK_BITSHIFT : ℕ := 9

inductive FW_IF_EMMC_STATE
  | CREATED
  | OPENED
  | CLOSED
  | ERROR
  deriving DecidableEq, Repr

inductive FW_IF_ERRORS
  | NONE
  | PARAMS
  | READ
  | WRITE
  | INVALID_STATE
  | DRIVER_INVALID_ADDRESS
  deriving DecidableEq, Repr

structure FWIfEmmcCfg where
  ullBaseAddress : UInt64
  ullLength : UInt64
  xState : FW_IF_EMMC_STATE

/-- How a call of the driver goes: its mutex and the transfer. -/
structure Call where
  taken : Bool
  done : Bool
  released : Bool
  deriving DecidableEq, Repr

/-- What the controller is asked to transfer. -/
structure Transfer where
  ulBlockAddress : ℕ
  ulBlockCount : ℕ
  deriving DecidableEq, Repr

/-- The driver with its card, and what the driver and the controller were asked: the addresses and
block counts of the calls, and the transfers, oldest first. -/
structure Card where
  iInitialised : Bool
  SectorCount : UInt32
  bytes : Store
  asked : List (ℕ × ℕ)
  transfers : List Transfer

namespace Card

/-! ### The driver -/

/-- The block of an address, as a 32-bit number. -/
def blockAddress (ullAddress : ℕ) : ℕ := ullAddress / 2 ^ EMMC_BLOCK_BITSHIFT % 2 ^ 32

def iValidateBlockCount (c : Card) (ullAddress ulBlockCount : ℕ) : Bool :=
  c.iInitialised && decide (ullAddress % BlkSize = 0) &&
    decide ((blockAddress ullAddress + ulBlockCount) % 2 ^ 32 ≤ c.SectorCount.toNat)

def ask (c : Card) (ullAddress ulBlockCount : ℕ) : Card :=
  { c with asked := c.asked ++ [(ullAddress, ulBlockCount)] }

def transfer (c : Card) (ullAddress ulBlockCount : ℕ) : Card :=
  { c with transfers := c.transfers ++ [⟨blockAddress ullAddress, ulBlockCount⟩] }

def next (c : Card) (o : ℕ → Call) : Call := o c.asked.length

/-- `iEMMC_Read` into a buffer, from position `k` on. -/
def iEMMC_Read (o : ℕ → Call) (c : Card) (ullAddress ulBlockCount : ℕ)
    (pucReadBuff : List UInt8) (k : ℕ) : Option (Bool × List UInt8 × Card) :=
  if c.iValidateBlockCount ullAddress ulBlockCount && (c.next o).taken then
    if (c.next o).done then
      if k + ulBlockCount * BlkSize ≤ pucReadBuff.length then
        some ((c.next o).released,
          splice pucReadBuff k
            (read c.bytes (blockAddress ullAddress * BlkSize) (ulBlockCount * BlkSize)),
          (c.ask ullAddress ulBlockCount).transfer ullAddress ulBlockCount)
      else none
    else
      some (false, pucReadBuff,
        (c.ask ullAddress ulBlockCount).transfer ullAddress ulBlockCount)
  else some (false, pucReadBuff, c.ask ullAddress ulBlockCount)

/-- `iEMMC_Write` from a buffer, from position `k` on. -/
def iEMMC_Write (o : ℕ → Call) (c : Card) (ullAddress ulBlockCount : ℕ)
    (pucWriteBuff : List UInt8) (k : ℕ) : Option (Bool × Card) :=
  if c.iValidateBlockCount ullAddress ulBlockCount && (c.next o).taken then
    if (c.next o).done then
      if k + ulBlockCount * BlkSize ≤ pucWriteBuff.length then
        some ((c.next o).released,
          { (c.ask ullAddress ulBlockCount).transfer ullAddress ulBlockCount with
            bytes := put c.bytes (blockAddress ullAddress * BlkSize)
              ((pucWriteBuff.drop k).take (ulBlockCount * BlkSize)) })
      else none
    else some (false, (c.ask ullAddress ulBlockCount).transfer ullAddress ulBlockCount)
  else some (false, c.ask ullAddress ulBlockCount)

end Card

/-! ### The interface -/

def blockBuffer : List UInt8 := List.replicate HAL_EMMC_BLOCK_SIZE 0

/-- How far a write has come: its status, the address, the two counts and the card. -/
structure WriteState where
  iWriteStatus : Bool
  ullAddr : ℕ
  ulTotalBytesWritten : ℕ
  ulBytesToWrite : ℕ
  card : Card

structure ReadState where
  iReadStatus : Bool
  ullAddr : ℕ
  ulTotalBytesRead : ℕ
  ulBytesToRead : ℕ
  pucData : List UInt8
  card : Card

/-- `ulValidateAddressRange`: an access that ends at the end of the window is refused too. -/
def ulValidateAddressRange (cfg : FWIfEmmcCfg) (ullAddrOffset ulLength : ℕ) : FW_IF_ERRORS :=
  if cfg.ullLength.toNat ≤ (ullAddrOffset + ulLength) % 2 ^ 64 then .DRIVER_INVALID_ADDRESS
  else .NONE

/-- The bytes of the first block that an access of `ulLength` bytes takes. -/
def firstBytes (ulLength ullAddrBlockOffset : ℕ) : ℕ :=
  if ulLength < HAL_EMMC_BLOCK_SIZE - ullAddrBlockOffset then ulLength
  else HAL_EMMC_BLOCK_SIZE - ullAddrBlockOffset

/-- Step 1 of `ulEmmcWrite`. -/
def writeFirst (o : ℕ → Call) (c : Card) (ullAddr : ℕ) (pucData : List UInt8) (ulLength : ℕ) :
    Option WriteState :=
  let ullAddrBlockOffset := ullAddr % HAL_EMMC_BLOCK_SIZE
  if ullAddrBlockOffset ≠ 0 then
    let ullAddr := ullAddr - ullAddrBlockOffset
    (c.iEMMC_Read o ullAddr 1 blockBuffer 0).bind fun r =>
      if r.1 then
        let ulBytesToWrite := firstBytes ulLength ullAddrBlockOffset
        (memcpy r.2.1 ullAddrBlockOffset pucData 0 ulBytesToWrite).bind fun pucFirstBlockData =>
          (r.2.2.iEMMC_Write o ullAddr 1 pucFirstBlockData 0).map fun w =>
            if w.1 then
              ⟨true, ullAddr + HAL_EMMC_BLOCK_SIZE, ulBytesToWrite, ulLength - ulBytesToWrite, w.2⟩
            else ⟨false, ullAddr, 0, ulBytesToWrite, w.2⟩
      else some ⟨false, ullAddr, 0, ulLength, r.2.2⟩
  else some ⟨true, ullAddr, 0, ulLength, c⟩

/-- Step 2 of `ulEmmcWrite`. The bytes that are left are reduced by all that was written, the bytes
of the first block included. -/
def writeBlocks (o : ℕ → Call) (pucData : List UInt8) (s : WriteState) : Option WriteState :=
  let ulBlockCount := s.ulBytesToWrite / HAL_EMMC_BLOCK_SIZE
  if 0 < ulBlockCount then
    (s.card.iEMMC_Write o s.ullAddr ulBlockCount pucData s.ulTotalBytesWritten).map fun w =>
      if w.1 then
        let ulCurrentBytesWritten := ulBlockCount * HAL_EMMC_BLOCK_SIZE
        let ulTotalBytesWritten := (s.ulTotalBytesWritten + ulCurrentBytesWritten) % 2 ^ 32
        ⟨true, s.ullAddr + ulCurrentBytesWritten, ulTotalBytesWritten,
          (s.ulBytesToWrite + 2 ^ 32 - ulTotalBytesWritten) % 2 ^ 32, w.2⟩
      else { s with iWriteStatus := false, card := w.2 }
  else some s

/-- Step 3 of `ulEmmcWrite`. The status is left alone when the last block cannot be read. -/
def writeLast (o : ℕ → Call) (pucData : List UInt8) (s : WriteState) : Option WriteState :=
  if s.iWriteStatus = true ∧ s.ulBytesToWrite % HAL_EMMC_BLOCK_SIZE ≠ 0 then
    (s.card.iEMMC_Read o s.ullAddr 1 blockBuffer 0).bind fun r =>
      if r.1 then
        (memcpy r.2.1 0 pucData s.ulTotalBytesWritten s.ulBytesToWrite).bind
          fun pucFinalBlockData =>
            (r.2.2.iEMMC_Write o s.ullAddr 1 pucFinalBlockData 0).map fun w =>
              { s with
                iWriteStatus := w.1
                ulTotalBytesWritten := (s.ulTotalBytesWritten + s.ulBytesToWrite) % 2 ^ 32
                card := w.2 }
      else some { s with card := r.2.2 }
  else some s

def ulEmmcWrite (cfg : FWIfEmmcCfg) (o : ℕ → Call) (c : Card) (ullAddrOffset : UInt64)
    (pucData : Option (List UInt8)) (ulLength : UInt32) : Option (FW_IF_ERRORS × Card) :=
  match pucData with
  | some data =>
    if cfg.xState = .OPENED then
      let ullAddr := (cfg.ullBaseAddress + ullAddrOffset).toNat
      if ulValidateAddressRange cfg ullAddr ulLength.toNat = .NONE then
        (writeFirst o c ullAddr data ulLength.toNat).bind fun s =>
          (if s.iWriteStatus = true ∧ s.ulTotalBytesWritten < ulLength.toNat then
            (writeBlocks o data s).bind (writeLast o data)
          else some s).map fun s => (if s.iWriteStatus then .NONE else .WRITE, s.card)
      else some (.DRIVER_INVALID_ADDRESS, c)
    else some (.INVALID_STATE, c)
  | none => some (.PARAMS, c)

/-- Step 1 of `ulEmmcRead`. -/
def readFirst (o : ℕ → Call) (c : Card) (ullAddr : ℕ) (pucData : List UInt8) (ulLength : ℕ) :
    Option ReadState :=
  let ullAddrBlockOffset := ullAddr % HAL_EMMC_BLOCK_SIZE
  if ullAddrBlockOffset ≠ 0 then
    let ullAddr := ullAddr - ullAddrBlockOffset
    (c.iEMMC_Read o ullAddr 1 blockBuffer 0).bind fun r =>
      if r.1 then
        let ulBytesToRead := firstBytes ulLength ullAddrBlockOffset
        (memcpy pucData 0 r.2.1 ullAddrBlockOffset ulBytesToRead).map fun pucData =>
          ⟨true, ullAddr + HAL_EMMC_BLOCK_SIZE, ulBytesToRead, ulLength - ulBytesToRead, pucData,
            r.2.2⟩
      else some ⟨false, ullAddr, 0, ulLength, pucData, r.2.2⟩
  else some ⟨true, ullAddr, 0, ulLength, pucData, c⟩

/-- Step 2 of `ulEmmcRead`, with the counts as in the write. -/
def readBlocks (o : ℕ → Call) (s : ReadState) : Option ReadState :=
  let ulBlockCount := s.ulBytesToRead / HAL_EMMC_BLOCK_SIZE
  if 0 < ulBlockCount then
    (s.card.iEMMC_Read o s.ullAddr ulBlockCount s.pucData s.ulTotalBytesRead).map fun r =>
      if r.1 then
        let ulCurrentBytesRead := ulBlockCount * HAL_EMMC_BLOCK_SIZE
        let ulTotalBytesRead := (s.ulTotalBytesRead + ulCurrentBytesRead) % 2 ^ 32
        ⟨true, s.ullAddr + ulCurrentBytesRead, ulTotalBytesRead,
          (s.ulBytesToRead + 2 ^ 32 - ulTotalBytesRead) % 2 ^ 32, r.2.1, r.2.2⟩
      else { s with iReadStatus := false, pucData := r.2.1, card := r.2.2 }
  else some s

/-- Step 3 of `ulEmmcRead`. The bytes are copied whether the last block could be read or not. -/
def readLast (o : ℕ → Call) (s : ReadState) : Option ReadState :=
  if s.iReadStatus = true ∧ s.ulBytesToRead % HAL_EMMC_BLOCK_SIZE ≠ 0 then
    (s.card.iEMMC_Read o s.ullAddr 1 blockBuffer 0).bind fun r =>
      (memcpy s.pucData s.ulTotalBytesRead r.2.1 0 s.ulBytesToRead).map fun pucData =>
        { s with
          iReadStatus := r.1
          ulTotalBytesRead := (s.ulTotalBytesRead + s.ulBytesToRead) % 2 ^ 32
          pucData := pucData
          card := r.2.2 }
  else some s

/-- What a read returns: the status, the buffer and the length. -/
structure ReadResult where
  ulStatus : FW_IF_ERRORS
  pucData : List UInt8
  pulLength : ℕ
  card : Card

/-- `ulEmmcRead` of a buffer and a length that are there. -/
def ulEmmcRead (cfg : FWIfEmmcCfg) (o : ℕ → Call) (c : Card) (ullAddrOffset : UInt64)
    (pucData : List UInt8) (pulLength : UInt32) : Option ReadResult :=
  if pulLength ≠ 0 then
    if cfg.xState = .OPENED then
      let ullAddr := (cfg.ullBaseAddress + ullAddrOffset).toNat
      if ulValidateAddressRange cfg ullAddr pulLength.toNat = .NONE then
        (readFirst o c ullAddr pucData pulLength.toNat).bind fun s =>
          (if s.iReadStatus = true ∧ s.ulTotalBytesRead < pulLength.toNat then
            (readBlocks o s).bind (readLast o)
          else some s).map fun s =>
            if s.iReadStatus then ⟨.NONE, s.pucData, s.ulTotalBytesRead, s.card⟩
            else ⟨.READ, s.pucData, 0, s.card⟩
      else some ⟨.DRIVER_INVALID_ADDRESS, pucData, pulLength.toNat, c⟩
    else some ⟨.INVALID_STATE, pucData, pulLength.toNat, c⟩
  else some ⟨.PARAMS, pucData, pulLength.toNat, c⟩

end Amr.Emmc
