/-
# The chunks of an image

`do_image_download` of `sw/AMI/driver/ami_program.c`, with the flags that carry the chunk number
and the download request that a submission becomes.

The host sends the chunks one after the other and stops at the first that fails. Where there is more
than one, four bytes stand in for the first, which is sent when the others are through. The chunk is
copied to shared memory, which keeps what it held around the chunk.
-/
import Amr.Apc.Download

namespace Amr.Apc

open ByteStore

def MAX_PARTITION : UInt32 := 15

def INVALID_BOOT_TAG : ℕ := 0xFFFFFFFF

def BOOT_TAG_CHUNK : UInt16 := 0

def PDI_CHUNK_SIZE : UInt32 := 6144

def PDI_CHUNK_MULTIPLIER : UInt32 := 1024

def chunkBytes : UInt32 := PDI_CHUNK_SIZE * PDI_CHUNK_MULTIPLIER

def FPT_UPDATE_MAGIC : UInt32 := 0xAAAAAAAA
def PDI_PROGRAM_MAGIC : UInt32 := 0xBBBBBBBB
def PDI_APU_PROGRAM_MAGIC : UInt32 := 0xCCCCCCCC
def PDI_RPU_PROGRAM_MAGIC : UInt32 := 0xDDDDDDDD

/-- What a submission sends: bytes of the image, or the tag that stands in for the first chunk. -/
inductive Payload
  | image (offset len : UInt32)
  | bootTag
  deriving DecidableEq, Repr

/-- A submission; `chunk` is the chunk number before it goes into the flags. -/
structure Submission where
  chunk : UInt16
  last : Bool
  payload : Payload
  deriving DecidableEq, Repr

/-- The number of chunks, rounded up in 32 bits and kept in 16. -/
def num_chunks (size : UInt32) : UInt16 := ((size + (chunkBytes - 1)) / chunkBytes).toUInt16

/-- `MK_PDI_FLAGS`, without the boot device and the partition. -/
def MK_PDI_FLAGS (chunk : UInt16) (last : Bool) : UInt16 :=
  if last then chunk ||| 0x8000 else chunk &&& 0x7FFF

/-- `PDI_CHUNK`: the number that the firmware is sent. -/
def PDI_CHUNK (flags : UInt16) : UInt16 := flags &&& 0x7FFF

def PDI_CHUNK_IS_LAST (flags : UInt16) : Bool := flags >>> 15 = 1

/-- The loop of `do_image_download`, and whether the first chunk was withheld. `whole` stands for
the table and the live loads, whose first chunk never is. -/
def chunkLoop (size : UInt32) (whole : Bool) :
    ℕ → UInt16 → UInt32 → Bool → List Submission × Bool
  | 0, _, _, rewrite_boot_tag => ([], rewrite_boot_tag)
  | n + 1, chunk, bytes_written, rewrite_boot_tag =>
    if bytes_written < size then
      let bytes_to_write :=
        if size - bytes_written < chunkBytes then size - bytes_written else chunkBytes
      if whole ∨ num_chunks size = 1 ∨ 1 < num_chunks size ∧ chunk ≠ BOOT_TAG_CHUNK then
        let last := !rewrite_boot_tag && decide ((chunk.toNat : ℤ) = (num_chunks size).toNat - 1)
        let r := chunkLoop size whole n (chunk + 1) (bytes_written + bytes_to_write)
          rewrite_boot_tag
        (⟨chunk, last, .image bytes_written bytes_to_write⟩ :: r.1, r.2)
      else
        let r := chunkLoop size whole n (chunk + 1) (bytes_written + bytes_to_write) true
        (⟨BOOT_TAG_CHUNK, false, .bootTag⟩ :: r.1, r.2)
    else ([], rewrite_boot_tag)

def maxRounds (size : UInt32) : ℕ := size.toNat / chunkBytes.toNat + 1

/-- The submissions of `do_image_download` as long as each of them succeeds; `none` is `-EINVAL`. -/
def do_image_download (size partition : UInt32) : Option (List Submission) :=
  if size = 0 then none
  else
    let whole := partition = FPT_UPDATE_MAGIC ∨ partition = PDI_PROGRAM_MAGIC ∨
      partition = PDI_APU_PROGRAM_MAGIC ∨ partition = PDI_RPU_PROGRAM_MAGIC
    if ¬ whole ∧ MAX_PARTITION < partition then none
    else
      let r := chunkLoop size (decide whole) (maxRounds size) 0 0 false
      some (r.1 ++ if r.2 then [⟨BOOT_TAG_CHUNK, true, .image 0 chunkBytes⟩] else [])

/-- The bytes that a submission puts into shared memory. -/
def Payload.bytes (buf : Store) : Payload → List UInt8
  | .image offset len => read buf offset.toNat len.toNat
  | .bootTag => bytesOf 4 INVALID_BOOT_TAG

/-- The number of bytes that a submission announces. -/
def Payload.size : Payload → UInt32
  | .image _ len => len
  | .bootTag => 4

def Submission.request (s : Submission) (d : APC_BOOT_DEVICES) (iPartition : ℤ)
    (ulSrcAddr : UInt32) (pucPdiMd5 : BitVec 128) (ulPdiSize : UInt32) :
    APCMboxDownloadImage where
  xBootDevice := d
  iPartition := iPartition
  iUpdateFpt := false
  iPdiProgram := false
  iApuPdiProgram := false
  iRpuPdiProgram := false
  iLastPacket := PDI_CHUNK_IS_LAST (MK_PDI_FLAGS s.chunk s.last)
  ulImageSize := s.payload.size
  ulSrcAddr := ulSrcAddr
  usPacketNum := PDI_CHUNK (MK_PDI_FLAGS s.chunk s.last)
  ulPacketSize := PDI_CHUNK_SIZE
  pucPdiMd5 := pucPdiMd5
  ulPdiSize := ulPdiSize

end Amr.Apc
