/-
# Loading an image into the running device

`iDownloadPdiImage` and the `APC_MSG_TYPE_PROGRAM_PDI` messages of `vProxyDriverTask` in
`fw/AMC/src/proxy_drivers/apc/apc_proxy_driver.c`, under the chunks that `do_image_download` of
`sw/AMI/driver/ami_program.c` sends.

Each chunk is copied from shared memory to its place in the staging area. With the last one the
subsystem that the image is for is powered down, and the loader is called on the staging area. One
variable has the status of all of it: it is OK from the copy on, and each call overwrites it.
-/
import Amr.Apc.Program

namespace Amr.Apc.LivePdi

open ByteStore

def OK : ℤ := 0

def ERROR : ℤ := -1

/-- 32 MB to 128 MB of the memory of the RPU. -/
def HAL_RPU_MEMORY_BUFFER_BASE : UInt32 := 0x2000000

/-- The number of bytes of the staging area. -/
def stagingSize : ℕ := 0x6000000

def HAL_RPU_SHARED_MEMORY_BASEADDR : ℕ := 0x10001000

def RPU1_SUBSYSTEM : UInt32 := 0x1c000007
def APU_SUBSYSTEM : UInt32 := 0x1c000008

/-- A call of the platform, with what it returned; of the loader with the RAM that it found. -/
inductive Call
  | XPm_ForcePowerDown (subsystem : UInt32) (status : ℤ)
  | XLoader_LoadPartialPdi (ram : Store) (status : ℤ)

/-- What the calls return, should they be made. -/
structure Platform where
  powerDownRpu1 : ℤ
  powerDownApu : ℤ
  load : ℤ

/-- RAM afterwards, the calls in their order, and the status. -/
structure Done where
  ram : Store
  calls : List Call
  status : ℤ

/-- Where the chunk goes in the staging area, in 32 bits. -/
def ulDestAddr (m : APCMboxDownloadImage) : UInt32 :=
  m.usPacketNum.toUInt32 * (m.ulPacketSize * APC_BASE_PACKET_SIZE)

def isLive (m : APCMboxDownloadImage) : Bool :=
  m.iPdiProgram || m.iApuPdiProgram || m.iRpuPdiProgram

def copyChunk (ram : Store) (m : APCMboxDownloadImage) : Store :=
  put ram (HAL_RPU_MEMORY_BUFFER_BASE + ulDestAddr m).toNat
    (read ram m.ulSrcAddr.toNat m.ulImageSize.toNat)

def loadCalls (ram : Store) (m : APCMboxDownloadImage) (p : Platform) : List Call :=
  (if m.iRpuPdiProgram then [.XPm_ForcePowerDown RPU1_SUBSYSTEM p.powerDownRpu1] else []) ++
    (if m.iApuPdiProgram then [.XPm_ForcePowerDown APU_SUBSYSTEM p.powerDownApu] else []) ++
      [.XLoader_LoadPartialPdi ram p.load]

/-- `pxXLoaderInst`: whether there is an instance of the loader. -/
def iDownloadPdiImage (pxXLoaderInst : Bool) (ram : Store) (m : APCMboxDownloadImage)
    (p : Platform) : Done :=
  if m.ulPacketSize = 0 then ⟨ram, [], ERROR⟩
  else if isLive m then
    if m.iLastPacket then
      -- without the loader the status stays that of the copy
      if !pxXLoaderInst then ⟨copyChunk ram m, [], OK⟩
      -- the status of a power-down is overwritten by that of the loader
      else ⟨copyChunk ram m, loadCalls (copyChunk ram m) m p, p.load⟩
    else ⟨copyChunk ram m, [], OK⟩
  else ⟨ram, [], ERROR⟩

inductive Event
  | APC_PROXY_DRIVER_E_DOWNLOAD_STARTED
  | APC_PROXY_DRIVER_E_DOWNLOAD_COMPLETE
  | APC_PROXY_DRIVER_E_DOWNLOAD_BUSY
  | APC_PROXY_DRIVER_E_DOWNLOAD_FAILED
  | APC_PROXY_DRIVER_E_PROGRAM_STARTED
  deriving DecidableEq, Repr

/-- How a message fares: whether it is posted, whether the events are raised and the mutex taken,
and what the calls of the platform return. -/
structure Fare where
  posted : Bool
  started : Bool
  taken : Bool
  platform : Platform
  programStarted : Bool
  finished : Bool

/-- What became of a message: RAM, the calls, whether the image was worked on, and the event that
was raised at the end. -/
structure Handled where
  ram : Store
  calls : List Call
  worked : Bool
  event : Option Event

def raise (ok : Bool) (e : Event) : Option Event := if ok then some e else none

/-- The case `APC_MSG_TYPE_PROGRAM_PDI` of `vProxyDriverTask`. -/
def programPdi (pxXLoaderInst : Bool) (ram : Store) (m : APCMboxDownloadImage) (f : Fare) :
    Handled :=
  if !f.started then ⟨ram, [], false, none⟩
  else if !f.taken then
    ⟨ram, [], false, raise f.finished .APC_PROXY_DRIVER_E_DOWNLOAD_BUSY⟩
  else
    let d := iDownloadPdiImage pxXLoaderInst ram m f.platform
    let e : Event :=
      if d.status = OK then
        if m.iLastPacket && isLive m then
          if !f.programStarted then .APC_PROXY_DRIVER_E_DOWNLOAD_FAILED
          else .APC_PROXY_DRIVER_E_DOWNLOAD_COMPLETE
        else .APC_PROXY_DRIVER_E_DOWNLOAD_COMPLETE
      else .APC_PROXY_DRIVER_E_DOWNLOAD_FAILED
    ⟨d.ram, d.calls, true, raise f.finished e⟩

/-- `iAPC_PdiProgram`: an empty chunk is refused, and the message may not fit the mailbox. -/
def iAPC_PdiProgram (pxXLoaderInst : Bool) (ram : Store) (m : APCMboxDownloadImage) (f : Fare) :
    Handled :=
  if m.ulImageSize = 0 ∨ f.posted = false then ⟨ram, [], false, none⟩
  else programPdi pxXLoaderInst ram m f

def Handled.complete (h : Handled) : Bool :=
  h.event = some .APC_PROXY_DRIVER_E_DOWNLOAD_COMPLETE

/-! ### The chunks of the host -/

inductive Target
  | pdi
  | apu
  | rpu
  deriving DecidableEq, Repr

def Target.magic : Target → UInt32
  | .pdi => PDI_PROGRAM_MAGIC
  | .apu => PDI_APU_PROGRAM_MAGIC
  | .rpu => PDI_RPU_PROGRAM_MAGIC

/-- How a chunk arrives: what RAM holds outside the staging area, where in shared memory the chunk
is put, and how the message fares. -/
structure Delivery where
  elsewhere : Store
  ulSrcAddr : UInt32
  shared : HAL_RPU_SHARED_MEMORY_BASEADDR ≤ ulSrcAddr.toNat
  fare : Fare

/-- The message of a submission. Nothing here reads the boot device, the partition or the
checksum. -/
def message (t : Target) (s : Submission) (ulSrcAddr : UInt32) : APCMboxDownloadImage :=
  { s.request .PRIMARY 0 ulSrcAddr 0 0 with
    iPdiProgram := t = .pdi
    iApuPdiProgram := t = .apu
    iRpuPdiProgram := t = .rpu }

def InStaging (x : ℕ) : Prop :=
  HAL_RPU_MEMORY_BUFFER_BASE.toNat ≤ x ∧ x < HAL_RPU_MEMORY_BUFFER_BASE.toNat + stagingSize

instance (x : ℕ) : Decidable (InStaging x) := inferInstanceAs (Decidable (_ ∧ _))

/-- RAM when the chunk has arrived: the staging area is as it was. -/
def arrive (ram buf : Store) (s : Submission) (d : Delivery) : Store :=
  put (fun x => if InStaging x then ram x else d.elsewhere x) d.ulSrcAddr.toNat
    (s.payload.bytes buf)

/-- A submission, the delivery and what became of it. -/
structure Report where
  message : APCMboxDownloadImage
  handled : Handled

/-- The submissions of the host from the `k`-th on, up to the first that is not complete. -/
def session (pxXLoaderInst : Bool) (t : Target) (buf : Store) (ds : ℕ → Delivery) :
    ℕ → Store → List Submission → List Report
  | _, _, [] => []
  | k, ram, s :: l =>
    let m := message t s (ds k).ulSrcAddr
    let h := iAPC_PdiProgram pxXLoaderInst (arrive ram buf s (ds k)) m (ds k).fare
    ⟨m, h⟩ :: if h.complete then session pxXLoaderInst t buf ds (k + 1) h.ram l else []

/-- The reports on an image of `size` bytes. -/
def reports (pxXLoaderInst : Bool) (t : Target) (size : UInt32) (buf : Store)
    (ds : ℕ → Delivery) (ram : Store) : List Report :=
  session pxXLoaderInst t buf ds 0 ram ((do_image_download size t.magic).getD [])

end Amr.Apc.LivePdi
