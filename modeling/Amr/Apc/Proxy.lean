/-
# The AMR programming control proxy: private data, mailbox and API

`APCPrivateData`, `APCMboxMsg` and the `iAPC_*` functions of
`fw/AMC/src/proxy_drivers/apc/apc_proxy_driver.c`, and the task's updates of a table entry.

An API function checks its arguments against the cached table and posts a message; the task works
on the message later. An index is an `int`, and the checks bound it from above only. An access that
leaves the loaded entries of the array, or an array that is not there, is kept as `stray`.
-/
import Amr.Apc.Fpt

namespace Amr.Apc

open ByteStore

structure APCMboxDownloadImage where
  xBootDevice : APC_BOOT_DEVICES
  iPartition : ℤ
  iUpdateFpt : Bool
  iPdiProgram : Bool
  iApuPdiProgram : Bool
  iRpuPdiProgram : Bool
  iLastPacket : Bool
  ulImageSize : UInt32
  ulSrcAddr : UInt32
  usPacketNum : UInt16
  ulPacketSize : UInt32
  pucPdiMd5 : BitVec 128
  ulPdiSize : UInt32
  deriving DecidableEq

structure APCMboxCopyImage where
  ulAllocatedSize : UInt32
  ulCpyAddr : UInt32
  xSrcBootDevice : APC_BOOT_DEVICES
  iSrcPartition : ℤ
  xDestBootDevice : APC_BOOT_DEVICES
  iDestPartition : ℤ
  deriving DecidableEq

structure APCMboxUpdateFptFlags where
  xBootDevice : APC_BOOT_DEVICES
  iPartition : ℤ
  ulFlags : UInt32
  deriving DecidableEq

/-- `APCMboxMsg`. The boot device of a `PROGRAM_PDI` message is one that the task never reads. -/
inductive APCMboxMsg
  | DOWNLOAD_PDI (ucRequestId : UInt8) (xDownloadImageData : APCMboxDownloadImage)
  | PROGRAM_PDI (ucRequestId : UInt8) (xDownloadImageData : APCMboxDownloadImage)
  | COPY_PDI (ucRequestId : UInt8) (xCopyImageData : APCMboxCopyImage)
  | PARTITION_SELECT (ucRequestId : UInt8) (iSelectedPartition : ℤ)
  | SYSTEM_POR (ucRequestId : UInt8)
  | UPDATE_FPT_FLAGS (ucRequestId : UInt8) (xUpdateFptFlagsData : APCMboxUpdateFptFlags)
  deriving DecidableEq

/-- `APCPrivateData`, with the flash of the boot devices and the accesses that went astray. -/
structure Data where
  iInitialised : Bool
  device : APC_BOOT_DEVICES → Device
  pvOsalMBoxHdl : List APCMboxMsg
  stray : Bool

namespace Device

/-- `iSetFptFlags`; `none` when the entry is not there. -/
def iSetFptFlags (d : Device) (iPartition : ℤ) (ulFlags : UInt32) (o : WriteOutcome) :
    Option (Device × Bool) :=
  if d.Below iPartition then
    (d.cached iPartition).map fun p =>
      if p.ulPartitionFlags ≠ ulFlags then
        let p' := { p with ulPartitionFlags := ulFlags }
        let r := fwIfWrite d.flash (partitionAddr iPartition.toNat) p'.bytes o
        ({ d.setCell iPartition.toNat p' with flash := r.1 }, r.2)
      else (d, true)
  else some (d, false)

/-- `iWriteFptPartitionToFlash`; `none` when the entry is not there. -/
def iWriteFptPartitionToFlash (d : Device) (iPartition : ℤ) (o : WriteOutcome) :
    Option (Device × Bool) :=
  if d.Below iPartition then
    (d.cached iPartition).map fun p =>
      let r := fwIfWrite d.flash (partitionAddr iPartition.toNat) p.bytes o
      ({ d with flash := r.1 }, r.2)
  else some (d, false)

/-- An entry with another checksum, unless it is left out, and another size. -/
def withPdi (pucPdiMd5 : Option (BitVec 128)) (ulPdiSize : UInt32)
    (p : APCProxyDriverFptPartition) : APCProxyDriverFptPartition :=
  { p with pdi_md5 := pucPdiMd5.getD p.pdi_md5, ulPdiSize := ulPdiSize }

/-- The cached entry with the checksum and the size replaced; `none` outside the array. -/
def setPdi (d : Device) (iPartition : ℤ) (pucPdiMd5 : Option (BitVec 128)) (ulPdiSize : UInt32) :
    Option Device :=
  (d.cell iPartition).map fun _ =>
    { d with ppxFptPartitions := d.ppxFptPartitions.map fun l =>
        l.modify iPartition.toNat (Option.map (withPdi pucPdiMd5 ulPdiSize)) }

end Device

namespace Data

/-- The private data with another copy of one device. -/
def setDevice (s : Data) (b : APC_BOOT_DEVICES) (d : Device) : Data :=
  { s with device := Function.update s.device b d }

/-- Run a function of one device; an access outside its array is noted and nothing is done. -/
def onDevice (s : Data) (b : APC_BOOT_DEVICES) (f : Device → Option (Device × Bool)) :
    Data × Bool :=
  match f (s.device b) with
  | some (d, ok) => (s.setDevice b d, ok)
  | none => ({ s with stray := true }, false)

/-- `iOSAL_MBox_Post` without a wait: a full mailbox refuses, and so may a post that has room. -/
def post (s : Data) (m : APCMboxMsg) (posted : Bool) : Data × Bool :=
  if posted ∧ s.pvOsalMBoxHdl.length < APC_MBOX_SIZE then
    ({ s with pvOsalMBoxHdl := s.pvOsalMBoxHdl ++ [m] }, true)
  else (s, false)

def iAPC_SetFptPartitionFlags (s : Data) (pxSignal : Option UInt8) (xBootDevice : ℕ)
    (iPartition : ℤ) (ulFlags : UInt32) (posted : Bool) : Data × Bool :=
  match pxSignal, APC_BOOT_DEVICES.ofNat? xBootDevice with
  | some ucInstance, some b =>
    if s.iInitialised ∧ (s.device b).piValidFpt ∧ (s.device b).Below iPartition then
      s.post (.UPDATE_FPT_FLAGS ucInstance ⟨b, iPartition, ulFlags⟩) posted
    else (s, false)
  | _, _ => (s, false)

/-- `iAPC_SetFptPartition`: the checksum and the size go to the cache before the message is
posted, and the validity of the table is not looked at. -/
def iAPC_SetFptPartition (s : Data) (pxSignal : Option UInt8) (xBootDevice : ℕ) (iPartition : ℤ)
    (pucPdiMd5 : Option (BitVec 128)) (ulPdiSize ulFlags : UInt32) (posted : Bool) : Data × Bool :=
  match pxSignal, APC_BOOT_DEVICES.ofNat? xBootDevice with
  | some ucInstance, some b =>
    if s.iInitialised ∧ (s.device b).Below iPartition then
      match (s.device b).setPdi iPartition pucPdiMd5 ulPdiSize with
      | some d =>
        (s.setDevice b d).post (.UPDATE_FPT_FLAGS ucInstance ⟨b, iPartition, ulFlags⟩) posted
      | none => ({ s with stray := true }, false)
    else (s, false)
  | _, _ => (s, false)

variable (s : Data) (b : APC_BOOT_DEVICES)

@[simp] theorem setDevice_device (d : Device) :
    (s.setDevice b d).device b = d := Function.update_self ..

theorem setDevice_device_ne {b b' : APC_BOOT_DEVICES} (d : Device) (h : b' ≠ b) :
    (s.setDevice b d).device b' = s.device b' := Function.update_of_ne h ..

@[simp] theorem setDevice_mbox (d : Device) :
    (s.setDevice b d).pvOsalMBoxHdl = s.pvOsalMBoxHdl := rfl

@[simp] theorem setDevice_iInitialised (d : Device) :
    (s.setDevice b d).iInitialised = s.iInitialised := rfl

@[simp] theorem setDevice_self :
    s.setDevice b (s.device b) = s := by
  unfold setDevice
  rw [Function.update_eq_self]

theorem onDevice_some {s : Data} {b : APC_BOOT_DEVICES} {f : Device → Option (Device × Bool)}
    {d : Device} {ok : Bool} (h : f (s.device b) = some (d, ok)) :
    s.onDevice b f = (s.setDevice b d, ok) := by
  unfold onDevice
  rw [h]

theorem post_device (m : APCMboxMsg) (posted : Bool) :
    (s.post m posted).1.device = s.device := by
  unfold post
  split_ifs <;> rfl

end Data

end Amr.Apc
