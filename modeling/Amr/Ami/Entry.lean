/-
# The entries of the AMI proxy driver

`src/fw/AMC/src/proxy_drivers/ami/ami_proxy_driver.c`: the submission-queue entry as the firmware
declares it, the requests that the application gets from it, the messages of the driver's mailbox
and the completion-queue entry. An entry in memory is the number its bytes spell; the bit-fields
are placed as the ABI of the processor places them.

Values read from an entry are natural numbers below the width of their field, and the C types they
are kept in are at least as wide.
-/
import Amr.Lib.StructLayout

namespace Amr.Ami

open StructLayout

/-! ### Requests -/

inductive AmiCmdOpcodeReq
  | bootSel | heartbeat | eepromRw | moduleRw | debugVerbosity | fptFlags | pdiDownload
  | pdiProgram | sensor | pdiCopy | identify
  deriving DecidableEq, Repr

def AmiCmdOpcodeReq.value : AmiCmdOpcodeReq → ℕ
  | .bootSel => 0x0
  | .heartbeat => 0x2
  | .eepromRw => 0x3
  | .moduleRw => 0x4
  | .debugVerbosity => 0x5
  | .fptFlags => 0x6
  | .pdiDownload => 0xA
  | .pdiProgram => 0xB
  | .sensor => 0xC
  | .pdiCopy => 0xD
  | .identify => 0x202

/-- The case of the request switch that a value takes; `none` is its default. -/
def AmiCmdOpcodeReq.ofValue : ℕ → Option AmiCmdOpcodeReq
  | 0x0 => some .bootSel
  | 0x2 => some .heartbeat
  | 0x3 => some .eepromRw
  | 0x4 => some .moduleRw
  | 0x5 => some .debugVerbosity
  | 0x6 => some .fptFlags
  | 0xA => some .pdiDownload
  | 0xB => some .pdiProgram
  | 0xC => some .sensor
  | 0xD => some .pdiCopy
  | 0x202 => some .identify
  | _ => none

structure AMIProxyCmdReqHdr where
  ulOpCode : ℕ
  ulCount : ℕ
  ulState : ℕ
  usCid : ℕ
  usRsvd : ℕ
  deriving DecidableEq, Repr

def AMIProxyCmdReqHdr.members : List Member := [.bits 32 16, .bits 32 15, .bits 32 1, .u16, .u16]

def AMIProxyCmdReqHdr.ofImage (image : ℕ) : AMIProxyCmdReqHdr :=
  match load 0 image members with
  | [ulOpCode, ulCount, ulState, usCid, usRsvd] => ⟨ulOpCode, ulCount, ulState, usCid, usRsvd⟩
  | _ => ⟨0, 0, 0, 0, 0⟩

/-- The payload follows the 8 bytes of the header. -/
def payloadOff : ℕ := 64

structure AMIProxyCmdReqSensorPayload where
  ullAddress : ℕ
  ulSize : ℕ
  ulOffset : ℕ
  ulAID : ℕ
  ulSID : ℕ
  ulAddrType : ℕ
  ulSensorId : ℕ
  ulResvd : ℕ
  ulPad : ℕ
  deriving DecidableEq, Repr

def AMIProxyCmdReqSensorPayload.members : List Member :=
  [.u64, .u32, .u32, .bits 32 8, .bits 32 8, .bits 32 3, .bits 32 8, .bits 32 5, .u32]

def AMIProxyCmdReqSensorPayload.ofImage (image : ℕ) : AMIProxyCmdReqSensorPayload :=
  match load payloadOff image members with
  | [ullAddress, ulSize, ulOffset, ulAID, ulSID, ulAddrType, ulSensorId, ulResvd, ulPad] =>
    ⟨ullAddress, ulSize, ulOffset, ulAID, ulSID, ulAddrType, ulSensorId, ulResvd, ulPad⟩
  | _ => ⟨0, 0, 0, 0, 0, 0, 0, 0, 0⟩

/-- `AMIProxyCmdDataPayload`; the checksum is the number its 16 bytes spell. -/
structure AMIProxyCmdDataPayload where
  ullAddress : ℕ
  ulSize : ℕ
  ulRemainSize : ℕ
  ulSrcPartition : ℕ
  ulDestPartition : ℕ
  ulPartitionSel : ℕ
  ulUpdateFpt : ℕ
  ulPdiProgram : ℕ
  ulBootDevice : ℕ
  ulSrcDevice : ℕ
  ulDestDevice : ℕ
  ulApuPdiProgram : ℕ
  ulRpuPdiProgram : ℕ
  ulPartitionRsvd : ℕ
  usLastPacket : ℕ
  usPacketNum : ℕ
  ulPacketSize : ℕ
  pucPdiMd5 : ℕ
  ulPdiSize : ℕ
  deriving DecidableEq, Repr

def AMIProxyCmdDataPayload.members : List Member :=
  [.u64, .u32, .u32, .bits 32 4, .bits 32 4, .bits 32 4, .bits 32 1, .bits 32 1, .bits 32 1,
    .bits 32 1, .bits 32 1, .bits 32 1, .bits 32 1, .bits 32 13, .bits 16 1, .bits 16 15, .u32,
    .bytes 16, .u32]

def AMIProxyCmdDataPayload.ofImage (image : ℕ) : AMIProxyCmdDataPayload :=
  match load payloadOff image members with
  | [ullAddress, ulSize, ulRemainSize, ulSrcPartition, ulDestPartition, ulPartitionSel,
      ulUpdateFpt, ulPdiProgram, ulBootDevice, ulSrcDevice, ulDestDevice, ulApuPdiProgram,
      ulRpuPdiProgram, ulPartitionRsvd, usLastPacket, usPacketNum, ulPacketSize, pucPdiMd5,
      ulPdiSize] =>
    ⟨ullAddress, ulSize, ulRemainSize, ulSrcPartition, ulDestPartition, ulPartitionSel,
      ulUpdateFpt, ulPdiProgram, ulBootDevice, ulSrcDevice, ulDestDevice, ulApuPdiProgram,
      ulRpuPdiProgram, ulPartitionRsvd, usLastPacket, usPacketNum, ulPacketSize, pucPdiMd5,
      ulPdiSize⟩
  | _ => ⟨0, 0, 0, 0, 0, 0, 0, 0, 0, 0, 0, 0, 0, 0, 0, 0, 0, 0, 0⟩

/-- `AMIProxyCmdHeartbeatPayload` and the debug verbosity: one byte. -/
def bytePayloadMembers : List Member := [.u8]

def bytePayload (image : ℕ) : ℕ :=
  match load payloadOff image bytePayloadMembers with
  | [b] => b
  | _ => 0

structure AMIProxyCmdEepromPayload where
  ullAddress : ℕ
  ucReqType : ℕ
  ucLen : ℕ
  ucOffset : ℕ
  ucReserved : ℕ
  deriving DecidableEq, Repr

def AMIProxyCmdEepromPayload.members : List Member :=
  [.u64, .bits 32 1, .bits 32 8, .bits 32 8, .bits 32 15]

def AMIProxyCmdEepromPayload.ofImage (image : ℕ) : AMIProxyCmdEepromPayload :=
  match load payloadOff image members with
  | [ullAddress, ucReqType, ucLen, ucOffset, ucReserved] =>
    ⟨ullAddress, ucReqType, ucLen, ucOffset, ucReserved⟩
  | _ => ⟨0, 0, 0, 0, 0⟩

structure AMIProxyCmdModulePayload where
  ullAddress : ℕ
  ucExDeviceId : ℕ
  ucPage : ℕ
  ucByteOffset : ℕ
  ucLen : ℕ
  ulReqType : ℕ
  ulReserved : ℕ
  deriving DecidableEq, Repr

def AMIProxyCmdModulePayload.members : List Member :=
  [.u64, .u8, .u8, .u8, .u8, .bits 32 1, .bits 32 31]

def AMIProxyCmdModulePayload.ofImage (image : ℕ) : AMIProxyCmdModulePayload :=
  match load payloadOff image members with
  | [ullAddress, ucExDeviceId, ucPage, ucByteOffset, ucLen, ulReqType, ulReserved] =>
    ⟨ullAddress, ucExDeviceId, ucPage, ucByteOffset, ucLen, ulReqType, ulReserved⟩
  | _ => ⟨0, 0, 0, 0, 0, 0, 0⟩

structure AMIProxyCmdFptFlagsPayload where
  ulReqType : ℕ
  ulBootDevice : ℕ
  ulPartitionId : ℕ
  ulType : ℕ
  ulBaseAddr : ℕ
  ulSize : ℕ
  pdiMd5 : ℕ
  ulPdiSize : ℕ
  ulFlags : ℕ
  deriving DecidableEq, Repr

def AMIProxyCmdFptFlagsPayload.members : List Member :=
  [.u32, .u32, .u32, .u32, .u32, .u32, .bytes 16, .u32, .u32]

def AMIProxyCmdFptFlagsPayload.ofImage (image : ℕ) : AMIProxyCmdFptFlagsPayload :=
  match load payloadOff image members with
  | [ulReqType, ulBootDevice, ulPartitionId, ulType, ulBaseAddr, ulSize, pdiMd5, ulPdiSize,
      ulFlags] =>
    ⟨ulReqType, ulBootDevice, ulPartitionId, ulType, ulBaseAddr, ulSize, pdiMd5, ulPdiSize,
      ulFlags⟩
  | _ => ⟨0, 0, 0, 0, 0, 0, 0, 0, 0⟩

/-! ### What the application gets -/

structure AMIProxyPdiDownloadRequest where
  iBootDevice : ℕ
  iUpdateFpt : ℕ
  iPdiProgram : ℕ
  iApuPdiProgram : ℕ
  iRpuPdiProgram : ℕ
  iLastPacket : ℕ
  ullAddress : ℕ
  ulLength : ℕ
  ulPartitionSel : ℕ
  usPacketNum : ℕ
  ulPacketSize : ℕ
  pucPdiMd5 : ℕ
  ulPdiSize : ℕ
  deriving DecidableEq, Repr

structure AMIProxyPdiCopyRequest where
  ullAddress : ℕ
  ulMaxLength : ℕ
  ulSrcDevice : ℕ
  ulSrcPartition : ℕ
  ulDestDevice : ℕ
  ulDestPartition : ℕ
  deriving DecidableEq, Repr

structure AMIProxySensorRequest where
  xRequest : ℕ
  xRepo : ℕ
  ulSensorId : ℕ
  ulLength : ℕ
  ullAddress : ℕ
  deriving DecidableEq, Repr

structure AMIProxyBootSelectRequest where
  ulPartitionSel : ℕ
  deriving DecidableEq, Repr

structure AMIProxyEepromRWRequest where
  xRequest : ℕ
  ullAddress : ℕ
  ulLength : ℕ
  ulOffset : ℕ
  deriving DecidableEq, Repr

structure AMIProxyModuleRWRequest where
  xRequest : ℕ
  ullAddress : ℕ
  ucExDeviceId : ℕ
  ucPage : ℕ
  ucByteOffset : ℕ
  ucLength : ℕ
  deriving DecidableEq, Repr

structure AMIProxyFptFlagsRequest where
  xRequest : ℕ
  ulBootDevice : ℕ
  ulPartitionId : ℕ
  ulType : ℕ
  ulBaseAddr : ℕ
  ulSize : ℕ
  pdiMd5 : ℕ
  ulPdiSize : ℕ
  ulFlags : ℕ
  deriving DecidableEq, Repr

/-- The union of `AMIProxyRxData`, with the member that was written last. -/
inductive RxRequest
  | none
  | xDownloadRequest (r : AMIProxyPdiDownloadRequest)
  | xCopyRequest (r : AMIProxyPdiCopyRequest)
  | xSensorRequest (r : AMIProxySensorRequest)
  | xBootSelectRequest (r : AMIProxyBootSelectRequest)
  | xEepromReadWriteRequest (r : AMIProxyEepromRWRequest)
  | xModuleReadWriteRequest (r : AMIProxyModuleRWRequest)
  | xFptFlagsRequest (r : AMIProxyFptFlagsRequest)
  | ucDebugVerbosityRequest (verbosity : ℕ)
  deriving DecidableEq, Repr

/-- What the case of an opcode stores of the entry. -/
def rxRequest (image : ℕ) : AmiCmdOpcodeReq → RxRequest
  | .pdiDownload | .pdiProgram =>
    let p := AMIProxyCmdDataPayload.ofImage image
    .xDownloadRequest
      { iBootDevice := p.ulBootDevice
        ullAddress := p.ullAddress
        ulLength := p.ulSize
        ulPartitionSel := p.ulPartitionSel
        usPacketNum := p.usPacketNum
        ulPacketSize := p.ulPacketSize
        iUpdateFpt := p.ulUpdateFpt
        iPdiProgram := p.ulPdiProgram
        iApuPdiProgram := p.ulApuPdiProgram
        iRpuPdiProgram := p.ulRpuPdiProgram
        iLastPacket := p.usLastPacket
        pucPdiMd5 := p.pucPdiMd5
        ulPdiSize := p.ulPdiSize }
  | .pdiCopy =>
    let p := AMIProxyCmdDataPayload.ofImage image
    .xCopyRequest
      { ullAddress := p.ullAddress
        ulMaxLength := p.ulSize
        ulSrcDevice := p.ulSrcDevice
        ulSrcPartition := p.ulSrcPartition
        ulDestDevice := p.ulDestDevice
        ulDestPartition := p.ulDestPartition }
  | .sensor =>
    let p := AMIProxyCmdReqSensorPayload.ofImage image
    .xSensorRequest
      { ullAddress := p.ullAddress
        ulLength := p.ulSize
        ulSensorId := p.ulSensorId
        xRepo := p.ulSID
        xRequest := p.ulAID }
  | .bootSel =>
    .xBootSelectRequest
      { ulPartitionSel := (AMIProxyCmdDataPayload.ofImage image).ulPartitionSel }
  | .eepromRw =>
    let p := AMIProxyCmdEepromPayload.ofImage image
    .xEepromReadWriteRequest
      { xRequest := p.ucReqType
        ullAddress := p.ullAddress
        ulLength := p.ucLen
        ulOffset := p.ucOffset }
  | .moduleRw =>
    let p := AMIProxyCmdModulePayload.ofImage image
    .xModuleReadWriteRequest
      { xRequest := p.ulReqType
        ullAddress := p.ullAddress
        ucExDeviceId := p.ucExDeviceId
        ucPage := p.ucPage
        ucByteOffset := p.ucByteOffset
        ucLength := p.ucLen }
  | .debugVerbosity => .ucDebugVerbosityRequest (bytePayload image)
  | .fptFlags =>
    let p := AMIProxyCmdFptFlagsPayload.ofImage image
    .xFptFlagsRequest
      { xRequest := p.ulReqType
        ulBootDevice := p.ulBootDevice
        ulPartitionId := p.ulPartitionId
        ulType := p.ulType
        ulBaseAddr := p.ulBaseAddr
        ulSize := p.ulSize
        pdiMd5 := p.pdiMd5
        ulPdiSize := p.ulPdiSize
        ulFlags := p.ulFlags }
  | .identify | .heartbeat => .none

/-! ### Responses -/

structure AMIProxyIdentityResponse where
  ucVerMajor : UInt8
  ucVerMinor : UInt8
  ucVerPatch : UInt8
  ucLocalChanges : UInt8
  usDevCommits : UInt16
  ucLinkVerMajor : UInt8
  ucLinkVerMinor : UInt8
  deriving DecidableEq, Repr

inductive AMIProxyResult
  | success | failure | invalidValue | getRequestFailed | processRequestFailed
  | alreadyInProgress | invalidConfiguration
  deriving DecidableEq, Repr

def AMIProxyResult.value : AMIProxyResult → UInt32
  | .success => 0
  | .failure => 1
  | .invalidValue => 2
  | .getRequestFailed => 3
  | .processRequestFailed => 4
  | .alreadyInProgress => 5
  | .invalidConfiguration => 6

/-- `AMI_MSG_TYPES`, with what the union of `AMIProxyMboxMsg` holds for the type. -/
inductive MsgBody
  | pdiDownloadComplete
  | pdiCopyComplete
  | pdiProgramComplete
  | sensorComplete
  | identityComplete (xIdentity : AMIProxyIdentityResponse)
  | bootSelectComplete
  | heartbeatComplete (ucHeartbeatCount : UInt8)
  | eepromRwComplete
  | moduleRwComplete
  | debugVerbosityComplete
  | fptFlagsComplete (ulFptFlags : UInt32)
  deriving DecidableEq, Repr

/-- A completion: the type with its data, and `xResult`. -/
structure Completion where
  body : MsgBody
  xResult : AMIProxyResult
  deriving DecidableEq, Repr

/-- The words of `AMIProxyCmdResp` that the driver writes; `usCState` is
`AMI_CMD_STATE_COMPLETED`, which is 0, and the rest of the header stays 0. -/
structure AMIProxyCmdResp where
  usCid : ℕ
  ulPayload0 : UInt32
  ulPayload1 : UInt32
  ulRCode : UInt32
  deriving DecidableEq, Repr

/-- `APC_LOAD_VER_MAJOR` to `APC_LOAD_LOCAL_CHANGES`. -/
def identityPayload0 (x : AMIProxyIdentityResponse) : UInt32 :=
  (x.ucVerMajor.toUInt32 &&& 0x000000FF) |||
    ((x.ucVerMinor.toUInt32 <<< (8 : UInt32)) &&& 0x0000FF00) |||
    ((x.ucVerPatch.toUInt32 <<< (16 : UInt32)) &&& 0x00FF0000) |||
    ((x.ucLocalChanges.toUInt32 <<< (24 : UInt32)) &&& 0xFF000000)

/-- `APC_LOAD_DEV_COMMITS` to `APC_LOAD_LINK_VER_MINOR`. -/
def identityPayload1 (x : AMIProxyIdentityResponse) : UInt32 :=
  (x.usDevCommits.toUInt32 &&& 0x0000FFFF) |||
    ((x.ucLinkVerMajor.toUInt32 <<< (16 : UInt32)) &&& 0x00FF0000) |||
    ((x.ucLinkVerMinor.toUInt32 <<< (24 : UInt32)) &&& 0xFF000000)

/-- The payload words that a message type fills in; `none` is the default of the message switch,
which has no case for the completion of a PDI program request. -/
def MsgBody.payload : MsgBody → Option (UInt32 × UInt32)
  | .identityComplete x => some (identityPayload0 x, identityPayload1 x)
  | .heartbeatComplete ucHeartbeatCount => some (ucHeartbeatCount.toUInt32, 0)
  | .fptFlagsComplete ulFptFlags => some (ulFptFlags, 0)
  | .pdiProgramComplete => none
  | .sensorComplete | .pdiDownloadComplete | .pdiCopyComplete | .bootSelectComplete
  | .eepromRwComplete | .moduleRwComplete | .debugVerbosityComplete => some (0, 0)

/-- The response to a completion, for a request with a given id. -/
def Completion.response (usCid : ℕ) (c : Completion) : Option AMIProxyCmdResp :=
  c.body.payload.map fun p => ⟨usCid, p.1, p.2, c.xResult.value⟩

theorem Completion.response_isSome_iff (usCid : ℕ) (c : Completion) :
    (c.response usCid).isSome ↔ c.body ≠ .pdiProgramComplete := by
  obtain ⟨body, xResult⟩ := c
  cases body <;> simp [Completion.response, MsgBody.payload]

end Amr.Ami
