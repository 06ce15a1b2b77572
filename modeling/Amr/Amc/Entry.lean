/-
# The queue entries of the host

`src/sw/AMI/driver/amc_proxy.c`: the submission-queue entry as the host declares it, the entry
that each `amc_proxy_request_*` function writes, and what the `amc_proxy_get_response_*` functions
return of a completion-queue entry. An assignment to a bit-field keeps the low bits of the value;
fields that a function does not assign are 0.

Left out: the checks of the pointers and of the proxy instance, and the list of commands, which
`Amr/Amc/Submit.lean` and `Amr/Amc/Proxy.lean` have.
-/
import Amr.Lib.StructLayout
import Amr.Amc.Command

namespace Amr.Amc

open StructLayout

/-! ### Arguments of the requests

An enumeration variable is the word it is stored in, since the callers compute it from flags. -/

structure AmcProxySensorRequest where
  req : UInt32
  repo : UInt32
  sensorId : UInt32
  length : UInt32
  address : UInt64
  deriving DecidableEq, Repr

/-- `struct amc_proxy_pdi_download_request`; the checksum is the number its 16 bytes spell. -/
structure AmcProxyPdiDownloadRequest where
  length : UInt32
  address : UInt64
  bootDevice : UInt32
  partition : UInt32
  pdiMd5 : BitVec 128
  pdiSize : UInt32
  lastChunk : UInt16
  chunk : UInt16
  chunkSize : UInt32
  deriving DecidableEq, Repr

structure AmcProxyPartitionCopyRequest where
  srcDevice : UInt32
  srcPart : UInt32
  destDevice : UInt32
  destPart : UInt32
  length : UInt32
  address : UInt64
  deriving DecidableEq, Repr

structure AmcProxyFptPartitionRequest where
  reqType : UInt32
  bootDevice : UInt32
  partition : UInt32
  type : UInt32
  baseAddr : UInt32
  size : UInt32
  pdiMd5 : BitVec 128
  pdiSize : UInt32
  flags : UInt32
  deriving DecidableEq, Repr

structure AmcProxyEepromRwRequest where
  type : UInt32
  address : UInt64
  length : UInt8
  offset : UInt8
  deriving DecidableEq, Repr

structure AmcProxyModuleRwRequest where
  type : UInt32
  address : UInt64
  deviceId : UInt8
  page : UInt8
  offset : UInt8
  length : UInt8
  deriving DecidableEq, Repr

/-! ### The entry -/

/-- The `amc_proxy_cmd_opcode`s that the host sends. -/
inductive AmcProxyCmdOpcode
  | deviceBoot | heartbeat | eepromReadWrite | moduleReadWrite | debugVerbosity
  | setFptPartition | pdiDownload | sensor | partitionCopy | identify
  deriving DecidableEq, Repr

def AmcProxyCmdOpcode.value : AmcProxyCmdOpcode → ℕ
  | .deviceBoot => 0x0
  | .heartbeat => 0x2
  | .eepromReadWrite => 0x3
  | .moduleReadWrite => 0x4
  | .debugVerbosity => 0x5
  | .setFptPartition => 0x6
  | .pdiDownload => 0xA
  | .sensor => 0xC
  | .partitionCopy => 0xD
  | .identify => 0x202

def AMC_PROXY_REQUEST_CMD_NEW : ℕ := 1

/-- `struct amc_proxy_cmd_request_hdr`: `opcode`, `count`, `state`, `cid`, `rsvd`. -/
def requestHdrMembers : List Member := [.bits 32 16, .bits 32 15, .bits 32 1, .u16, .u16]

def requestHdrValues (opcode : AmcProxyCmdOpcode) (count : ℕ) (cid : UInt16) : List ℕ :=
  [opcode.value, count, AMC_PROXY_REQUEST_CMD_NEW, cid.toNat, 0]

/-- `struct amc_proxy_cmd_request` with a payload of some structure. -/
def requestEntry (opcode : AmcProxyCmdOpcode) (count : ℕ) (cid : UInt16)
    (payloadMembers : List Member) (payload : List ℕ) : ℕ :=
  store 0 (requestHdrMembers ++ payloadMembers) (requestHdrValues opcode count cid ++ payload)

/-- `struct amc_proxy_cmd_req_sensor_payload`. -/
structure SensorPayload where
  address : ℕ
  size : ℕ
  offset : ℕ
  aid : ℕ
  sid : ℕ
  addrType : ℕ
  sensorId : ℕ
  resvd : ℕ := 0
  pad : ℕ := 0

def SensorPayload.members : List Member :=
  [.u64, .u32, .u32, .bits 32 8, .bits 32 8, .bits 32 3, .bits 32 8, .bits 32 5, .u32]

def SensorPayload.values (p : SensorPayload) : List ℕ :=
  [p.address, p.size, p.offset, p.aid, p.sid, p.addrType, p.sensorId, p.resvd, p.pad]

/-- `struct amc_proxy_cmd_data_payload`. -/
structure DataPayload where
  address : ℕ := 0
  size : ℕ := 0
  remainSize : ℕ := 0
  srcPartition : ℕ := 0
  destPartition : ℕ := 0
  partitionSel : ℕ := 0
  updateFpt : ℕ := 0
  programPdi : ℕ := 0
  bootDevice : ℕ := 0
  srcDevice : ℕ := 0
  destDevice : ℕ := 0
  programApuPdi : ℕ := 0
  programRpuPdi : ℕ := 0
  partitionResvd : ℕ := 0
  lastChunk : ℕ := 0
  chunk : ℕ := 0
  chunkSize : ℕ := 0
  pdiMd5 : ℕ := 0
  pdiSize : ℕ := 0

def DataPayload.members : List Member :=
  [.u64, .u32, .u32, .bits 32 4, .bits 32 4, .bits 32 4, .bits 32 1, .bits 32 1, .bits 32 1,
    .bits 32 1, .bits 32 1, .bits 32 1, .bits 32 1, .bits 32 13, .bits 16 1, .bits 16 15, .u32,
    .bytes 16, .u32]

def DataPayload.values (p : DataPayload) : List ℕ :=
  [p.address, p.size, p.remainSize, p.srcPartition, p.destPartition, p.partitionSel, p.updateFpt,
    p.programPdi, p.bootDevice, p.srcDevice, p.destDevice, p.programApuPdi, p.programRpuPdi,
    p.partitionResvd, p.lastChunk, p.chunk, p.chunkSize, p.pdiMd5, p.pdiSize]

/-- `sizeof(struct amc_proxy_cmd_data_payload)`. -/
def sizeofDataPayload : ℕ := 48

/-- `struct amc_proxy_cmd_heartbeat_payload` and the debug verbosity. -/
def byteMembers : List Member := [.u8]

/-- `struct amc_proxy_cmd_eeprom_payload`: `address`, `req_type`, `len`, `offset`, `resvd`. -/
def eepromMembers : List Member := [.u64, .bits 32 1, .bits 32 8, .bits 32 8, .bits 32 15]

/-- `struct amc_proxy_cmd_module_payload`: `address`, `device_id`, `page`, `offset`, `len`,
`req_type`, `resvd`. -/
def moduleMembers : List Member := [.u64, .u8, .u8, .u8, .u8, .bits 32 1, .bits 32 31]

/-- `struct amc_proxy_cmd_fpt_partition_payload`: `req_type`, `boot_device`, `partition`, `type`,
`base_addr`, `size`, `pdi_md5`, `pdi_size`, `flags`. -/
def fptMembers : List Member := [.u32, .u32, .u32, .u32, .u32, .u32, .bytes 16, .u32, .u32]

/-! ### The requests -/

def amcProxyRequestIdentity (cid : UInt16) : ℕ := requestEntry .identify 0 cid [] []

def amcProxyRequestSensor (cid : UInt16) (r : AmcProxySensorRequest) : ℕ :=
  requestEntry .sensor 24 cid SensorPayload.members <| SensorPayload.values
    { address := r.address.toNat
      size := r.length.toNat
      aid := r.req.toNat
      sid := r.repo.toNat
      offset := 0
      addrType := 0
      sensorId := r.sensorId.toNat }

def FPT_UPDATE_MAGIC : UInt32 := 0xAAAAAAAA
def PDI_PROGRAM_MAGIC : UInt32 := 0xBBBBBBBB
def PDI_APU_PROGRAM_MAGIC : UInt32 := 0xCCCCCCCC
def PDI_RPU_PROGRAM_MAGIC : UInt32 := 0xDDDDDDDD

/-- The payload of `amc_proxy_request_pdi_download`. -/
def pdiDownloadPayload (r : AmcProxyPdiDownloadRequest) : DataPayload :=
  let p : DataPayload :=
    { address := r.address.toNat
      size := r.length.toNat
      remainSize := 0
      bootDevice := r.bootDevice.toNat
      lastChunk := r.lastChunk.toNat
      chunk := r.chunk.toNat
      chunkSize := r.chunkSize.toNat
      pdiMd5 := r.pdiMd5.toNat
      pdiSize := r.pdiSize.toNat }
  if r.partition = FPT_UPDATE_MAGIC then { p with updateFpt := 1 }
  else if r.partition = PDI_PROGRAM_MAGIC then { p with programPdi := 1 }
  else if r.partition = PDI_APU_PROGRAM_MAGIC then { p with programApuPdi := 1 }
  else if r.partition = PDI_RPU_PROGRAM_MAGIC then { p with programRpuPdi := 1 }
  else { p with partitionSel := r.partition.toNat }

def amcProxyRequestPdiDownload (cid : UInt16) (r : AmcProxyPdiDownloadRequest) : ℕ :=
  requestEntry .pdiDownload sizeofDataPayload cid DataPayload.members (pdiDownloadPayload r).values

def amcProxyRequestDeviceBoot (cid : UInt16) (partition : UInt32) : ℕ :=
  requestEntry .deviceBoot sizeofDataPayload cid DataPayload.members <| DataPayload.values
    { partitionSel := partition.toNat }

def amcProxyRequestPartitionCopy (cid : UInt16) (r : AmcProxyPartitionCopyRequest) : ℕ :=
  requestEntry .partitionCopy sizeofDataPayload cid DataPayload.members <| DataPayload.values
    { srcDevice := r.srcDevice.toNat
      srcPartition := r.srcPart.toNat
      destDevice := r.destDevice.toNat
      destPartition := r.destPart.toNat
      address := r.address.toNat
      size := r.length.toNat }

def amcProxyRequestHeartbeat (cid : UInt16) (requestId : UInt8) : ℕ :=
  requestEntry .heartbeat 1 cid byteMembers [requestId.toNat]

def amcProxyRequestEepromReadWrite (cid : UInt16) (r : AmcProxyEepromRwRequest) : ℕ :=
  requestEntry .eepromReadWrite 16 cid eepromMembers
    [r.address.toNat, r.type.toNat, r.length.toNat, r.offset.toNat, 0]

def amcProxyRequestModuleReadWrite (cid : UInt16) (r : AmcProxyModuleRwRequest) : ℕ :=
  requestEntry .moduleReadWrite 16 cid moduleMembers
    [r.address.toNat, r.deviceId.toNat, r.page.toNat, r.offset.toNat, r.length.toNat,
      r.type.toNat, 0]

def amcProxyRequestDebugVerbosity (cid : UInt16) (verbosity : UInt8) : ℕ :=
  requestEntry .debugVerbosity 1 cid byteMembers [verbosity.toNat]

def amcProxyRequestSetFptPartition (cid : UInt16) (r : AmcProxyFptPartitionRequest) : ℕ :=
  requestEntry .setFptPartition 48 cid fptMembers
    [r.reqType.toNat, r.bootDevice.toNat, r.partition.toNat, r.type.toNat, r.baseAddr.toNat,
      r.size.toNat, r.pdiMd5.toNat, r.pdiSize.toNat, r.flags.toNat]

/-! ### Responses -/

/-- What `cmd_complete` takes from an entry: the id by which it finds the command, the two payload
words as `cmd_response` holds them, and `cmd_response_code`. -/
structure CmdCompletion where
  cid : ℕ
  cmdResponse : ℕ
  cmdResponseCode : UInt32
  deriving DecidableEq, Repr

/-- `struct amc_proxy_cmd_response` with the default payload: `cid`, `cstate`, `specific`,
`state`, `resvd0`, `resvd1`, `ret`. -/
def responseMembers : List Member :=
  [.u16, .bits 16 14, .bits 16 1, .bits 16 1, .u32, .u32, .u32]

/-- `cmd_complete`, reading the entry. -/
def CmdCompletion.ofImage (image : ℕ) : CmdCompletion :=
  match load 0 image responseMembers with
  | [cid, _cstate, _specific, _state, resvd0, resvd1, ret] =>
    ⟨cid, store 0 [.u32, .u32] [resvd0, resvd1], UInt32.ofNat ret⟩
  | _ => ⟨0, 0, 0⟩

structure AmcProxyIdentifyResponse where
  verMajor : ℕ
  verMinor : ℕ
  verPatch : ℕ
  localChanges : ℕ
  devCommits : ℕ
  linkVerMajor : ℕ
  linkVerMinor : ℕ
  deriving DecidableEq, Repr

/-- `struct amc_proxy_cmd_resp_identify_payload`. -/
def identifyMembers : List Member := [.u8, .u8, .u8, .u8, .u16, .u8, .u8]

/-- `amc_proxy_get_response_identity`; it does not look at the response code. -/
def amcProxyGetResponseIdentity (c : CmdCompletion) : AmcProxyIdentifyResponse × ℤ :=
  match load 0 c.cmdResponse identifyMembers with
  | [verMajor, verMinor, verPatch, localChanges, devCommits, linkVerMajor, linkVerMinor] =>
    (⟨verMajor, verMinor, verPatch, localChanges, devCommits, linkVerMajor, linkVerMinor⟩, 0)
  | _ => (⟨0, 0, 0, 0, 0, 0, 0⟩, 0)

def CmdCompletion.word0 (c : CmdCompletion) : ℕ :=
  match load 0 c.cmdResponse [.u32, .u32] with
  | [word0, _resvd] => word0
  | _ => 0

/-- `amc_proxy_get_response_sensor`: the result is taken from the payload. -/
def amcProxyGetResponseSensor (c : CmdCompletion) : ℤ := (UInt32.ofNat c.word0).toInt32.toInt

def amcProxyGetResponseHeartbeat (c : CmdCompletion) : UInt8 × ℤ :=
  (UInt8.ofNat c.word0, amcResultToLinuxErrno c.cmdResponseCode)

/-- `amc_proxy_get_response_pdi_download`, `_device_boot`, `_partition_copy`,
`_eeprom_read_write`, `_module_read_write`, `_debug_verbosity` and `_set_fpt_partition`: all
return the response code as an error number. -/
def amcProxyGetResponseCode (c : CmdCompletion) : ℤ := amcResultToLinuxErrno c.cmdResponseCode

end Amr.Amc
