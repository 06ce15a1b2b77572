/-
# The two ends of a queue entry

The host (`src/sw/AMI/driver/amc_proxy.c`) and the firmware
(`src/fw/AMC/src/proxy_drivers/ami/ami_proxy_driver.c`) declare the entries of the queues on their
own. Here the two declarations meet: what a request function of the host writes is what the
firmware's accessor of that request returns, and what the firmware puts into a response is what
the host's response function returns. The layouts agree member by member, so the values agree
exactly as far as each fits its field.
-/
import Amr.Amc.Entry
import Amr.Ami.Accessors
import Amr.Ami.Accounting

namespace Amr.Wire

open StructLayout Amc Ami

/-! ### The layouts agree -/

theorem hdr_members : requestHdrMembers = AMIProxyCmdReqHdr.members := rfl

theorem sensor_members : SensorPayload.members = AMIProxyCmdReqSensorPayload.members := rfl

theorem data_members : DataPayload.members = AMIProxyCmdDataPayload.members := rfl

theorem byte_members : byteMembers = bytePayloadMembers := rfl

theorem eeprom_members : eepromMembers = AMIProxyCmdEepromPayload.members := rfl

theorem module_members : moduleMembers = AMIProxyCmdModulePayload.members := rfl

theorem fpt_members : fptMembers = AMIProxyCmdFptFlagsPayload.members := rfl

theorem endOf_hdr : endOf 0 requestHdrMembers = payloadOff := by decide

section Entry

variable (opcode : AmcProxyCmdOpcode) (count : ℕ) (cid : UInt16)

theorem load_requestEntry (ms : List Member) (vs : List ℕ) (h : vs.length = ms.length) :
    load 0 (requestEntry opcode count cid ms vs) requestHdrMembers =
        cut requestHdrMembers (requestHdrValues opcode count cid) ∧
      load payloadOff (requestEntry opcode count cid ms vs) ms = cut ms vs := by
  have hboth := load_store_append requestHdrMembers ms (requestHdrValues opcode count cid) vs rfl h
  rwa [endOf_hdr] at hboth

theorem hdr_requestEntry {ms : List Member} {vs : List ℕ} (h : vs.length = ms.length) :
    (AMIProxyCmdReqHdr.ofImage (requestEntry opcode count cid ms vs)).ulOpCode = opcode.value ∧
      (AMIProxyCmdReqHdr.ofImage (requestEntry opcode count cid ms vs)).usCid = cid.toNat := by
  have hload := (load_requestEntry opcode count cid ms vs h).1
  have hop : opcode.value % 2 ^ 16 = opcode.value := by cases opcode <;> rfl
  have hcid : cid.toNat % 2 ^ 16 = cid.toNat := Nat.mod_eq_of_lt cid.toNat_lt
  rw [hdr_members] at hload
  simp only [AMIProxyCmdReqHdr.ofImage, hload]
  exact ⟨hop, hcid⟩

theorem sensor_requestEntry (p : SensorPayload) :
    AMIProxyCmdReqSensorPayload.ofImage
        (requestEntry opcode count cid SensorPayload.members p.values) =
      { ullAddress := p.address % 2 ^ 64
        ulSize := p.size % 2 ^ 32
        ulOffset := p.offset % 2 ^ 32
        ulAID := p.aid % 2 ^ 8
        ulSID := p.sid % 2 ^ 8
        ulAddrType := p.addrType % 2 ^ 3
        ulSensorId := p.sensorId % 2 ^ 8
        ulResvd := p.resvd % 2 ^ 5
        ulPad := p.pad % 2 ^ 32 } := by
  have hload := (load_requestEntry opcode count cid SensorPayload.members p.values rfl).2
  rw [AMIProxyCmdReqSensorPayload.ofImage, ← sensor_members, hload]
  rfl

theorem data_requestEntry (p : DataPayload) :
    AMIProxyCmdDataPayload.ofImage
        (requestEntry opcode count cid DataPayload.members p.values) =
      { ullAddress := p.address % 2 ^ 64
        ulSize := p.size % 2 ^ 32
        ulRemainSize := p.remainSize % 2 ^ 32
        ulSrcPartition := p.srcPartition % 2 ^ 4
        ulDestPartition := p.destPartition % 2 ^ 4
        ulPartitionSel := p.partitionSel % 2 ^ 4
        ulUpdateFpt := p.updateFpt % 2 ^ 1
        ulPdiProgram := p.programPdi % 2 ^ 1
        ulBootDevice := p.bootDevice % 2 ^ 1
        ulSrcDevice := p.srcDevice % 2 ^ 1
        ulDestDevice := p.destDevice % 2 ^ 1
        ulApuPdiProgram := p.programApuPdi % 2 ^ 1
        ulRpuPdiProgram := p.programRpuPdi % 2 ^ 1
        ulPartitionRsvd := p.partitionResvd % 2 ^ 13
        usLastPacket := p.lastChunk % 2 ^ 1
        usPacketNum := p.chunk % 2 ^ 15
        ulPacketSize := p.chunkSize % 2 ^ 32
        pucPdiMd5 := p.pdiMd5 % 2 ^ 128
        ulPdiSize := p.pdiSize % 2 ^ 32 } := by
  have hload := (load_requestEntry opcode count cid DataPayload.members p.values rfl).2
  rw [AMIProxyCmdDataPayload.ofImage, ← data_members, hload]
  rfl

theorem byte_requestEntry (b : UInt8) :
    bytePayload (requestEntry opcode count cid byteMembers [b.toNat]) = b.toNat := by
  have hload := (load_requestEntry opcode count cid byteMembers [b.toNat] rfl).2
  rw [bytePayload, ← byte_members, hload]
  exact Nat.mod_eq_of_lt b.toNat_lt

theorem eeprom_requestEntry (address type len offset : ℕ) :
    AMIProxyCmdEepromPayload.ofImage
        (requestEntry opcode count cid eepromMembers [address, type, len, offset, 0]) =
      ⟨address % 2 ^ 64, type % 2 ^ 1, len % 2 ^ 8, offset % 2 ^ 8, 0⟩ := by
  have hload := (load_requestEntry opcode count cid eepromMembers
    [address, type, len, offset, 0] rfl).2
  rw [AMIProxyCmdEepromPayload.ofImage, ← eeprom_members, hload]
  rfl

theorem module_requestEntry (address device page offset len type : ℕ) :
    AMIProxyCmdModulePayload.ofImage
        (requestEntry opcode count cid moduleMembers
          [address, device, page, offset, len, type, 0]) =
      ⟨address % 2 ^ 64, device % 2 ^ 8, page % 2 ^ 8, offset % 2 ^ 8, len % 2 ^ 8,
        type % 2 ^ 1, 0⟩ := by
  have hload := (load_requestEntry opcode count cid moduleMembers
    [address, device, page, offset, len, type, 0] rfl).2
  rw [AMIProxyCmdModulePayload.ofImage, ← module_members, hload]
  rfl

theorem fpt_requestEntry (type boot partition ptype base size md5 pdiSize flags : ℕ) :
    AMIProxyCmdFptFlagsPayload.ofImage
        (requestEntry opcode count cid fptMembers
          [type, boot, partition, ptype, base, size, md5, pdiSize, flags]) =
      ⟨type % 2 ^ 32, boot % 2 ^ 32, partition % 2 ^ 32, ptype % 2 ^ 32, base % 2 ^ 32,
        size % 2 ^ 32, md5 % 2 ^ 128, pdiSize % 2 ^ 32, flags % 2 ^ 32⟩ := by
  have hload := (load_requestEntry opcode count cid fptMembers
    [type, boot, partition, ptype, base, size, md5, pdiSize, flags] rfl).2
  rw [AMIProxyCmdFptFlagsPayload.ofImage, ← fpt_members, hload]
  rfl

end Entry

/-! ### Requests -/

inductive Request
  | identity
  | sensor (r : AmcProxySensorRequest)
  | pdiDownload (r : AmcProxyPdiDownloadRequest)
  | deviceBoot (partition : UInt32)
  | partitionCopy (r : AmcProxyPartitionCopyRequest)
  | heartbeat (requestId : UInt8)
  | eepromReadWrite (r : AmcProxyEepromRwRequest)
  | moduleReadWrite (r : AmcProxyModuleRwRequest)
  | debugVerbosity (verbosity : UInt8)
  | setFptPartition (r : AmcProxyFptPartitionRequest)
  deriving DecidableEq

def Request.entry (cid : UInt16) : Request → ℕ
  | .identity => amcProxyRequestIdentity cid
  | .sensor r => amcProxyRequestSensor cid r
  | .pdiDownload r => amcProxyRequestPdiDownload cid r
  | .deviceBoot partition => amcProxyRequestDeviceBoot cid partition
  | .partitionCopy r => amcProxyRequestPartitionCopy cid r
  | .heartbeat requestId => amcProxyRequestHeartbeat cid requestId
  | .eepromReadWrite r => amcProxyRequestEepromReadWrite cid r
  | .moduleReadWrite r => amcProxyRequestModuleReadWrite cid r
  | .debugVerbosity verbosity => amcProxyRequestDebugVerbosity cid verbosity
  | .setFptPartition r => amcProxyRequestSetFptPartition cid r

/-- The firmware's opcode for the request. -/
def Request.opcode : Request → AmiCmdOpcodeReq
  | .identity => .identify
  | .sensor _ => .sensor
  | .pdiDownload _ => .pdiDownload
  | .deviceBoot _ => .bootSel
  | .partitionCopy _ => .pdiCopy
  | .heartbeat _ => .heartbeat
  | .eepromReadWrite _ => .eepromRw
  | .moduleReadWrite _ => .moduleRw
  | .debugVerbosity _ => .debugVerbosity
  | .setFptPartition _ => .fptFlags

/-- The partition of a download, which the firmware gets as four flags and a number. -/
def PartitionAgrees (q : AMIProxyPdiDownloadRequest) (partition : UInt32) : Prop :=
  (q.iUpdateFpt = 1 ↔ partition = FPT_UPDATE_MAGIC) ∧
    (q.iPdiProgram = 1 ↔ partition = PDI_PROGRAM_MAGIC) ∧
    (q.iApuPdiProgram = 1 ↔ partition = PDI_APU_PROGRAM_MAGIC) ∧
    (q.iRpuPdiProgram = 1 ↔ partition = PDI_RPU_PROGRAM_MAGIC) ∧
    (q.iUpdateFpt = 0 ∧ q.iPdiProgram = 0 ∧ q.iApuPdiProgram = 0 ∧ q.iRpuPdiProgram = 0 →
      q.ulPartitionSel = partition.toNat)

/-- The application obtains the values of a download. -/
structure DownloadAgrees (q : AMIProxyPdiDownloadRequest) (r : AmcProxyPdiDownloadRequest) :
    Prop where
  address : q.ullAddress = r.address.toNat
  length : q.ulLength = r.length.toNat
  bootDevice : q.iBootDevice = r.bootDevice.toNat
  partition : PartitionAgrees q r.partition
  pdiMd5 : q.pucPdiMd5 = r.pdiMd5.toNat
  pdiSize : q.ulPdiSize = r.pdiSize.toNat
  lastChunk : q.iLastPacket = r.lastChunk.toNat
  chunk : q.usPacketNum = r.chunk.toNat
  chunkSize : q.ulPacketSize = r.chunkSize.toNat

/-- The slot holds the request under its id and opcode, and the application obtains the values
that the host passed. -/
def Delivered (t : Task) (i : Fin AMI_RXDATA_SIZE) (cid : UInt16) (req : Request) : Prop :=
  (t.xRxData i).usCid = cid.toNat ∧ (t.xRxData i).xOpCode = req.opcode ∧
  match req with
  | .identity => True
  | .sensor r => ∃ q, t.iAMIGetSensorRequest i true = some q ∧
      q.xRequest = r.req.toNat ∧ q.xRepo = r.repo.toNat ∧ q.ulSensorId = r.sensorId.toNat ∧
      q.ulLength = r.length.toNat ∧ q.ullAddress = r.address.toNat
  | .pdiDownload r => ∃ q, t.iAMIGetPdiDownloadRequest i true = some q ∧
      DownloadAgrees q r
  | .deviceBoot partition => ∃ q, t.iAMIGetBootSelectRequest i true = some q ∧
      q.ulPartitionSel = partition.toNat
  | .partitionCopy r => ∃ q, t.iAMIGetPdiCopyRequest i true = some q ∧
      q.ulSrcDevice = r.srcDevice.toNat ∧ q.ulSrcPartition = r.srcPart.toNat ∧
      q.ulDestDevice = r.destDevice.toNat ∧ q.ulDestPartition = r.destPart.toNat ∧
      q.ulMaxLength = r.length.toNat ∧ q.ullAddress = r.address.toNat
  -- the count comes with the event, there is no accessor
  | .heartbeat requestId => (t.recordOf i).signals = [⟨.heartbeat, requestId.toNat⟩]
  | .eepromReadWrite r => ∃ q, t.iAMIGetEepromReadWriteRequest i true = some q ∧
      q.xRequest = r.type.toNat ∧ q.ullAddress = r.address.toNat ∧
      q.ulLength = r.length.toNat ∧ q.ulOffset = r.offset.toNat
  | .moduleReadWrite r => ∃ q, t.iAMIGetModuleReadWriteRequest i true = some q ∧
      q.xRequest = r.type.toNat ∧ q.ullAddress = r.address.toNat ∧
      q.ucExDeviceId = r.deviceId.toNat ∧ q.ucPage = r.page.toNat ∧
      q.ucByteOffset = r.offset.toNat ∧ q.ucLength = r.length.toNat
  | .debugVerbosity verbosity =>
      t.iAMIGetDebugVerbosityRequest i true = some verbosity.toNat
  | .setFptPartition r => ∃ q, t.iAMIGetFptFlagsRequest i true = some q ∧
      q.xRequest = r.reqType.toNat ∧ q.ulBootDevice = r.bootDevice.toNat ∧
      q.ulPartitionId = r.partition.toNat ∧ q.ulType = r.type.toNat ∧
      q.ulBaseAddr = r.baseAddr.toNat ∧ q.ulSize = r.size.toNat ∧
      q.pdiMd5 = r.pdiMd5.toNat ∧ q.ulPdiSize = r.pdiSize.toNat ∧ q.ulFlags = r.flags.toNat

/-- Whenever the driver stores the entry in a slot and raises the event, the application obtains
the values that the host passed. -/
def RequestAgrees (cid : UInt16) (req : Request) : Prop :=
  ∀ t o i, Task.claimed t o = some i → o.raise.delivers = true →
    Delivered (t.rx (req.entry cid) o) i cid req

/-- Each value fits the field it is assigned to. -/
def Request.Fits : Request → Prop
  | .identity | .heartbeat _ | .debugVerbosity _ | .setFptPartition _ => True
  | .sensor r => r.req.toNat < 2 ^ 8 ∧ r.repo.toNat < 2 ^ 8 ∧ r.sensorId.toNat < 2 ^ 8
  | .pdiDownload r => r.bootDevice.toNat < 2 ∧ r.lastChunk.toNat < 2 ∧ r.chunk.toNat < 2 ^ 15 ∧
      (r.partition = FPT_UPDATE_MAGIC ∨ r.partition = PDI_PROGRAM_MAGIC ∨
        r.partition = PDI_APU_PROGRAM_MAGIC ∨ r.partition = PDI_RPU_PROGRAM_MAGIC ∨
        r.partition.toNat < 2 ^ 4)
  | .deviceBoot partition => partition.toNat < 2 ^ 4
  | .partitionCopy r => r.srcDevice.toNat < 2 ∧ r.srcPart.toNat < 2 ^ 4 ∧
      r.destDevice.toNat < 2 ∧ r.destPart.toNat < 2 ^ 4
  | .eepromReadWrite r => r.type.toNat < 2
  | .moduleReadWrite r => r.type.toNat < 2

theorem opcodeOf_entry (cid : UInt16) (req : Request) :
    Task.opcodeOf (req.entry cid) = some req.opcode ∧
      (AMIProxyCmdReqHdr.ofImage (req.entry cid)).usCid = cid.toNat := by
  have key : ∀ (opcode : AmcProxyCmdOpcode) (count : ℕ) (ms : List Member) (vs : List ℕ),
      vs.length = ms.length → AmiCmdOpcodeReq.ofValue opcode.value = some req.opcode →
      req.entry cid = requestEntry opcode count cid ms vs →
      Task.opcodeOf (req.entry cid) = some req.opcode ∧
        (AMIProxyCmdReqHdr.ofImage (req.entry cid)).usCid = cid.toNat := by
    intro opcode count ms vs hlen hop hentry
    obtain ⟨h₁, h₂⟩ := hdr_requestEntry opcode count cid hlen
    rw [hentry]
    exact ⟨by rw [Task.opcodeOf, h₁, hop], h₂⟩
  cases req <;> exact key _ _ _ _ rfl rfl rfl

theorem post_keeps (t : Ami.Task) (ucInstance : ℕ) (c : Completion) (fails : Bool) :
    (t.post ucInstance c fails).iInitialised = t.iInitialised ∧
      (t.post ucInstance c fails).xRxData = t.xRxData ∧
      ∀ n, ((t.post ucInstance c fails).record n).signals = (t.record n).signals := by
  unfold Task.post
  split_ifs
  · refine ⟨rfl, rfl, fun n => ?_⟩
    by_cases hn : n = t.serialAt ucInstance
    · subst hn; simp [Task.postMsg]
    · simp [Task.postMsg, hn]
  · exact ⟨rfl, rfl, fun _ => rfl⟩

theorem rx_claimed {t : Task} {o : RxOutcome} {i : Fin AMI_RXDATA_SIZE} {image : ℕ}
    {op : AmiCmdOpcodeReq} (hi : t.claimed o = some i) (hop : Task.opcodeOf image = some op)
    (hdel : o.raise.delivers = true) :
    (t.rx image o).iInitialised = true ∧
      (t.rx image o).xRxData i = ⟨true, op, (AMIProxyCmdReqHdr.ofImage image).usCid,
        rxRequest image op, t.accepted⟩ ∧
      (op = .heartbeat → ((t.rx image o).recordOf i).signals =
        [⟨.heartbeat, bytePayload image⟩]) := by
  have hinit : t.iInitialised = true := by
    unfold Task.claimed Task.iFindNextFreeRxDataIndex at hi
    split_ifs at hi with h₁ h₂
    exact h₂
  by_cases hb : op = .heartbeat
  · subst hb
    have hrx : t.rx image o = t.iHandleHeartbeatRequest image o := by simp [Task.rx, hop]
    simp only [hrx, Task.iHandleHeartbeatRequest, hi, Task.raiseEvent_claim hdel]
    split_ifs with hok
    · obtain ⟨h₁, h₂, h₃⟩ := post_keeps
        (t.accept i .heartbeat image ⟨.heartbeat, bytePayload image⟩ []) i
        ⟨.heartbeatComplete (UInt8.ofNat (bytePayload image)), .success⟩ o.postFails
      refine ⟨by rw [h₁]; exact hinit, by rw [h₂]; simp [Task.accept], fun _ => ?_⟩
      rw [Task.recordOf, h₂, h₃]
      simp [Task.accept]
    · exact ⟨hinit, by simp [Task.accept], fun _ => by simp [Task.accept, Task.recordOf]⟩
  · rw [Task.rx_eq_storeAndRaise o hop hb]
    simp [Task.storeAndRaise, hi, Task.raiseEvent_claim hdel, Task.accept, hinit, hb]

theorem pdiDownloadPayload_fields (r : AmcProxyPdiDownloadRequest) :
    (pdiDownloadPayload r).address = r.address.toNat ∧
      (pdiDownloadPayload r).size = r.length.toNat ∧
      (pdiDownloadPayload r).bootDevice = r.bootDevice.toNat ∧
      (pdiDownloadPayload r).lastChunk = r.lastChunk.toNat ∧
      (pdiDownloadPayload r).chunk = r.chunk.toNat ∧
      (pdiDownloadPayload r).chunkSize = r.chunkSize.toNat ∧
      (pdiDownloadPayload r).pdiMd5 = r.pdiMd5.toNat ∧
      (pdiDownloadPayload r).pdiSize = r.pdiSize.toNat := by
  unfold pdiDownloadPayload
  split_ifs <;> simp

theorem partitionAgrees_iff {q : AMIProxyPdiDownloadRequest} {r : AmcProxyPdiDownloadRequest}
    (hu : q.iUpdateFpt = (pdiDownloadPayload r).updateFpt % 2 ^ 1)
    (hp : q.iPdiProgram = (pdiDownloadPayload r).programPdi % 2 ^ 1)
    (ha : q.iApuPdiProgram = (pdiDownloadPayload r).programApuPdi % 2 ^ 1)
    (hr : q.iRpuPdiProgram = (pdiDownloadPayload r).programRpuPdi % 2 ^ 1)
    (hs : q.ulPartitionSel = (pdiDownloadPayload r).partitionSel % 2 ^ 4) :
    PartitionAgrees q r.partition ↔
      r.partition = FPT_UPDATE_MAGIC ∨ r.partition = PDI_PROGRAM_MAGIC ∨
        r.partition = PDI_APU_PROGRAM_MAGIC ∨ r.partition = PDI_RPU_PROGRAM_MAGIC ∨
        r.partition.toNat < 2 ^ 4 := by
  unfold pdiDownloadPayload at hu hp ha hr hs
  unfold PartitionAgrees
  rw [hu, hp, ha, hr, hs]
  split_ifs with h₁ h₂ h₃ h₄
  · simp [h₁, FPT_UPDATE_MAGIC, PDI_PROGRAM_MAGIC, PDI_APU_PROGRAM_MAGIC, PDI_RPU_PROGRAM_MAGIC]
  · simp [h₂, FPT_UPDATE_MAGIC, PDI_PROGRAM_MAGIC, PDI_APU_PROGRAM_MAGIC, PDI_RPU_PROGRAM_MAGIC]
  · simp [h₃, FPT_UPDATE_MAGIC, PDI_PROGRAM_MAGIC, PDI_APU_PROGRAM_MAGIC, PDI_RPU_PROGRAM_MAGIC]
  · simp [h₄, FPT_UPDATE_MAGIC, PDI_PROGRAM_MAGIC, PDI_APU_PROGRAM_MAGIC, PDI_RPU_PROGRAM_MAGIC]
  · simp [h₁, h₂, h₃, h₄]

theorem downloadAgrees_iff {cid : UInt16} {r : AmcProxyPdiDownloadRequest}
    {q : AMIProxyPdiDownloadRequest}
    (h : rxRequest (amcProxyRequestPdiDownload cid r) .pdiDownload = .xDownloadRequest q) :
    DownloadAgrees q r ↔ (Request.pdiDownload r).Fits := by
  have haddr := r.address.toNat_lt
  have hlen := r.length.toNat_lt
  have hmd5 := r.pdiMd5.isLt
  have hsize := r.pdiSize.toNat_lt
  have hchunk := r.chunkSize.toNat_lt
  obtain ⟨h₁, h₂, h₃, h₄, h₅, h₆, h₇, h₈⟩ := pdiDownloadPayload_fields r
  simp only [rxRequest, amcProxyRequestPdiDownload, data_requestEntry,
    RxRequest.xDownloadRequest.injEq, h₁, h₂, h₃, h₄, h₅, h₆, h₇, h₈] at h
  subst h
  constructor
  · intro hagree
    have hb := hagree.bootDevice
    have hl := hagree.lastChunk
    have hc := hagree.chunk
    simp only at hb hl hc
    exact ⟨by omega, by omega, by omega,
      (partitionAgrees_iff rfl rfl rfl rfl rfl).mp hagree.partition⟩
  · rintro ⟨hb, hl, hc, hp⟩
    exact ⟨Nat.mod_eq_of_lt haddr, Nat.mod_eq_of_lt hlen, Nat.mod_eq_of_lt hb,
      (partitionAgrees_iff rfl rfl rfl rfl rfl).mpr hp, Nat.mod_eq_of_lt hmd5,
      Nat.mod_eq_of_lt hsize, Nat.mod_eq_of_lt hl, Nat.mod_eq_of_lt hc,
      Nat.mod_eq_of_lt hchunk⟩

theorem delivered_iff {t : Ami.Task} {o : RxOutcome} {i : Fin AMI_RXDATA_SIZE} (cid : UInt16)
    (req : Request) (hi : t.claimed o = some i) (hdel : o.raise.delivers = true) :
    Delivered (t.rx (req.entry cid) o) i cid req ↔ req.Fits := by
  obtain ⟨hop, hcid⟩ := opcodeOf_entry cid req
  obtain ⟨hinit, hslot, hbeat⟩ := rx_claimed hi hop hdel
  rw [hcid] at hslot
  generalize t.rx (req.entry cid) o = s at hinit hslot hbeat ⊢
  have hfor : s.slotFor i req.opcode true =
      some ⟨true, req.opcode, cid.toNat, rxRequest (req.entry cid) req.opcode, t.accepted⟩ := by
    rw [Task.slotFor_eq_some hinit (by rw [hslot]) (by rw [hslot]), hslot]
  unfold Delivered
  rw [hslot]
  simp only [true_and]
  cases req with
  | identity => simp [Request.Fits]
  | sensor r =>
    have haddr := r.address.toNat_lt
    have hlen := r.length.toNat_lt
    simp only [Request.opcode, rxRequest, Request.entry, amcProxyRequestSensor,
      sensor_requestEntry] at hfor
    simp only [Task.iAMIGetSensorRequest, hfor, Option.bind_some, Option.some.injEq,
      exists_eq_left', Request.Fits]
    omega
  | pdiDownload r =>
    obtain ⟨q, hq⟩ : ∃ q, rxRequest (amcProxyRequestPdiDownload cid r) .pdiDownload =
        .xDownloadRequest q := ⟨_, rfl⟩
    simp only [Request.opcode, Request.entry, hq] at hfor
    simp only [Task.iAMIGetPdiDownloadRequest, hfor, Option.bind_some, Option.some.injEq,
      exists_eq_left']
    exact downloadAgrees_iff hq
  | deviceBoot partition =>
    simp only [Request.opcode, rxRequest, Request.entry, amcProxyRequestDeviceBoot,
      data_requestEntry] at hfor
    simp only [Task.iAMIGetBootSelectRequest, hfor, Option.bind_some, Option.some.injEq,
      exists_eq_left', Request.Fits]
    omega
  | partitionCopy r =>
    have haddr := r.address.toNat_lt
    have hlen := r.length.toNat_lt
    simp only [Request.opcode, rxRequest, Request.entry, amcProxyRequestPartitionCopy,
      data_requestEntry] at hfor
    simp only [Task.iAMIGetPdiCopyRequest, hfor, Option.bind_some, Option.some.injEq,
      exists_eq_left', Request.Fits]
    omega
  | heartbeat requestId =>
    rw [hbeat rfl, Request.entry, amcProxyRequestHeartbeat, byte_requestEntry]
    simp [Request.Fits]
  | eepromReadWrite r =>
    have haddr := r.address.toNat_lt
    have hlen := r.length.toNat_lt
    have hoff := r.offset.toNat_lt
    simp only [Request.opcode, rxRequest, Request.entry, amcProxyRequestEepromReadWrite,
      eeprom_requestEntry] at hfor
    simp only [Task.iAMIGetEepromReadWriteRequest, hfor, Option.bind_some, Option.some.injEq,
      exists_eq_left', Request.Fits]
    omega
  | moduleReadWrite r =>
    have haddr := r.address.toNat_lt
    have hdev := r.deviceId.toNat_lt
    have hpage := r.page.toNat_lt
    have hoff := r.offset.toNat_lt
    have hlen := r.length.toNat_lt
    simp only [Request.opcode, rxRequest, Request.entry, amcProxyRequestModuleReadWrite,
      module_requestEntry] at hfor
    simp only [Task.iAMIGetModuleReadWriteRequest, hfor, Option.bind_some, Option.some.injEq,
      exists_eq_left', Request.Fits]
    omega
  | debugVerbosity verbosity =>
    simp only [Request.opcode, rxRequest, Request.entry, amcProxyRequestDebugVerbosity,
      byte_requestEntry] at hfor
    simp [Task.iAMIGetDebugVerbosityRequest, hfor, Request.Fits]
  | setFptPartition r =>
    have h₁ := r.reqType.toNat_lt
    have h₂ := r.bootDevice.toNat_lt
    have h₃ := r.partition.toNat_lt
    have h₄ := r.type.toNat_lt
    have h₅ := r.baseAddr.toNat_lt
    have h₆ := r.size.toNat_lt
    have h₇ := r.pdiMd5.isLt
    have h₈ := r.pdiSize.toNat_lt
    have h₉ := r.flags.toNat_lt
    simp only [Request.opcode, rxRequest, Request.entry, amcProxyRequestSetFptPartition,
      fpt_requestEntry] at hfor
    simp only [Task.iAMIGetFptFlagsRequest, hfor, Option.bind_some, Option.some.injEq,
      exists_eq_left', Request.Fits, iff_true]
    exact ⟨Nat.mod_eq_of_lt h₁, Nat.mod_eq_of_lt h₂, Nat.mod_eq_of_lt h₃, Nat.mod_eq_of_lt h₄,
      Nat.mod_eq_of_lt h₅, Nat.mod_eq_of_lt h₆, Nat.mod_eq_of_lt h₇, Nat.mod_eq_of_lt h₈,
      Nat.mod_eq_of_lt h₉⟩

/-- The driver with nothing in its slots. -/
def readyTask : Ami.Task := { Task.zero with iInitialised := true }

/-- **Requests.** The application obtains what the host passed exactly when it fits. -/
theorem requestAgrees_iff (cid : UInt16) (req : Request) : RequestAgrees cid req ↔ req.Fits := by
  constructor
  · intro hagree
    have hi : readyTask.claimed ⟨true, .ok, false⟩ = some 0 := by decide
    exact (delivered_iff cid req hi rfl).mp (hagree readyTask ⟨true, .ok, false⟩ 0 hi rfl)
  · intro hfits t o i hi hdel
    exact (delivered_iff cid req hi hdel).mpr hfits

/-! ### Responses -/

/-- `AMIProxyCmdRespHdr` and the rest of `AMIProxyCmdResp`. -/
def respMembers : List Member := [.u16, .bits 16 14, .bits 16 1, .bits 16 1, .u32, .u32, .u32]

theorem response_members : respMembers = responseMembers := rfl

def respImage (r : AMIProxyCmdResp) : ℕ :=
  store 0 respMembers
    [r.usCid, 0, 0, 0, r.ulPayload0.toNat, r.ulPayload1.toNat, r.ulRCode.toNat]

theorem ofImage_respImage {r : AMIProxyCmdResp} (hcid : r.usCid < 2 ^ 16) :
    CmdCompletion.ofImage (respImage r) =
      ⟨r.usCid, store 0 [.u32, .u32] [r.ulPayload0.toNat, r.ulPayload1.toNat], r.ulRCode⟩ := by
  have hload := load_store respMembers 0 0
    [r.usCid, 0, 0, 0, r.ulPayload0.toNat, r.ulPayload1.toNat, r.ulRCode.toNat] (by simp) rfl
  rw [zero_add] at hload
  have h₀ := Nat.mod_eq_of_lt r.ulPayload0.toNat_lt
  have h₁ := Nat.mod_eq_of_lt r.ulPayload1.toNat_lt
  have h₂ := Nat.mod_eq_of_lt r.ulRCode.toNat_lt
  rw [CmdCompletion.ofImage, respImage, ← response_members, hload]
  simpa [respMembers, cut, Member.width, h₀, h₁, h₂] using hcid

theorem shift_masked {v w s : ℕ} (hv : v < 2 ^ w) (hs : w + s ≤ 32) :
    (v <<< s % 2 ^ 32) &&& ((2 ^ w - 1) <<< s) = v * 2 ^ s := by
  have hlt : v <<< s < 2 ^ 32 := by
    rw [Nat.shiftLeft_eq]
    calc v * 2 ^ s < 2 ^ w * 2 ^ s := Nat.mul_lt_mul_of_pos_right hv (Nat.two_pow_pos s)
      _ = 2 ^ (w + s) := (pow_add 2 w s).symm
      _ ≤ 2 ^ 32 := Nat.pow_le_pow_right two_pos hs
  rw [Nat.mod_eq_of_lt hlt, ← Nat.shiftLeft_and_distrib, Nat.and_two_pow_sub_one_eq_mod,
    Nat.mod_eq_of_lt hv, Nat.shiftLeft_eq]

theorem or_eq_add {a b s : ℕ} (ha : a < 2 ^ s) : a ||| b * 2 ^ s = a + b * 2 ^ s := by
  rw [Nat.or_comm, Nat.mul_comm, ← Nat.two_pow_add_eq_or_of_lt ha, Nat.add_comm]

variable (x : AMIProxyIdentityResponse)

theorem identityPayload0_toNat :
    (identityPayload0 x).toNat = x.ucVerMajor.toNat + x.ucVerMinor.toNat * 2 ^ 8 +
      x.ucVerPatch.toNat * 2 ^ 16 + x.ucLocalChanges.toNat * 2 ^ 24 := by
  have h₀ := x.ucVerMajor.toNat_lt
  have h₁ := x.ucVerMinor.toNat_lt
  have h₂ := x.ucVerPatch.toNat_lt
  have m₀ : x.ucVerMajor.toNat &&& 255 = x.ucVerMajor.toNat := by
    have h := Nat.and_two_pow_sub_one_eq_mod x.ucVerMajor.toNat 8
    rwa [Nat.mod_eq_of_lt h₀] at h
  have m₁ : x.ucVerMinor.toNat <<< 8 % 4294967296 &&& 65280 = x.ucVerMinor.toNat * 2 ^ 8 := by
    simpa only [Nat.reducePow, Nat.reduceSub, Nat.reduceShiftLeft] using
      shift_masked (s := 8) h₁ (by norm_num)
  have m₂ : x.ucVerPatch.toNat <<< 16 % 4294967296 &&& 16711680 = x.ucVerPatch.toNat * 2 ^ 16 := by
    simpa only [Nat.reducePow, Nat.reduceSub, Nat.reduceShiftLeft] using
      shift_masked (s := 16) h₂ (by norm_num)
  have m₃ : x.ucLocalChanges.toNat <<< 24 % 4294967296 &&& 4278190080 =
      x.ucLocalChanges.toNat * 2 ^ 24 := by
    simpa only [Nat.reducePow, Nat.reduceSub, Nat.reduceShiftLeft] using
      shift_masked (s := 24) x.ucLocalChanges.toNat_lt (by norm_num)
  simp only [identityPayload0, UInt32.toNat_or, UInt32.toNat_and, UInt32.toNat_shiftLeft,
    UInt8.toNat_toUInt32, UInt32.reduceToNat, Nat.reducePow, Nat.reduceMod]
  rw [m₀, m₁, m₂, m₃, or_eq_add h₀, or_eq_add (s := 16) (by omega),
    or_eq_add (s := 24) (by omega)]
  rfl

theorem identityPayload1_toNat :
    (identityPayload1 x).toNat = x.usDevCommits.toNat + x.ucLinkVerMajor.toNat * 2 ^ 16 +
      x.ucLinkVerMinor.toNat * 2 ^ 24 := by
  have h₀ := x.usDevCommits.toNat_lt
  have h₁ := x.ucLinkVerMajor.toNat_lt
  have m₀ : x.usDevCommits.toNat &&& 65535 = x.usDevCommits.toNat := by
    have h := Nat.and_two_pow_sub_one_eq_mod x.usDevCommits.toNat 16
    rwa [Nat.mod_eq_of_lt h₀] at h
  have m₁ : x.ucLinkVerMajor.toNat <<< 16 % 4294967296 &&& 16711680 =
      x.ucLinkVerMajor.toNat * 2 ^ 16 := by
    simpa only [Nat.reducePow, Nat.reduceSub, Nat.reduceShiftLeft] using
      shift_masked (s := 16) h₁ (by norm_num)
  have m₂ : x.ucLinkVerMinor.toNat <<< 24 % 4294967296 &&& 4278190080 =
      x.ucLinkVerMinor.toNat * 2 ^ 24 := by
    simpa only [Nat.reducePow, Nat.reduceSub, Nat.reduceShiftLeft] using
      shift_masked (s := 24) x.ucLinkVerMinor.toNat_lt (by norm_num)
  simp only [identityPayload1, UInt32.toNat_or, UInt32.toNat_and, UInt32.toNat_shiftLeft,
    UInt8.toNat_toUInt32, UInt16.toNat_toUInt32, UInt32.reduceToNat, Nat.reducePow, Nat.reduceMod]
  rw [m₀, m₁, m₂, or_eq_add h₀, or_eq_add (s := 24) (by omega)]
  rfl

/-- The identity that the host is given for the one that the firmware sends. -/
def hostIdentity (x : AMIProxyIdentityResponse) : AmcProxyIdentifyResponse where
  verMajor := x.ucVerMajor.toNat
  verMinor := x.ucVerMinor.toNat
  verPatch := x.ucVerPatch.toNat
  localChanges := x.ucLocalChanges.toNat
  devCommits := x.usDevCommits.toNat
  linkVerMajor := x.ucLinkVerMajor.toNat
  linkVerMinor := x.ucLinkVerMinor.toNat

theorem identity_agrees (cid : ℕ) (code : UInt32) :
    amcProxyGetResponseIdentity
        ⟨cid, store 0 [.u32, .u32] [(identityPayload0 x).toNat, (identityPayload1 x).toNat], code⟩ =
      (hostIdentity x, 0) := by
  have hw : store 0 [.u32, .u32] [(identityPayload0 x).toNat, (identityPayload1 x).toNat] =
      (identityPayload0 x).toNat + (identityPayload1 x).toNat * 2 ^ 32 := by
    have h₀ := (identityPayload0 x).toNat_lt
    have h₁ := (identityPayload1 x).toNat_lt
    change (identityPayload0 x).toNat % 2 ^ 32 * 2 ^ 0 +
      ((identityPayload1 x).toNat % 2 ^ 32 * 2 ^ 32 + 0) = _
    omega
  have hload : ∀ image, load 0 image identifyMembers =
      [image / 2 ^ 0 % 2 ^ 8, image / 2 ^ 8 % 2 ^ 8, image / 2 ^ 16 % 2 ^ 8,
        image / 2 ^ 24 % 2 ^ 8, image / 2 ^ 32 % 2 ^ 16, image / 2 ^ 48 % 2 ^ 8,
        image / 2 ^ 56 % 2 ^ 8] := fun _ => rfl
  have b₀ := x.ucVerMajor.toNat_lt
  have b₁ := x.ucVerMinor.toNat_lt
  have b₂ := x.ucVerPatch.toNat_lt
  have b₃ := x.ucLocalChanges.toNat_lt
  have b₄ := x.usDevCommits.toNat_lt
  have b₅ := x.ucLinkVerMajor.toNat_lt
  have b₆ := x.ucLinkVerMinor.toNat_lt
  rw [hw, identityPayload0_toNat, identityPayload1_toNat]
  simp only [amcProxyGetResponseIdentity, hload, hostIdentity, Prod.mk.injEq,
    AmcProxyIdentifyResponse.mk.injEq, and_true]
  refine ⟨?_, ?_, ?_, ?_, ?_, ?_, ?_⟩ <;> omega

theorem word0_store (cid : ℕ) (p₀ p₁ code : UInt32) :
    CmdCompletion.word0 ⟨cid, store 0 [.u32, .u32] [p₀.toNat, p₁.toNat], code⟩ = p₀.toNat := by
  have hload := load_store [.u32, .u32] 0 0 [p₀.toNat, p₁.toNat] (by simp) rfl
  rw [zero_add] at hload
  rw [CmdCompletion.word0, hload]
  exact Nat.mod_eq_of_lt p₀.toNat_lt

/-- What the response function of the host returns for a message of the firmware is what the
firmware put in; the result is returned as its error number. -/
def Returned (c : CmdCompletion) (body : MsgBody) (xResult : AMIProxyResult) : Prop :=
  let ret := amcResultToLinuxErrno xResult.value
  match body with
  | .identityComplete x => amcProxyGetResponseIdentity c = (hostIdentity x, ret)
  | .sensorComplete => amcProxyGetResponseSensor c = ret
  | .heartbeatComplete ucHeartbeatCount =>
      amcProxyGetResponseHeartbeat c = (ucHeartbeatCount, ret)
  | .pdiDownloadComplete | .pdiCopyComplete | .pdiProgramComplete | .bootSelectComplete
  | .eepromRwComplete | .moduleRwComplete | .debugVerbosityComplete | .fptFlagsComplete _ =>
      amcProxyGetResponseCode c = ret

/-- The entry that the firmware writes for a completion finds its command, and the host returns
the values of the completion. -/
def ResponseAgrees (cid : UInt16) (c : Completion) : Prop :=
  ∀ r, c.response cid.toNat = some r →
    (CmdCompletion.ofImage (respImage r)).cid = cid.toNat ∧
      Returned (CmdCompletion.ofImage (respImage r)) c.body c.xResult

/-- The completion reports success, if it is of a kind whose result the host does not read from
the response code. -/
def ReadFromCode (c : Completion) : Prop :=
  match c.body with
  | .identityComplete _ | .sensorComplete => c.xResult = .success
  | _ => True

theorem errno_eq_zero_iff (xResult : AMIProxyResult) :
    amcResultToLinuxErrno xResult.value = 0 ↔ xResult = .success := by
  rw [amcResultToLinuxErrno_eq_zero_iff]
  cases xResult <;> simp [AMIProxyResult.value]

/-- **Responses.** The host returns what the firmware put in, except that it takes an identity or
sensor response for a success. -/
theorem responseAgrees_iff (cid : UInt16) (c : Completion) :
    ResponseAgrees cid c ↔ ReadFromCode c := by
  have hcid : cid.toNat < 2 ^ 16 := cid.toNat_lt
  obtain ⟨body, xResult⟩ := c
  have key : ∀ p₀ p₁, body.payload = some (p₀, p₁) →
      (ResponseAgrees cid ⟨body, xResult⟩ ↔
        Returned ⟨cid.toNat, store 0 [.u32, .u32] [p₀.toNat, p₁.toNat], xResult.value⟩
          body xResult) := by
    intro p₀ p₁ hp
    have hr : Completion.response cid.toNat ⟨body, xResult⟩ =
        some ⟨cid.toNat, p₀, p₁, xResult.value⟩ := by simp [Completion.response, hp]
    have himage := ofImage_respImage (r := ⟨cid.toNat, p₀, p₁, xResult.value⟩) hcid
    simp only [ResponseAgrees, hr, Option.some.injEq, forall_eq', himage, true_and]
  cases body with
  | identityComplete x =>
    rw [key _ _ rfl]
    simp only [Returned, identity_agrees, Prod.mk.injEq, true_and, ReadFromCode]
    rw [eq_comm, errno_eq_zero_iff]
  | sensorComplete =>
    rw [key _ _ rfl]
    simp only [Returned, amcProxyGetResponseSensor, word0_store, ReadFromCode]
    rw [eq_comm, ← errno_eq_zero_iff]
    rfl
  | heartbeatComplete n =>
    rw [key _ _ rfl]
    have hw := word0_store cid.toNat n.toUInt32 0 xResult.value
    simp only [Returned, amcProxyGetResponseHeartbeat, hw, ReadFromCode, iff_true]
    simp
  | pdiProgramComplete => simp [ResponseAgrees, Completion.response, MsgBody.payload, ReadFromCode]
  | fptFlagsComplete f =>
    rw [key _ _ rfl]
    simp [Returned, amcProxyGetResponseCode, ReadFromCode]
  | _ =>
    rw [key _ _ rfl]
    simp [Returned, amcProxyGetResponseCode, ReadFromCode]

/-! ### Both directions -/

/-- A request of the host or a response of the firmware. -/
inductive Exchange
  | request (cid : UInt16) (req : Request)
  | response (cid : UInt16) (c : Completion)

/-- The other end gets the values that were passed. -/
def Exchange.Agrees : Exchange → Prop
  | .request cid req => RequestAgrees cid req
  | .response cid c => ResponseAgrees cid c

/-- The values of a request fit their fields; an identity or sensor response reports success. -/
def Exchange.Carried : Exchange → Prop
  | .request _ req => req.Fits
  | .response _ c => ReadFromCode c

/-- **Wire agreement.** -/
theorem agrees_iff_carried (e : Exchange) : e.Agrees ↔ e.Carried := by
  cases e with
  | request cid req => exact requestAgrees_iff cid req
  | response cid c => exact responseAgrees_iff cid c

/-- Boot partition 16 arrives as 0, and a failed sensor request is returned as a success. -/
theorem not_agrees_boot_sensor :
    ¬ (Exchange.request 0 (.deviceBoot 16)).Agrees ∧
      ¬ (Exchange.response 0 ⟨.sensorComplete, .failure⟩).Agrees := by
  constructor
  · intro h
    have hfits : (16 : UInt32).toNat < 2 ^ 4 := (requestAgrees_iff 0 (.deviceBoot 16)).mp h
    exact absurd hfits (by decide)
  · intro h
    exact nomatch (responseAgrees_iff 0 ⟨.sensorComplete, .failure⟩).mp h

end Amr.Wire
