/-
# PLDM commands

`pldm_processor.c`. A handler reads the payload of the request, writes the payload of the response
into `RespBuffer` from `out` on and returns the length of what it wrote. The transfer contexts of
`GetPLDMVersion` and `GetPDR` are reached through the address that the requester sends.
-/
import Amr.Pldm.Commands
import Amr.Pldm.Crc

namespace Amr.Pldm

open StateProgram Mctp

/-- What the sensor application answers to `iGetNumericSensorReading`: the completion code, and the
operational state and the reading where it has set them. -/
structure SensorReading where
  ucCompletionCode : UInt8
  reading : Option (UInt8 × UInt16)

/-- What the rest of the firmware does while one request is handled. -/
structure Oracle where
  /-- the byte that `iSetNumericSensorEnable` writes -/
  iSetNumericSensorEnable : ℕ → ℕ → UInt8
  /-- `none` where `iGetNumericSensorReading` does not return `OK` -/
  iGetNumericSensorReading : ℕ → Option SensorReading
  /-- whether the `n`-th packet of the response can be written -/
  write : ℕ → Bool

def RESP_INVALID_DATA_XFER_HANDLE : ℕ := 0x80
def RESP_INVALID_XFER_OPERATION_FLAG : ℕ := 0x81
def RESP_INVALID_PLDM_TYPE_IN_REQUEST : ℕ := 0x83
def RESP_INVALID_PLDM_VERSION_IN_REQUEST : ℕ := 0x84
def RESP_INVALID_RECORD_HANDLE : ℕ := 0x82
def RESP_INVALID_RECORD_CHANGE_NUMBER : ℕ := 0x83
def RESP_REPOSITORY_UPDATE_IN_PROGRESS : ℕ := 0x85
def RESP_INVALID_SENSOR_ID : ℕ := 0x80
def RESP_REARM_UNAVAILABLE_IN_PRESENT_STATE : ℕ := 0x81
def RESP_INVALID_SENSOR_OPERATIONAL_STATE : ℕ := 0x81
def RESP_EVENT_GENERATION_NOT_SUPPORTED : ℕ := 0x82

def MAX_PLDM_RESPONSE_SIZE : ℕ := 128 - 3

/-- `EGetNextPart` and `EGetFirstPart`. -/
def EGetNextPart : ℕ := 0x0
def EGetFirstPart : ℕ := 0x1

def complete (out code : ℕ) : Program ℕ := do
  put out (UInt8.ofNat code)
  pure 1

/-! ### Transfer contexts

A context is two bytes: the mark `initialized` and the offset `next_start` of the next part. -/

/-- The contexts of a table of `n` entries at `base` start at every second byte of it. -/
def isContext (base n handle : ℕ) : Prop := ∃ i < n, handle = base + 2 * i

instance (base n handle : ℕ) : Decidable (isContext base n handle) :=
  inferInstanceAs (Decidable (∃ i < n, _))

/-- `pendingInfo->initialized` and `pendingInfo->next_start`, at the address of a table of `n`
entries at `base`, or elsewhere. -/
def pendingInfo (base n handle : ℕ) : Program (UInt8 × UInt8) := do
  noteIf (¬ isContext base n handle) .handle
  let s ← get
  pure (s.memory handle, s.memory (handle + 1))

def setPendingInfo (handle : ℕ) (initialized next_start : UInt8) : Program Unit :=
  modify fun s => { s with
    memory := Function.update (Function.update s.memory handle initialized) (handle + 1)
      next_start }

/-! ### Base commands -/

/-- A record of the same size with other fields. -/
def setTerminusTID (tid : UInt8) (r : Pdr) : Pdr :=
  { r with
    recordChangeNumber := r.recordChangeNumber + 1
    data := r.data.set 3 tid
    size_le := by rw [List.length_set]; exact r.size_le }

/-- `update_tid`: the terminus record is the first of the repository. -/
def update_tid (tid : UInt8) : Program Unit :=
  modify fun s => { s with
    repository := { s.repository with
      updateInprogress := false
      PDRRecords := s.repository.PDRRecords.modify 0 (setTerminusTID tid)
      updateTimestamp := [0, 0, 0, 0, 0, 15, 30, 8, 0, 0, 0, 0, 0xF]
      nonempty := by rw [List.length_modify]; exact s.repository.nonempty
      count_le := by rw [List.length_modify]; exact s.repository.count_le } }

def pldm_cmd_SetTID (payloadIn : View) (out : ℕ) : Program ℕ := do
  let tid ← payloadIn.read 0
  modify fun s => { s with TID := UInt8.ofNat tid }
  put out (UInt8.ofNat RESP_PLDM_SUCCESS)
  update_tid (UInt8.ofNat tid)
  pure 1

def pldm_cmd_GetTID (out : ℕ) : Program ℕ := do
  put out (UInt8.ofNat RESP_PLDM_SUCCESS)
  let s ← get
  put (out + 1) s.TID
  pure 2

/-- The version part of `pldm_cmd_GetPLDMVersion`, for the context at `handle`. -/
def sendVersions (out type start_index handle : ℕ) (initialized : UInt8) : Program ℕ := do
  let (versions, isMoreVersion) := getPldmVersionSupport type start_index 8
  putAll (out + 6) versions
  if versions = [] then complete out RESP_PLDM_ERROR_GENERIC
  else do
    put out (UInt8.ofNat RESP_PLDM_SUCCESS)
    if isMoreVersion then do
      setPendingInfo handle PENDING_XFER_INIT_KEY (UInt8.ofNat (start_index + 8))
      putAll (out + 1) (le32 handle)
      put (out + 5) (if initialized = PENDING_XFER_INIT_KEY then 0x2 else 0x1)
    else do
      putAll (out + 1) (le32 0)
      if initialized = PENDING_XFER_INIT_KEY ∧ start_index ≠ 0 then do
        setPendingInfo handle 0 0
        put (out + 5) 0x4
      else put (out + 5) 0x5
    putAll (out + 6 + versions.length) (le32 (ulGetCrc32 versions).toNat)
    pure (6 + versions.length + 4)

def pldm_cmd_GetPLDMVersion (P : Platform) (payloadIn : View) (out : ℕ) : Program ℕ := do
  let type ← payloadIn.read 5
  if ¬ IsPldmTypeSupported type then complete out RESP_INVALID_PLDM_TYPE_IN_REQUEST
  else do
    let OperationFlag ← payloadIn.read 4
    if OperationFlag = EGetNextPart then do
      let handle ← payloadIn.read32 0
      if handle = 0 then complete out RESP_INVALID_DATA_XFER_HANDLE
      else do
        let (initialized, next_start) ←
          pendingInfo P.GetVersionPendingXfers GET_VERSION_CONTEXTS handle
        if initialized ≠ PENDING_XFER_INIT_KEY then complete out RESP_INVALID_DATA_XFER_HANDLE
        else sendVersions out type next_start.toNat handle initialized
    else if OperationFlag = EGetFirstPart then do
      let handle := P.GetVersionPendingXfers + 2 * type
      setPendingInfo handle 0 0
      sendVersions out type 0 handle 0
    else complete out RESP_INVALID_XFER_OPERATION_FLAG

def pldm_cmd_GetPLDMType (out : ℕ) : Program ℕ := do
  putAll (out + 1) Pldm_Type_Supported
  put out (UInt8.ofNat RESP_PLDM_SUCCESS)
  pure (1 + Pldm_Type_Supported.length)

def pldm_cmd_GetPLDMCommand (payloadIn : View) (out : ℕ) : Program ℕ := do
  let type ← payloadIn.read 0
  if ¬ IsPldmTypeSupported type then complete out RESP_INVALID_PLDM_TYPE_IN_REQUEST
  else do
    let supported ← IsPldmVersionSupported type (payloadIn.drop 1)
    if ¬ supported then complete out RESP_INVALID_PLDM_VERSION_IN_REQUEST
    else do
      let cmdSupported ← getPldmCmdSupport type (payloadIn.drop 1)
      putAll (out + 1) cmdSupported
      if cmdSupported ≠ [] then do
        put out (UInt8.ofNat RESP_PLDM_SUCCESS)
        pure (1 + cmdSupported.length)
      else complete out RESP_PLDM_ERROR_GENERIC

/-! ### Sensors -/

/-- PLDM Set Sensor Enable: the states are `eSensorOpStateEnabled`, `eSensorOpStateDisabled` and
`eSensorOpStateUnavailable`, and `eSensorNoEventGeneration` is 0. -/
def pldm_cmd_SetNumericSensorEnable (E : Oracle) (payloadIn : View) (out : ℕ) : Program ℕ := do
  let sensorOperationalState ← payloadIn.read 2
  if sensorOperationalState ≠ 0 ∧ sensorOperationalState ≠ 1 ∧ sensorOperationalState ≠ 2 then
    complete out RESP_INVALID_SENSOR_OPERATIONAL_STATE
  else do
    let sensorEventMessageEnable ← payloadIn.read 3
    if sensorEventMessageEnable ≠ 0 then complete out RESP_EVENT_GENERATION_NOT_SUPPORTED
    else do
      let sensorID ← payloadIn.read16 0
      put out (E.iSetNumericSensorEnable sensorID sensorOperationalState)
      pure 1

/-- The part of `pldm_cmd_GetSensorReading` that reports a reading. `EDataTypeSInt16` is 3,
`Unknown` is 0 and `Normal` is 1. -/
def reportReading (out : ℕ) (ucSensorOperationalState : UInt8) (ssReading : UInt16) :
    Program ℕ := do
  putAll out [0, 3, ucSensorOperationalState, 0]
  if ucSensorOperationalState ≠ 0 then putAll (out + 4) ([0, 0, 0] ++ le16 0)
  else putAll (out + 4) ([1, 0, 1] ++ le16 ssReading.toNat)
  pure 9

/-- PLDM Get Sensor Reading. A variable that the application has not set reads as 0 here. -/
def pldm_cmd_GetSensorReading (E : Oracle) (payloadIn : View) (out : ℕ) : Program ℕ := do
  let sensorID ← payloadIn.read16 0
  match E.iGetNumericSensorReading sensorID with
  | none => complete out RESP_INVALID_SENSOR_ID
  | some r =>
    if r.ucCompletionCode.toNat = RESP_INVALID_SENSOR_ID then complete out RESP_INVALID_SENSOR_ID
    else do
      let rearmEventState ← payloadIn.read 2
      if rearmEventState ≠ 0 then complete out RESP_REARM_UNAVAILABLE_IN_PRESENT_STATE
      else match r.reading with
        | some (state, reading) => reportReading out state reading
        | none => do
          note .unset
          reportReading out 0 0

/-! ### Platform descriptor records -/

def pldm_cmd_GetPDRRepositoryInfo (out : ℕ) : Program ℕ := do
  let s ← get
  let repo_info := s.repository
  putAll out ([UInt8.ofNat RESP_PLDM_SUCCESS, if repo_info.updateInprogress then 1 else 0] ++
    repo_info.updateTimestamp ++ repo_info.OEMUpdateTimestamp ++ le32 repo_info.recordCount ++
    le32 repo_info.repositorySize ++ le32 repo_info.largestRecordSize ++
    [repo_info.dataTransferHandleTimeout])
  pure 41

/-- The bytes of a record from `start` on, as `memcpy` finds them; bytes behind the record read as
0 here. -/
def recordData (r : Pdr) (start n : ℕ) : List UInt8 :=
  (List.range n).map fun i => r.bytes.getD (start + i) 0

def maxData (requestCount : ℕ) : ℕ := min requestCount (MAX_PLDM_RESPONSE_SIZE - 12)

/-- The end of `pldm_cmd_GetPDR`: the part and, behind the last of several, the CRC of the whole
record. -/
def putPart (out : ℕ) (current_record : Pdr) (start_index responseCount : ℕ)
    (transferFlag : UInt8) : Program ℕ := do
  put (out + 9) transferFlag
  putAll (out + 10) (le16 responseCount)
  noteIf (current_record.dataLength + PDR_HEADER_SIZE < start_index + responseCount) .record
  putAll (out + 12) (recordData current_record start_index responseCount)
  if transferFlag = 0x4 then do
    put (out + 12 + responseCount) (ucGetCrc8 current_record.bytes)
    pure (12 + responseCount + 1)
  else pure (12 + responseCount)

/-- The part of `pldm_cmd_GetPDR` that follows the choice of the context at `handle`. -/
def sendPart (out record_handle : ℕ) (current_record : Pdr) (requestCount start_index handle : ℕ)
    (initialized next_start : UInt8) : Program ℕ := do
  let s ← get
  let max_data_len := maxData requestCount
  let pdr_size := current_record.dataLength + PDR_HEADER_SIZE
  put out (UInt8.ofNat RESP_PLDM_SUCCESS)
  putAll (out + 1) (le32 ((record_handle + 1) % s.repository.recordCount))
  -- an unsigned difference in a field of 16 bits
  let rest := (pdr_size + 2 ^ 32 - start_index) % 2 ^ 16
  if max_data_len < rest then do
    setPendingInfo handle PENDING_XFER_INIT_KEY (next_start + UInt8.ofNat max_data_len)
    putAll (out + 5) (le32 handle)
    putPart out current_record start_index max_data_len
      (if initialized = PENDING_XFER_INIT_KEY then 0x1 else 0x0)
  else do
    putAll (out + 5) (le32 0)
    if initialized = PENDING_XFER_INIT_KEY ∧ start_index ≠ 0 then do
      setPendingInfo handle 0 0
      putPart out current_record start_index rest 0x4
    else putPart out current_record start_index rest 0x5

def pldm_cmd_GetPDR (P : Platform) (payloadIn : View) (out : ℕ) : Program ℕ := do
  let s ← get
  let record_handle ← payloadIn.read32 0
  if s.repository.updateInprogress then complete out RESP_REPOSITORY_UPDATE_IN_PROGRESS
  else match s.repository.PDRRecords[record_handle]? with
    | none => complete out RESP_INVALID_RECORD_HANDLE
    | some current_record => do
      let OperationFlag ← payloadIn.read 8
      if OperationFlag = EGetNextPart then do
        let handle ← payloadIn.read32 4
        if handle = 0 then complete out RESP_INVALID_DATA_XFER_HANDLE
        else do
          let (initialized, next_start) ←
            pendingInfo P.GetPDRPendingXfers GET_PDR_CONTEXTS handle
          if initialized ≠ PENDING_XFER_INIT_KEY then complete out RESP_INVALID_DATA_XFER_HANDLE
          else do
            let recordChangeNumber ← payloadIn.read16 11
            if recordChangeNumber ≠ current_record.recordChangeNumber.toNat then
              complete out RESP_INVALID_RECORD_CHANGE_NUMBER
            else do
              let requestCount ← payloadIn.read16 9
              sendPart out record_handle current_record requestCount next_start.toNat handle
                initialized next_start
      else if OperationFlag = EGetFirstPart then do
        let handle := P.GetPDRPendingXfers + 2 * record_handle
        setPendingInfo handle 0 0
        let requestCount ← payloadIn.read16 9
        sendPart out record_handle current_record requestCount 0 handle 0 0
      else complete out RESP_INVALID_XFER_OPERATION_FLAG

/-- What the function pointers of the tables call. -/
def PldmFunction.call (P : Platform) (E : Oracle) (payloadIn : View) (out : ℕ) :
    PldmFunction → Program ℕ
  | .SetTID => pldm_cmd_SetTID payloadIn out
  | .GetTID => pldm_cmd_GetTID out
  | .GetPLDMVersion => pldm_cmd_GetPLDMVersion P payloadIn out
  | .GetPLDMType => pldm_cmd_GetPLDMType out
  | .GetPLDMCommand => pldm_cmd_GetPLDMCommand payloadIn out
  | .SetNumericSensorEnable => pldm_cmd_SetNumericSensorEnable E payloadIn out
  | .GetSensorReading => pldm_cmd_GetSensorReading E payloadIn out
  | .GetPDRRepositoryInfo => pldm_cmd_GetPDRRepositoryInfo out
  | .GetPDR => pldm_cmd_GetPDR P payloadIn out

end Amr.Pldm
