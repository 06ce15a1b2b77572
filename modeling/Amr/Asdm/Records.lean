/-
# The sensor repositories of the ASDM application

`asdm.c`: `iInitAsdm` and what it calls to fill the sensor repositories from the table of the ASC
proxy driver: `iPopulateRepoSensorList`, `iPopulateSdr`, `iPopulateSdrThresholds`, `iPopulateSds`
and the maps between the enumerations. Every repository is filled on its own; the first failure
that is noticed ends the initialisation. The repositories of the FPT and of the board information
hold no sensors and enter as the outcomes of their steps.

`usByteCount` is set by `iPopulateSdr` and again by `iPopulateSds`, and `iStatus` likewise, so that
the size of a repository counts the records of the SDS, and a record of the SDR that could not be
populated is passed over.
-/
import Amr.Asc.Sensors
import Amr.Lib.ByteStore

namespace Amr.Asdm.Records

open Asc ByteStore

/-! ### Enumerations -/

inductive AMC_ASDM_SUPPORTED_REPO
  | TEMP | VOLTAGE | CURRENT | POWER | TOTAL_POWER | FPT | BOARD_INFO
  deriving DecidableEq, Repr

open AMC_ASDM_SUPPORTED_REPO

/-- The repositories in the order of the loops over them. -/
def repos : List AMC_ASDM_SUPPORTED_REPO :=
  [.TEMP, .VOLTAGE, .CURRENT, .POWER, .TOTAL_POWER, .FPT, .BOARD_INFO]

def sensorRepos : List AMC_ASDM_SUPPORTED_REPO := [.TEMP, .VOLTAGE, .CURRENT, .POWER, .TOTAL_POWER]

def AMC_ASDM_SUPPORTED_REPO.toNat : AMC_ASDM_SUPPORTED_REPO → ℕ
  | TEMP => 0
  | VOLTAGE => 1
  | CURRENT => 2
  | POWER => 3
  | TOTAL_POWER => 4
  | FPT => 5
  | BOARD_INFO => 6

/-- The `ASDM_REPOSITORY_TYPE` of a repository, from `xAsdmHeaderInfo`. -/
def AMC_ASDM_SUPPORTED_REPO.ucRepoType : AMC_ASDM_SUPPORTED_REPO → ℕ
  | TEMP => 0xC1
  | VOLTAGE => 0xC2
  | CURRENT => 0xC3
  | POWER => 0xC4
  | TOTAL_POWER => 0xC6
  | FPT => 0xF0
  | BOARD_INFO => 0xC0

def iMapAsdmRepo (xAsdmRepo : ℕ) : Option AMC_ASDM_SUPPORTED_REPO :=
  repos.find? fun repo => repo.ucRepoType = xAsdmRepo

/-- `iMapUnitModifier`, from the value of an `ASC_PROXY_DRIVER_SENSOR_UNIT_MOD`. -/
def iMapUnitModifier : ℕ → Option ℤ
  | 0 => some 6
  | 1 => some 3
  | 2 => some 0
  | 3 => some (-3)
  | 4 => some (-6)
  | _ => none

def iMapSensorTag : AMC_ASDM_SUPPORTED_REPO → Option ℕ
  | TEMP => some 1
  | VOLTAGE => some 4
  | CURRENT => some 5
  | POWER | TOTAL_POWER => some 6
  | FPT | BOARD_INFO => none

def statusNat : ASC_PROXY_DRIVER_SENSOR_STATUS → ℕ
  | .NOT_PRESENT => 0
  | .PRESENT_AND_VALID => 1
  | .DATA_NOT_AVAILABLE => 2
  | .NOT_AVAILABLE => 3

/-- A text as its bytes, without the closing zero. -/
def text (s : List Char) : List UInt8 := s.map fun c => UInt8.ofNat c.toNat

def pcConvertRepoBaseUnitStr (ucRepoType : ℕ) : List UInt8 :=
  text (match iMapAsdmRepo ucRepoType with
    | some TEMP => ['C', 'e', 'l', 's', 'i', 'u', 's']
    | some VOLTAGE => ['V', 'o', 'l', 't', 's']
    | some CURRENT => ['A', 'm', 'p', 's']
    | _ => ['W', 'a', 't', 't', 's'])

def ASDM_RECORD_FIELD_BYTES_MAX : ℕ := 30

def ASDM_RECORD_FIELD_LENGTH_MASK : ℕ := 0x3F

def ASDM_RECORD_FIELD_TYPE_CODE_8_BIT_ASCII : ℕ := 3

def AMC_ASDM_SENSOR_SIZE_4B : ℕ := 4

def ASDM_EOR_BYTES : ℕ := 3

/-- `sizeof( ASDMSensorHeader )`. -/
def ASDM_HEADER_BYTES : ℕ := 5

def ASDM_HEADER_DEFAULT_BYTES : ℕ := ASDM_HEADER_BYTES + ASDM_EOR_BYTES

def TOTAL_NUM_BYTES_MULTIPLE : ℕ := 8

/-! ### Sensors and records -/

/-- `ASCProxyDriverSensorReadings`, with the fields that the records are made of. -/
structure Readings where
  ulSensorValue : ℕ
  ulLowerWarningLimit : ℕ
  ulLowerCriticalLimit : ℕ
  ulLowerFatalLimit : ℕ
  ulUpperWarningLimit : ℕ
  ulUpperCriticalLimit : ℕ
  ulUpperFatalLimit : ℕ
  ulAverageSensorValue : ℕ
  ulMaxSensorValue : ℕ
  xSensorStatus : ASC_PROXY_DRIVER_SENSOR_STATUS
  xSensorUnitModifier : ℕ
  deriving DecidableEq, Repr

/-- `ASCProxyDriverSensorData`. The name is what `strlen` finds, and `pxReadings` what is found at
an index: the array has four elements, and memory follows it. -/
structure Sensor where
  pcSensorName : List UInt8
  ucSensorId : ℕ
  ucSensorType : ℕ
  ucTotalPowerSensor : Bool
  /-- What `pxSensorEnabled` answers. -/
  pxSensorEnabled : Bool
  pxReadings : ℕ → Readings

/-- An `ASDMRecordField` that holds a text. -/
structure TextField where
  ucType : ℕ
  ucLength : ℕ
  pucBytesValue : List UInt8
  deriving DecidableEq, Repr

/-- An `ASDMRecordField` that holds a number. -/
structure NumberField where
  ucType : ℕ
  ucLength : ℕ
  ulValue : ℕ
  deriving DecidableEq, Repr

structure ASDMSdrRecord where
  ucId : ℕ
  xSensorName : TextField
  xSensorValue : NumberField
  xSensorBaseUnit : TextField
  cUnitModifier : ℤ
  ucThresholdSupportedBitMask : ℕ
  ulLowerFatalLimit : ℕ
  ulLowerCritLimit : ℕ
  ulLowerWarnLimit : ℕ
  ulUpperWarnLimit : ℕ
  ulUpperCritLimit : ℕ
  ulUpperFatalLimit : ℕ
  ucSensorStatus : ℕ
  ulMaxValue : ℕ
  ulAverageValue : ℕ
  deriving DecidableEq, Repr

/-- A record of the SDR after `pvOSAL_MemSet`. -/
def ASDMSdrRecord.zero : ASDMSdrRecord :=
  ⟨0, ⟨0, 0, []⟩, ⟨0, 0, 0⟩, ⟨0, 0, []⟩, 0, 0, 0, 0, 0, 0, 0, 0, 0, 0, 0⟩

structure ASDMSdsRecord where
  ucId : ℕ
  xSensorValue : NumberField
  ucSensorStatus : ℕ
  ucSensorTag : ℕ
  ucRsvd : ℕ
  deriving DecidableEq, Repr

/-- A text field with `len` bytes of a text and the zero that closes it; one more zero is written
behind. -/
def TextField.ofText (s : List UInt8) (len : ℕ) : TextField :=
  { ucType := ASDM_RECORD_FIELD_TYPE_CODE_8_BIT_ASCII
    ucLength := len &&& ASDM_RECORD_FIELD_LENGTH_MASK
    pucBytesValue := (s ++ [0]).take len ++ [0] }

/-! ### A record of the SDR -/

/-- One threshold of `iPopulateSdrThresholds`: where the limit is valid it is stored, its bit is
set, and `sizeof( ucSnsrValueLen )`, one byte, is counted. -/
def threshold (limit mask : ℕ) (store : ASDMSdrRecord → ASDMSdrRecord) (x : ASDMSdrRecord × ℕ) :
    ASDMSdrRecord × ℕ :=
  if limit ≠ ASC_SENSOR_INVALID_VAL then
    ({ store x.1 with
      ucThresholdSupportedBitMask := x.1.ucThresholdSupportedBitMask ||| mask }, x.2 + 1)
  else x

/-- `iPopulateSdrThresholds`, with the byte count it returns. -/
def iPopulateSdrThresholds (d : Readings) (r : ASDMSdrRecord) : ASDMSdrRecord × ℕ :=
  let x := threshold d.ulLowerFatalLimit 0x20
    (fun r => { r with ulLowerFatalLimit := d.ulLowerFatalLimit }) (r, 0)
  let x := threshold d.ulLowerCriticalLimit 0x10
    (fun r => { r with ulLowerCritLimit := d.ulLowerCriticalLimit }) x
  let x := threshold d.ulLowerWarningLimit 0x08
    (fun r => { r with ulLowerWarnLimit := d.ulLowerWarningLimit }) x
  let x := threshold d.ulUpperFatalLimit 0x04
    (fun r => { r with ulUpperFatalLimit := d.ulUpperFatalLimit }) x
  let x := threshold d.ulUpperCriticalLimit 0x02
    (fun r => { r with ulUpperCritLimit := d.ulUpperCriticalLimit }) x
  threshold d.ulUpperWarningLimit 0x01
    (fun r => { r with ulUpperWarnLimit := d.ulUpperWarningLimit }) x

def ASDM_SDR_THRESHOLD_SENSOR_AVG_MASK : ℕ := 0x40

def ASDM_SDR_THRESHOLD_SENSOR_MAX_MASK : ℕ := 0x80

/-- The last part of `iPopulateSdr`: status, maximum and average. The two masks stand for one
another. -/
def iPopulateSdrStatistics (d : Readings) (r : ASDMSdrRecord) (usByteCount : ℕ) :
    ASDMSdrRecord × ℕ :=
  let x := threshold d.ulMaxSensorValue ASDM_SDR_THRESHOLD_SENSOR_AVG_MASK
    (fun r => { r with ulMaxValue := d.ulMaxSensorValue })
    ({ r with ucSensorStatus := 1 }, usByteCount + 1)
  threshold d.ulAverageSensorValue ASDM_SDR_THRESHOLD_SENSOR_MAX_MASK
    (fun r => { r with ulAverageValue := d.ulAverageSensorValue }) x

/-- The index of the readings that `iPopulateSdr` takes: the total power has those of the power. -/
def sdrReading (ucRepoType : ℕ) : Option AMC_ASDM_SUPPORTED_REPO :=
  if ucRepoType = TOTAL_POWER.ucRepoType then some POWER else iMapAsdmRepo ucRepoType

/-- `iPopulateSdr`: the record as it is left, and the byte count where `OK` is returned. The
threshold bytes are not added, the size of their counter is. -/
def iPopulateSdr (ucIndex ucRepoType : ℕ) (pxData : Sensor) (r : ASDMSdrRecord) :
    ASDMSdrRecord × Option ℕ :=
  match sdrReading ucRepoType with
  | none => (r, none)
  | some repo =>
    let d := pxData.pxReadings repo.toNat
    let usSensorNameLen := (pxData.pcSensorName.length + 1) % 2 ^ 16
    let r := { r with ucId := (ucIndex + 1) % 2 ^ 8 }
    if ASDM_RECORD_FIELD_BYTES_MAX ≤ usSensorNameLen then (r, none)
    else
      let unit := pcConvertRepoBaseUnitStr ucRepoType
      let r :=
        { r with
          xSensorName := .ofText pxData.pcSensorName usSensorNameLen
          xSensorValue :=
            { r.xSensorValue with
              ucLength := AMC_ASDM_SENSOR_SIZE_4B &&& ASDM_RECORD_FIELD_LENGTH_MASK
              ulValue := d.ulSensorValue }
          xSensorBaseUnit := .ofText unit (unit.length + 1) }
      match iMapUnitModifier d.xSensorUnitModifier with
      | none => (r, none)
      | some xSdrUnitMod =>
        let r := { r with cUnitModifier := xSdrUnitMod, ucThresholdSupportedBitMask := 0 }
        let usByteCount :=
          1 + usSensorNameLen + AMC_ASDM_SENSOR_SIZE_4B + (unit.length + 1) + 1 + 1 + 2
        let x := iPopulateSdrStatistics d (iPopulateSdrThresholds d r).1 usByteCount
        (x.1, some x.2)

/-! ### A record of the SDS -/

/-- `iPopulateSds`: the record, the byte count and whether `OK` is returned. The total power has an
index of its own here. -/
def iPopulateSds (ucIndex ucRepoType : ℕ) (pxData : Sensor) (r : ASDMSdsRecord) :
    ASDMSdsRecord × ℕ × Bool :=
  match iMapAsdmRepo ucRepoType with
  | none => (r, 0, false)
  | some repo =>
    let d := pxData.pxReadings repo.toNat
    ({ ucId := (ucIndex + 1) % 2 ^ 8
       xSensorValue :=
         { r.xSensorValue with
           ucLength := AMC_ASDM_SENSOR_SIZE_4B &&& ASDM_RECORD_FIELD_LENGTH_MASK
           ulValue := d.ulSensorValue }
       ucSensorStatus := statusNat d.xSensorStatus
       ucSensorTag := (iMapSensorTag repo).getD 0
       ucRsvd := 0 },
      1 + AMC_ASDM_SENSOR_SIZE_4B + 1 + 1 + 1, (iMapSensorTag repo).isSome)

/-! ### The initialisation -/

/-- The readings of `xTotalPowerData`: no value yet, and no threshold. -/
def totalPowerReadings (xSensorUnitModifier : ℕ) : Readings where
  ulSensorValue := 0
  ulLowerWarningLimit := ASC_SENSOR_INVALID_VAL
  ulLowerCriticalLimit := ASC_SENSOR_INVALID_VAL
  ulLowerFatalLimit := ASC_SENSOR_INVALID_VAL
  ulUpperWarningLimit := ASC_SENSOR_INVALID_VAL
  ulUpperCriticalLimit := ASC_SENSOR_INVALID_VAL
  ulUpperFatalLimit := ASC_SENSOR_INVALID_VAL
  ulAverageSensorValue := 0
  ulMaxSensorValue := 0
  xSensorStatus := .NOT_PRESENT
  xSensorUnitModifier := xSensorUnitModifier

/-- The only element of `xTotalPowerData`. -/
def xTotalPowerData (enabled : Bool) (stray : ℕ → Readings) : Sensor where
  pcSensorName := text ['T', 'o', 't', 'a', 'l', '_', 'P', 'o', 'w', 'e', 'r']
  ucSensorId := 1
  ucSensorType := 8
  ucTotalPowerSensor := false
  pxSensorEnabled := enabled
  pxReadings := fun
    | 0 | 1 | 2 => totalPowerReadings 2
    | 3 => totalPowerReadings 3
    | k => stray k

/-- What `iInitAsdm` starts from, and how the steps outside it end: the allocations, and the steps
that get and populate the data of the FPT and of the board information, with their byte counts. -/
structure Input where
  pxAscData : List Sensor
  /-- `pxAscData` is not `NULL`. -/
  ascData : Bool
  iSensorListInitialised : Bool
  /-- `pxAsdmSdrInfo` is `NULL`. -/
  fresh : Bool
  /-- `HAL_POWER_SENSORS_ENBALED`. -/
  powerSensorsEnabled : Bool
  /-- What is found behind the readings of `xTotalPowerData`. -/
  stray : ℕ → Readings
  sdrInfo : Bool
  sdsInfo : Bool
  sdrRecord : AMC_ASDM_SUPPORTED_REPO → Bool
  sdsRecord : AMC_ASDM_SUPPORTED_REPO → Bool
  /-- What an allocated record of the SDS holds. -/
  sdsMemory : ASDMSdsRecord
  iGetFptData : Bool
  iPopulateAsdmFpt : Option ℕ
  iGetBoardInfoData : Bool
  iPopulateAsdmBoardInfo : Option ℕ
  /-- `ucNumSensors` is a `uint8_t`. -/
  length_le : pxAscData.length < 2 ^ 8

/-- The bit of a repository in `ucSensorType`. -/
def sensorBit : AMC_ASDM_SUPPORTED_REPO → ℕ
  | TEMP => 1
  | VOLTAGE => 2
  | CURRENT => 4
  | POWER | TOTAL_POWER => 8
  | FPT | BOARD_INFO => 0

def Sensor.listed (d : Sensor) (repo : AMC_ASDM_SUPPORTED_REPO) : Bool :=
  decide (d.ucSensorType &&& sensorBit repo ≠ 0) && d.pxSensorEnabled

/-- `iPopulateRepoSensorList`: the sensors listed, `none` where it returns `ERROR`. -/
def iPopulateRepoSensorList (inp : Input) (repo : AMC_ASDM_SUPPORTED_REPO) :
    Option (List Sensor) :=
  if inp.iSensorListInitialised then some (inp.pxAscData.filter (·.listed repo)) else none

/-- The sensors that the records of a repository are filled from. A list that could not be made is
empty. -/
def Input.sensors (inp : Input) (repo : AMC_ASDM_SUPPORTED_REPO) : List Sensor :=
  match repo with
  | TEMP | VOLTAGE | CURRENT | POWER => (iPopulateRepoSensorList inp repo).getD []
  | TOTAL_POWER =>
    if inp.iSensorListInitialised then [xTotalPowerData inp.powerSensorsEnabled inp.stray] else []
  | FPT | BOARD_INFO => []

def Input.ucNumFound (inp : Input) (repo : AMC_ASDM_SUPPORTED_REPO) : ℕ :=
  match repo with
  | FPT => if inp.iGetFptData then 1 else 0
  | BOARD_INFO => if inp.iGetBoardInfoData then 1 else 0
  | repo => (inp.sensors repo).length

structure Repository where
  ucTotalNumRecords : ℕ
  usTotalNumBytes : ℕ
  sdr : List ASDMSdrRecord
  sds : List ASDMSdsRecord
  /-- The end marker is there. -/
  eor : Bool
  deriving DecidableEq, Repr

def Repository.zero : Repository := ⟨0, 0, [], [], false⟩

/-- How the initialisation of a repository ends: `iStatus`, or a write through a `NULL` pointer. -/
inductive Ending
  | OK | ERROR | fault
  deriving DecidableEq, Repr

/-- One pass of the loop over the records: both records, `usByteCount` and `iStatus`. The total
power is populated where its sensor is enabled only. -/
def populateRecord (inp : Input) (repo : AMC_ASDM_SUPPORTED_REPO) (i : ℕ) (d : Sensor) :
    ASDMSdrRecord × ASDMSdsRecord × ℕ × Bool :=
  if repo = TOTAL_POWER ∧ d.pxSensorEnabled = false then (.zero, inp.sdsMemory, 0, true)
  else
    ((iPopulateSdr i repo.ucRepoType d .zero).1, iPopulateSds i repo.ucRepoType d inp.sdsMemory)

/-- The passes of the loop over the records, up to the first that fails. -/
def populateRecords (inp : Input) (repo : AMC_ASDM_SUPPORTED_REPO) :
    ℕ → List Sensor → Option (List (ASDMSdrRecord × ASDMSdsRecord) × ℕ)
  | _, [] => some ([], 0)
  | i, d :: ds =>
    let x := populateRecord inp repo i d
    if x.2.2.2 = true then
      (populateRecords inp repo (i + 1) ds).map fun y => ((x.1, x.2.1) :: y.1, x.2.2.1 + y.2)
    else none

/-- The declared size of a repository: the bytes of the records, with header and end marker, in
multiples of eight. -/
def usTotalNumBytes (bytes : ℕ) : ℕ :=
  let usTotalByteCount := (ASDM_HEADER_DEFAULT_BYTES + bytes) % 2 ^ 16
  let padded :=
    if usTotalByteCount % TOTAL_NUM_BYTES_MULTIPLE ≠ 0 then
      (usTotalByteCount + (TOTAL_NUM_BYTES_MULTIPLE - usTotalByteCount % TOTAL_NUM_BYTES_MULTIPLE))
        % 2 ^ 16
    else usTotalByteCount
  padded / TOTAL_NUM_BYTES_MULTIPLE

def complete (inp : Input) (repo : AMC_ASDM_SUPPORTED_REPO)
    (records : List (ASDMSdrRecord × ASDMSdsRecord)) (bytes : ℕ) : Ending × Repository :=
  (.OK,
    { ucTotalNumRecords := inp.ucNumFound repo
      usTotalNumBytes := usTotalNumBytes bytes
      sdr := records.map Prod.fst
      sds := records.map Prod.snd
      eor := true })

/-- A repository whose step failed after its header was filled. -/
def failed (inp : Input) (repo : AMC_ASDM_SUPPORTED_REPO) : Repository :=
  { Repository.zero with ucTotalNumRecords := inp.ucNumFound repo }

/-- One pass of the loop over the repositories. Of the two allocations for the records of a sensor
repository the second is checked. -/
def initRepo (inp : Input) (repo : AMC_ASDM_SUPPORTED_REPO) : Ending × Repository :=
  if inp.ucNumFound repo = 0 then complete inp repo [] 0
  else
    match repo with
    | FPT =>
      match inp.iPopulateAsdmFpt with
      | some bytes => complete inp repo [] bytes
      | none => (.ERROR, failed inp repo)
    | BOARD_INFO =>
      match inp.iPopulateAsdmBoardInfo with
      | some bytes => complete inp repo [] bytes
      | none => (.ERROR, failed inp repo)
    | repo =>
      if inp.sdsRecord repo = false then (.ERROR, failed inp repo)
      else if inp.sdrRecord repo = false then (.fault, failed inp repo)
      else
        match populateRecords inp repo 0 (inp.sensors repo) with
        | some x => complete inp repo x.1 x.2
        | none => (.ERROR, .zero)

def initRepos (inp : Input) :
    List AMC_ASDM_SUPPORTED_REPO → (AMC_ASDM_SUPPORTED_REPO → Repository) →
      Ending × (AMC_ASDM_SUPPORTED_REPO → Repository)
  | [], info => (.OK, info)
  | repo :: rest, info =>
    let x := initRepo inp repo
    let info := Function.update info repo x.2
    if x.1 = .OK then initRepos inp rest info else (x.1, info)

def iInitAsdm (inp : Input) : Ending × (AMC_ASDM_SUPPORTED_REPO → Repository) :=
  if (inp.ascData && inp.fresh && inp.sdrInfo) = false then (.ERROR, fun _ => .zero)
  else if inp.sdsInfo = false then (.fault, fun _ => .zero)
  else initRepos inp repos fun _ => .zero

end Amr.Asdm.Records
