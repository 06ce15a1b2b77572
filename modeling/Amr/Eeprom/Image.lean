/-
# The manufacturing EEPROM

`eeprom.c` of the AVED profile: `iEEPROM_Initialise` verifies the device id, reads the version,
points the fields to the layout of that version, verifies the checksum, and reads the fields byte by
byte into a union of three structures. The configuration is the constant one of the profile, which
passes the parameter checks and has a one-byte address.
-/
import Amr.Lib.ByteStore

namespace Amr.Eeprom

open ByteStore

/-- The versions that the driver has layouts for; the one expected is among them. -/
inductive EEPROM_VERSION
  | EEPROM_VERSION_3_0
  | EEPROM_VERSION_3_1
  | EEPROM_VERSION_4_0
  deriving DecidableEq

open EEPROM_VERSION

def EEPROM_V4_0 : ℕ := 0x342E3000
def EEPROM_V3_1 : ℕ := 0x332E3100
def EEPROM_V3_0 : ℕ := 0x332E3000

def EEPROM_DEFAULT_VAL : UInt8 := 0xFF
def EEPROM_BUF_SIZE : ℕ := 128
def EEPROM_DEVICE_ID_CHECK_TRY_COUNT : ℕ := 3
def EEPROM_V4_0_TOT_MAC_ID_SIZE : ℕ := 1

inductive Field
  | eepromVersion
  | productName
  | boardRev
  | boardSerial
  | numMacIds
  | boardMac
  | boardActivePassive
  | boardConfigMode
  | boardMfgDate
  | boardPartNum
  | boardUuid
  | boardPcieInfo
  | boardMaxPowerMode
  | memorySize
  | oemId
  | capability
  | mfgPartNum
  deriving DecidableEq

/-! ### The layouts -/

/-- The size of a string with its terminator. -/
def EEPROM_ASCII_VAR (x : ℕ) : ℕ := x + 1

/-- `EEPROMBoardInfoV4_0`: the members with their sizes. -/
def EEPROMBoardInfoV4_0 : List (Field × ℕ) :=
  [(.eepromVersion, EEPROM_ASCII_VAR 4), (.productName, EEPROM_ASCII_VAR 36),
    (.boardPartNum, EEPROM_ASCII_VAR 0x2A), (.mfgPartNum, EEPROM_ASCII_VAR 16),
    (.boardRev, EEPROM_ASCII_VAR 5), (.boardSerial, EEPROM_ASCII_VAR 14),
    (.boardMfgDate, EEPROM_ASCII_VAR 4), (.numMacIds, 1), (.boardMac, EEPROM_ASCII_VAR 6),
    (.boardUuid, EEPROM_ASCII_VAR 16)]

/-- `EEPROMBoardInfoV3_1`, and likewise `EEPROMBoardInfoV3_0`. -/
def EEPROMBoardInfoV3 : List (Field × ℕ) :=
  [(.eepromVersion, EEPROM_ASCII_VAR 4), (.productName, EEPROM_ASCII_VAR 24),
    (.boardRev, EEPROM_ASCII_VAR 8), (.boardSerial, EEPROM_ASCII_VAR 14), (.numMacIds, 1),
    (.boardMac, EEPROM_ASCII_VAR 6), (.boardActivePassive, EEPROM_ASCII_VAR 1),
    (.boardConfigMode, EEPROM_ASCII_VAR 1), (.boardMfgDate, EEPROM_ASCII_VAR 3),
    (.boardPartNum, EEPROM_ASCII_VAR 24), (.boardUuid, EEPROM_ASCII_VAR 16),
    (.boardPcieInfo, EEPROM_ASCII_VAR 8), (.boardMaxPowerMode, EEPROM_ASCII_VAR 1),
    (.memorySize, EEPROM_ASCII_VAR 4), (.oemId, EEPROM_ASCII_VAR 4),
    (.capability, EEPROM_ASCII_VAR 2)]

def boardInfo : EEPROM_VERSION → List (Field × ℕ)
  | EEPROM_VERSION_4_0 => EEPROMBoardInfoV4_0
  | _ => EEPROMBoardInfoV3

/-- The position of a member in the union. -/
def position (v : EEPROM_VERSION) (f : Field) : ℕ :=
  (((boardInfo v).takeWhile fun m => decide (m.1 ≠ f)).map (·.2)).sum

def room (v : EEPROM_VERSION) (f : Field) : ℕ := ((boardInfo v).lookup f).getD 0

/-- The offsets and sizes of the fields of version 4.0. -/
def fieldsV4_0 : Field → Option (ℕ × ℕ)
  | .eepromVersion => some (0x00, 4)
  | .productName => some (0x06, 36)
  | .boardPartNum => some (0x2A, 24)
  | .mfgPartNum => some (0x42, 16)
  | .boardRev => some (0x52, 5)
  | .boardSerial => some (0x57, 14)
  | .boardMfgDate => some (0x65, 4)
  | .numMacIds => some (0x69, 1)
  | .boardMac => some (0x6A, 6)
  | .boardUuid => some (0x70, 16)
  | _ => none

/-- The offsets and sizes of the fields of version 3.1, which are those of version 3.0. -/
def fieldsV3 : Field → Option (ℕ × ℕ)
  | .eepromVersion => some (0x00, 4)
  | .productName => some (0x08, 24)
  | .boardRev => some (0x20, 8)
  | .boardSerial => some (0x28, 14)
  | .numMacIds => some (0x36, 1)
  | .boardMac => some (0x37, 6)
  | .boardActivePassive => some (0x3D, 1)
  | .boardConfigMode => some (0x3E, 1)
  | .boardMfgDate => some (0x3F, 3)
  | .boardPartNum => some (0x42, 24)
  | .boardUuid => some (0x5A, 16)
  | .boardPcieInfo => some (0x6A, 8)
  | .boardMaxPowerMode => some (0x72, 1)
  | .memorySize => some (0x73, 4)
  | .oemId => some (0x77, 4)
  | .capability => some (0x7B, 2)
  | .mfgPartNum => none

/-- The offset and size of a field, if the version has it. -/
def fields : EEPROM_VERSION → Field → Option (ℕ × ℕ)
  | EEPROM_VERSION_4_0 => fieldsV4_0
  | _ => fieldsV3

/-- The positions of the checksum, and the range it is about. -/
structure Checksum where
  ucOffsetChecksumLsb : ℕ
  ucOffsetChecksumMsb : ℕ
  ucChecksumStart : ℕ
  ucChecksumEnd : ℕ

def checksum : EEPROM_VERSION → Checksum
  | EEPROM_VERSION_4_0 => ⟨4, 5, 6, 127⟩
  | _ => ⟨6, 7, 8, 124⟩

/-! ### The I2C bus -/

/-- What the transactions of an initialisation return. A byte is read at most once. -/
structure Bus where
  /-- The two bytes of the device id at each try, unless that fails. -/
  deviceId : ℕ → Option (UInt8 × UInt8)
  content : ℕ → UInt8
  /-- The read of the byte fails, -/
  fails : ℕ → Bool
  /-- and leaves this in the buffer. -/
  junk : ℕ → UInt8
  /-- The read of the whole block fails. -/
  blockFails : Bool

/-! ### The driver -/

/-- A field pointer with the size of the buffer it points to, and the size and offset in the
EEPROM. -/
structure FieldInfo where
  puc : Option ℕ
  room : ℕ
  ucSize : ℕ
  ucOffset : ℕ

/-- A byte that is stored while a field is decoded. -/
structure Stored where
  field : Field
  index : ℕ
  room : ℕ

structure EEPROMPrivateData where
  iEepromInitialised : Bool
  xBoardInfo : Store
  ucNumMacIds : UInt8
  field : Field → FieldInfo
  checksum : Checksum
  /-- The bytes stored so far. -/
  stored : List Stored

/-- The data before the first initialisation. -/
def EEPROMPrivateData.start (xBoardInfo : Store) : EEPROMPrivateData where
  iEepromInitialised := false
  xBoardInfo := xBoardInfo
  ucNumMacIds := 0
  field _ := ⟨none, 0, 0, 0⟩
  checksum := ⟨0, 0, 0, 0⟩
  stored := []

/-- The field in the layout of the version. The pointer and the offset of a field that the version
does not have stay as they are. -/
def fieldInfo (v : EEPROM_VERSION) (f : Field) (old : FieldInfo) : FieldInfo :=
  match fields v f with
  | some (offset, size) => ⟨some (position v f), room v f, size, offset⟩
  | none => { old with ucSize := 0 }

def vEepromInitialiseVersionFields (s : EEPROMPrivateData) (xVersion : EEPROM_VERSION) :
    EEPROMPrivateData :=
  { s with
    field := fun f => fieldInfo xVersion f (s.field f)
    ucNumMacIds := s.xBoardInfo (position xVersion .numMacIds)
    checksum := checksum xVersion }

def clean (iIsMac : Bool) (b : UInt8) : UInt8 :=
  if iIsMac = false ∧ b = EEPROM_DEFAULT_VAL then 0 else b

/-- The loop of `iEepromReadField` from byte `i` on: the status, and the bytes stored. -/
def readBytes (bus : Bus) (ucAddressOffset : ℕ) (iIsMac : Bool) :
    Bool → ℕ → ℕ → Bool × List UInt8
  | iStatus, 0, _ => (iStatus, [])
  | _, n + 1, i =>
    if bus.fails (ucAddressOffset + i) then
      (false, [clean iIsMac (bus.junk (ucAddressOffset + i))])
    else
      ((readBytes bus ucAddressOffset iIsMac true n (i + 1)).1,
        clean iIsMac (bus.content (ucAddressOffset + i)) ::
          (readBytes bus ucAddressOffset iIsMac true n (i + 1)).2)

/-- `iEepromReadField`: the status, and the bytes stored before the terminator. -/
def iEepromReadField (bus : Bus) (ucAddressOffset ucReadSize : ℕ) (iIsMac : Bool) :
    Bool × List UInt8 :=
  readBytes bus ucAddressOffset iIsMac false ucReadSize 0

/-- The bytes and the terminator behind the field are stored at a pointer. -/
def storeField (m : Store) (pucData ucReadSize : ℕ) (bytes : List UInt8) : Store :=
  put (put m pucData bytes) (pucData + ucReadSize) [0]

def storesOf (f : Field) (room ucReadSize : ℕ) (bytes : List UInt8) : List Stored :=
  (List.range bytes.length ++ [ucReadSize]).map fun i => ⟨f, i, room⟩

def readField (bus : Bus) (f : Field) (s : EEPROMPrivateData) : Bool × EEPROMPrivateData :=
  match (s.field f).puc with
  | none => (false, s)
  | some pucData =>
    ((iEepromReadField bus (s.field f).ucOffset (s.field f).ucSize (decide (f = .boardMac))).1,
      { s with
        xBoardInfo := storeField s.xBoardInfo pucData (s.field f).ucSize
          (iEepromReadField bus (s.field f).ucOffset (s.field f).ucSize
            (decide (f = .boardMac))).2
        stored := s.stored ++ storesOf f (s.field f).room (s.field f).ucSize
          (iEepromReadField bus (s.field f).ucOffset (s.field f).ucSize
            (decide (f = .boardMac))).2 })

/-- The number of MAC addresses is read into a local array of one byte first. What stands behind
that array is not part of the driver's data. -/
def readNumMacIds (bus : Bus) (s : EEPROMPrivateData) : Bool × EEPROMPrivateData :=
  ((iEepromReadField bus (s.field .numMacIds).ucOffset (s.field .numMacIds).ucSize false).1,
    { s with
      ucNumMacIds :=
        if (iEepromReadField bus (s.field .numMacIds).ucOffset
            (s.field .numMacIds).ucSize false).1 then
          (iEepromReadField bus (s.field .numMacIds).ucOffset
            (s.field .numMacIds).ucSize false).2.headD 0
        else s.ucNumMacIds
      stored := s.stored ++ storesOf .numMacIds EEPROM_V4_0_TOT_MAC_ID_SIZE
        (s.field .numMacIds).ucSize
        (iEepromReadField bus (s.field .numMacIds).ucOffset
          (s.field .numMacIds).ucSize false).2 })

/-- One of the fields after the version is read. -/
def readOne (bus : Bus) (f : Field) (s : EEPROMPrivateData) : Bool × EEPROMPrivateData :=
  if f = .numMacIds then readNumMacIds bus s else readField bus f s

/-- The fields are read one after the other, until a read fails. -/
def readFields (bus : Bus) : List Field → EEPROMPrivateData → Bool × EEPROMPrivateData
  | [], s => (true, s)
  | f :: fs, s =>
    if (readOne bus f s).1 then readFields bus fs (readOne bus f s).2
    else (false, (readOne bus f s).2)

/-- The fields that `iEEPROM_Initialise` reads after the version. -/
def fieldsRead : EEPROM_VERSION → List Field
  | EEPROM_VERSION_4_0 => [.productName, .boardRev, .boardSerial, .numMacIds, .boardMac,
      .boardMfgDate, .boardPartNum, .boardUuid, .mfgPartNum]
  | _ => [.productName, .boardRev, .boardSerial, .numMacIds, .boardMac, .boardMfgDate,
      .boardPartNum, .boardUuid, .boardActivePassive, .boardConfigMode, .boardPcieInfo,
      .boardMaxPowerMode, .memorySize, .oemId, .capability]

def iEepromVerifyChecksum (bus : Bus) (c : Checksum) : Bool :=
  !bus.blockFails &&
    decide ((65536 - (List.range' c.ucChecksumStart (c.ucChecksumEnd + 1 - c.ucChecksumStart)).foldl
        (fun usCalculatedChecksum i => (usCalculatedChecksum + (bus.content i).toNat) % 65536) 0)
          % 65536 =
      256 * (bus.content c.ucOffsetChecksumMsb).toNat +
        (bus.content c.ucOffsetChecksumLsb).toNat)

def usDeviceId (pucReadBuf : UInt8 × UInt8) : ℕ :=
  256 * pucReadBuf.1.toNat + pucReadBuf.2.toNat

/-- The loop of `iEeprom_VerifyDeviceId` over the remaining tries, with its status. -/
def verifyDeviceId (bus : Bus) (usEepromDeviceId : ℕ) : Bool → ℕ → ℕ → Bool
  | iStatus, 0, _ => iStatus
  | _, n + 1, i =>
    match bus.deviceId i with
    | none => verifyDeviceId bus usEepromDeviceId false n (i + 1)
    | some pucReadBuf =>
      if usDeviceId pucReadBuf = usEepromDeviceId then true
      else verifyDeviceId bus usEepromDeviceId true n (i + 1)

def iEeprom_VerifyDeviceId (bus : Bus) (usEepromDeviceId : ℕ) : Bool :=
  verifyDeviceId bus usEepromDeviceId false EEPROM_DEVICE_ID_CHECK_TRY_COUNT 0

/-- The version that four bytes stand for. -/
def versionOf (pucEepromVersion : List UInt8) : Option EEPROM_VERSION :=
  if valueBE pucEepromVersion = EEPROM_V4_0 then some EEPROM_VERSION_4_0
  else if valueBE pucEepromVersion = EEPROM_V3_1 then some EEPROM_VERSION_3_1
  else if valueBE pucEepromVersion = EEPROM_V3_0 then some EEPROM_VERSION_3_0
  else none
where
  /-- The number that bytes spell, highest first. -/
  valueBE (bytes : List UInt8) : ℕ := bytes.foldl (fun n b => 256 * n + b.toNat) 0

/-- The fields are re-initialised if the version is not the expected one. -/
def pointTo (s : EEPROMPrivateData) (xEepromExpectedVersion xEepromActualVersion : EEPROM_VERSION) :
    EEPROMPrivateData :=
  if xEepromExpectedVersion ≠ xEepromActualVersion then
    vEepromInitialiseVersionFields s xEepromActualVersion
  else s

/-- The driver is initialised when all went well. -/
def finish (r : Bool × EEPROMPrivateData) : Bool × EEPROMPrivateData :=
  (r.1, if r.1 then { r.2 with iEepromInitialised := true } else r.2)

/-- The checksum and the fields after the version. -/
def decode (bus : Bus) (v : EEPROM_VERSION) (s : EEPROMPrivateData) : Bool × EEPROMPrivateData :=
  if iEepromVerifyChecksum bus s.checksum then finish (readFields bus (fieldsRead v) s)
  else (false, s)

def readImage (bus : Bus) (xEepromExpectedVersion : EEPROM_VERSION) (s : EEPROMPrivateData) :
    Bool × EEPROMPrivateData :=
  match readField bus .eepromVersion s with
  | (false, s) => (false, s)
  | (true, s) =>
    match versionOf (read s.xBoardInfo ((s.field .eepromVersion).puc.getD 0) 4) with
    | none => (false, s)
    | some v => decode bus v (pointTo s xEepromExpectedVersion v)

def iEEPROM_Initialise (bus : Bus) (usEepromDeviceId : ℕ) (xEepromVersion : EEPROM_VERSION)
    (s : EEPROMPrivateData) : Bool × EEPROMPrivateData :=
  if iEeprom_VerifyDeviceId bus usEepromDeviceId then
    readImage bus xEepromVersion (vEepromInitialiseVersionFields s xEepromVersion)
  else (false, vEepromInitialiseVersionFields s xEepromVersion)

/-! ### The getters -/

def getField (f : Field) (s : EEPROMPrivateData) : Option (List UInt8) :=
  if s.iEepromInitialised then
    some (read s.xBoardInfo ((s.field f).puc.getD 0) (s.field f).ucSize)
  else none

def iEEPROM_GetEepromVersion := getField .eepromVersion
def iEEPROM_GetProductName := getField .productName
def iEEPROM_GetProductRevision := getField .boardRev
def iEEPROM_GetSerialNumber := getField .boardSerial

def iEEPROM_GetMacAddressCount (s : EEPROMPrivateData) : Option (List UInt8) :=
  if s.iEepromInitialised then some ([s.ucNumMacIds].take (s.field .numMacIds).ucSize) else none

def iEEPROM_GetFirstMacAddress := getField .boardMac
def iEEPROM_GetActiveState := getField .boardActivePassive
def iEEPROM_GetConfigMode := getField .boardConfigMode
def iEEPROM_GetManufacturingDate := getField .boardMfgDate
def iEEPROM_GetPartNumber := getField .boardPartNum
def iEEPROM_GetMfgPartNumber := getField .mfgPartNum
def iEEPROM_GetUuid := getField .boardUuid
def iEEPROM_GetPcieId := getField .boardPcieInfo
def iEEPROM_GetMaxPowerMode := getField .boardMaxPowerMode
def iEEPROM_GetMemorySize := getField .memorySize
def iEEPROM_GetOemId := getField .oemId
def iEEPROM_GetCapability := getField .capability

def getter : Field → EEPROMPrivateData → Option (List UInt8)
  | .eepromVersion => iEEPROM_GetEepromVersion
  | .productName => iEEPROM_GetProductName
  | .boardRev => iEEPROM_GetProductRevision
  | .boardSerial => iEEPROM_GetSerialNumber
  | .numMacIds => iEEPROM_GetMacAddressCount
  | .boardMac => iEEPROM_GetFirstMacAddress
  | .boardActivePassive => iEEPROM_GetActiveState
  | .boardConfigMode => iEEPROM_GetConfigMode
  | .boardMfgDate => iEEPROM_GetManufacturingDate
  | .boardPartNum => iEEPROM_GetPartNumber
  | .boardUuid => iEEPROM_GetUuid
  | .boardPcieInfo => iEEPROM_GetPcieId
  | .boardMaxPowerMode => iEEPROM_GetMaxPowerMode
  | .memorySize => iEEPROM_GetMemorySize
  | .oemId => iEEPROM_GetOemId
  | .capability => iEEPROM_GetCapability
  | .mfgPartNum => iEEPROM_GetMfgPartNumber

/-! ### What the initialisation is to do -/

/-- The bytes of a field in the EEPROM, unprogrammed ones of anything but a MAC address as NUL. -/
def fieldBytes (bus : Bus) (f : Field) (field : ℕ × ℕ) : List UInt8 :=
  (List.range field.2).map fun i => clean (decide (f = .boardMac)) (bus.content (field.1 + i))

def imageVersion (bus : Bus) : Option EEPROM_VERSION :=
  versionOf (fieldBytes bus .eepromVersion (0, 4))

/-- The bytes in the range and the checksum add up to 0 modulo 2¹⁶. -/
def ChecksumMatches (bus : Bus) (c : Checksum) : Prop :=
  (((List.range' c.ucChecksumStart (c.ucChecksumEnd + 1 - c.ucChecksumStart)).map fun i =>
      (bus.content i).toNat).sum + 256 * (bus.content c.ucOffsetChecksumMsb).toNat +
    (bus.content c.ucOffsetChecksumLsb).toNat) % 65536 = 0

def FieldReadable (bus : Bus) (field : ℕ × ℕ) : Prop :=
  ∀ i < field.2, bus.fails (field.1 + i) = false

def DeviceIdRead (bus : Bus) (usEepromDeviceId : ℕ) : Prop :=
  ∃ i < EEPROM_DEVICE_ID_CHECK_TRY_COUNT, ∃ buf, bus.deviceId i = some buf ∧
    usDeviceId buf = usEepromDeviceId

/-- The image is of the version, its checksum matches, and all reads succeed. -/
structure Acceptable (bus : Bus) (v : EEPROM_VERSION) : Prop where
  version : imageVersion bus = some v
  checksum : ChecksumMatches bus (checksum v)
  block : bus.blockFails = false
  fields : ∀ f field, fields v f = some field → FieldReadable bus field

/-- The outcome of an initialisation is as it should be, where the stores that `Exempt` excuses are
left out of account. -/
structure Initialised (Exempt : Stored → Prop) (bus : Bus) (usEepromDeviceId : ℕ)
    (result : Bool × EEPROMPrivateData) : Prop where
  accepts : result.1 = true ↔ DeviceIdRead bus usEepromDeviceId ∧ ∃ v, Acceptable bus v
  stores : ∀ s ∈ result.2.stored, s.index < s.room ∨ Exempt s
  getters : result.1 = true → ∀ v, imageVersion bus = some v → ∀ f field,
    fields v f = some field → getter f result.2 = some (fieldBytes bus f field)

/-- The terminator behind the number of MAC addresses. -/
def CountTerminator (s : Stored) : Prop := s.field = .numMacIds ∧ s.index = 1

/-- The number of MAC addresses is reached: the device id is taken, the version and the checksum
are right, and the fields before the number can be read. -/
structure CountReached (bus : Bus) (usEepromDeviceId : ℕ) (v : EEPROM_VERSION) : Prop where
  id : iEeprom_VerifyDeviceId bus usEepromDeviceId = true
  version : imageVersion bus = some v
  checksum : ChecksumMatches bus (checksum v)
  block : bus.blockFails = false
  fields : ∀ f ∈ [Field.eepromVersion, .productName, .boardRev, .boardSerial], ∀ field,
    fields v f = some field → FieldReadable bus field

/-- No try reads the device id, and the last one reads another. -/
def OtherIdLast (bus : Bus) (usEepromDeviceId : ℕ) : Prop :=
  ¬ DeviceIdRead bus usEepromDeviceId ∧ (bus.deviceId 2).isSome = true

end Amr.Eeprom
