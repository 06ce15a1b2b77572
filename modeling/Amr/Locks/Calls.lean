/-
# The mutexes of the sensor and proxy drivers

`sys_mon.c`, `asc_proxy_driver.c`, `apc_proxy_driver.c` and `axc_proxy_driver.c`. Each driver has one
mutex, and its functions take and release it by hand. A call is given what it finds and what each of
its steps comes to, and is modelled by the ledger of its mutexes and by its status; what it does
under the mutex is only modelled as far as the status and the next step depend on it. A take that
fails acquires nothing, and a release is entered whether it succeeds or not, since it is attempted.
A pointer argument is given by whether it is not `NULL`.
-/
import Amr.Apc.Proxy
import Amr.Asc.Sensors
import Amr.Axc.PageAccess
import Amr.Axc.Presence
import Amr.Lib.Ledger

namespace Amr.Locks

open Ledger Asc Apc

inductive Mutex
  | SYS_MON
  | ASC
  | APC
  | AXC
  deriving DecidableEq, Repr

/-- A call: what it does with the mutexes, and whether its status is `OK`. -/
structure Ran where
  ops : List (Op Mutex)
  ok : Bool
  deriving DecidableEq

/-- What the take and the release of a mutex come to. -/
structure Attempts where
  take : Bool
  release : Bool
  deriving DecidableEq, Repr

namespace Ran

/-- A call that returns without using a mutex. -/
def untouched (ok : Bool) : Ran := ⟨[], ok⟩

/-- One part of a call after another; the second is reached if the first has the status `OK`. -/
def andThen (x y : Ran) : Ran := if x.ok then ⟨x.ops ++ y.ops, y.ok⟩ else x

variable (m : Mutex) (o : Attempts) (work : Bool)

/-- The release stands in the branch in which the mutex was taken. -/
def releaseIfTaken : Ran :=
  if o.take then ⟨[.acquire m, .release m], work && o.release⟩ else ⟨[], false⟩

/-- The release stands after the branch in which the mutex was taken. -/
def releaseAlways : Ran :=
  if o.take then ⟨[.acquire m, .release m], work && o.release⟩ else ⟨[.release m], false⟩

/-- The release stands in the branch in which the work under the mutex succeeded. -/
def releaseIfDone : Ran :=
  if o.take then
    if work then ⟨[.acquire m, .release m], o.release⟩ else ⟨[.acquire m], false⟩
  else ⟨[], false⟩

end Ran

/-! ### `sys_mon.c` -/

/-- The number of voltages, with or without `HAL_PROFILE_RAVE`. -/
def MAX_SYS_MON_VOLTAGE (HAL_PROFILE_RAVE : Bool) : ℕ := if HAL_PROFILE_RAVE then 12 else 3

/-- `iSYS_MON_ReadTemperature`; `read` is what `XSysMonPsv_ReadTempProcessed` comes to. -/
def iSYS_MON_ReadTemperature (iIsInitialised pfTemperatureInC : Bool) (o : Attempts)
    (read : Bool) : Ran :=
  if iIsInitialised && pfTemperatureInC then .releaseIfDone .SYS_MON o read else .untouched false

/-- `iSYS_MON_ReadVoltage`; `read` is what `XSysMonPsv_ReadSupplyProcessed` comes to. -/
def iSYS_MON_ReadVoltage (HAL_PROFILE_RAVE iIsInitialised : Bool) (xVoltageType : ℕ)
    (pfVoltageInMV : Bool) (o : Attempts) (read : Bool) : Ran :=
  if iIsInitialised && decide (xVoltageType < MAX_SYS_MON_VOLTAGE HAL_PROFILE_RAVE) &&
      pfVoltageInMV then
    .releaseIfDone .SYS_MON o read
  else .untouched false

/-! ### `asc_proxy_driver.c` -/

/-- What the functions of the ASC proxy driver look at. -/
structure AscDriver where
  iInitialised : Bool
  ucNumSensors : ℕ
  pxSensorData : SensorTable ucNumSensors

namespace AscDriver

/-- A function that works on the sensor it finds: the checks, and the section under the mutex. -/
def onSensor (d : AscDriver) (pointers : Bool) (found : Option (Fin d.ucNumSensors))
    (o : Attempts) : Ran :=
  if d.iInitialised && pointers then .releaseIfTaken .ASC o found.isSome else .untouched false

def iASC_ResetAllSensorData (d : AscDriver) (o : Attempts) : Ran :=
  if d.iInitialised then .releaseAlways .ASC o true else .untouched false

def iASC_ResetSingleSensorDataById (d : AscDriver) (ucId : UInt8) (o : Attempts) : Ran :=
  d.onSensor true (d.pxSensorData.byId ucId) o

def iASC_ResetSingleSensorDataByName (d : AscDriver) (pcName : Option (List Char))
    (o : Attempts) : Ran :=
  d.onSensor pcName.isSome (pcName.bind d.pxSensorData.byName) o

/-- `iASC_GetAllSensorData`, for a buffer with room for `pucNumSensors` records. -/
def iASC_GetAllSensorData (d : AscDriver) (pxData : Bool) (pucNumSensors : Option ℕ)
    (o : Attempts) : Ran :=
  match pucNumSensors with
  | some room =>
    if d.iInitialised && pxData then .releaseIfTaken .ASC o (decide (d.ucNumSensors ≤ room))
    else .untouched false
  | none => .untouched false

def iASC_GetSingleSensorDataById (d : AscDriver) (ucId : UInt8) (pxData : Bool)
    (o : Attempts) : Ran :=
  d.onSensor pxData (d.pxSensorData.byId ucId) o

def iASC_GetSingleSensorDataByName (d : AscDriver) (pcName : Option (List Char)) (pxData : Bool)
    (o : Attempts) : Ran :=
  d.onSensor (pcName.isSome && pxData) (pcName.bind d.pxSensorData.byName) o

def iASC_SetSingleSensorThresholdStatusById (d : AscDriver) (ucId : UInt8) (o : Attempts) : Ran :=
  d.onSensor true (d.pxSensorData.byId ucId) o

def iASC_SetSingleSensorOperationalStateById (d : AscDriver) (ucId : UInt8) (o : Attempts) : Ran :=
  d.onSensor true (d.pxSensorData.byId ucId) o

def iASC_GetSingleSensorOperationalStateById (d : AscDriver) (ucId : UInt8)
    (pucOperationalState : Bool) (o : Attempts) : Ran :=
  d.onSensor pucOperationalState (d.pxSensorData.byId ucId) o

end AscDriver

/-- The state of a proxy driver is returned: `iASC_GetState`, `iAPC_GetState` and `iAXC_GetState`,
which a driver that is not initialised accepts too. -/
def getState (m : Mutex) (pxState : Bool) (o : Attempts) : Ran :=
  if pxState then .releaseAlways m o true else .untouched false

def iASC_GetState : Bool → Attempts → Ran := getState .ASC

/-! ### `apc_proxy_driver.c` -/

/-- `iAPC_GetFptHeader`; `copied` is what `pvOSAL_MemCpy` comes to. -/
def iAPC_GetFptHeader (s : Data) (xBootDevice : ℕ) (pxFptHeader : Bool) (o : Attempts)
    (copied : Bool) : Ran :=
  match APC_BOOT_DEVICES.ofNat? xBootDevice with
  | some b =>
    if s.iInitialised && (s.device b).ppxFwIf && pxFptHeader then .releaseIfDone .APC o copied
    else .untouched false
  | none => .untouched false

/-- `iAPC_GetFptPartition`; `copied` is what `pvOSAL_MemCpy` comes to. -/
def iAPC_GetFptPartition (s : Data) (xBootDevice : ℕ) (iPartition : ℤ) (pxFptPartition : Bool)
    (o : Attempts) (copied : Bool) : Ran :=
  match APC_BOOT_DEVICES.ofNat? xBootDevice with
  | some b =>
    if s.iInitialised && (s.device b).piValidFpt && pxFptPartition &&
        decide ((s.device b).Below iPartition) then .releaseIfDone .APC o copied
    else .untouched false
  | none => .untouched false

def iAPC_GetState : Bool → Attempts → Ran := getState .APC

/-! ### `axc_proxy_driver.c` -/

/-- What the functions of the AXC proxy driver look at: its list of devices. -/
structure AxcDriver where
  iInitialised : Bool
  pxLinkedListHead : List (UInt8 × Muxed.FW_IF_DEVICE_TYPE)

namespace AxcDriver

def iGetExDevFromList (d : AxcDriver) (ucExDeviceId : UInt8) : Option Muxed.FW_IF_DEVICE_TYPE :=
  (d.pxLinkedListHead.find? fun x => decide (x.1 = ucExDeviceId)).map Prod.snd

/-- The section in which the page of a request is selected. -/
def selection (xDevice : Muxed.FW_IF_DEVICE_TYPE) (x : Axc.Section) : Ran :=
  .releaseIfTaken .AXC ⟨x.taken, x.released⟩ (x.written xDevice)

/-- The section in which the bytes of a request are read or written. -/
def transfer (xDevice : Muxed.FW_IF_DEVICE_TYPE) (r : Axc.Request) (x : Axc.Section) : Ran :=
  .releaseIfTaken .AXC ⟨x.taken, x.released⟩ (if r.sets then x.written xDevice else x.read)

/-- A request for a byte or a page of a module. -/
def request (d : AxcDriver) (pointers : Bool) (r : Axc.Request) (x y : Axc.Section) : Ran :=
  if d.iInitialised && pointers then
    match d.iGetExDevFromList r.ucExDeviceId with
    | some xDevice =>
      if r.lower then transfer xDevice r y
      else if r.upper then (selection xDevice x).andThen (transfer xDevice r y)
      else .untouched false
    | none => .untouched false
  else .untouched false

def iAXC_SetByte (d : AxcDriver) (ucExDeviceId : UInt8) (ulPage ulByteOffset : ℕ)
    (ucValue : UInt8) (x y : Axc.Section) : Ran :=
  d.request true (.SetByte ucExDeviceId ulPage ulByteOffset ucValue) x y

def iAXC_GetByte (d : AxcDriver) (ucExDeviceId : UInt8) (ulPage ulByteOffset : ℕ)
    (pucValue : Bool) (x y : Axc.Section) : Ran :=
  d.request pucValue (.GetByte ucExDeviceId ulPage ulByteOffset) x y

def iAXC_GetPage (d : AxcDriver) (ucExDeviceId : UInt8) (ulPage : ℕ) (pxData : Bool)
    (x y : Axc.Section) : Ran :=
  d.request pxData (.GetPage ucExDeviceId ulPage) x y

/-- The control lines of a module are read. -/
def ioStatus (d : AxcDriver) (pointers : Bool) (ucExDeviceId : UInt8)
    (x : Axc.Presence.Section) : Ran :=
  if d.iInitialised && pointers && (d.iGetExDevFromList ucExDeviceId).isSome then
    .releaseIfTaken .AXC ⟨x.taken, x.released⟩ (x.ioctrl && x.read)
  else .untouched false

def MAX_AXC_PROXY_DRIVER_QSFP_IO : ℕ := 5

def iAXC_GetSingleIoStatus (d : AxcDriver) (ucExDeviceId : UInt8) (xIoControlLine : ℕ)
    (pucIoStatus : Bool) (x : Axc.Presence.Section) : Ran :=
  d.ioStatus (decide (xIoControlLine < MAX_AXC_PROXY_DRIVER_QSFP_IO) && pucIoStatus)
    ucExDeviceId x

def iAXC_GetAllIoStatuses (d : AxcDriver) (ucExDeviceId : UInt8) (pxIoStatuses : Bool)
    (x : Axc.Presence.Section) : Ran :=
  d.ioStatus pxIoStatuses ucExDeviceId x

end AxcDriver

def iAXC_GetState : Bool → Attempts → Ran := getState .AXC

/-- `vProxyDriverTask`: one pass over the list, with what the visit of each device meets. -/
def vProxyDriverTask (visits : List Axc.Presence.Section) : Ran :=
  ⟨visits.flatMap fun x =>
    (Ran.releaseAlways .AXC ⟨x.taken, x.released⟩ (x.ioctrl && x.read)).ops, true⟩

/-! ### Runs -/

/-- The public functions of the proxy drivers that use no mutex. -/
inductive Untouching
  | iASC_Initialise
  | iASC_BindCallback
  | iASC_PrintStatistics
  | iASC_ClearStatistics
  | iAPC_Initialise
  | iAPC_BindCallback
  | iAPC_PrintStatistics
  | iAPC_ClearStatistics
  | iAPC_DownloadImage
  | iAPC_UpdateFpt
  | iAPC_CopyImage
  | iAPC_PdiProgram
  | iAPC_SetNextPartition
  | iAPC_TriggerSystemPOR
  | iAPC_SetFptPartitionFlags
  | iAPC_SetFptPartition
  | iAPC_ReadFlashRaw
  | iAXC_Initialise
  | iAXC_AddExternalDevice
  | iAXC_BindCallback
  | iAXC_GetTemperature
  | iAXC_PrintStatistics
  | iAXC_ClearStatistics
  | iAXC_ValidateRequest
  deriving DecidableEq, Repr

/-- A call, with what it finds and what its steps come to. -/
inductive Call
  | iSYS_MON_ReadTemperature (iIsInitialised pfTemperatureInC : Bool) (o : Attempts) (read : Bool)
  | iSYS_MON_ReadVoltage (HAL_PROFILE_RAVE iIsInitialised : Bool) (xVoltageType : ℕ)
    (pfVoltageInMV : Bool) (o : Attempts) (read : Bool)
  | iASC_ResetAllSensorData (d : AscDriver) (o : Attempts)
  | iASC_ResetSingleSensorDataById (d : AscDriver) (ucId : UInt8) (o : Attempts)
  | iASC_ResetSingleSensorDataByName (d : AscDriver) (pcName : Option (List Char)) (o : Attempts)
  | iASC_GetAllSensorData (d : AscDriver) (pxData : Bool) (pucNumSensors : Option ℕ)
    (o : Attempts)
  | iASC_GetSingleSensorDataById (d : AscDriver) (ucId : UInt8) (pxData : Bool) (o : Attempts)
  | iASC_GetSingleSensorDataByName (d : AscDriver) (pcName : Option (List Char)) (pxData : Bool)
    (o : Attempts)
  | iASC_SetSingleSensorThresholdStatusById (d : AscDriver) (ucId : UInt8) (o : Attempts)
  | iASC_SetSingleSensorOperationalStateById (d : AscDriver) (ucId : UInt8) (o : Attempts)
  | iASC_GetSingleSensorOperationalStateById (d : AscDriver) (ucId : UInt8)
    (pucOperationalState : Bool) (o : Attempts)
  | iASC_GetState (pxState : Bool) (o : Attempts)
  | iAPC_GetFptHeader (s : Data) (xBootDevice : ℕ) (pxFptHeader : Bool) (o : Attempts)
    (copied : Bool)
  | iAPC_GetFptPartition (s : Data) (xBootDevice : ℕ) (iPartition : ℤ) (pxFptPartition : Bool)
    (o : Attempts) (copied : Bool)
  | iAPC_GetState (pxState : Bool) (o : Attempts)
  | iAXC_SetByte (d : AxcDriver) (ucExDeviceId : UInt8) (ulPage ulByteOffset : ℕ)
    (ucValue : UInt8) (x y : Axc.Section)
  | iAXC_GetByte (d : AxcDriver) (ucExDeviceId : UInt8) (ulPage ulByteOffset : ℕ)
    (pucValue : Bool) (x y : Axc.Section)
  | iAXC_GetPage (d : AxcDriver) (ucExDeviceId : UInt8) (ulPage : ℕ) (pxData : Bool)
    (x y : Axc.Section)
  | iAXC_GetSingleIoStatus (d : AxcDriver) (ucExDeviceId : UInt8) (xIoControlLine : ℕ)
    (pucIoStatus : Bool) (x : Axc.Presence.Section)
  | iAXC_GetAllIoStatuses (d : AxcDriver) (ucExDeviceId : UInt8) (pxIoStatuses : Bool)
    (x : Axc.Presence.Section)
  | iAXC_GetState (pxState : Bool) (o : Attempts)
  | vProxyDriverTask (visits : List Axc.Presence.Section)
  | untouching (f : Untouching) (ok : Bool)

/-- What a call does with the mutexes, and its status. -/
def Call.ran : Call → Ran
  | .iSYS_MON_ReadTemperature init pf o read => Locks.iSYS_MON_ReadTemperature init pf o read
  | .iSYS_MON_ReadVoltage rave init v pf o read =>
    Locks.iSYS_MON_ReadVoltage rave init v pf o read
  | .iASC_ResetAllSensorData d o => d.iASC_ResetAllSensorData o
  | .iASC_ResetSingleSensorDataById d ucId o => d.iASC_ResetSingleSensorDataById ucId o
  | .iASC_ResetSingleSensorDataByName d pcName o => d.iASC_ResetSingleSensorDataByName pcName o
  | .iASC_GetAllSensorData d pxData room o => d.iASC_GetAllSensorData pxData room o
  | .iASC_GetSingleSensorDataById d ucId px o => d.iASC_GetSingleSensorDataById ucId px o
  | .iASC_GetSingleSensorDataByName d pcName px o => d.iASC_GetSingleSensorDataByName pcName px o
  | .iASC_SetSingleSensorThresholdStatusById d ucId o =>
    d.iASC_SetSingleSensorThresholdStatusById ucId o
  | .iASC_SetSingleSensorOperationalStateById d ucId o =>
    d.iASC_SetSingleSensorOperationalStateById ucId o
  | .iASC_GetSingleSensorOperationalStateById d ucId puc o =>
    d.iASC_GetSingleSensorOperationalStateById ucId puc o
  | .iASC_GetState pxState o => Locks.iASC_GetState pxState o
  | .iAPC_GetFptHeader s b px o copied => Locks.iAPC_GetFptHeader s b px o copied
  | .iAPC_GetFptPartition s b i px o copied => Locks.iAPC_GetFptPartition s b i px o copied
  | .iAPC_GetState pxState o => Locks.iAPC_GetState pxState o
  | .iAXC_SetByte d id page offset v x y => d.iAXC_SetByte id page offset v x y
  | .iAXC_GetByte d id page offset puc x y => d.iAXC_GetByte id page offset puc x y
  | .iAXC_GetPage d id page px x y => d.iAXC_GetPage id page px x y
  | .iAXC_GetSingleIoStatus d id line puc x => d.iAXC_GetSingleIoStatus id line puc x
  | .iAXC_GetAllIoStatuses d id px x => d.iAXC_GetAllIoStatuses id px x
  | .iAXC_GetState pxState o => Locks.iAXC_GetState pxState o
  | .vProxyDriverTask visits => Locks.vProxyDriverTask visits
  | .untouching _ ok => .untouched ok

end Amr.Locks
