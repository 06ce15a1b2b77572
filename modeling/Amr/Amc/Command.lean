/-
# Commands of the host and what they map to

`src/sw/AMI/driver/ami_amc_control.c`: the request ids that the rest of the driver submits, the
command id each stands for, the repository, API and sensor ids of a sensor request, and
`amc_result_to_linux_errno` of `amc_proxy.c`. The `UNKNOWN` value that a table returns by default
is `none` here.
-/
import Mathlib

namespace Amr.Amc

/-! ### Error numbers -/

def EPERM : ℤ := 1
def EIO : ℤ := 5
def ENOMEM : ℤ := 12
def EBUSY : ℤ := 16
def EINVAL : ℤ := 22
def ENODATA : ℤ := 61
def ETIME : ℤ := 62
def EPROTO : ℤ := 71
def ETIMEDOUT : ℤ := 110
def EALREADY : ℤ := 114
def ERESTARTSYS : ℤ := 512

/-- `amc_result_to_linux_errno`, on the number that arrives in a response. -/
def amcResultToLinuxErrno (res : UInt32) : ℤ :=
  if res = 0 then 0
  else if res = 1 then - EIO
  else if res = 2 then -EINVAL
  else if res = 3 then -EPROTO
  else if res = 4 then -EPROTO
  else if res = 5 then -EALREADY
  else if res = 6 then -ENODATA
  else -EINVAL

theorem amcResultToLinuxErrno_eq_zero_iff (res : UInt32) :
    amcResultToLinuxErrno res = 0 ↔ res = 0 := by
  unfold amcResultToLinuxErrno
  split_ifs <;> simp_all [EINVAL, EIO, EPROTO, EALREADY, ENODATA]

/-! ### Request and command ids -/

inductive GcqSubmitCmdReq
  | rsvd
  | getGcqVersion
  | getSdrSize
  | getSdr
  | downloadPdi
  | deviceBoot
  | copyPartition
  | setFptPartition
  | getInletTempSensor
  | getOutletTempSensor
  | getBoardTempSensor
  | getFpgaTempSensor
  | getAllInstTempSensor
  | getVccintVoltage
  | getVcc1v2Voltage
  | get12vPexVoltage
  | get12vAux0Voltage
  | getVccintCurrent
  | getVcc1v2Current
  | get12vPexCurrent
  | getTotalPower
  | getAllInstVolSensor
  | getAllInstCurSensor
  | getAllInstPwrSensor
  | getHeartbeat
  | eepromReadWrite
  | moduleReadWrite
  | debugVerbosity
  deriving DecidableEq, Repr

/-- `enum amc_cmd_id`, without `AMC_CMD_ID_UNKNOWN`. -/
inductive AmcCmdId
  | sensor
  | identify
  | downloadPdi
  | deviceBoot
  | copyPartition
  | setFptPartition
  | heartbeat
  | eepromReadWrite
  | moduleReadWrite
  | debugVerbosity
  deriving DecidableEq, Repr

def getCmdCommandId : GcqSubmitCmdReq → Option AmcCmdId
  | .downloadPdi => some .downloadPdi
  | .getGcqVersion => some .identify
  | .getSdr | .getSdrSize => some .sensor
  | .deviceBoot => some .deviceBoot
  | .copyPartition => some .copyPartition
  | .setFptPartition => some .setFptPartition
  | .getInletTempSensor | .getOutletTempSensor | .getBoardTempSensor | .getFpgaTempSensor
  | .getAllInstTempSensor | .getVccintVoltage | .getVcc1v2Voltage | .get12vPexVoltage
  | .get12vAux0Voltage | .getVccintCurrent | .getVcc1v2Current | .get12vPexCurrent
  | .getTotalPower | .getAllInstVolSensor | .getAllInstCurSensor | .getAllInstPwrSensor =>
    some .sensor
  | .getHeartbeat => some .heartbeat
  | .eepromReadWrite => some .eepromReadWrite
  | .moduleReadWrite => some .moduleReadWrite
  | .debugVerbosity => some .debugVerbosity
  | .rsvd => none

/-! ### Sensor requests -/

/-- `enum amc_proxy_cmd_sensor_repo`, without the unknown value. -/
inductive SensorRepo
  | getSize
  | bdinfo
  | temp
  | voltage
  | current
  | power
  | totalPower
  | qsfp
  | fpt
  | all
  deriving DecidableEq, Repr

def SensorRepo.value : SensorRepo → UInt32
  | .getSize => 0
  | .bdinfo => 1
  | .temp => 2
  | .voltage => 3
  | .current => 4
  | .power => 5
  | .totalPower => 6
  | .qsfp => 7
  | .fpt => 8
  | .all => 9

/-- `enum amc_proxy_cmd_sensor_request`, without the unknown value. -/
inductive SensorRequest
  | getSize
  | getSdr
  | getSingleSdr
  | allSdr
  deriving DecidableEq, Repr

def SensorRequest.value : SensorRequest → UInt32
  | .getSize => 1
  | .getSdr => 2
  | .getSingleSdr => 3
  | .allSdr => 4

def GCQ_CMD_FLAG_REPO_TYPE_BD_INFO : UInt32 := 0x01
def GCQ_CMD_FLAG_REPO_TYPE_TEMP : UInt32 := 0x02
def GCQ_CMD_FLAG_REPO_TYPE_VOLTAGE : UInt32 := 0x04
def GCQ_CMD_FLAG_REPO_TYPE_CURRENT : UInt32 := 0x08
def GCQ_CMD_FLAG_REPO_TYPE_POWER : UInt32 := 0x10
def GCQ_CMD_FLAG_REPO_TYPE_TOTAL_POWER : UInt32 := 0x20
def GCQ_CMD_FLAG_REPO_TYPE_FPT : UInt32 := 0x40

/-- The repository that the flags of `GET_SDR` and `GET_SDR_SIZE` select; the first flag wins. -/
def repoOfFlags (flags : UInt32) : Option SensorRepo :=
  if flags &&& GCQ_CMD_FLAG_REPO_TYPE_TEMP ≠ 0 then some .temp
  else if flags &&& GCQ_CMD_FLAG_REPO_TYPE_CURRENT ≠ 0 then some .current
  else if flags &&& GCQ_CMD_FLAG_REPO_TYPE_POWER ≠ 0 then some .power
  else if flags &&& GCQ_CMD_FLAG_REPO_TYPE_TOTAL_POWER ≠ 0 then some .totalPower
  else if flags &&& GCQ_CMD_FLAG_REPO_TYPE_VOLTAGE ≠ 0 then some .voltage
  else if flags &&& GCQ_CMD_FLAG_REPO_TYPE_BD_INFO ≠ 0 then some .bdinfo
  else if flags &&& GCQ_CMD_FLAG_REPO_TYPE_FPT ≠ 0 then some .fpt
  else none

/-- `get_sid`; power sensors report total power (`SDR_POWER_TYPE`). -/
def getSid (cmdReq : GcqSubmitCmdReq) (flags : UInt32) : Option SensorRepo :=
  match cmdReq with
  | .getSdr | .getSdrSize => repoOfFlags flags
  | .getInletTempSensor | .getOutletTempSensor | .getBoardTempSensor | .getFpgaTempSensor
  | .getAllInstTempSensor => some .temp
  | .getVccintVoltage | .getVcc1v2Voltage | .get12vPexVoltage | .get12vAux0Voltage
  | .getAllInstVolSensor => some .voltage
  | .getVccintCurrent | .getVcc1v2Current | .get12vPexCurrent | .getAllInstCurSensor =>
    some .current
  | .getTotalPower | .getAllInstPwrSensor => some .totalPower
  | _ => none

def getAid : GcqSubmitCmdReq → Option SensorRequest
  | .getSdr => some .getSdr
  | .getSdrSize => some .getSize
  | .getInletTempSensor | .getOutletTempSensor | .getBoardTempSensor | .getFpgaTempSensor
  | .getVccintVoltage | .getVcc1v2Voltage | .get12vPexVoltage | .get12vAux0Voltage
  | .getVccintCurrent | .getVcc1v2Current | .get12vPexCurrent | .getTotalPower =>
    some .getSingleSdr
  | .getAllInstTempSensor | .getAllInstVolSensor | .getAllInstCurSensor
  | .getAllInstPwrSensor => some .allSdr
  | _ => none

def getSensorId : GcqSubmitCmdReq → Option UInt32
  | .getInletTempSensor => some 1
  | .getOutletTempSensor => some 2
  | .getBoardTempSensor => some 3
  | .getFpgaTempSensor => some 4
  | .getVccintVoltage => some 3
  | .getVcc1v2Voltage => some 2
  | .get12vPexVoltage => some 1
  | .get12vAux0Voltage => some 4
  | .getVccintCurrent => some 1
  | .getVcc1v2Current => some 2
  | .get12vPexCurrent => some 3
  | .getTotalPower => some 1
  | .getSdr | .getSdrSize => some 0
  | .getAllInstTempSensor | .getAllInstVolSensor | .getAllInstCurSensor
  | .getAllInstPwrSensor => some 0
  | _ => none

theorem sensor_ids_known {cmdReq : GcqSubmitCmdReq} (h : getCmdCommandId cmdReq = some .sensor) :
    (∃ aid, getAid cmdReq = some aid) ∧ (∃ id, getSensorId cmdReq = some id) ∧
      ∀ flags, getSid cmdReq flags = none →
        (cmdReq = .getSdr ∨ cmdReq = .getSdrSize) ∧ repoOfFlags flags = none := by
  cases cmdReq <;> simp_all [getCmdCommandId, getAid, getSensorId, getSid]

end Amr.Amc
