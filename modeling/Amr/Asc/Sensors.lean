/-
# The sensor table of the ASC proxy driver

`asc_proxy_driver.c`: the records of the sensors with their readings, the reset functions and the
functions that copy records out. A sensor has a reading for each of four types. The functions run
under the mutex of the proxy driver, whose failures are arguments.
-/
import Mathlib

namespace Amr.Asc

inductive ASC_PROXY_DRIVER_SENSOR_TYPE
  | TEMPERATURE
  | VOLTAGE
  | CURRENT
  | POWER
  deriving DecidableEq, Repr

/-- The types in the order of the loops over them. -/
def sensorTypes : List ASC_PROXY_DRIVER_SENSOR_TYPE := [.TEMPERATURE, .VOLTAGE, .CURRENT, .POWER]

theorem mem_sensorTypes (j : ASC_PROXY_DRIVER_SENSOR_TYPE) : j ∈ sensorTypes := by
  cases j <;> decide

instance : Fintype ASC_PROXY_DRIVER_SENSOR_TYPE where
  elems := {.TEMPERATURE, .VOLTAGE, .CURRENT, .POWER}
  complete := by intro j; cases j <;> decide

def ASC_PROXY_DRIVER_SENSOR_TYPE.toNat : ASC_PROXY_DRIVER_SENSOR_TYPE → ℕ
  | .TEMPERATURE => 0
  | .VOLTAGE => 1
  | .CURRENT => 2
  | .POWER => 3

inductive ASC_PROXY_DRIVER_SENSOR_STATUS
  | NOT_PRESENT
  | PRESENT_AND_VALID
  | DATA_NOT_AVAILABLE
  | NOT_AVAILABLE
  deriving DecidableEq, Repr

inductive ASC_PROXY_DRIVER_SENSOR_OPERATIONAL_STATUS
  | ENABLED
  | DISABLED
  | UNAVAILABLE
  deriving DecidableEq, Repr

inductive ASC_PROXY_DRIVER_SENSOR_THRESHOLD_STATUS
  | HEALTHY
  | WARNING
  | CRITICAL
  | FATAL
  deriving DecidableEq, Repr

/-- `ASC_SENSOR_INVALID_VAL` as an unsigned limit. -/
def ASC_SENSOR_INVALID_VAL : ℕ := 0xFFFFFFFF

def ASC_SENSOR_NAME_MAX : ℕ := 20

structure ASCProxyDriverSensorReadings where
  ulSensorValue : ℕ
  ulUpperWarningLimit : ℕ
  ulUpperCriticalLimit : ℕ
  ulUpperFatalLimit : ℕ
  ulAverageSensorValue : ℕ
  ulMaxSensorValue : ℕ
  xSensorStatus : ASC_PROXY_DRIVER_SENSOR_STATUS
  xSensorOperationalStatus : ASC_PROXY_DRIVER_SENSOR_OPERATIONAL_STATUS
  deriving DecidableEq, Repr

/-- What the reset functions make of the readings of one type. -/
def ASCProxyDriverSensorReadings.reset (r : ASCProxyDriverSensorReadings) :
    ASCProxyDriverSensorReadings :=
  { r with
    ulSensorValue := 0
    xSensorStatus := .NOT_PRESENT
    ulAverageSensorValue := 0
    ulMaxSensorValue := 0
    xSensorOperationalStatus := .ENABLED }

structure ASCProxyDriverSensorData where
  pcSensorName : List Char
  ucSensorId : UInt8
  ucTotalPowerSensor : Bool
  /-- `ppxReadSensorFunc[ j ]` is not `NULL`. -/
  ppxReadSensorFunc : ASC_PROXY_DRIVER_SENSOR_TYPE → Bool
  pxReadings : ASC_PROXY_DRIVER_SENSOR_TYPE → ASCProxyDriverSensorReadings
  ulThresholdStatus : ASC_PROXY_DRIVER_SENSOR_THRESHOLD_STATUS
  deriving DecidableEq

namespace ASCProxyDriverSensorData

def reset (d : ASCProxyDriverSensorData) : ASCProxyDriverSensorData :=
  { d with pxReadings := fun j => (d.pxReadings j).reset }

variable (d : ASCProxyDriverSensorData)

@[simp] theorem reset_id : d.reset.ucSensorId = d.ucSensorId := rfl

@[simp] theorem reset_funcs :
    d.reset.ppxReadSensorFunc = d.ppxReadSensorFunc := rfl

/-- `strncmp` finds no difference in the first `ASC_SENSOR_NAME_MAX` characters. -/
def named (d : ASCProxyDriverSensorData) (pcName : List Char) : Bool :=
  decide (d.pcSensorName.take ASC_SENSOR_NAME_MAX = pcName.take ASC_SENSOR_NAME_MAX)

end ASCProxyDriverSensorData

/-- `pxSensorData`, with `ucNumSensors = n`. -/
abbrev SensorTable (n : ℕ) := Fin n → ASCProxyDriverSensorData

namespace SensorTable

variable {n : ℕ}

/-- The first sensor of the table that meets a test: the search loop of the functions below. -/
def first (t : SensorTable n) (p : ASCProxyDriverSensorData → Bool) : Option (Fin n) :=
  (List.finRange n).find? fun i => p (t i)

def byId (t : SensorTable n) (ucId : UInt8) : Option (Fin n) :=
  t.first fun d => decide (d.ucSensorId = ucId)

def byName (t : SensorTable n) (pcName : List Char) : Option (Fin n) :=
  t.first fun d => d.named pcName

theorem first_eq_some {t : SensorTable n} {p : ASCProxyDriverSensorData → Bool} {i : Fin n}
    (h : t.first p = some i) : p (t i) = true := by
  have := List.find?_some h
  simpa using this

theorem byId_eq_some {t : SensorTable n} {ucId : UInt8} {i : Fin n} (h : t.byId ucId = some i) :
    (t i).ucSensorId = ucId := by
  simpa using first_eq_some h

/-- The readings of the sensors that are picked are reset. -/
def resetAt (t : SensorTable n) (picked : Option (Fin n)) : SensorTable n :=
  fun i => if some i = picked then (t i).reset else t i

/-- What `iASC_ResetAllSensorData` does once it has the mutex. -/
def iASC_ResetAllSensorData (t : SensorTable n) : SensorTable n := fun i => (t i).reset

/-- What `iASC_ResetSingleSensorDataById` does once it has the mutex. -/
def iASC_ResetSingleSensorDataById (t : SensorTable n) (ucId : UInt8) : SensorTable n :=
  t.resetAt (t.byId ucId)

/-- What `iASC_ResetSingleSensorDataByName` does once it has the mutex. -/
def iASC_ResetSingleSensorDataByName (t : SensorTable n) (pcName : List Char) : SensorTable n :=
  t.resetAt (t.byName pcName)

/-- `iASC_GetAllSensorData`: what is copied to `pxData`, which has room for `ucNumSensors` records,
and whether `OK` is returned. The copy is made even when the mutex is not released. -/
def iASC_GetAllSensorData (t : SensorTable n) (ucNumSensors : ℕ) (taken released : Bool) :
    Option (SensorTable n) × Bool :=
  if taken && decide (n ≤ ucNumSensors) then (some t, released) else (none, false)

/-- `iASC_GetSingleSensorDataById`: what is copied to `pxData` and whether `OK` is returned. -/
def iASC_GetSingleSensorDataById (t : SensorTable n) (ucId : UInt8) (taken released : Bool) :
    Option ASCProxyDriverSensorData × Bool :=
  if taken then
    match t.byId ucId with
    | some i => (some (t i), released)
    | none => (none, false)
  else (none, false)

end SensorTable

end Amr.Asc
