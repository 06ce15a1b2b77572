/-
# What a sensor of the device reads

`sw/AMI/driver/ami_hwmon.c`: `to_ami_attribute`, `get_sensor_value`, `convert_milli_units`,
`convert_micro_units` and `read_sensor_val`; `sw/AMI/driver/ami_sensor.c`: `make_val`,
`find_sdr_record`, `find_sdr_repo` and `read_sensors`.

The kernel asks for an attribute of a channel. The records of its type are read again from the
device when they are stale, the record with the channel's number is looked up, its bytes are made a
number, and the number is scaled with the unit modifier of the record to the unit that the kernel
expects. A limit is reported as an alarm by comparing it with the current value. On the way a
current value that has reached the critical limit ends the applications that use the device.
-/
import Amr.Host.Sdr
import Amr.Lib.DecimalShift
import Mathlib.Algebra.BigOperators.Group.Finset.Basic

namespace Amr.Host.Hwmon

open Sdr (THRESHOLD_UPPER_WARNING_MASK THRESHOLD_UPPER_CRITICAL_MASK THRESHOLD_UPPER_FATAL_MASK)
open DecimalShift

def EINVAL : ℤ := 22

def SDR_VALUE_TYPE_BINARY : ℕ := 0x00

def SDR_TYPE_TEMP : ℕ := 0xC1
def SDR_TYPE_VOLTAGE : ℕ := 0xC2
def SDR_TYPE_CURRENT : ℕ := 0xC3
def SDR_TYPE_TOTAL_POWER : ℕ := 0xC6
def SDR_TYPE_MAX : ℕ := 13

def SENSOR_TYPE_INVALID : ℤ := -1

def SENSOR_UNIT_MOD_MEGA : ℤ := 6
def SENSOR_UNIT_MOD_KILO : ℤ := 3
def SENSOR_UNIT_MOD_NONE : ℤ := 0
def SENSOR_UNIT_MOD_MILLI : ℤ := -3
def SENSOR_UNIT_MOD_MICRO : ℤ := -6

inductive hwmon_sensor_types
  | hwmon_chip
  | hwmon_temp
  | hwmon_in
  | hwmon_curr
  | hwmon_power
  | other
  deriving DecidableEq, Repr

/-- The attribute's name in the kernel's enumeration for the type. -/
inductive HwmonAttr
  | update_interval
  | input
  | highest
  | lowest
  | average
  | max_alarm
  | max
  | lcrit_alarm
  | lcrit
  | crit_alarm
  | crit
  | other
  deriving DecidableEq, Repr

/-- `enum ami_sensor_attribute`, less the label: nothing here asks for it. -/
inductive ami_sensor_attribute
  | SENSOR_ATTR_INSTANT
  | SENSOR_ATTR_AVERAGE
  | SENSOR_ATTR_MAX
  | SENSOR_ATTR_MIN
  | SENSOR_ATTR_STATUS
  | SENSOR_ATTR_UNIT_MOD
  | SENSOR_ATTR_WARN
  | SENSOR_ATTR_WARN_A
  | SENSOR_ATTR_CRIT
  | SENSOR_ATTR_CRIT_A
  | SENSOR_ATTR_FATAL
  | SENSOR_ATTR_FATAL_A
  | SENSOR_ATTR_INVALID
  deriving DecidableEq, Repr

/-- The commands that read all sensors of a type. -/
inductive gcq_submit_cmd_req
  | GCQ_SUBMIT_CMD_GET_ALL_INST_TEMP_SENSOR
  | GCQ_SUBMIT_CMD_GET_ALL_INST_VOL_SENSOR
  | GCQ_SUBMIT_CMD_GET_ALL_INST_CUR_SENSOR
  | GCQ_SUBMIT_CMD_GET_ALL_INST_PWR_SENSOR
  | other
  deriving DecidableEq, Repr

open hwmon_sensor_types ami_sensor_attribute gcq_submit_cmd_req

/-- `struct sdr_record` with the lowest value, which only reading the sensors writes. -/
structure sensor_record extends Sdr.sdr_record where
  min : List ℕ

/-- `struct sdr_repo` of a type whose member of the union is the records. -/
structure sensor_repo where
  repo_type : ℕ
  last_update : ℕ
  records : List sensor_record

/-- `struct pf_dev_struct`: the sensors. -/
structure pf_dev_struct where
  sensor_refresh : ℕ
  sensor_repos : List sensor_repo

/-- The clock, and what reading all sensors of a repository from the device returns and leaves of
the repository. -/
structure Env where
  jiffies : ℕ
  HZ : ℕ
  get_all_sensors : gcq_submit_cmd_req → sensor_repo → ℤ × sensor_repo

/-! ### Reading a record -/

/-- A cell of a `uint8_t` array. -/
def cell (data : List ℕ) (i : ℕ) : ℕ := data.getD i 0 % 256

/-- The numbers are in the order of the host, the lowest byte first. -/
def make_val (type size : ℕ) (data : List ℕ) : ℤ :=
  if type ≠ SDR_VALUE_TYPE_BINARY then 0
  else match size with
    | 1 => cell data 0
    | 2 => cell data 0 + cell data 1 * 256
    | 4 => cell data 0 + cell data 1 * 256 + cell data 2 * 256 ^ 2 + cell data 3 * 256 ^ 3
    | _ => 0

def find_sdr_record (sensor_repos : List sensor_repo) (type : ℤ) (sid : ℤ) :
    Option sensor_record :=
  sensor_repos.findSome? fun repo =>
    if (repo.repo_type : ℤ) ≠ type then none
    -- channel = id - 1
    else repo.records.find? fun r => (r.id : ℤ) - 1 == sid

/-- The place of the first repository of a type. -/
def find_sdr_repo (sensor_repos : List sensor_repo) (type : ℕ) : Option ℕ :=
  sensor_repos.findIdx? fun repo => repo.repo_type == type

def repo_type : gcq_submit_cmd_req → ℕ
  | GCQ_SUBMIT_CMD_GET_ALL_INST_TEMP_SENSOR => SDR_TYPE_TEMP
  | GCQ_SUBMIT_CMD_GET_ALL_INST_VOL_SENSOR => SDR_TYPE_VOLTAGE
  | GCQ_SUBMIT_CMD_GET_ALL_INST_CUR_SENSOR => SDR_TYPE_CURRENT
  | GCQ_SUBMIT_CMD_GET_ALL_INST_PWR_SENSOR => SDR_TYPE_TOTAL_POWER
  | .other => SDR_TYPE_MAX

/-- The time since a repository was read, in milliseconds. -/
def age (env : Env) (repo : sensor_repo) : ℕ :=
  ((env.jiffies + (2 ^ 64 - repo.last_update % 2 ^ 64)) % 2 ^ 64 * 1000) % 2 ^ 64 / env.HZ

/-- The result and the repositories afterwards. -/
def read_sensors (env : Env) (pf_dev : pf_dev_struct) (gcq_cmd : gcq_submit_cmd_req) :
    ℤ × List sensor_repo :=
  if repo_type gcq_cmd = SDR_TYPE_MAX then (-EINVAL, pf_dev.sensor_repos)
  else match find_sdr_repo pf_dev.sensor_repos (repo_type gcq_cmd) with
    | none => (-EINVAL, pf_dev.sensor_repos)
    | some i => match pf_dev.sensor_repos[i]? with
      | none => (-EINVAL, pf_dev.sensor_repos)
      | some repo =>
        if pf_dev.sensor_refresh = 0 ∨ age env repo > pf_dev.sensor_refresh then
          ((env.get_all_sensors gcq_cmd repo).1,
            pf_dev.sensor_repos.set i (env.get_all_sensors gcq_cmd repo).2)
        else (0, pf_dev.sensor_repos)

/-- The types and attributes of a channel in the terms of the sensors. -/
def to_ami_sensor_type : hwmon_sensor_types → ℤ
  | hwmon_temp => SDR_TYPE_TEMP
  | hwmon_in => SDR_TYPE_VOLTAGE
  | hwmon_curr => SDR_TYPE_CURRENT
  | hwmon_power => SDR_TYPE_TOTAL_POWER
  | _ => SENSOR_TYPE_INVALID

/-- The attributes that voltages, currents and powers have. -/
def common_attribute : HwmonAttr → ami_sensor_attribute
  | .input => SENSOR_ATTR_INSTANT
  | .highest => SENSOR_ATTR_MAX
  | .lowest => SENSOR_ATTR_MIN
  | .average => SENSOR_ATTR_AVERAGE
  | .max_alarm => SENSOR_ATTR_WARN_A
  | .max => SENSOR_ATTR_WARN
  | .lcrit_alarm => SENSOR_ATTR_CRIT_A
  | .lcrit => SENSOR_ATTR_CRIT
  | .crit_alarm => SENSOR_ATTR_FATAL_A
  | .crit => SENSOR_ATTR_FATAL
  | _ => SENSOR_ATTR_INVALID

/-- A temperature has no average among the kernel's attributes. -/
def to_ami_attribute (hwmon_type : hwmon_sensor_types) (hwmon_attr : HwmonAttr) :
    ami_sensor_attribute :=
  match hwmon_type with
  | hwmon_temp =>
    if hwmon_attr = .average then SENSOR_ATTR_INVALID else common_attribute hwmon_attr
  | hwmon_in => common_attribute hwmon_attr
  | hwmon_curr => common_attribute hwmon_attr
  | hwmon_power => common_attribute hwmon_attr
  | _ => SENSOR_ATTR_INVALID

/-- A limit is there when the record supports it. -/
def get_limit (r : sensor_record) (mask : ℕ) (limit : List ℕ) (value : ℤ) : ℤ × ℤ :=
  if r.threshold_support &&& mask ≠ 0 then (0, make_val r.value_type r.value_len limit)
  else (-EINVAL, value)

/-- The result and what is behind the pointer `value` afterwards. -/
def get_sensor_value (sensor_repos : List sensor_repo) (type : ℤ) (attr : ami_sensor_attribute)
    (sid : ℤ) (value : ℤ) : ℤ × ℤ :=
  match find_sdr_record sensor_repos type sid with
  | none => (0, value)
  | some r => match attr with
    | SENSOR_ATTR_INSTANT => (0, make_val r.value_type r.value_len r.value)
    | SENSOR_ATTR_AVERAGE => (0, make_val r.value_type r.value_len r.avg)
    | SENSOR_ATTR_MAX => (0, make_val r.value_type r.value_len r.max)
    | SENSOR_ATTR_MIN => (0, make_val r.value_type r.value_len r.min)
    | SENSOR_ATTR_STATUS => (0, r.sensor_status)
    | SENSOR_ATTR_UNIT_MOD => (0, r.unit_mod)
    | SENSOR_ATTR_WARN => get_limit r THRESHOLD_UPPER_WARNING_MASK r.upper_warn_limit value
    | SENSOR_ATTR_WARN_A => get_limit r THRESHOLD_UPPER_WARNING_MASK r.upper_warn_limit value
    | SENSOR_ATTR_CRIT => get_limit r THRESHOLD_UPPER_CRITICAL_MASK r.upper_crit_limit value
    | SENSOR_ATTR_CRIT_A => get_limit r THRESHOLD_UPPER_CRITICAL_MASK r.upper_crit_limit value
    | SENSOR_ATTR_FATAL => get_limit r THRESHOLD_UPPER_FATAL_MASK r.upper_fatal_limit value
    | SENSOR_ATTR_FATAL_A => get_limit r THRESHOLD_UPPER_FATAL_MASK r.upper_fatal_limit value
    | SENSOR_ATTR_INVALID => (-EINVAL, value)

/-! ### Units -/

/-- `long * 1000`. -/
def thousand (x : ℤ) : ℤ := mulWord 64 x 1000

def NONE_TO_MILLI_UNIT (x : ℤ) : ℤ := thousand x
def KILO_TO_MILLI_UNIT (x : ℤ) : ℤ := NONE_TO_MILLI_UNIT (thousand x)
def MEGA_TO_MILLI_UNIT (x : ℤ) : ℤ := KILO_TO_MILLI_UNIT (thousand x)
def MICRO_TO_MILLI_UNIT (x : ℤ) : ℤ := x.tdiv 1000

def MILLI_TO_MICRO_UNIT (x : ℤ) : ℤ := thousand x
def NONE_TO_MICRO_UNIT (x : ℤ) : ℤ := MILLI_TO_MICRO_UNIT (thousand x)
def KILO_TO_MICRO_UNIT (x : ℤ) : ℤ := NONE_TO_MICRO_UNIT (thousand x)
def MEGA_TO_MICRO_UNIT (x : ℤ) : ℤ := KILO_TO_MICRO_UNIT (thousand x)

/-- `(int)(signed char)unit_mod`. -/
def signedChar (unit_mod : ℤ) : ℤ := unit_mod.bmod 256

/-- The mapped value, unless the modifier is none of those that are known. -/
def convert_milli_units (unit_mod val : ℤ) : Option ℤ :=
  if signedChar unit_mod = SENSOR_UNIT_MOD_MEGA then some (MEGA_TO_MILLI_UNIT val)
  else if signedChar unit_mod = SENSOR_UNIT_MOD_KILO then some (KILO_TO_MILLI_UNIT val)
  else if signedChar unit_mod = SENSOR_UNIT_MOD_NONE then some (NONE_TO_MILLI_UNIT val)
  else if signedChar unit_mod = SENSOR_UNIT_MOD_MILLI then some val
  else if signedChar unit_mod = SENSOR_UNIT_MOD_MICRO then some (MICRO_TO_MILLI_UNIT val)
  else none

def convert_micro_units (unit_mod val : ℤ) : Option ℤ :=
  if signedChar unit_mod = SENSOR_UNIT_MOD_MEGA then some (MEGA_TO_MICRO_UNIT val)
  else if signedChar unit_mod = SENSOR_UNIT_MOD_KILO then some (KILO_TO_MICRO_UNIT val)
  else if signedChar unit_mod = SENSOR_UNIT_MOD_NONE then some (NONE_TO_MICRO_UNIT val)
  else if signedChar unit_mod = SENSOR_UNIT_MOD_MILLI then some (MILLI_TO_MICRO_UNIT val)
  else if signedChar unit_mod = SENSOR_UNIT_MOD_MICRO then some val
  else none

/-! ### Reading a value -/

def convert_sensor_status_name_map (status : ℤ) : String :=
  if status = 0x00 then "Sensor Not Present"
  else if status = 0x01 then "Sensor Present and Valid"
  else if status = 0x02 then "Data Not Available"
  else if status = 0x7F then "Not Applicable or Default Value"
  else ""

/-- What a call returns, what it writes through `val` and `status`, and whether it ends the
applications of the device. -/
structure Outcome where
  ret : ℤ
  val : Option ℤ
  status : Option String
  killed : Bool
  deriving DecidableEq, Repr

/-- A call that fails before it has done anything. -/
def failed (ret : ℤ) : Outcome := ⟨ret, none, none, false⟩

/-- The readings of the type are brought up to date. -/
def refresh (env : Env) (pf_dev : pf_dev_struct) : hwmon_sensor_types → ℤ × List sensor_repo
  | hwmon_temp => read_sensors env pf_dev GCQ_SUBMIT_CMD_GET_ALL_INST_TEMP_SENSOR
  | hwmon_curr => read_sensors env pf_dev GCQ_SUBMIT_CMD_GET_ALL_INST_CUR_SENSOR
  | hwmon_in => read_sensors env pf_dev GCQ_SUBMIT_CMD_GET_ALL_INST_VOL_SENSOR
  | hwmon_power => read_sensors env pf_dev GCQ_SUBMIT_CMD_GET_ALL_INST_PWR_SENSOR
  | _ => (-EINVAL, pf_dev.sensor_repos)

/-- The alarms: the limit is compared with the current value. -/
def read_alarm (sensor_repos : List sensor_repo) (type : hwmon_sensor_types)
    (ami_attr : ami_sensor_attribute) (channel : ℤ) : Outcome :=
  let limit := get_sensor_value sensor_repos (to_ami_sensor_type type) ami_attr channel 0
  let value := get_sensor_value sensor_repos (to_ami_sensor_type type) SENSOR_ATTR_INSTANT channel 0
  if limit.1 ≠ 0 then failed limit.1
  else if value.1 ≠ 0 then failed value.1
  else ⟨0, some (if value.2 ≥ limit.2 then 1 else 0), none, false⟩

/-- A current value that has reached the critical limit. -/
def over_critical (sensor_repos : List sensor_repo) (type : hwmon_sensor_types)
    (ami_attr : ami_sensor_attribute) (channel value : ℤ) : Bool :=
  let limit := get_sensor_value sensor_repos (to_ami_sensor_type type) SENSOR_ATTR_CRIT channel 0
  ami_attr = SENSOR_ATTR_INSTANT ∧ limit.1 = 0 ∧ value ≥ limit.2

/-- The unit that the kernel expects of a type. -/
def convert_units (type : hwmon_sensor_types) (unit_mod value : ℤ) : Option ℤ :=
  match type with
  | hwmon_temp => convert_milli_units unit_mod value
  | hwmon_curr => convert_milli_units unit_mod value
  | hwmon_in => convert_milli_units unit_mod value
  | hwmon_power => convert_micro_units unit_mod value
  | _ => none

/-- All other attributes. The unit modifier is written as a `long` to an enumeration, of which only
the lowest byte is used; what is behind the enumeration is not part of this model. -/
def read_other (sensor_repos : List sensor_repo) (type : hwmon_sensor_types)
    (ami_attr : ami_sensor_attribute) (channel : ℤ) (status : Bool) : Outcome :=
  let unit_mod := get_sensor_value sensor_repos (to_ami_sensor_type type) SENSOR_ATTR_UNIT_MOD
    channel SENSOR_UNIT_MOD_NONE
  let value := get_sensor_value sensor_repos (to_ami_sensor_type type) ami_attr channel 0
  let s := get_sensor_value sensor_repos (to_ami_sensor_type type) SENSOR_ATTR_STATUS channel 0
  if unit_mod.1 ≠ 0 then failed unit_mod.1
  else if value.1 ≠ 0 then failed value.1
  else
    { ret := if (convert_units type unit_mod.2 value.2).isSome then 0 else -EINVAL
      val := convert_units type unit_mod.2 value.2
      status := if status then some (convert_sensor_status_name_map s.2 ++ "\n") else none
      killed := over_critical sensor_repos type ami_attr channel value.2 }

/-- The attributes that compare a limit with the current value. -/
def is_alarm (ami_attr : ami_sensor_attribute) : Bool :=
  ami_attr = SENSOR_ATTR_WARN_A ∨ ami_attr = SENSOR_ATTR_CRIT_A ∨ ami_attr = SENSOR_ATTR_FATAL_A

/-- `status`: whether the caller asks for the status as well. -/
def read_sensor_val (env : Env) (pf_dev : pf_dev_struct) (type : hwmon_sensor_types)
    (attr : HwmonAttr) (channel : ℤ) (status : Bool) : Outcome :=
  if type = hwmon_chip then
    if attr = .update_interval then ⟨0, some pf_dev.sensor_refresh, none, false⟩
    else failed (-EINVAL)
  else if (refresh env pf_dev type).1 ≠ 0 then failed (refresh env pf_dev type).1
  else if is_alarm (to_ami_attribute type attr) then
    read_alarm (refresh env pf_dev type).2 type (to_ami_attribute type attr) channel
  else read_other (refresh env pf_dev type).2 type (to_ami_attribute type attr) channel status

end Amr.Host.Hwmon
