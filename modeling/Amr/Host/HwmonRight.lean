/-
# When a reading is right

`sw/AMI/driver/ami_hwmon.c`: `read_sensor_val`, over every record of one, two or four bytes, every
modifier, type and attribute, and whatever the device sends.

A reading is to succeed for a sensor that has a record only, with the number of the record scaled
to the unit of the kernel, and the applications are to be ended by a current value that reached the
critical limit. The lookup reports success without a record, so that a channel without a sensor
reads as 0, raises every alarm and ends the applications; and the macros that scale a power with
the modifier mega overflow the 64 bits of the result.
-/
import Amr.Host.Hwmon

namespace Amr.Host.Hwmon

open DecimalShift
open Sdr (THRESHOLD_UPPER_WARNING_MASK THRESHOLD_UPPER_CRITICAL_MASK THRESHOLD_UPPER_FATAL_MASK)
open hwmon_sensor_types ami_sensor_attribute

/-! ### What a record says -/

/-- The value of the record is a number of one, two or four bytes. -/
def Measured (r : sensor_record) : Prop :=
  r.value_type = SDR_VALUE_TYPE_BINARY ∧ (r.value_len = 1 ∨ r.value_len = 2 ∨ r.value_len = 4)

/-- The number of `len` bytes, the lowest first. -/
def number (len : ℕ) (data : List ℕ) : ℕ := ∑ i ∈ Finset.range len, cell data i * 256 ^ i

/-- The bytes of an attribute, if the record has it. -/
def bytes (r : sensor_record) : ami_sensor_attribute → Option (List ℕ)
  | SENSOR_ATTR_INSTANT => some r.value
  | SENSOR_ATTR_AVERAGE => some r.avg
  | SENSOR_ATTR_MAX => some r.max
  | SENSOR_ATTR_MIN => some r.min
  | SENSOR_ATTR_WARN | SENSOR_ATTR_WARN_A =>
    if r.threshold_support &&& THRESHOLD_UPPER_WARNING_MASK ≠ 0 then some r.upper_warn_limit
    else none
  | SENSOR_ATTR_CRIT | SENSOR_ATTR_CRIT_A =>
    if r.threshold_support &&& THRESHOLD_UPPER_CRITICAL_MASK ≠ 0 then some r.upper_crit_limit
    else none
  | SENSOR_ATTR_FATAL | SENSOR_ATTR_FATAL_A =>
    if r.threshold_support &&& THRESHOLD_UPPER_FATAL_MASK ≠ 0 then some r.upper_fatal_limit
    else none
  | _ => none

def reading (r : sensor_record) (a : ami_sensor_attribute) : Option ℕ :=
  (bytes r a).map (number r.value_len)

/-- The power of ten of the record's unit. -/
def modifier (r : sensor_record) : ℤ := signedChar r.unit_mod

/-- The places between the unit of the record and the one that the kernel expects. -/
def unitExp (type : hwmon_sensor_types) : ℤ := if type = hwmon_power then 6 else 3

/-! ### A reading that is right -/

/-- The value is the number of the attribute in the unit of the kernel. -/
def Scaled (type : hwmon_sensor_types) (r : sensor_record) (a : ami_sensor_attribute)
    (val : Option ℤ) : Prop :=
  ∃ n : ℕ, reading r a = some n ∧ val = some (shift n (modifier r + unitExp type))

/-- The value says whether the current value reached the limit. -/
def Alarm (r : sensor_record) (a : ami_sensor_attribute) (val : Option ℤ) : Prop :=
  ∃ limit now : ℕ, reading r a = some limit ∧ reading r SENSOR_ATTR_INSTANT = some now ∧
    val = some (if limit ≤ now then 1 else 0)

/-- The current value reached the critical limit. -/
def Critical (r : sensor_record) : Prop :=
  ∃ limit now : ℕ, reading r SENSOR_ATTR_CRIT = some limit ∧
    reading r SENSOR_ATTR_INSTANT = some now ∧ limit ≤ now

/-- The record of a channel after the readings were brought up to date. -/
def current (env : Env) (pf_dev : pf_dev_struct) (type : hwmon_sensor_types) (channel : ℤ) :
    Option sensor_record :=
  find_sdr_record (refresh env pf_dev type).2 (to_ami_sensor_type type) channel

/-- A reading succeeds with a record only, and then with the right value; the applications are ended
exactly by a current value that reached the critical limit of an existing sensor. -/
structure Right (env : Env) (pf_dev : pf_dev_struct) (type : hwmon_sensor_types) (attr : HwmonAttr)
    (channel : ℤ) (o : Outcome) : Prop where
  success : o.ret = 0 → ∃ r, current env pf_dev type channel = some r ∧
    if is_alarm (to_ami_attribute type attr) then Alarm r (to_ami_attribute type attr) o.val
    else Scaled type r (to_ami_attribute type attr) o.val
  kills : o.killed = true ↔ (refresh env pf_dev type).1 = 0 ∧
    to_ami_attribute type attr = SENSOR_ATTR_INSTANT ∧
    ∃ r, current env pf_dev type channel = some r ∧ Critical r

/-- A power in mega units whose number of micro units does not fit the result. -/
def Overflows (type : hwmon_sensor_types) (a : ami_sensor_attribute) (r : sensor_record) : Prop :=
  type = hwmon_power ∧ modifier r = SENSOR_UNIT_MOD_MEGA ∧ is_alarm a = false ∧
    ∃ n, reading r a = some n ∧ 9223372 < n

/-- The readings could not be brought up to date, or the channel has a record and its number does
not overflow. -/
def Meets (env : Env) (pf_dev : pf_dev_struct) (type : hwmon_sensor_types) (attr : HwmonAttr)
    (channel : ℤ) : Prop :=
  (refresh env pf_dev type).1 ≠ 0 ∨ ∃ r, current env pf_dev type channel = some r ∧
    ¬ Overflows type (to_ami_attribute type attr) r

/-! ### The numbers -/

theorem cell_lt (data : List ℕ) (i : ℕ) : cell data i < 256 := Nat.mod_lt _ (Nat.succ_pos 255)

variable {r : sensor_record}

theorem Measured.make_val (h : Measured r) (data : List ℕ) :
    make_val r.value_type r.value_len data = number r.value_len data := by
  obtain ⟨htype, hlen | hlen | hlen⟩ := h <;>
    simp [Hwmon.make_val, htype, hlen, number, Finset.sum_range_succ]

variable {repos : List sensor_repo} {type sid : ℤ}

theorem to_ami_attribute_ne (type : hwmon_sensor_types) (attr : HwmonAttr) :
    to_ami_attribute type attr ≠ SENSOR_ATTR_STATUS ∧
      to_ami_attribute type attr ≠ SENSOR_ATTR_UNIT_MOD := by
  cases type <;> cases attr <;> decide

/-! ### The units -/

variable (x : ℤ)

/-- The types that readings are brought up to date for. -/
def Sensor (type : hwmon_sensor_types) : Prop :=
  type = hwmon_temp ∨ type = hwmon_in ∨ type = hwmon_curr ∨ type = hwmon_power

section
variable {repos : List sensor_repo} {type : hwmon_sensor_types} {a : ami_sensor_attribute}
  {channel : ℤ}

variable {r : sensor_record}
  (hr : find_sdr_record repos (to_ami_sensor_type type) channel = some r) (h : Measured r)
include hr h

end

/-! ### Every reading -/

end Amr.Host.Hwmon
