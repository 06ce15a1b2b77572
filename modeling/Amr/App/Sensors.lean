/-
# The sensor table of the application

`sw/AMI/app/sensors.c`: from `report_sensors` with its options to the table that
`populate_sensor_values` fills in. `print_sensor_data` takes the number of rows from the totals of
the device before any of them is filled in; the rows come from a loop over the sensors and the bits
of their types, with one more row before the sensor `12V_AUX1`. The values go through `double`, in
the unit itself, and are printed with three digits after the point. What is kept of a run is which
rows are looked at and filled in, with what, and all that is written into a buffer.
-/
import Amr.App.Table
import Amr.Lib.Binary64
import Mathlib.Data.List.Infix

namespace Amr.App.Sensors

open Binary64

def UNIT_MOD_BASE : ℚ := 10

def UNIT_STR_SIZE : ℕ := 2 + 1

def LIMIT_STR_SIZE : ℕ := 7 + 1

def AUX_CABLE_CONNECTED_THRESHOLD_MV : ℚ := 10

def DEFAULT_SENSOR_FIELDS : ℕ := 3

def AMI_SENSOR_MAX_STR : ℕ := 64

inductive ami_sensor_type
  | AMI_SENSOR_TYPE_TEMP
  | AMI_SENSOR_TYPE_CURRENT
  | AMI_SENSOR_TYPE_VOLTAGE
  | AMI_SENSOR_TYPE_POWER
  deriving DecidableEq, Repr

inductive ami_sensor_status
  | AMI_SENSOR_STATUS_INVALID
  | AMI_SENSOR_STATUS_NOT_PRESENT
  | AMI_SENSOR_STATUS_OK
  | AMI_SENSOR_STATUS_NO_DATA
  | AMI_SENSOR_STATUS_OK_CACHED
  | AMI_SENSOR_STATUS_NA
  deriving DecidableEq, Repr

inductive ami_sensor_unit_mod
  | AMI_SENSOR_UNIT_MOD_MEGA
  | AMI_SENSOR_UNIT_MOD_KILO
  | AMI_SENSOR_UNIT_MOD_NONE
  | AMI_SENSOR_UNIT_MOD_MILLI
  | AMI_SENSOR_UNIT_MOD_MICRO
  deriving DecidableEq, Repr

inductive app_out_format
  | APP_OUT_FORMAT_TABLE
  | APP_OUT_FORMAT_JSON
  deriving DecidableEq, Repr

def ami_sensor_unit_mod.toInt : ami_sensor_unit_mod → ℤ
  | .AMI_SENSOR_UNIT_MOD_MEGA => 6
  | .AMI_SENSOR_UNIT_MOD_KILO => 3
  | .AMI_SENSOR_UNIT_MOD_NONE => 0
  | .AMI_SENSOR_UNIT_MOD_MILLI => -3
  | .AMI_SENSOR_UNIT_MOD_MICRO => -6

def ami_sensor_type.flag : ami_sensor_type → ℕ
  | .AMI_SENSOR_TYPE_TEMP => 1 <<< 0
  | .AMI_SENSOR_TYPE_CURRENT => 1 <<< 1
  | .AMI_SENSOR_TYPE_VOLTAGE => 1 <<< 2
  | .AMI_SENSOR_TYPE_POWER => 1 <<< 3

/-- The types by their bits, of which there are `AMI_SENSOR_TYPE_MAX`. -/
def sensorTypes : List ami_sensor_type :=
  [.AMI_SENSOR_TYPE_TEMP, .AMI_SENSOR_TYPE_CURRENT, .AMI_SENSOR_TYPE_VOLTAGE,
    .AMI_SENSOR_TYPE_POWER]

/-! ### The device -/

/-- What the API returns for a sensor and one of its types, `none` where the call fails. -/
structure Answers where
  value : Option (Int64 × ami_sensor_status)
  mod : ami_sensor_unit_mod
  max : Option Int64
  avg : Option Int64
  limit_w : Option Int64
  limit_c : Option Int64
  limit_f : Option Int64

/-- A sensor. The voltage is what the call returns when the cables are counted. -/
structure Sensor where
  name : Text
  name_lt : name.length < AMI_SENSOR_MAX_STR
  has : ami_sensor_type → Bool
  has_some : ∃ t, has t = true
  answers : ami_sensor_type → Answers
  voltage : Option (Int64 × ami_sensor_status)

/-- `ami_sensor_get_type`, of a sensor that was found. -/
def Sensor.type (s : Sensor) : ℕ :=
  (if s.has .AMI_SENSOR_TYPE_TEMP then ami_sensor_type.flag .AMI_SENSOR_TYPE_TEMP else 0) |||
  (if s.has .AMI_SENSOR_TYPE_POWER then ami_sensor_type.flag .AMI_SENSOR_TYPE_POWER else 0) |||
  (if s.has .AMI_SENSOR_TYPE_CURRENT then ami_sensor_type.flag .AMI_SENSOR_TYPE_CURRENT else 0) |||
  (if s.has .AMI_SENSOR_TYPE_VOLTAGE then ami_sensor_type.flag .AMI_SENSOR_TYPE_VOLTAGE else 0)

def flagged (type : ℕ) : List ami_sensor_type := sensorTypes.filter fun t => t.flag &&& type ≠ 0

/-- A device with its sensors. Of entries with the same name and type the last one found stays, and
those replaced are still in the total. -/
structure Device where
  sensors : List Sensor
  distinct : (sensors.map Sensor.name).Nodup
  replaced : ℕ

def Device.ami_sensor_get_num_total (dev : Device) : ℕ :=
  (dev.sensors.map fun s => (flagged s.type).length).sum + dev.replaced

def Device.find_sensor_by_name (dev : Device) (name : Text) : Option Sensor :=
  dev.sensors.find? (·.name = name)

/-! ### Buffers -/

inductive Buffer
  | option
  | header (i : ℕ)
  | unit
  | limit
  | cell (row col : ℕ)
  deriving DecidableEq, Repr

/-- A text that is written into a buffer of some size, with a NUL behind it. -/
structure Write where
  buffer : Buffer
  size : ℕ
  text : Text
  deriving DecidableEq, Repr

/-! ### Options -/

/-- The flags `EXTRA_FIELDS_MAX`, `EXTRA_FIELDS_AVG` and `EXTRA_FIELDS_LIMITS`. -/
structure ExtraFields where
  max : Bool
  avg : Bool
  limits : Bool
  deriving DecidableEq, Repr

def EXTRA_FIELDS_NONE : ExtraFields := ⟨false, false, false⟩

def EXTRA_FIELDS_ALL : ExtraFields := ⟨true, true, true⟩

/-- The tokens that `strtok` finds between commas. -/
def tokens (s : Text) : List Text := (s.splitOn ',').filter (· ≠ [])

def parse_token (extra : ExtraFields) (tok : Text) : ExtraFields :=
  if tok = "max".toList then { extra with max := true }
  else if tok = "average".toList then { extra with avg := true }
  else if tok = "limits".toList then { extra with limits := true }
  else extra

/-- The arguments of the options `x`. Each is copied to `strlen` bytes. -/
def parse_extra (args : List Text) (extra : ExtraFields) : List Write × ExtraFields :=
  (args.map fun arg => ⟨.option, arg.length, arg⟩,
    args.foldl (fun extra arg => (tokens arg).foldl parse_token extra) extra)

/-! ### The header -/

/-- The columns from `i` on. -/
def headerFrom (extra : ExtraFields) (i : ℕ) : ℕ → List Write
  | 0 => []
  | n + 1 =>
    if i = 0 then
      ⟨.header i, TABLE_HEADING_MAX, "Name".toList⟩ :: headerFrom extra (i + 1) n
    else if i = 1 then
      ⟨.header i, TABLE_HEADING_MAX, "Value".toList⟩ :: headerFrom extra (i + 1) n
    else if i = 2 then
      ⟨.header i, TABLE_HEADING_MAX, "Status".toList⟩ :: headerFrom extra (i + 1) n
    else if extra.max then
      ⟨.header i, TABLE_HEADING_MAX, "Max".toList⟩ ::
        headerFrom { extra with max := false } (i + 1) n
    else if extra.avg then
      ⟨.header i, TABLE_HEADING_MAX, "Average".toList⟩ ::
        headerFrom { extra with avg := false } (i + 1) n
    else if extra.limits then
      ⟨.header i, TABLE_HEADING_MAX, "Limits (Warn, Crit, Fatal)".toList⟩ ::
        headerFrom { extra with limits := false } (i + 1) n
    else headerFrom extra (i + 1) n

def populate_sensor_header (num_fields : ℕ) (extra : ExtraFields) : List Write :=
  headerFrom extra 0 num_fields

/-! ### A row -/

def make_unit_string (mod : ami_sensor_unit_mod) (type : ami_sensor_type) : Text :=
  (match mod with
    | .AMI_SENSOR_UNIT_MOD_MEGA => ['M']
    | .AMI_SENSOR_UNIT_MOD_KILO => ['k']
    | .AMI_SENSOR_UNIT_MOD_MILLI => ['m']
    | .AMI_SENSOR_UNIT_MOD_MICRO => ['u']
    | .AMI_SENSOR_UNIT_MOD_NONE => []) ++
  (match type with
    | .AMI_SENSOR_TYPE_TEMP => ['C']
    | .AMI_SENSOR_TYPE_CURRENT => ['A']
    | .AMI_SENSOR_TYPE_VOLTAGE => ['V']
    | .AMI_SENSOR_TYPE_POWER => ['W'])

/-- The sensor data. A status `..._r` tells whether the call returned `AMI_STATUS_OK`. -/
structure sensor_values where
  value : ℚ := 0
  status : ami_sensor_status := .AMI_SENSOR_STATUS_NOT_PRESENT
  mod : ami_sensor_unit_mod := .AMI_SENSOR_UNIT_MOD_NONE
  max : ℚ := 0
  max_r : Bool := true
  avg : ℚ := 0
  avg_r : Bool := true
  limit_w : ℚ := 0
  limit_w_r : Bool := true
  limit_c : ℚ := 0
  limit_c_r : Bool := true
  limit_f : ℚ := 0
  limit_f_r : Bool := true

/-- `(double)v`. -/
def toDouble (v : Int64) : ℚ := nearest v.toInt

/-- `(double)v * pow(UNIT_MOD_BASE, (double)modifier)`. -/
def convert (v : Int64) (modifier : ami_sensor_unit_mod) : ℚ :=
  nearest (toDouble v * nearest (UNIT_MOD_BASE ^ modifier.toInt))

/-- The data of one type, in the units themselves or as they were read. The calls are those for the
type. A value that was not read is 0. -/
def get_all_sensor_values (a : Answers) (extra : ExtraFields) (convert_units : Bool) :
    sensor_values :=
  let max_r := if extra.max then a.max.isSome else true
  let avg_r := if extra.avg then a.avg.isSome else true
  let limit_w_r := if extra.limits then a.limit_w.isSome else true
  let limit_c_r := if extra.limits then a.limit_c.isSome else true
  let limit_f_r := if extra.limits then a.limit_f.isSome else true
  let v := (a.value.map (·.1)).getD 0
  let m := if extra.max then a.max.getD 0 else 0
  let avg := if extra.avg then a.avg.getD 0 else 0
  let lw := if extra.limits then a.limit_w.getD 0 else 0
  let lc := if extra.limits then a.limit_c.getD 0 else 0
  let lf := if extra.limits then a.limit_f.getD 0 else 0
  let read : sensor_values :=
    { status := (a.value.map (·.2)).getD .AMI_SENSOR_STATUS_NOT_PRESENT
      max_r := max_r
      avg_r := avg_r
      limit_w_r := limit_w_r
      limit_c_r := limit_c_r
      limit_f_r := limit_f_r }
  if convert_units then
    { read with
      value := convert v a.mod
      max := if extra.max && max_r then convert m a.mod else 0
      -- the status of the maximum
      avg := if extra.avg && max_r then convert avg a.mod else 0
      limit_w := if extra.limits && limit_w_r then convert lw a.mod else 0
      limit_c := if extra.limits && limit_c_r then convert lc a.mod else 0
      limit_f := if extra.limits && limit_f_r then convert lf a.mod else 0
      mod := .AMI_SENSOR_UNIT_MOD_NONE }
  else
    { read with
      mod := a.mod
      value := toDouble v
      max := toDouble m
      avg := toDouble avg
      limit_w := toDouble lw
      limit_c := toDouble lc
      limit_f := toDouble lf }

/-- `"%.3f %s"`. -/
def withUnit (value : ℚ) (unit : Text) : Text := fixed 3 value ++ [' '] ++ unit

def statusText : ami_sensor_status → Text
  | .AMI_SENSOR_STATUS_OK => "valid".toList
  | .AMI_SENSOR_STATUS_OK_CACHED => "valid*".toList
  | _ => "invalid".toList

/-- A value or `N/A`. -/
def reported (r : Bool) (text : Text) : Text := if r then text else "N/A".toList

def limitTexts (v : sensor_values) : List Text :=
  [reported v.limit_w_r (fixed 3 v.limit_w), reported v.limit_c_r (fixed 3 v.limit_c),
    reported v.limit_f_r (fixed 3 v.limit_f)]

def noLimit (v : sensor_values) : Bool := !v.limit_w_r && !v.limit_c_r && !v.limit_f_r

/-- `"%*s, %*s, %*s"` of the limits. -/
def limitsText (v : sensor_values) : Text :=
  [',', ' '].intercalate
    ((limitTexts v).map (padded .TABLE_ALIGN_RIGHT (LIMIT_STR_SIZE - 1)))

/-- The cells of a row; the name is left out after the first row of a sensor. -/
def rowCells (sensor : Text) (type : ami_sensor_type) (n_row : ℕ) (extra : ExtraFields)
    (v : sensor_values) : List (Option Text) :=
  let unit := make_unit_string .AMI_SENSOR_UNIT_MOD_NONE type
  [if n_row = 0 then some sensor else none, some (withUnit v.value unit),
    some (statusText v.status)] ++
  (if extra.max then [some (reported v.max_r (withUnit v.max unit))] else []) ++
  (if extra.avg then [some (reported v.avg_r (withUnit v.avg unit))] else []) ++
  (if extra.limits then [some (if noLimit v then "N/A".toList else limitsText v)] else [])

/-- What is written for a row: the unit, the limits that are put together, and the cells. -/
def mk_sensor_row (sensor : Text) (type : ami_sensor_type) (n_row : ℕ) (extra : ExtraFields)
    (v : sensor_values) (row : ℕ) : List Write :=
  [⟨.unit, UNIT_STR_SIZE, make_unit_string .AMI_SENSOR_UNIT_MOD_NONE type⟩] ++
  (if extra.limits && !noLimit v then
    (limitTexts v).map fun text => ⟨.limit, LIMIT_STR_SIZE, text⟩ else []) ++
  (rowCells sensor type n_row extra v).zipIdx.filterMap fun c =>
    c.1.map fun text => ⟨.cell row c.2, TABLE_FIELD_MAX, text⟩

/-! ### The rows -/

inductive Content
  | cables (count : ℕ) (status : Text)
  | values (sensor : Sensor) (type : ami_sensor_type) (v : sensor_values)

structure Row where
  index : ℕ
  content : Content

/-- The rows that were looked at and those that were filled in, and what was written. A row at or
past the number of rows is memory behind the array, and what becomes of it is open. -/
structure Effects where
  addressed : List ℕ
  rows : List Row
  writes : List Write

instance : Append Effects where
  append e f := ⟨e.addressed ++ f.addressed, e.rows ++ f.rows, e.writes ++ f.writes⟩

def constructRows (s : Sensor) (extra : ExtraFields) :
    List ami_sensor_type → ℕ → ℕ → Effects
  | [], _, _ => ⟨[], [], []⟩
  | t :: types, group_row, j =>
    let v := get_all_sensor_values (s.answers t) extra true
    ⟨[j], [⟨j, .values s t v⟩], mk_sensor_row s.name t group_row extra v j⟩ ++
      constructRows s extra types (group_row + 1) (j + 1)

/-- A row for each type whose bit is set. -/
def construct_sensor_table (s : Sensor) (extra : ExtraFields) (j : ℕ) : Effects :=
  ⟨[j], [], []⟩ ++ constructRows s extra (flagged s.type) 0 j

structure Cables where
  aux_count : ℕ := 0
  status_valid : Bool := false
  status_valid_cached : Bool := false
  status_invalid : Bool := false

def isAux (s : Sensor) : Bool :=
  decide ("12V_AUX1".toList <:+: s.name) || decide ("12V_AUX2".toList <:+: s.name)

def countCable (c : Cables) (s : Sensor) : Cables :=
  if isAux s then
    match if s.has .AMI_SENSOR_TYPE_VOLTAGE then s.voltage else none with
    | some (voltage, status) =>
      if nearest (toDouble voltage / 1000) > AUX_CABLE_CONNECTED_THRESHOLD_MV ∧
          (status = .AMI_SENSOR_STATUS_OK ∨ status = .AMI_SENSOR_STATUS_OK_CACHED) then
        if status = .AMI_SENSOR_STATUS_OK then
          { c with aux_count := c.aux_count + 1, status_valid := true }
        else { c with aux_count := c.aux_count + 1, status_valid_cached := true }
      else { c with status_invalid := true }
    | none => { c with status_invalid := true }
  else c

/-- The number of cables and their status. -/
def count_connected_aux_cables (sensors : List Sensor) : ℕ × Text :=
  let c := sensors.foldl countCable {}
  (c.aux_count,
    if c.status_invalid then "invalid".toList
    else if c.status_valid then "valid".toList
    else if c.status_valid_cached then "valid*".toList
    else "invalid".toList)

/-- `snprintf` into a cell. -/
def cellWrite (row col : ℕ) (text : Text) : Write :=
  ⟨.cell row col, TABLE_FIELD_MAX, text.take (TABLE_FIELD_MAX - 1)⟩

def cableRow (sensors : List Sensor) (j : ℕ) : Effects :=
  let r := count_connected_aux_cables sensors
  ⟨[j], [⟨j, .cables r.1 r.2⟩],
    [cellWrite j 0 "# of 12V_AUX cables connected".toList, cellWrite j 1 (Nat.toDigits 10 r.1),
      cellWrite j 2 r.2]⟩

/-- Whether the row of the cables goes before the sensor. -/
def cablesBefore (all : Bool) (s : Sensor) : Bool := all && s.name = "12V_AUX1".toList

/-- The loop over the sensors, while there are rows left. -/
def populateFrom (sensors : List Sensor) (all : Bool) (extra : ExtraFields) (n_rows : ℕ) :
    List Sensor → ℕ → Effects
  | [], _ => ⟨[], [], []⟩
  | s :: next, j =>
    if j < n_rows then
      if cablesBefore all s then
        cableRow sensors j ++ construct_sensor_table s extra (j + 1) ++
          populateFrom sensors all extra n_rows next (j + 1 + (flagged s.type).length)
      else
        construct_sensor_table s extra j ++
          populateFrom sensors all extra n_rows next (j + (flagged s.type).length)
    else ⟨[], [], []⟩

/-- `populate_sensor_values`, for a table. -/
def populate_sensor_values (sensors : List Sensor) (all : Bool) (extra : ExtraFields)
    (n_rows : ℕ) : Effects :=
  populateFrom sensors all extra n_rows sensors 0

/-! ### A run -/

/-- The options, of `x` all arguments, and the device. -/
structure Run where
  args : List Text
  verbose : Bool
  sensor : Option Text
  fmt : app_out_format
  dev : Device

namespace Run

variable (r : Run)

/-- The fields that are printed besides the name, the value and the status. -/
def extra : ExtraFields :=
  if r.verbose then EXTRA_FIELDS_ALL else (parse_extra r.args EXTRA_FIELDS_NONE).2

def targets : List Sensor :=
  match r.sensor with
  | some name => (r.dev.find_sensor_by_name name).toList
  | none => r.dev.sensors

def n_rows : ℕ :=
  match r.sensor with
  | some name => ((r.dev.find_sensor_by_name name).map fun s => (flagged s.type).length).getD 0
  | none =>
    r.dev.ami_sensor_get_num_total + if r.fmt = .APP_OUT_FORMAT_TABLE then 1 else 0

def n_fields : ℕ :=
  DEFAULT_SENSOR_FIELDS + (if r.extra.max then 1 else 0) + (if r.extra.avg then 1 else 0) +
    if r.extra.limits then 1 else 0

/-- `print_sensor_data`, as far as the table. Without rows it returns. -/
def print_sensor_data : Effects :=
  if r.n_rows = 0 then ⟨[], [], []⟩
  else
    ⟨[], [], populate_sensor_header r.n_fields r.extra⟩ ++
      populate_sensor_values r.targets r.sensor.isNone r.extra r.n_rows

/-- `report_sensors`, for one device. -/
def report_sensors : Effects :=
  ⟨[], [], if r.verbose then [] else (parse_extra r.args EXTRA_FIELDS_NONE).1⟩ ++
    r.print_sensor_data

end Run

end Amr.App.Sensors
