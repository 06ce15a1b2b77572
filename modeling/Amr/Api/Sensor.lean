/-
# The sensors of a device

`ami_sensor.c`: `ami_sensor_discover` goes through the hwmon files of a device, and collects their
attributes in one data record for each type and id. `populate_device_sensors` then collects the
data records of the same name in one sensor. Both look their records up starting from the one that
they used last. Allocations succeed, and the device has no sensors yet.
-/
import Mathlib
import Amr.Lib.Registry

namespace Amr.Api

/-- The characters of a string before its terminator. -/
abbrev CString := List Char

def AMI_HWMON_MAX_STR : ℕ := 64
def AMI_HWMON_TYPE_MAX_SIZE : ℕ := 10
def AMI_HWMON_ATTR_MAX_SIZE : ℕ := 16

def AMI_HWMON_DIR : CString := "/sys/class/hwmon/hwmon".toList

/-- The types of sensors, without the invalid one. -/
inductive SensorType
  | temp
  | current
  | voltage
  | power
  deriving DecidableEq

/-- The attributes that a hwmon file can have. -/
inductive SensorAttr
  | name
  | value
  | max
  | avg
  | status
  | warnLimit
  | critLimit
  | fatalLimit
  deriving DecidableEq

inductive UnitMod
  | milli
  | micro
  deriving DecidableEq

/-- What a function returns. A write past the end of a buffer is no result at all. -/
inductive Status
  | ok
  | error
  | overflow
  deriving DecidableEq

structure Hwmon where
  /-- There is a regular file of this name. -/
  regular : CString → Bool
  /-- What can be read from it. -/
  content : CString → Option CString

/-! ### Conversions of `sscanf` -/

def isspace (c : Char) : Bool := decide (c = ' ') || decide (9 ≤ c.toNat ∧ c.toNat ≤ 13)

def scanLiteral (lit s : CString) : Option CString :=
  if lit.isPrefixOf s then some (s.drop lit.length) else none

def skipSign (s : CString) : CString :=
  match s with
  | '+' :: s => s
  | '-' :: s => s
  | s => s

/-- `%*d`: the rest of the string. -/
def scanInt (s : CString) : Option CString :=
  if ((skipSign (s.dropWhile isspace)).takeWhile Char.isDigit).isEmpty then none
  else some ((skipSign (s.dropWhile isspace)).dropWhile Char.isDigit)

/-- `%s` -/
def scanString (s : CString) : Option CString :=
  if ((s.dropWhile isspace).takeWhile fun c => !isspace c).isEmpty then none
  else some ((s.dropWhile isspace).takeWhile fun c => !isspace c)

/-- `%*[...]`: the rest of the string. -/
def scanSet (p : Char → Bool) (s : CString) : Option CString :=
  if (s.takeWhile p).isEmpty then none else some (s.dropWhile p)

/-- `%d` on digits, which are read as a `long` and stored as an `int`. -/
def scanDigits (s : CString) : Option ℤ :=
  if (s.takeWhile Char.isDigit).isEmpty then none
  else
    some (BitVec.ofNat 32 (min (2 ^ 63 - 1)
      ((s.takeWhile Char.isDigit).foldl (fun n c => 10 * n + (c.toNat - '0'.toNat)) 0))).toInt

/-! ### `parse_hwmon` -/

/-- The sensor that an attribute belongs to. -/
structure SensorKey where
  sid : ℤ
  type : SensorType
  deriving DecidableEq

/-- The outcome of `parse_hwmon`. -/
inductive Parsed
  | overflow
  | failed
  | attribute (key : SensorKey) (attr : SensorAttr)
  deriving DecidableEq

/-- The file name of a path: `AMI_HWMON_ATTR_FORMAT`. -/
def hwmon_attr (path : CString) : Option CString :=
  (scanLiteral AMI_HWMON_DIR path).bind fun s =>
    (scanInt s).bind fun s => (scanLiteral ['/'] s).bind scanString

def parsed_sid (hwmon_attr : CString) : Option ℤ :=
  (scanSet (fun c => !c.isDigit) hwmon_attr).bind scanDigits

def parsed_type (hwmon_attr : CString) : Option SensorType :=
  match hwmon_attr.head? with
  | some 'i' => some .voltage
  | some 'p' => some .power
  | some 't' => some .temp
  | some 'c' => some .current
  | _ => none

/-- The attribute table of `parse_hwmon`. -/
def attrNames : List (CString × SensorAttr) :=
  [("label".toList, .name), ("input".toList, .value), ("input_highest".toList, .max),
    ("highest".toList, .max), ("average".toList, .avg), ("status".toList, .status),
    ("max".toList, .warnLimit), ("lcrit".toList, .critLimit), ("crit".toList, .fatalLimit)]

def parsed_attr (hwmon_attr : CString) : Option SensorAttr :=
  (((scanSet (fun c => c != '_') hwmon_attr).bind (scanLiteral ['_'])).bind scanString).bind
    fun attr => attrNames.lookup (attr.take (AMI_HWMON_ATTR_MAX_SIZE - 1))

def parse_hwmon (h : Hwmon) (path : CString) : Parsed :=
  if h.regular path then
    match hwmon_attr path with
    | none => .failed
    | some s =>
      if AMI_HWMON_ATTR_MAX_SIZE + AMI_HWMON_TYPE_MAX_SIZE ≤ s.length then .overflow
      else
        match parsed_sid s, parsed_type s, parsed_attr s with
        | some sid, some type, some attr => .attribute ⟨sid, type⟩ attr
        | _, _, _ => .failed
  else .failed

/-! ### `read_sensor_attr` for a name -/

/-- The text up to the end of the line or the terminator. -/
def firstLine (s : CString) : CString :=
  s.takeWhile fun c => !(decide (c.toNat = 0) || decide (c.toNat = 10) || decide (c.toNat = 13))

/-- The name in a file, with the status. The buffer is not terminated when it is full. -/
def read_sensor_attr (h : Hwmon) (hwmon : CString) : Status × CString :=
  match h.content hwmon with
  | none => (.error, [])
  | some s =>
    if (firstLine (s.take AMI_HWMON_MAX_STR)).length < AMI_HWMON_MAX_STR then
      (.ok, firstLine s)
    else (.overflow, [])

/-! ### `ami_sensor_discover` -/

/-- A data record. An attribute is valid if it has a path. -/
structure SensorData where
  sid : ℤ
  type : SensorType
  mod : UnitMod
  hwmon : SensorAttr → Option CString
  /-- The string of the name attribute. -/
  name : CString

/-- A valid attribute, and its string if that was read. -/
structure Attribute where
  key : SensorKey
  attr : SensorAttr
  hwmon : CString
  name : Option CString

namespace SensorData

def key (r : SensorData) : SensorKey := ⟨r.sid, r.type⟩

def new (k : SensorKey) : SensorData where
  sid := k.sid
  type := k.type
  mod := match k.type with
    | .power => .micro
    | _ => .milli
  hwmon _ := none
  name := []

def set (b : Attribute) (r : SensorData) : SensorData :=
  { r with
    hwmon := Function.update r.hwmon b.attr (some b.hwmon)
    name := b.name.getD r.name }

end SensorData

/-- The data records with their attributes. -/
def dataRegistry : Registry SensorData SensorKey Attribute where
  key := SensorData.key
  new := SensorData.new
  target := Attribute.key
  apply := SensorData.set
  key_new _ := rfl
  key_apply _ _ := rfl

/-- The variables of `ami_sensor_discover`. -/
structure Discovery where
  sensors : List SensorData
  /-- The position of the record that was used last. -/
  data : Option ℕ
  num_total_sensors : ℕ

namespace Discovery

def start : Discovery := ⟨[], none, 0⟩

/-- The record for a type and id: `data` if it is for them, otherwise that of
`find_sensor_data`. -/
def find_sensor_data (s : Discovery) (key : SensorKey) : Option ℕ :=
  dataRegistry.locate s.sensors s.data key

def store (s : Discovery) (b : Attribute) : Discovery where
  sensors := dataRegistry.put s.sensors (s.find_sensor_data b.key) b
  data := some ((s.find_sensor_data b.key).getD s.sensors.length)
  num_total_sensors := s.num_total_sensors + if (s.find_sensor_data b.key).isSome then 0 else 1

end Discovery

/-- The string of an attribute is read if it is the name. -/
def readName (h : Hwmon) (attr : SensorAttr) (hwmon : CString) : Status × Option CString :=
  if attr = .name then
    ((read_sensor_attr h hwmon).1,
      if (read_sensor_attr h hwmon).1 = .ok then some (read_sensor_attr h hwmon).2 else none)
  else (.ok, none)

def attributeOf (h : Hwmon) (path : CString) (key : SensorKey) (attr : SensorAttr) : Attribute where
  key := key
  attr := attr
  hwmon := path.take AMI_HWMON_MAX_STR
  name := (readName h attr (path.take AMI_HWMON_MAX_STR)).2

/-- The loop of `ami_sensor_discover` over the files, with its status variable. -/
def discoverFiles (h : Hwmon) : Status → Discovery → List CString → Status × Discovery
  | ret, s, [] => (ret, s)
  | ret, s, path :: sensor_files =>
    match parse_hwmon h path with
    | .overflow => (.overflow, s)
    | .failed => discoverFiles h .error s sensor_files
    | .attribute key attr =>
      match (readName h attr (path.take AMI_HWMON_MAX_STR)).1 with
      | .ok => discoverFiles h .ok (s.store (attributeOf h path key attr)) sensor_files
      | .error => (.error, s.store (attributeOf h path key attr))
      | .overflow => (.overflow, s.store (attributeOf h path key attr))

/-! ### `populate_device_sensors` -/

/-- A sensor, with its data record of each type. -/
structure Sensor where
  name : CString
  data : SensorType → Option SensorData

def sensorRegistry : Registry Sensor CString SensorData where
  key := Sensor.name
  new name := ⟨name, fun _ => none⟩
  target := SensorData.name
  apply r s := { s with data := Function.update s.data r.type (some r) }
  key_new _ := rfl
  key_apply _ _ := rfl

/-- The device, and the sensor that `find_sensor_by_name` has found last. -/
structure Device where
  sensors : List Sensor
  num_sensors : ℕ
  num_total_sensors : ℕ
  last : Option ℕ

namespace Device

def fresh (num_total_sensors : ℕ) : Device := ⟨[], 0, num_total_sensors, none⟩

def find_sensor_by_name (dev : Device) (name : CString) : Option ℕ :=
  sensorRegistry.locate dev.sensors dev.last name

/-- The data record is put into its sensor. -/
def addData (dev : Device) (r : SensorData) : Device where
  sensors := sensorRegistry.put dev.sensors (dev.find_sensor_by_name r.name) r
  num_sensors := dev.num_sensors + if (dev.find_sensor_by_name r.name).isSome then 0 else 1
  num_total_sensors := dev.num_total_sensors
  last := (dev.find_sensor_by_name r.name).or dev.last

def populate_device_sensors (dev : Device) (data : List SensorData) : Device :=
  data.foldl addData dev

end Device

/-- `ami_sensor_discover` with the files that `glob` lists. -/
def ami_sensor_discover (h : Hwmon) (files : List CString) : Status × Device :=
  if files = [] then (.error, .fresh 0)
  else
    ((discoverFiles h .error .start files).1,
      if (discoverFiles h .error .start files).1 = .ok then
        (Device.fresh (discoverFiles h .error .start files).2.num_total_sensors)
          |>.populate_device_sensors (discoverFiles h .error .start files).2.sensors
      else .fresh (discoverFiles h .error .start files).2.num_total_sensors)

/-! ### What discovery is to do -/

/-- The path of a file as an attribute has it. -/
def stored (path : CString) : CString := path.take AMI_HWMON_MAX_STR

def IsAttribute (h : Hwmon) (path : CString) (key : SensorKey) (attr : SensorAttr) : Prop :=
  parse_hwmon h path = .attribute key attr

/-- The file has an attribute that is supported. -/
def supported (h : Hwmon) (path : CString) : Bool := decide (parse_hwmon h path ≠ .failed)

/-- The name of a sensor: that in its label file, or an empty one. -/
def sensorName (h : Hwmon) (files : List CString) (key : SensorKey) : CString :=
  match files.find? fun path => decide (parse_hwmon h path = .attribute key .name) with
  | some path => (read_sensor_attr h (stored path)).2
  | none => []

def Found (h : Hwmon) (files : List CString) (key : SensorKey) : Prop :=
  ∃ path ∈ files, ∃ attr, IsAttribute h path key attr

def NameReadsSucceed (h : Hwmon) (files : List CString) : Prop :=
  ∀ path ∈ files, ∀ key, IsAttribute h path key .name →
    (read_sensor_attr h (stored path)).1 ≠ .error

/-- A sensor has its data record: the record has all attributes of the sensor, and the sensor of
its name leads to it. No other record is for the same type and id. -/
structure Reachable (h : Hwmon) (files : List CString) (dev : Device) (key : SensorKey)
    (s : Sensor) (r : SensorData) : Prop where
  find : dev.sensors.find? (fun s => decide (s.name = sensorName h files key)) = some s
  data : s.data key.type = some r
  sensor : r.key = key
  name : r.name = sensorName h files key
  attributes : ∀ path ∈ files, ∀ attr, IsAttribute h path key attr →
    r.hwmon attr = some (stored path)
  only : ∀ s' ∈ dev.sensors, ∀ r', s'.data key.type = some r' → r'.key = key → r' = r

/-- Two outcomes of a discovery are the same, up to the order of the sensors. -/
def SameResult (a b : Status × Device) : Prop :=
  a.1 = b.1 ∧ (a.1 = .ok → a.2.sensors.Perm b.2.sensors ∧
    a.2.num_sensors = b.2.num_sensors ∧ a.2.num_total_sensors = b.2.num_total_sensors)

/-- The discovery does not depend on the order of the files, and is complete. -/
structure Discovers (h : Hwmon) (files : List CString) : Prop where
  same : ∀ order, order.Perm files →
    SameResult (ami_sensor_discover h order) (ami_sensor_discover h files)
  succeeds : ∀ order, order.Perm files →
    (ami_sensor_discover h order).1 ≠ .overflow ∧
      ((ami_sensor_discover h order).1 = .ok ↔ NameReadsSucceed h files)
  complete : ∀ order, order.Perm files → (ami_sensor_discover h order).1 = .ok →
    ∀ key, Found h files key → ∃ s r, Reachable h files (ami_sensor_discover h order).2 key s r
  unsupported : ∀ order, order.Perm files →
    SameResult (ami_sensor_discover h order) (ami_sensor_discover h (order.filter (supported h)))

/-- No buffer is too small: the file names, and the names of the sensors, fit. -/
def Fits (h : Hwmon) (files : List CString) : Prop :=
  ∀ path ∈ files, parse_hwmon h path ≠ .overflow ∧
    ∀ key, IsAttribute h path key .name → (read_sensor_attr h (stored path)).1 ≠ .overflow

/-- The files are those of sensors that can be told apart: there are some, all are supported, no
two are for the same attribute, and no two sensors of a type have the same name. -/
structure Distinct (h : Hwmon) (files : List CString) : Prop where
  nonempty : files ≠ []
  supported : ∀ path ∈ files, ∃ key attr, IsAttribute h path key attr
  attributes : ∀ path ∈ files, ∀ path' ∈ files, ∀ key attr, IsAttribute h path key attr →
    IsAttribute h path' key attr → stored path = stored path'
  names : ∀ key key', Found h files key → Found h files key' → key.type = key'.type →
    sensorName h files key = sensorName h files key' → key = key'

end Amr.Api
