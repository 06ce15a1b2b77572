/-
# The texts of the sysfs attributes

`dev_state_show`, `dev_name_show`, `amc_version_show` and `read_mfg_field` of
`sw/AMI/driver/ami_sysfs.c`, with `read_board_info` and the records of `ami_amc_control.h`.

A show function prints into a page of zeros and returns a count; a read then gives the first bytes
of the page, as many as the count says. A string field ends at its first NUL, which a field that is
filled up does not have: the text then runs on into the fields behind it.
-/
import Amr.Host.DeviceMap

namespace Amr.Host.Sysfs

open Format DeviceMap

/-! ### What the driver keeps -/

inductive pf_dev_state
  | INIT
  | READY
  | MISSING_INFO
  | NO_AMC
  | INIT_ERROR
  | SHUTDOWN
  | COMPAT
  deriving DecidableEq, Repr

/-- `struct amc_version` of the driver. -/
structure amc_version where
  ver_major : UInt8
  ver_minor : UInt8
  ver_patch : UInt8
  local_changes : UInt8
  dev_commits : UInt16
  deriving DecidableEq, Repr

abbrev SDR_VALUE_MAX_LEN : ℕ := 64

scoped instance instNeZeroMaxLen : NeZero SDR_VALUE_MAX_LEN := ⟨by decide⟩

structure field_info where
  type : UInt8
  len : UInt8
  bytes : Vector UInt8 SDR_VALUE_MAX_LEN
  deriving DecidableEq, Repr

namespace field_info

def byte (f : field_info) (k : Fin SDR_VALUE_MAX_LEN) : ℕ := (f.bytes.get k).toNat

def image (f : field_info) : List UInt8 := f.type :: f.len :: f.bytes.toList

theorem byte_lt (f : field_info) (k : Fin SDR_VALUE_MAX_LEN) : f.byte k < 256 :=
  (f.bytes.get k).toNat_lt

end field_info

/-- The fields of `struct bd_info_record`, in their order. -/
inductive BdField
  | eeprom_version
  | product_name
  | board_rev
  | board_serial
  | mac_addr_count
  | first_mac_addr
  | active_state
  | config_mode
  | manufacturing_date
  | part_number
  | uuid
  | pcie_id
  | power_mode
  | memory_size
  | oem_id
  | capability
  | mfg_part_number
  deriving DecidableEq, Repr

def BdField.all : List BdField := [.eeprom_version, .product_name, .board_rev, .board_serial,
  .mac_addr_count, .first_mac_addr, .active_state, .config_mode, .manufacturing_date, .part_number,
  .uuid, .pcie_id, .power_mode, .memory_size, .oem_id, .capability, .mfg_part_number]

abbrev bd_info_record := BdField → field_info

def chr (b : UInt8) : Char := Char.ofNat b.toNat

/-- The string at the bytes of a field, with `behind` behind the record. -/
def bd_info_record.str (r : bd_info_record) (behind : List UInt8) (f : BdField) : List Char :=
  c_str (((r f).bytes.toList ++
    ((BdField.all.dropWhile (· ≠ f)).tail.flatMap fun g => (r g).image) ++ behind).map chr)

/-- The repository of the board information, and what lies behind its record. -/
structure sdr_repo where
  num_records : ℕ
  bd_info : bd_info_record
  behind : List UInt8

/-- What the show functions read of a device. -/
structure pf_dev_struct where
  state : pf_dev_state
  amc_ctrl_ctxt : Option amc_version
  device_id : UInt16
  /-- What `find_sdr_repo` finds for `SDR_TYPE_BDINFO`. -/
  bdinfo : Option sdr_repo

inductive Errno
  | ENODEV
  | EINVAL
  | ENOMEM
  deriving DecidableEq, Repr

/-! ### Printing -/

/-- What a show function puts in front of the NUL, and the count it returns. -/
structure Shown where
  text : List Char
  ret : ℕ
  deriving DecidableEq, Repr

/-- `sprintf` of a text. -/
def print (t : List Char) : Shown := ⟨t, t.length⟩

/-- `snprintf` of a text: the count is that of the whole text. -/
def nprint (size : ℕ) (t : List Char) : Shown := ⟨t.take (size - 1), t.length⟩

/-- `"%s\n"`. -/
def line (t : List Char) : List Char := t ++ ['\n']

def NA : List Char := ['N', '/', 'A']

/-- The value of a `signed char`. -/
def hhd (b : UInt8) : ℤ := Int.bmod b.toNat (2 ^ 8)

/-- The value of a `short`. -/
def hd (v : UInt16) : ℤ := Int.bmod v.toNat (2 ^ 16)

/-- `"%hhd.%hhd.%hhd +%hd *%hhd"`. -/
def AMC_VERSION_ATTR_FMT : List Directive :=
  [.dec, .char '.', .dec, .char '.', .dec, .space, .char '+', .dec, .space, .char '*', .dec]

/-- `"%02x:%02x:%02x:%02x:%02x:%02x"`. -/
def MAC_FORMAT : List Directive :=
  [.hex 2, .char ':', .hex 2, .char ':', .hex 2, .char ':', .hex 2, .char ':', .hex 2, .char ':',
    .hex 2]

/-- `"%02x%02x%02x%02x-%02x%02x-%02x%02x-%02x%02x-%02x%02x%02x%02x%02x%02x"`. -/
def UUID_FORMAT : List Directive :=
  [.hex 2, .hex 2, .hex 2, .hex 2, .char '-', .hex 2, .hex 2, .char '-', .hex 2, .hex 2, .char '-',
    .hex 2, .hex 2, .char '-', .hex 2, .hex 2, .hex 2, .hex 2, .hex 2, .hex 2]

/-- `"%02x%02x, %02x%02x, %02x%02x, %02x%02x"`. -/
def PCIE_ID_FORMAT : List Directive :=
  [.hex 2, .hex 2, .char ',', .space, .hex 2, .hex 2, .char ',', .space, .hex 2, .hex 2, .char ',',
    .space, .hex 2, .hex 2]

/-- `"0x%02x%02x"`. -/
def OEM_ID_FORMAT : List Directive := [.char '0', .char 'x', .hex 2, .hex 2]

/-- `"%02x%02x"`. -/
def CAPABILITY_FORMAT : List Directive := [.hex 2, .hex 2]

/-! ### The device -/

def get_state_name : pf_dev_state → String
  | .INIT => "INIT"
  | .READY => "READY"
  | .MISSING_INFO => "MISSING_INFO"
  | .NO_AMC => "NO_AMC"
  | .INIT_ERROR => "INIT_ERROR"
  | .SHUTDOWN => "SHUTDOWN"
  | .COMPAT => "COMPAT"

def dev_state_show (pf_dev : Option pf_dev_struct) : Except Errno Shown :=
  match pf_dev with
  | some pf_dev => .ok (print (line (get_state_name pf_dev.state).toList))
  | none => .error .ENODEV

def pcie_device_id_to_str (id : UInt16) : String :=
  if id = 0x5094 then "ALVEO V70"
  else if id = 0x5048 then "VCK5000"
  else if id = 0x50B4 then "ALVEO V80"
  else if id = 0x50BC then "ALVEO V80P"
  else if id = 0x5710 then "Rave"
  else "Unknown"

/-- The record that `read_board_info` gives. -/
def read_board_info (pf_dev : pf_dev_struct) : Option bd_info_record :=
  pf_dev.bdinfo.bind fun repo => if repo.num_records = 0 then none else some repo.bd_info

/-- `dev_name_show`: the record is copied to an allocated buffer, with `behind` behind it. -/
def dev_name_show (alloc : Bool) (behind : List UInt8) (pf_dev : Option pf_dev_struct) :
    Except Errno Shown :=
  match pf_dev with
  | some pf_dev =>
    if alloc then
      match read_board_info pf_dev with
      | some bd_info_record => .ok (print (bd_info_record.str behind .product_name))
      | none => .ok (print (line (pcie_device_id_to_str pf_dev.device_id).toList))
    else .error .ENOMEM
  | none => .error .ENODEV

/-- The numbers of a version, as they are printed. -/
def amc_version.numbers (v : amc_version) : List ℤ :=
  [hhd v.ver_major, hhd v.ver_minor, hhd v.ver_patch, hd v.dev_commits, hhd v.local_changes]

def amc_version_show (pf_dev : Option pf_dev_struct) : Except Errno Shown :=
  match pf_dev with
  | some pf_dev =>
    match pf_dev.amc_ctrl_ctxt with
    | some version => .ok (print (line (sprintf AMC_VERSION_ATTR_FMT version.numbers)))
    | none => .ok ⟨[], 0⟩
  | none => .error .ENODEV

/-! ### The board information -/

inductive sysfs_mfg_field
  | EEPROM_VERSION
  | PRODUCT_NAME
  | BOARD_REV
  | BOARD_SERIAL
  | MEMORY_SIZE
  | PART_NUM
  | M_PART_NUM
  | MAC_ADDR_C
  | MAC_ADDR
  | MAC_ADDR_N
  | ACTIVE_STATE
  | CONFIG_MODE
  | M_DATE
  | UUID
  | PCIE_ID
  | POWER_MODE
  | OEM_ID
  | CAPABILITY
  deriving DecidableEq, Repr

def FPGA_CONFIG_MODE_QSPIX4 : ℕ := 7
def FPGA_CONFIG_MODE_OSPI : ℕ := 8
def MAX_POWER_MODE_75W : ℕ := 0
def MAX_POWER_MODE_150W : ℕ := 1
def MAX_POWER_MODE_225W : ℕ := 2
def MAX_POWER_MODE_350W : ℕ := 3

section Record

variable (r : bd_info_record) (behind : List UInt8)

/-- A string field without a text for its absence. -/
def show_str (f : BdField) : Shown := nprint ((r f).len.toNat + 1) (line (r.str behind f))

def show_str_or_na (f : BdField) : Shown :=
  if (r f).len ≠ 0 then show_str r behind f else print (line NA)

def bytesOf (f : BdField) (ks : List (Fin SDR_VALUE_MAX_LEN)) : List ℤ :=
  ks.map fun k => ((r f).byte k : ℤ)

def mac_first : ℕ :=
  (r .first_mac_addr).byte 0 <<< 40 ||| (r .first_mac_addr).byte 1 <<< 32 |||
    (r .first_mac_addr).byte 2 <<< 24 ||| (r .first_mac_addr).byte 3 <<< 16 |||
    (r .first_mac_addr).byte 4 <<< 8 ||| (r .first_mac_addr).byte 5

def mac_n : ℕ :=
  if (r .mac_addr_count).byte 0 ≠ 0 then mac_first r + ((r .mac_addr_count).byte 0 - 1) else 0

/-- The bytes of a MAC address, cut off a number. -/
def macBytes (n : ℕ) : List ℤ :=
  [((n >>> 40) % 256 : ℕ), ((n >>> 32) % 256 : ℕ), ((n >>> 24) % 256 : ℕ), ((n >>> 16) % 256 : ℕ),
    ((n >>> 8) % 256 : ℕ), (n % 256 : ℕ)]

/-- Minutes since the start of 1996, lowest byte first. -/
def timestamp : ℕ :=
  (r .manufacturing_date).byte 2 <<< 16 ||| (r .manufacturing_date).byte 1 <<< 8 |||
    (r .manufacturing_date).byte 0

def active_state_name : String :=
  if (r .active_state).byte 0 = 'A'.toNat then "Active"
  else if (r .active_state).byte 0 = 'P'.toNat then "Passive"
  else "N/A"

def config_mode_name : String :=
  if (r .config_mode).byte 0 = FPGA_CONFIG_MODE_QSPIX4 then "QSPIx4"
  else if (r .config_mode).byte 0 = FPGA_CONFIG_MODE_OSPI then "OSPI"
  else "N/A"

def power_mode_name : String :=
  if (r .power_mode).byte 0 = MAX_POWER_MODE_75W then "75W"
  else if (r .power_mode).byte 0 = MAX_POWER_MODE_150W then "150W"
  else if (r .power_mode).byte 0 = MAX_POWER_MODE_225W then "225W"
  else if (r .power_mode).byte 0 = MAX_POWER_MODE_350W then "300W"
  else "N/A"

/-- The switch of `read_mfg_field`. -/
def show_mfg : sysfs_mfg_field → Shown
  | .EEPROM_VERSION => show_str r behind .eeprom_version
  | .PRODUCT_NAME => show_str r behind .product_name
  | .BOARD_REV => show_str r behind .board_rev
  | .BOARD_SERIAL => show_str r behind .board_serial
  | .MEMORY_SIZE => show_str_or_na r behind .memory_size
  | .PART_NUM => show_str r behind .part_number
  | .M_PART_NUM => show_str_or_na r behind .mfg_part_number
  | .MAC_ADDR_C => print (line (sprintf [.dec] (bytesOf r .mac_addr_count [0])))
  | .MAC_ADDR => print (line (sprintf MAC_FORMAT (bytesOf r .first_mac_addr [0, 1, 2, 3, 4, 5])))
  | .MAC_ADDR_N => print (line (sprintf MAC_FORMAT (macBytes (mac_n r))))
  | .ACTIVE_STATE => print (line (active_state_name r).toList)
  | .CONFIG_MODE => print (line (config_mode_name r).toList)
  | .M_DATE => print (line (sprintf [.dec] [(timestamp r : ℤ)]))
  | .UUID =>
    print (line (sprintf UUID_FORMAT
      (bytesOf r .uuid [0, 1, 2, 3, 4, 5, 6, 7, 8, 9, 10, 11, 12, 13, 14, 15])))
  | .PCIE_ID =>
    if (r .pcie_id).len ≠ 0 then
      print (line (sprintf PCIE_ID_FORMAT (bytesOf r .pcie_id [0, 1, 2, 3, 4, 5, 6, 7])))
    else print (line NA)
  | .POWER_MODE => print (line (power_mode_name r).toList)
  | .OEM_ID =>
    -- the length looked at is that of the capability word
    if (r .capability).len ≠ 0 then print (line (sprintf OEM_ID_FORMAT (bytesOf r .oem_id [1, 0])))
    else print (line NA)
  | .CAPABILITY =>
    if (r .capability).len ≠ 0 then
      print (line (sprintf CAPABILITY_FORMAT (bytesOf r .capability [1, 0])))
    else print (line NA)

end Record

def read_mfg_field (pf_dev : Option pf_dev_struct) (var : sysfs_mfg_field) : Except Errno Shown :=
  match pf_dev with
  | some pf_dev =>
    match pf_dev.bdinfo with
    | some repo =>
      if repo.num_records = 0 then .error .EINVAL
      else .ok (show_mfg repo.bd_info repo.behind var)
    | none => .error .EINVAL
  | none => .error .ENODEV

/-! ### The attributes -/

inductive Attr
  | dev_state
  | dev_name
  | amc_version
  | mfg (var : sysfs_mfg_field)
  deriving DecidableEq, Repr

/-- The attributes under the names that they are created with. -/
def attributes : List (String × Attr) := [
  ("dev_state", .dev_state),
  ("dev_name", .dev_name),
  ("amc_version", .amc_version),
  ("eeprom_version", .mfg .EEPROM_VERSION),
  ("product_name", .mfg .PRODUCT_NAME),
  ("board_rev", .mfg .BOARD_REV),
  ("board_serial", .mfg .BOARD_SERIAL),
  ("memory_size", .mfg .MEMORY_SIZE),
  ("part_num", .mfg .PART_NUM),
  ("mfg_part_num", .mfg .M_PART_NUM),
  ("mac_addr_count", .mfg .MAC_ADDR_C),
  ("mac_addr", .mfg .MAC_ADDR),
  ("mac_addr_n", .mfg .MAC_ADDR_N),
  ("active_state", .mfg .ACTIVE_STATE),
  ("fpga_config_mode", .mfg .CONFIG_MODE),
  ("mfg_date", .mfg .M_DATE),
  ("mfg_uuid", .mfg .UUID),
  ("pcie_id", .mfg .PCIE_ID),
  ("power_mode", .mfg .POWER_MODE),
  ("oem_id", .mfg .OEM_ID),
  ("mfg_capability", .mfg .CAPABILITY)]

/-- The circumstances of a call: the allocation in `dev_name_show`, and what lies behind it. -/
structure Heap where
  alloc : Bool
  behind : List UInt8

def Attr.show (h : Heap) (pf_dev : Option pf_dev_struct) : Attr → Except Errno Shown
  | .dev_state => dev_state_show pf_dev
  | .dev_name => dev_name_show h.alloc h.behind pf_dev
  | .amc_version => amc_version_show pf_dev
  | .mfg var => read_mfg_field pf_dev var

/-- What the show function of the attribute of a name comes to, if there is one. -/
def sysfs (h : Heap) (pf_dev : Option pf_dev_struct) (name : String) :
    Option (Except Errno Shown) :=
  (attributes.lookup name).map fun a => a.show h pf_dev

/-! ### A read -/

/-- What a read of at most `n` bytes gives: the page as far as the count goes. -/
def Shown.read (s : Shown) (n : ℕ) : List Char :=
  ((s.text ++ List.replicate PAGE_SIZE NUL).take s.ret).take n

/-- The count is the number of bytes of the text. -/
def Shown.Counted (s : Shown) : Prop := s.ret = s.text.length

instance (s : Shown) : Decidable s.Counted := inferInstanceAs (Decidable (_ = _))

theorem Shown.Counted.read {s : Shown} (h : s.Counted) (n : ℕ) : s.read n = s.text.take n := by
  rw [Shown.read, h, List.take_left]

theorem counted_print (t : List Char) : (print t).Counted := rfl

theorem counted_nprint {len : ℕ} {t : List Char} : (nprint (len + 1) t).Counted ↔ t.length ≤ len := by
  simp only [Shown.Counted, nprint, Nat.add_sub_cancel, List.length_take]
  omega

theorem nprint_of_le {len : ℕ} {t : List Char} (h : t.length ≤ len) :
    nprint (len + 1) t = print t := by
  rw [nprint, Nat.add_sub_cancel, List.take_of_length_le h, print]

end Amr.Host.Sysfs
