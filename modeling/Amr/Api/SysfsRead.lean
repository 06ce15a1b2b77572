/-
# The getters of the sysfs attributes

`ami_read_sysfs`, `ami_dev_get_state`, `ami_dev_get_name` and `ami_dev_get_amc_version` of
`sw/AMI/api/src/ami_device.c` and `ami_mfg_get_info` of `ami_mfg_info.c`, over the attributes of
the driver.

A getter hands a local buffer to `ami_read_sysfs`, which reads up to `AMI_SYSFS_STR_MAX` bytes
whatever the size of the buffer is. A fetch keeps the positions of both buffers that are written.
What lies behind the local buffer is part of a call: a text without an end runs on there.
-/
import Amr.Host.SysfsShow

namespace Amr.Api.Sysfs

open Format Host.DeviceMap Host.Sysfs

def AMI_SYSFS_STR_MAX : ℕ := 256
def AMI_DEV_STATE_SIZE : ℕ := 32 + 1
def AMI_DEV_NAME_SIZE : ℕ := 32 + 1
def AMI_MFG_INFO_MAX_STR : ℕ := 64
def AMC_VERSION_ATTR_SIZE : ℕ := 16

def SYSFS_DEV_STATE : String := "dev_state"
def SYSFS_DEV_NAME : String := "dev_name"
def SYSFS_AMC_VERSION : String := "amc_version"

inductive AmiError
  | AMI_ERROR_EINVAL
  | AMI_ERROR_EBADF
  | AMI_ERROR_EIO
  deriving DecidableEq, Repr

open AmiError

/-- The attributes of a device, as `open` finds them. -/
abbrev Device := String → Option (Except Errno Shown)

/-- `ami_read_sysfs`: the bytes that are put into the buffer. -/
def ami_read_sysfs (dev : Device) (attr : String) : Except AmiError (List Char) :=
  match dev attr with
  | none => .error AMI_ERROR_EBADF
  | some (.error _) => .error AMI_ERROR_EIO
  | some (.ok s) => .ok (s.read AMI_SYSFS_STR_MAX)

/-- What a getter gives back, and the positions of the local buffer and of the caller's that it
writes. -/
structure Fetched (α : Type) where
  value : α
  raw : List ℕ
  given : List ℕ
  deriving DecidableEq

/-- The local buffer of `n` zeros with the bytes that were read, and what lies behind it. -/
def rawBuf (n : ℕ) (stack data : List Char) : List Char :=
  data ++ (List.replicate n NUL ++ stack).drop data.length

/-- The characters that `strcspn(raw_buf, "\r\n")` goes over. -/
def inLine (c : Char) : Bool := c ≠ NUL && c ≠ '\r' && c ≠ '\n'

def strcspn (s : List Char) : ℕ := (s.takeWhile inLine).length

/-- Strip the newline and copy the text: a getter of a text with a local buffer of `n` bytes and a
buffer of the caller's of `size`. -/
def getText (n size : ℕ) (stack data : List Char) : Fetched (List Char) where
  value := ((rawBuf n stack data).take (strcspn (rawBuf n stack data))).take (size - 1)
  raw := List.range data.length ++ [strcspn (rawBuf n stack data)]
  given := List.range size ++ List.range (size - 1)

def ami_dev_get_state (dev : Device) (stack : List Char) :
    Except AmiError (Fetched (List Char)) :=
  (ami_read_sysfs dev SYSFS_DEV_STATE).map (getText AMI_DEV_STATE_SIZE AMI_DEV_STATE_SIZE stack)

def ami_dev_get_name (dev : Device) (stack : List Char) :
    Except AmiError (Fetched (List Char)) :=
  (ami_read_sysfs dev SYSFS_DEV_NAME).map (getText AMI_DEV_NAME_SIZE AMI_DEV_NAME_SIZE stack)

/-- `struct amc_version` of the interface. -/
structure AmcVersion where
  major : UInt8
  minor : UInt8
  patch : UInt8
  local_changes : UInt8
  dev_commits : UInt16
  deriving DecidableEq, Repr

/-- A number stored through `%hhd`. -/
def ofHhd (v : ℤ) : UInt8 := .ofNat (v % 2 ^ 8).toNat

/-- A number stored through `%hd`. -/
def ofHd (v : ℤ) : UInt16 := .ofNat (v % 2 ^ 16).toNat

def scanVersion (s : List Char) : Option AmcVersion :=
  match sscanf AMC_VERSION_ATTR_FMT s with
  | [major, minor, patch, dev_commits, local_changes] =>
    some ⟨ofHhd major, ofHhd minor, ofHhd patch, ofHhd local_changes, ofHd dev_commits⟩
  | _ => none

/-- The version that is parsed, if all five fields are found. -/
def getVersion (stack data : List Char) : Fetched (Option AmcVersion) where
  value := scanVersion (c_str (rawBuf AMC_VERSION_ATTR_SIZE stack data))
  raw := List.range data.length
  given := []

def ami_dev_get_amc_version (dev : Device) (stack : List Char) :
    Except AmiError (Fetched (Option AmcVersion)) :=
  (ami_read_sysfs dev SYSFS_AMC_VERSION).map (getVersion stack)

inductive ami_mfg_field
  | FIELD_MIN
  | EEPROM_VERSION
  | PRODUCT_NAME
  | BOARD_REV
  | BOARD_SERIAL
  | MEMORY_SIZE
  | PART_NUM
  | M_PART_NUM
  | MAC_ADDR_C
  | MAC_ADDR
  | MAC_ADDR_N
  | ACTIVE_STATE
  | CONFIG_MODE
  | M_DATE
  | UUID
  | PCIE_ID
  | POWER_MODE
  | OEM_ID
  | CAPABILITY
  | FIELD_MAX
  deriving DecidableEq, Repr

def get_name_for_mfg_field : ami_mfg_field → String
  | .EEPROM_VERSION => "eeprom_version"
  | .PRODUCT_NAME => "product_name"
  | .BOARD_REV => "board_rev"
  | .BOARD_SERIAL => "board_serial"
  | .MEMORY_SIZE => "memory_size"
  | .PART_NUM => "part_num"
  | .M_PART_NUM => "mfg_part_num"
  | .MAC_ADDR_C => "mac_addr_count"
  | .MAC_ADDR => "mac_addr"
  | .MAC_ADDR_N => "mac_addr_n"
  | .ACTIVE_STATE => "active_state"
  | .CONFIG_MODE => "fpga_config_mode"
  | .M_DATE => "mfg_date"
  | .UUID => "mfg_uuid"
  | .PCIE_ID => "pcie_id"
  | .POWER_MODE => "power_mode"
  | .OEM_ID => "oem_id"
  | .CAPABILITY => "mfg_capability"
  | .FIELD_MIN => ""
  | .FIELD_MAX => ""

def ami_mfg_get_info (dev : Device) (field : ami_mfg_field) (stack : List Char) :
    Except AmiError (Fetched (List Char)) :=
  if get_name_for_mfg_field field = "" then .error AMI_ERROR_EINVAL
  else (ami_read_sysfs dev (get_name_for_mfg_field field)).map
    (getText AMI_SYSFS_STR_MAX AMI_MFG_INFO_MAX_STR stack)

/-- The field of the interface that matches one of the driver. -/
def matching : sysfs_mfg_field → ami_mfg_field
  | .EEPROM_VERSION => .EEPROM_VERSION
  | .PRODUCT_NAME => .PRODUCT_NAME
  | .BOARD_REV => .BOARD_REV
  | .BOARD_SERIAL => .BOARD_SERIAL
  | .MEMORY_SIZE => .MEMORY_SIZE
  | .PART_NUM => .PART_NUM
  | .M_PART_NUM => .M_PART_NUM
  | .MAC_ADDR_C => .MAC_ADDR_C
  | .MAC_ADDR => .MAC_ADDR
  | .MAC_ADDR_N => .MAC_ADDR_N
  | .ACTIVE_STATE => .ACTIVE_STATE
  | .CONFIG_MODE => .CONFIG_MODE
  | .M_DATE => .M_DATE
  | .UUID => .UUID
  | .PCIE_ID => .PCIE_ID
  | .POWER_MODE => .POWER_MODE
  | .OEM_ID => .OEM_ID
  | .CAPABILITY => .CAPABILITY

/-! ### The buffers -/

/-- The local buffer of `n` bytes keeps every write. -/
def Contained {α : Type} (n : ℕ) (g : Fetched α) : Prop := ∀ i ∈ g.raw, i < n

/-- The bytes end within a buffer of `n`. -/
def Ends (n : ℕ) (data : List Char) : Prop :=
  data.length < n ∨ data.length = n ∧ ∃ c ∈ data, inLine c = false

theorem rawBuf_of_lt {n : ℕ} (stack : List Char) {data : List Char} (h : data.length < n) :
    ∃ more, rawBuf n stack data = data ++ NUL :: more := by
  obtain ⟨k, hk⟩ := Nat.exists_eq_add_of_lt h
  refine ⟨List.replicate k NUL ++ stack, ?_⟩
  have hsplit : List.replicate n NUL = List.replicate data.length NUL ++ NUL :: List.replicate k NUL := by
    rw [← List.replicate_succ, List.replicate_append_replicate, hk, Nat.add_assoc]
  rw [rawBuf, hsplit, List.append_assoc, List.drop_left' (by rw [List.length_replicate]),
    List.cons_append]

theorem rawBuf_of_eq {n : ℕ} {stack data : List Char} (h : data.length = n) :
    rawBuf n stack data = data ++ stack := by
  rw [rawBuf, h, List.drop_left' (by rw [List.length_replicate])]

theorem takeWhile_append_of_mem {data : List Char} (h : ∃ c ∈ data, inLine c = false)
    (more : List Char) : (data ++ more).takeWhile inLine = data.takeWhile inLine := by
  induction data with
  | nil =>
    obtain ⟨c, hc, -⟩ := h
    exact absurd hc List.not_mem_nil
  | cons d data ih =>
    rw [List.cons_append, List.takeWhile_cons, List.takeWhile_cons]
    split_ifs with hd
    · obtain ⟨c, hc, hout⟩ := h
      rcases List.mem_cons.mp hc with rfl | hc
      · exact absurd (hd.symm.trans hout) (by decide)
      · rw [ih ⟨c, hc, hout⟩]
    · rfl

theorem takeWhile_all {data : List Char} (h : ¬∃ c ∈ data, inLine c = false) :
    data.takeWhile inLine = data := by
  refine List.takeWhile_eq_self_iff.mpr fun c hc => ?_
  by_contra hout
  exact h ⟨c, hc, Bool.eq_false_iff.mpr hout⟩

theorem takeWhile_rawBuf {n : ℕ} {stack data : List Char} (h : Ends n data) :
    (rawBuf n stack data).takeWhile inLine = data.takeWhile inLine := by
  by_cases hmem : ∃ c ∈ data, inLine c = false
  · exact takeWhile_append_of_mem hmem _
  · obtain ⟨more, hmore⟩ := rawBuf_of_lt stack (h.resolve_right fun h => hmem h.2)
    have hall := takeWhile_all hmem
    rw [hall, hmore, List.takeWhile_append_of_pos (List.takeWhile_eq_self_iff.mp hall),
      List.takeWhile_cons_of_neg (by decide), List.append_nil]

/-- **A getter of a text keeps within its buffer** exactly if the text ends there. -/
theorem contained_getText {n size : ℕ} {stack data : List Char} :
    Contained n (getText n size stack data) ↔ Ends n data := by
  constructor
  · intro h
    have hidx : strcspn (rawBuf n stack data) < n := h _ (by simp [getText])
    rcases Nat.lt_trichotomy data.length n with hlt | heq | hgt
    · exact .inl hlt
    · refine .inr ⟨heq, ?_⟩
      by_contra hmem
      have hall := takeWhile_all hmem
      rw [rawBuf_of_eq heq, strcspn,
        List.takeWhile_append_of_pos (List.takeWhile_eq_self_iff.mp hall),
        List.length_append] at hidx
      omega
    · have hlast : data.length - 1 < n := by
        refine h _ (List.mem_append_left _ (List.mem_range.mpr ?_))
        omega
      exact absurd hlast (by omega)
  · intro h i hi
    have hcut : strcspn (rawBuf n stack data) < n := by
      rw [strcspn, takeWhile_rawBuf h]
      have hle : (data.takeWhile inLine).length ≤ data.length :=
        (List.takeWhile_prefix inLine).length_le
      rcases h with hlt | ⟨heq, c, hc, hout⟩
      · omega
      · refine lt_of_le_of_ne (by omega) fun hlen => ?_
        have hall := (List.takeWhile_prefix inLine).eq_of_length (by omega : _ = data.length)
        exact absurd ((List.takeWhile_eq_self_iff.mp hall c hc).symm.trans hout) (by decide)
    rcases List.mem_append.mp hi with hi | hi
    · have hlt := List.mem_range.mp hi
      rcases h with h | h
      · omega
      · omega
    · rw [List.mem_singleton.mp hi]
      exact hcut

theorem supplied_getText (n size : ℕ) (stack data : List Char) :
    ∀ i ∈ (getText n size stack data).given, i < size := by
  intro i hi
  rcases List.mem_append.mp hi with hi | hi
  · exact List.mem_range.mp hi
  · have := List.mem_range.mp hi
    omega

theorem value_getText {n size : ℕ} {stack data : List Char} (h : Ends n data) :
    (getText n size stack data).value = (data.takeWhile inLine).take (size - 1) := by
  have hprefix := List.takeWhile_prefix (l := rawBuf n stack data) inLine
  have htake : (rawBuf n stack data).take (strcspn (rawBuf n stack data)) =
      (rawBuf n stack data).takeWhile inLine := (List.prefix_iff_eq_take.mp hprefix).symm
  rw [getText, htake, takeWhile_rawBuf h]

/-- **The getter of the version keeps within its buffer** exactly if the text has no more bytes. -/
theorem contained_getVersion {stack data : List Char} :
    Contained AMC_VERSION_ATTR_SIZE (getVersion stack data) ↔
      data.length ≤ AMC_VERSION_ATTR_SIZE := by
  constructor
  · intro h
    by_contra hlen
    have hlast := h (data.length - 1) (List.mem_range.mpr (by omega))
    omega
  · intro h i hi
    exact lt_of_lt_of_le (List.mem_range.mp hi) h

end Amr.Api.Sysfs
