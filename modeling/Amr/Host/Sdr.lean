/-
# The sensor repositories of a device

`sw/AMI/driver/ami_sensor.c`: `parse_sdr`, `get_sdr`, `delete_repo_records` and `update_sdr`.

A repository is refreshed from a response of the firmware. `parse_sdr` walks the response with an
index that it compares with nothing, fills fields of fixed sizes, and puts what it allocates in the
repository that it was given; `update_sdr` gives it a fresh one, which takes the place of the old
one when all went well.
-/
import Amr.Lib.ByteReader

namespace Amr.Host.Sdr

open ByteReader

def SDR_RESP_LEN : ℕ := 4096

def SDR_CODE_OP_SUCCESS : ℕ := 1

def SDR_LENGTH_MASK : ℕ := 0x3F

def SDR_TYPE_POS : ℕ := 6

def SDR_EOR : ℕ := 0x454E44

def SDR_VALUE_MAX_LEN : ℕ := 64

def SDR_THRESHOLD_MAX_LEN : ℕ := 4

def MD5_SIZE : ℕ := 16

def DEFAULT_BDINFO_POWER : ℕ := 0xFF

def THRESHOLD_UPPER_WARNING_MASK : ℕ := 0x01
def THRESHOLD_UPPER_CRITICAL_MASK : ℕ := 0x02
def THRESHOLD_UPPER_FATAL_MASK : ℕ := 0x04
def THRESHOLD_LOWER_WARNING_MASK : ℕ := 0x08
def THRESHOLD_LOWER_CRITICAL_MASK : ℕ := 0x10
def THRESHOLD_LOWER_FATAL_MASK : ℕ := 0x20
def THRESHOLD_SENSOR_AVG_MASK : ℕ := 0x40
def THRESHOLD_SENSOR_MAX_MASK : ℕ := 0x80

/-! ### Records -/

/-- `struct sdr_record`: of each array the bytes that were copied to it, the rest of it is 0. -/
structure sdr_record where
  id : ℕ
  name_type : ℕ
  name_len : ℕ
  name : List ℕ
  value_type : ℕ
  value_len : ℕ
  value : List ℕ
  unit_type : ℕ
  unit_len : ℕ
  unit : List ℕ
  unit_mod : ℕ
  threshold_support : ℕ
  lower_fatal_limit : List ℕ
  lower_crit_limit : List ℕ
  lower_warn_limit : List ℕ
  upper_fatal_limit : List ℕ
  upper_crit_limit : List ℕ
  upper_warn_limit : List ℕ
  sensor_status : ℕ
  avg : List ℕ
  max : List ℕ
  deriving DecidableEq, Repr

structure fpt_header where
  version : ℕ
  header_size : ℕ
  entry_size : ℕ
  num_entries : ℕ
  deriving DecidableEq, Repr

/-- `struct fpt_partition`, by its bytes. -/
structure fpt_partition where
  type : List ℕ
  base_addr : List ℕ
  size : List ℕ
  pdi_md5 : List ℕ
  pdi_size : List ℕ
  flags : List ℕ
  deriving DecidableEq, Repr

structure field_info where
  type : ℕ
  len : ℕ
  bytes : List ℕ
  deriving DecidableEq, Repr

/-- The fields of `struct bd_info_record`, in their order. -/
inductive BdField
  | eeprom_version
  | product_name
  | board_rev
  | board_serial
  | mac_addr_count
  | first_mac_addr
  | active_state
  | config_mode
  | manufacturing_date
  | part_number
  | uuid
  | pcie_id
  | power_mode
  | memory_size
  | oem_id
  | capability
  | mfg_part_number
  deriving DecidableEq, Repr

def BdField.all : List BdField := [.eeprom_version, .product_name, .board_rev, .board_serial,
  .mac_addr_count, .first_mac_addr, .active_state, .config_mode, .manufacturing_date, .part_number,
  .uuid, .pcie_id, .power_mode, .memory_size, .oem_id, .capability, .mfg_part_number]

/-- `struct bd_info_record`, its fields in the order of `BdField.all`. -/
abbrev bd_info_record := List field_info

/-! ### The readers of `parse_sdr` -/

def limit (threshold_support mask value_len : ℕ) : Reader (List ℕ) :=
  if threshold_support &&& mask ≠ 0 then copy SDR_THRESHOLD_MAX_LEN value_len else pure []

/-- The body of the loop over the sensor records. -/
def record : Reader sdr_record := do
  let id ← byte
  let b ← byte
  let name ← copy SDR_VALUE_MAX_LEN (b &&& SDR_LENGTH_MASK)
  let c ← byte
  let value ← copy SDR_VALUE_MAX_LEN (c &&& SDR_LENGTH_MASK)
  let d ← byte
  let unit ← copy SDR_VALUE_MAX_LEN (d &&& SDR_LENGTH_MASK)
  let unit_mod ← byte
  let t ← byte
  let lower_fatal_limit ← limit t THRESHOLD_LOWER_FATAL_MASK (c &&& SDR_LENGTH_MASK)
  let lower_crit_limit ← limit t THRESHOLD_LOWER_CRITICAL_MASK (c &&& SDR_LENGTH_MASK)
  let lower_warn_limit ← limit t THRESHOLD_LOWER_WARNING_MASK (c &&& SDR_LENGTH_MASK)
  let upper_fatal_limit ← limit t THRESHOLD_UPPER_FATAL_MASK (c &&& SDR_LENGTH_MASK)
  let upper_crit_limit ← limit t THRESHOLD_UPPER_CRITICAL_MASK (c &&& SDR_LENGTH_MASK)
  let upper_warn_limit ← limit t THRESHOLD_UPPER_WARNING_MASK (c &&& SDR_LENGTH_MASK)
  let sensor_status ← byte
  let avg ← limit t THRESHOLD_SENSOR_AVG_MASK (c &&& SDR_LENGTH_MASK)
  let max ← limit t THRESHOLD_SENSOR_MAX_MASK (c &&& SDR_LENGTH_MASK)
  pure ⟨id, b >>> SDR_TYPE_POS, b &&& SDR_LENGTH_MASK, name, c >>> SDR_TYPE_POS,
    c &&& SDR_LENGTH_MASK, value, d >>> SDR_TYPE_POS, d &&& SDR_LENGTH_MASK, unit, unit_mod, t,
    lower_fatal_limit, lower_crit_limit, lower_warn_limit, upper_fatal_limit, upper_crit_limit,
    upper_warn_limit, sensor_status, avg, max⟩

/-- A field of the board information. A power mode without data is marked as not available. -/
def info (f : BdField) : Reader field_info := do
  let type ← byte
  let len ← byte
  let bytes ← copy SDR_VALUE_MAX_LEN len
  pure ⟨type, len, if f = .power_mode ∧ len = 0 then [DEFAULT_BDINFO_POWER] else bytes⟩

def infos : List BdField → Reader bd_info_record
  | [] => pure []
  | f :: fs => do
    let v ← info f
    let vs ← infos fs
    pure (v :: vs)

/-- The header of a flash partition table. -/
def fptHeader : Reader fpt_header := do
  let version ← byte
  let header_size ← byte
  let entry_size ← byte
  let num_entries ← byte
  pure ⟨version, header_size, entry_size, num_entries⟩

def partition : Reader fpt_partition := do
  let type ← copy 4 4
  let base_addr ← copy 4 4
  let size ← copy 4 4
  let pdi_md5 ← copy MD5_SIZE MD5_SIZE
  let pdi_size ← copy 4 4
  let flags ← copy 4 4
  pure ⟨type, base_addr, size, pdi_md5, pdi_size, flags⟩

def endOfRepo : Reader ℕ := do
  let a ← byte
  let b ← byte
  let c ← byte
  pure ((a <<< 16) ||| (b <<< 8) ||| c)

/-! ### Memory -/

/-- The blocks that are allocated, the next address, and whether a block was freed that was not
allocated or a NULL pointer written through. -/
structure Heap where
  live : Finset ℕ
  next : ℕ
  wrong : Bool

namespace Heap

/-- The block at `next` is allocated. -/
def alloc (h : Heap) : Heap := { h with live := insert h.next h.live, next := h.next + 1 }

def free (h : Heap) (p : ℕ) : Heap :=
  { h with live := h.live.erase p, wrong := h.wrong || decide (p ∉ h.live) }

/-- A pointer that is freed when it is not NULL. -/
def freePtr (h : Heap) : Option ℕ → Heap
  | some p => h.free p
  | none => h

def crash (h : Heap) : Heap := { h with wrong := true }

end Heap

/-- The union of `struct sdr_repo`: the pointers and what they point to. -/
inductive Body
  | empty
  | records (ptr : ℕ) (l : List sdr_record)
  | bd_info (ptr : ℕ) (r : bd_info_record)
  | fpt (hdr_primary : fpt_header) (partition_primary : Option ℕ) (primary : List fpt_partition)
    (hdr_secondary : fpt_header) (partition_secondary : Option ℕ)
    (secondary : List fpt_partition)

structure sdr_repo where
  repo_type : ℕ
  repo_ver : ℕ
  num_records : ℕ
  size : ℕ
  last_update : ℕ
  body : Body

inductive Family
  | fpt
  | bd_info
  | records
  deriving DecidableEq, Repr

/-- The member that a type of repository uses. -/
def family : ℕ → Option Family
  | 0xF0 => some .fpt
  | 0xC0 => some .bd_info
  | 0xC1 => some .records
  | 0xC2 => some .records
  | 0xC3 => some .records
  | 0xC4 => some .records
  | 0xC6 => some .records
  | _ => none

inductive Errno
  | EINVAL
  | ENODATA
  | ENOMEM
  /-- `EIO`. -/
  | INPUT_OUTPUT
  | EILSEQ
  deriving DecidableEq, Repr

/-! ### `parse_sdr` -/

/-- Which allocations of `parse_sdr` succeed. -/
structure Allocs where
  records : Bool
  partition_primary : Bool
  partition_secondary : Bool

structure Parse (α : Type) where
  val : α
  heap : Heap
  input : Input

/-- A flash partition table; the allocation is not checked. -/
def parse_fpt (ok : Bool) (h : Heap) (i : Input) :
    Parse (fpt_header × Option ℕ × List fpt_partition) :=
  let hdr := fptHeader.run i
  if 0 < hdr.1.num_entries then
    if ok then
      let l := (collect (fun _ => partition) hdr.1.num_entries).run hdr.2
      ⟨(hdr.1, some h.next, l.1), h.alloc, l.2⟩
    else ⟨(hdr.1, none, []), h.crash, hdr.2⟩
  else ⟨(hdr.1, none, []), h, hdr.2⟩

/-- The branches of `parse_sdr`; `none` is an allocation that failed. -/
def parse_body (o : Allocs) (num_records : ℕ) (h : Heap) (i : Input) :
    Family → Parse (Option Body)
  | .fpt =>
    let p := parse_fpt o.partition_primary h i
    let s := parse_fpt o.partition_secondary p.heap p.input
    ⟨some (.fpt p.val.1 p.val.2.1 p.val.2.2 s.val.1 s.val.2.1 s.val.2.2), s.heap, s.input⟩
  | .bd_info =>
    if o.records then
      let r := (infos BdField.all).run i
      ⟨some (.bd_info h.next r.1), h.alloc, r.2⟩
    else ⟨none, h, i⟩
  | .records =>
    if o.records then
      let l := (collect (fun _ => record) num_records).run i
      ⟨some (.records h.next l.1), h.alloc, l.2⟩
    else ⟨none, h, i⟩

/-- The header of a response, as a repository that has no records yet. -/
def repoHeader : Reader sdr_repo := do
  let repo_type ← byte
  let repo_ver ← byte
  let num_records ← byte
  let lo ← byte
  let hi ← byte
  pure ⟨repo_type, repo_ver, num_records, lo ||| (hi <<< 8), 0, .empty⟩

/-- The end of the repository is verified. -/
def verify (repo : sdr_repo) (ret : Option Errno) (h : Heap) (i : Input) :
    Parse (Option Errno × sdr_repo) :=
  let e := endOfRepo.run i
  ⟨(if e.1 = SDR_EOR then ret else some .EILSEQ, repo), h, e.2⟩

/-- `parse_sdr` of a repository whose header was read. -/
def parse_records (o : Allocs) (h : Heap) (repo : sdr_repo) (i : Input) :
    Parse (Option Errno × sdr_repo) :=
  if repo.size = 0 then ⟨(some .EINVAL, repo), h, i⟩
  else if 0 < repo.num_records then
    match family repo.repo_type with
    | none => ⟨(some .EINVAL, repo), h, i⟩
    | some f =>
      let b := parse_body o repo.num_records h i f
      match b.val with
      | none => ⟨(some .ENOMEM, repo), b.heap, b.input⟩
      | some body => verify { repo with body := body } none b.heap b.input
  else verify repo (some .ENODATA) h i

/-- `parse_sdr` for a fresh repository. -/
def parse_sdr (o : Allocs) (h : Heap) (sdr_buf : List ℕ) : Parse (Option Errno × sdr_repo) :=
  let hd := repoHeader.run (Input.start sdr_buf)
  parse_records o h hd.1 hd.2

/-! ### `get_sdr` and `update_sdr` -/

structure Response where
  bytes : List UInt8
  length_bytes : bytes.length = SDR_RESP_LEN

def Response.buf (r : Response) : List ℕ := r.bytes.map UInt8.toNat

/-- What a refresh comes upon: its allocations, and the response if the command goes through. -/
structure Env where
  new_repo : Bool
  sdr_raw_buf : Bool
  parse : Allocs
  response : Option Response

/-- A repository that `kzalloc` gave. -/
def sdr_repo.zero : sdr_repo := ⟨0, 0, 0, 0, 0, .empty⟩

/-- `get_sdr` for a fresh repository, with the raw buffer in hand. -/
def get_sdr_raw (e : Env) (repo_type : ℕ) (h : Heap) : Parse (Option Errno × sdr_repo) :=
  match e.response with
  | none => ⟨(some .INPUT_OUTPUT, .zero), h, .start []⟩
  | some r =>
    match r.buf with
    | completion_code :: rid :: rest =>
      if completion_code ≠ SDR_CODE_OP_SUCCESS then ⟨(some .EINVAL, .zero), h, .start []⟩
      else if rid ≠ repo_type then ⟨(some .EINVAL, .zero), h, .start []⟩
      else parse_sdr e.parse h (rid :: rest)
    | _ => ⟨(some .EINVAL, .zero), h, .start []⟩

/-- `get_sdr` for a fresh repository. -/
def get_sdr (e : Env) (repo_type : ℕ) (h : Heap) : Parse (Option Errno × sdr_repo) :=
  if e.sdr_raw_buf then
    let p := get_sdr_raw e repo_type h.alloc
    { p with heap := p.heap.free h.next }
  else ⟨(some .ENOMEM, .zero), h, .start []⟩

/-- `delete_repo_records`: the memory that it gives back. -/
def delete_repo_records (h : Heap) (repo : sdr_repo) : Heap :=
  match family repo.repo_type, repo.body with
  | some .fpt, .fpt _ primary _ _ secondary _ => (h.freePtr primary).freePtr secondary
  | some .bd_info, .bd_info p _ => h.free p
  | some .records, .records p _ => h.free p
  | _, _ => h

/-- What the driver keeps for a device of its sensors, and the memory. -/
structure pf_dev_struct where
  sensor_repos : List sdr_repo
  heap : Heap

/-- `find_sdr_repo`: the repositories before the one it finds, that one, and those behind it. -/
def find_sdr_repo (type : ℕ) : List sdr_repo → Option (List sdr_repo × sdr_repo × List sdr_repo)
  | [] => none
  | r :: rs =>
    if r.repo_type = type then some ([], r, rs)
    else (find_sdr_repo type rs).map fun z => (r :: z.1, z.2)

/-- A refresh that is over; the input tells what went wrong in reading the response. -/
structure Updated where
  ret : Option Errno
  dev : pf_dev_struct
  input : Input

def update_sdr (e : Env) (dev : pf_dev_struct) (repo_type : ℕ) : Updated :=
  match find_sdr_repo repo_type dev.sensor_repos with
  | none => ⟨some .ENODATA, dev, .start []⟩
  | some (before, repo, behind) =>
    if e.new_repo then
      let g := get_sdr e repo_type dev.heap.alloc
      match g.val.1 with
      | none =>
        ⟨none, ⟨before ++ g.val.2 :: behind,
          (delete_repo_records g.heap repo).free dev.heap.next⟩, g.input⟩
      | some errno => ⟨some errno, ⟨dev.sensor_repos, g.heap.free dev.heap.next⟩, g.input⟩
    else ⟨some .ENOMEM, dev, .start []⟩

end Amr.Host.Sdr
