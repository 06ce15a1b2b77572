/-
# The image generator and the loader of the table

`do_generate_fpt` and `do_generate_fpt_pdi` of `fw/AMC/scripts/gen_fpt_pdi.py`, against `iLoadFpt`
and `iLoadFptPartition`.

The script packs the header and the entries of a profile into a table of one block of
`fpt_entry_offset` bytes for each, and puts the PDI behind it. The files are read and written
through the operating system, and the digest is the hash library's; what the script prints is left
out. The script asks only that the size of the PDI fits its field, not that the PDI fits its
partition.
-/
import Amr.Lib.PyBytes
import Amr.Apc.Fpt

namespace Amr.Apc.Generator

open ByteStore StructLayout PyBytes

/-! ### The configuration -/

structure FptHeader where
  magic_word : ℕ
  fpt_version : ℕ
  fpt_header_size : ℕ
  fpt_entry_size : ℕ
  num_entries : ℕ
  fpt_entry_offset : ℕ
  deriving DecidableEq, Repr

structure FptEntry where
  type : ℕ
  base_addr : ℕ
  partition_size : ℕ
  pdi_md5 : ℕ
  pdi_size : ℕ
  partition_flags : ℕ
  deriving DecidableEq, Repr

/-- `fpt_config_data['fpt_header']`. -/
def fpt_header : FptHeader where
  magic_word := 0x92F7A516
  fpt_version := 2
  fpt_header_size := 128
  fpt_entry_size := 128
  num_entries := 3
  fpt_entry_offset := 128 * 1024

def fpt_entry_rave : List FptEntry := [
  ⟨0x00000E00, 0x00080000, 58 * 1024 * 1024, 0, 0, 0⟩,
  ⟨0x00000E00, 0x03B80000, 58 * 1024 * 1024, 0, 0, 0⟩,
  ⟨0x00000F00, 0x07680000, 8 * 1024 * 1024, 0, 0, 0⟩]

def fpt_entry_v80 : List FptEntry := [
  ⟨0x00000E00, 0x00080000, 116 * 1024 * 1024, 0, 0, 0⟩,
  ⟨0x00000E00, 0x07480000, 116 * 1024 * 1024, 0, 0, 0⟩,
  ⟨0x00000F00, 0x0E880000, 16 * 1024 * 1024, 0, 0, 0⟩]

/-- The entries that `fpt_config_data` has under a key. -/
def fpt_config_entries (key : String) : Except Exc (List FptEntry) :=
  if key = "fpt_entry_rave" then .ok fpt_entry_rave
  else if key = "fpt_entry_v80" then .ok fpt_entry_v80
  else .error .KeyError

def MD5_SIZE_BYTES : ℕ := 16
def U32_SIZE_BYTES : ℕ := 4
def U8_SIZE_BYTES : ℕ := 1

/-! ### The script -/

def putHeader (h : FptHeader) (fpt_data : List UInt8) : Except Exc (List UInt8) := do
  let pos := 0
  let fpt_data := setSlice fpt_data pos 0 (← toBytesLittle U32_SIZE_BYTES h.magic_word)
  let pos := pos + U32_SIZE_BYTES
  let fpt_data ← insert fpt_data pos h.fpt_version
  let pos := pos + U8_SIZE_BYTES
  let fpt_data ← insert fpt_data pos h.fpt_header_size
  let pos := pos + U8_SIZE_BYTES
  let fpt_data ← insert fpt_data pos h.fpt_entry_size
  let pos := pos + U8_SIZE_BYTES
  insert fpt_data pos h.num_entries

/-- A round of the loop over the entries. -/
def putEntry (fpt_entry_offset index_tuple : ℕ) (fpt_tuple : FptEntry) (fpt_data : List UInt8) :
    Except Exc (List UInt8) := do
  let pos := fpt_entry_offset * (index_tuple + 1)
  let fpt_data := setSlice fpt_data pos 0 (← toBytesLittle U32_SIZE_BYTES fpt_tuple.type)
  let pos := pos + U32_SIZE_BYTES
  let fpt_data := setSlice fpt_data pos 0 (← toBytesLittle U32_SIZE_BYTES fpt_tuple.base_addr)
  let pos := pos + U32_SIZE_BYTES
  let fpt_data := setSlice fpt_data pos 0 (← toBytesLittle U32_SIZE_BYTES fpt_tuple.partition_size)
  let pos := pos + U32_SIZE_BYTES
  let fpt_data := setSlice fpt_data pos 0 (← toBytesBig MD5_SIZE_BYTES fpt_tuple.pdi_md5)
  let pos := pos + MD5_SIZE_BYTES
  let fpt_data := setSlice fpt_data pos 0 (← toBytesLittle U32_SIZE_BYTES fpt_tuple.pdi_size)
  let pos := pos + U32_SIZE_BYTES
  return setSlice fpt_data pos 0 (← toBytesLittle U32_SIZE_BYTES fpt_tuple.partition_flags)

def putEntries (fpt_entry_offset : ℕ) : ℕ → List FptEntry → List UInt8 → Except Exc (List UInt8)
  | _, [], fpt_data => .ok fpt_data
  | index_tuple, fpt_tuple :: fpt_entry_list, fpt_data => do
    let fpt_data ← putEntry fpt_entry_offset index_tuple fpt_tuple fpt_data
    putEntries fpt_entry_offset (index_tuple + 1) fpt_entry_list fpt_data

/-- The array of a header and a list of entries. -/
def populate (h : FptHeader) (fpt_entry_list : List FptEntry) : Except Exc (List UInt8) := do
  let fpt_size := h.fpt_entry_offset * (h.num_entries + 1)
  let fpt_data ← putHeader h (List.replicate fpt_size 0)
  let fpt_data ← putEntries h.fpt_entry_offset 0 fpt_entry_list fpt_data
  return fpt_data.take fpt_size

inductive Refusal
  /-- `PDI file must be either be *.bin or *.pdi suffix` -/
  | suffix
  /-- A file cannot be read or written. -/
  | os (text : String)
  /-- `Failed to populate FPT data array` -/
  | populate (e : Exc)
  /-- An exception that nothing catches. -/
  | uncaught (e : Exc)
  deriving DecidableEq

def do_generate_fpt (profile : String) (md5_hash file_size : List Char) :
    Except Refusal (List UInt8) := do
  let pdi_size ← (int file_size 10).mapError .uncaught
  let entries ← (fpt_config_entries ("fpt_entry_" ++ profile)).mapError .uncaught
  let pdi_md5 ← (int md5_hash 16).mapError .uncaught
  let fpt_entry_list := entries.modifyHead fun e => { e with pdi_size, pdi_md5 }
  (populate fpt_header fpt_entry_list).mapError .populate

/-- The files as the operating system gives them. -/
structure Files where
  /-- The contents of a file, or an error. -/
  read : String → Except String (List UInt8)
  /-- Whether a file can be written. -/
  write : String → Except String Unit

abbrev Digest := { bs : List UInt8 // bs.length = MD5_SIZE_BYTES }

/-- The names that the script takes a PDI from. -/
def HasSuffix (pdi_file : String) : Prop := pdi_file.endsWith ".pdi" ∨ pdi_file.endsWith ".bin"

instance (pdi_file : String) : Decidable (HasSuffix pdi_file) :=
  inferInstanceAs (Decidable (_ ∨ _))

/-- `do_generate_fpt_pdi`: the bytes that are written to the output file. -/
def do_generate_fpt_pdi (md5 : List UInt8 → Digest) (files : Files)
    (profile pdi_file output_file_name : String) : Except Refusal (List UInt8) := do
  if ¬HasSuffix pdi_file then throw .suffix
  let pdi_data ← (files.read pdi_file).mapError .os
  let fpt_bin_data ← do_generate_fpt profile (hexdigest (md5 pdi_data).1) (str pdi_data.length)
  let fpt_bin_data := ljust fpt_bin_data 0x8000 0xff
  let combined_bin_data := fpt_bin_data ++ pdi_data
  (files.write output_file_name).mapError .os
  return combined_bin_data

/-! ### The bytes of the table -/

namespace FptHeader

def bytes (h : FptHeader) : List UInt8 :=
  bytesOf U32_SIZE_BYTES h.magic_word ++ [.ofNat h.fpt_version] ++ [.ofNat h.fpt_header_size] ++
    [.ofNat h.fpt_entry_size] ++ [.ofNat h.num_entries]

def Fits (h : FptHeader) : Prop :=
  h.magic_word < 256 ^ U32_SIZE_BYTES ∧ h.fpt_version < 256 ∧ h.fpt_header_size < 256 ∧
    h.fpt_entry_size < 256 ∧ h.num_entries < 256

instance (h : FptHeader) : Decidable h.Fits := by unfold Fits; infer_instance

/-- The firmware's header has the values of the configuration. -/
def Describes (h : FptHeader) (x : APCProxyDriverFptHeader) : Prop :=
  x.ulMagicNum.toNat = h.magic_word ∧ x.ucFptVersion.toNat = h.fpt_version ∧
    x.ucFptHeaderSize.toNat = h.fpt_header_size ∧ x.ucEntrySize.toNat = h.fpt_entry_size ∧
    x.ucNumEntries.toNat = h.num_entries

instance (h : FptHeader) (x : APCProxyDriverFptHeader) : Decidable (h.Describes x) := by
  unfold Describes; infer_instance

end FptHeader

namespace FptEntry

def bytes (e : FptEntry) : List UInt8 :=
  bytesOf U32_SIZE_BYTES e.type ++ bytesOf U32_SIZE_BYTES e.base_addr ++
    bytesOf U32_SIZE_BYTES e.partition_size ++ (bytesOf MD5_SIZE_BYTES e.pdi_md5).reverse ++
    bytesOf U32_SIZE_BYTES e.pdi_size ++ bytesOf U32_SIZE_BYTES e.partition_flags

@[simp] theorem length_bytes (e : FptEntry) :
    e.bytes.length = APCProxyDriverFptPartition.size := by
  simp [bytes, U32_SIZE_BYTES, MD5_SIZE_BYTES, APCProxyDriverFptPartition.size]

/-- The values that stand before the size of the PDI, and the flags, fit their fields. -/
def Sized (e : FptEntry) : Prop :=
  e.type < 256 ^ U32_SIZE_BYTES ∧ e.base_addr < 256 ^ U32_SIZE_BYTES ∧
    e.partition_size < 256 ^ U32_SIZE_BYTES ∧ e.pdi_md5 < 256 ^ MD5_SIZE_BYTES ∧
    e.partition_flags < 256 ^ U32_SIZE_BYTES

instance (e : FptEntry) : Decidable e.Sized := by unfold Sized; infer_instance

def Fits (e : FptEntry) : Prop := e.Sized ∧ e.pdi_size < 256 ^ U32_SIZE_BYTES

instance (e : FptEntry) : Decidable e.Fits := by unfold Fits; infer_instance

/-- The firmware's entry has the values of the configuration; the first byte of the checksum is
the highest of the number. -/
def Describes (e : FptEntry) (x : APCProxyDriverFptPartition) : Prop :=
  x.ulPartitionType.toNat = e.type ∧ x.ulPartitionBaseAddr.toNat = e.base_addr ∧
    x.ulPartitionSize.toNat = e.partition_size ∧
    value (bytesOf MD5_SIZE_BYTES x.pdi_md5.toNat).reverse = e.pdi_md5 ∧
    x.ulPdiSize.toNat = e.pdi_size ∧ x.ulPartitionFlags.toNat = e.partition_flags

/-- The firmware's entry for an entry of the configuration. -/
def partition (e : FptEntry) : APCProxyDriverFptPartition where
  ulPartitionType := .ofNat e.type
  ulPartitionBaseAddr := .ofNat e.base_addr
  ulPartitionSize := .ofNat e.partition_size
  pdi_md5 := .ofNat _ (value (bytesOf MD5_SIZE_BYTES e.pdi_md5).reverse)
  ulPdiSize := .ofNat e.pdi_size
  ulPartitionFlags := .ofNat e.partition_flags

end FptEntry

open FptEntry (partition)

theorem putHeader_append {h : FptHeader} (hfits : h.Fits) (rest : List UInt8) :
    putHeader h rest = .ok (h.bytes ++ rest) := by
  obtain ⟨hmagic, hversion, hheader, hentry, hnum⟩ := hfits
  have hstart : setSlice rest 0 0 (bytesOf U32_SIZE_BYTES h.magic_word) =
      bytesOf U32_SIZE_BYTES h.magic_word ++ rest := setSlice_append (List.length_nil) _
  simp only [putHeader, toBytesLittle, if_pos hmagic, hstart, bind, Except.bind]
  rw [insert_append (by simp) hversion]
  simp only []
  rw [insert_append (by simp [U8_SIZE_BYTES]) hheader]
  simp only []
  rw [insert_append (by simp [U8_SIZE_BYTES]) hentry]
  simp only []
  rw [insert_append (by simp [U8_SIZE_BYTES]) hnum]
  rfl

theorem putEntry_append {offset i : ℕ} {e : FptEntry} {done : List UInt8} (hfits : e.Fits)
    (hdone : done.length = offset * (i + 1)) (rest : List UInt8) :
    putEntry offset i e (done ++ rest) = .ok ((done ++ e.bytes) ++ rest) := by
  obtain ⟨⟨htype, hbase, hsize, hmd5, hflags⟩, hpdi⟩ := hfits
  simp only [putEntry, toBytesLittle, toBytesBig, if_pos htype, if_pos hbase, if_pos hsize,
    if_pos hmd5, if_pos hflags, if_pos hpdi, bind, Except.bind, pure, Except.pure]
  rw [setSlice_append hdone, setSlice_append (by simp [hdone]),
    setSlice_append (by simp [hdone, add_assoc]), setSlice_append (by simp [hdone, add_assoc]),
    setSlice_append (by simp [hdone, add_assoc]), setSlice_append (by simp [hdone, add_assoc])]
  simp only [FptEntry.bytes, List.append_assoc]

theorem putEntry_of_large {offset i : ℕ} {e : FptEntry} (hsized : e.Sized)
    (hlarge : ¬e.pdi_size < 256 ^ U32_SIZE_BYTES) (fpt_data : List UInt8) :
    putEntry offset i e fpt_data = .error .OverflowError := by
  obtain ⟨htype, hbase, hsize, hmd5, hflags⟩ := hsized
  simp only [putEntry, toBytesLittle, toBytesBig, if_pos htype, if_pos hbase, if_pos hsize,
    if_pos hmd5, if_neg hlarge, bind, Except.bind]

theorem putEntries_append {offset : ℕ} (hoffset : APCProxyDriverFptPartition.size ≤ offset)
    {es : List FptEntry} (hfits : ∀ e ∈ es, e.Fits) :
    ∀ {i n : ℕ} {done : List UInt8}, done.length = offset * (i + 1) → offset * es.length ≤ n →
      ∃ k, putEntries offset i es (done ++ List.replicate n 0) =
        .ok (done ++ es.flatMap (fun e => block offset e.bytes) ++ List.replicate k 0) := by
  induction es with
  | nil =>
    intro i n done _ _
    exact ⟨n, by rw [putEntries, List.flatMap_nil, List.append_nil]⟩
  | cons e es ih =>
    intro i n done hdone hn
    rw [List.length_cons, Nat.mul_succ] at hn
    have hlen : e.bytes.length ≤ offset := by rwa [e.length_bytes]
    have hnext : (done ++ block offset e.bytes).length = offset * (i + 1 + 1) := by
      rw [List.length_append, length_block hlen, hdone, Nat.mul_succ offset (i + 1)]
    obtain ⟨k, hk⟩ := ih (fun e he => hfits e (List.mem_cons_of_mem _ he)) hnext
      (n := n - (offset - e.bytes.length)) (by omega)
    refine ⟨k, ?_⟩
    rw [putEntries, putEntry_append (hfits e List.mem_cons_self) hdone, List.append_assoc,
      append_zeros e.bytes hlen (by omega), ← List.append_assoc]
    simp only [bind, Except.bind]
    rw [hk, List.flatMap_cons, List.append_assoc done]

/-- The blocks of the header and the entries. -/
def tableBytes (h : FptHeader) (es : List FptEntry) : List (List UInt8) :=
  h.bytes :: es.map FptEntry.bytes

theorem populate_eq {h : FptHeader} {es : List FptEntry} (hh : h.Fits) (hes : ∀ e ∈ es, e.Fits)
    (hnum : es.length = h.num_entries)
    (hoffset : APCProxyDriverFptPartition.size ≤ h.fpt_entry_offset) :
    populate h es = .ok ((tableBytes h es).flatMap (block h.fpt_entry_offset)) := by
  have hheader : h.bytes.length ≤ h.fpt_entry_offset :=
    le_trans (by simp [FptHeader.bytes, U32_SIZE_BYTES, APCProxyDriverFptPartition.size]) hoffset
  have hblock : (block h.fpt_entry_offset h.bytes).length = h.fpt_entry_offset * (0 + 1) := by
    rw [length_block hheader]
    omega
  obtain ⟨k, hk⟩ := putEntries_append hoffset hes hblock
    (n := h.fpt_entry_offset * (h.num_entries + 1) - (h.fpt_entry_offset - h.bytes.length))
    (by rw [hnum, Nat.mul_succ]; omega)
  have hlen : ((tableBytes h es).flatMap (block h.fpt_entry_offset)).length =
      h.fpt_entry_offset * (h.num_entries + 1) := by
    rw [length_blocks, tableBytes, List.length_cons, List.length_map, hnum]
    intro bs hbs
    rcases List.mem_cons.mp hbs with rfl | hbs
    · exact hheader
    · obtain ⟨e, -, rfl⟩ := List.mem_map.mp hbs
      rwa [e.length_bytes]
  have hflat : block h.fpt_entry_offset h.bytes ++
      es.flatMap (fun e => block h.fpt_entry_offset e.bytes) =
        (tableBytes h es).flatMap (block h.fpt_entry_offset) := by
    rw [tableBytes, List.flatMap_cons, List.flatMap_map]
  simp only [populate, bind, Except.bind, putHeader_append hh]
  rw [append_zeros h.bytes hheader (by rw [Nat.mul_succ]; omega), hk, hflat]
  simp only [pure, Except.pure]
  rw [List.take_left' hlen]

/-! ### The two profiles -/

inductive Profile
  | rave
  | v80
  deriving DecidableEq, Repr

namespace Profile

/-- The value of `--profile`. -/
def name : Profile → String
  | rave => "rave"
  | v80 => "v80"

def entries : Profile → List FptEntry
  | rave => fpt_entry_rave
  | v80 => fpt_entry_v80

variable (p : Profile)

theorem entries_ne_nil : p.entries ≠ [] := by cases p <;> decide

/-- The entry of partition 0, where the PDI goes. -/
def first (p : Profile) : FptEntry := p.entries.head p.entries_ne_nil

/-- The entries with the size and the checksum of a PDI in the first one. -/
def configured (p : Profile) (pdi_md5 pdi_size : ℕ) : List FptEntry :=
  p.entries.modifyHead fun e => { e with pdi_size, pdi_md5 }

variable (pdi_md5 pdi_size : ℕ)

theorem configured_eq :
    p.configured pdi_md5 pdi_size = { p.first with pdi_size, pdi_md5 } :: p.entries.tail := by
  cases p <;> rfl

theorem length_configured :
    (p.configured pdi_md5 pdi_size).length = fpt_header.num_entries := by
  cases p <;> rfl

theorem fpt_config_entries_name :
    fpt_config_entries ("fpt_entry_" ++ p.name) = .ok p.entries := by
  cases p <;> rfl

theorem first_sized : p.first.Sized := by cases p <;> decide

theorem tail_fits : ∀ e ∈ p.entries.tail, e.Fits := by cases p <;> decide

theorem configured_fits {pdi_md5 pdi_size : ℕ}
    (hmd5 : pdi_md5 < 256 ^ MD5_SIZE_BYTES) (hsize : pdi_size < 256 ^ U32_SIZE_BYTES) :
    ∀ e ∈ p.configured pdi_md5 pdi_size, e.Fits := by
  obtain ⟨htype, hbase, hpartition, -, hflags⟩ := p.first_sized
  intro e he
  rw [configured_eq] at he
  rcases List.mem_cons.mp he with rfl | he
  · exact ⟨⟨htype, hbase, hpartition, hmd5, hflags⟩, hsize⟩
  · exact p.tail_fits e he

def table (p : Profile) (pdi_md5 pdi_size : ℕ) : List UInt8 :=
  (tableBytes fpt_header (p.configured pdi_md5 pdi_size)).flatMap
    (block fpt_header.fpt_entry_offset)

theorem length_tableBytes_le :
    ∀ bs ∈ tableBytes fpt_header (p.configured pdi_md5 pdi_size),
      bs.length ≤ fpt_header.fpt_entry_offset := by
  intro bs hbs
  rcases List.mem_cons.mp hbs with rfl | hbs
  · decide
  · obtain ⟨e, -, rfl⟩ := List.mem_map.mp hbs
    rw [e.length_bytes]
    decide

theorem length_table :
    (p.table pdi_md5 pdi_size).length = 0x80000 := by
  rw [table, length_blocks (p.length_tableBytes_le pdi_md5 pdi_size), tableBytes, List.length_cons,
    List.length_map, length_configured]
  rfl

theorem do_generate_fpt_eq (digest : Digest) (pdi_size : ℕ) :
    do_generate_fpt p.name (hexdigest digest.1) (str pdi_size) =
      if pdi_size < 2 ^ 32 then .ok (p.table (value digest.1.reverse) pdi_size)
      else .error (.populate .OverflowError) := by
  have hne : digest.1 ≠ [] := fun h => absurd (h ▸ digest.2) (by decide)
  have hmd5 : value digest.1.reverse < 256 ^ MD5_SIZE_BYTES := by
    have hlt := value_lt digest.1.reverse
    rwa [List.length_reverse, digest.2] at hlt
  have hparts : do_generate_fpt p.name (hexdigest digest.1) (str pdi_size) =
      (populate fpt_header (p.configured (value digest.1.reverse) pdi_size)).mapError .populate := by
    simp only [do_generate_fpt, int_str, int_hexdigest hne, fpt_config_entries_name, configured,
      Except.mapError, bind, Except.bind]
  rw [hparts]
  split_ifs with hsize
  · rw [populate_eq (by decide) (p.configured_fits hmd5 hsize) (p.length_configured _ _) (by decide)]
    rfl
  · obtain ⟨htype, hbase, hpartition, -, hflags⟩ := p.first_sized
    have hheader := putHeader_append (h := fpt_header) (by decide)
      (List.replicate (fpt_header.fpt_entry_offset * (fpt_header.num_entries + 1)) 0)
    simp only [populate, bind, Except.bind, hheader, configured_eq, putEntries]
    rw [putEntry_of_large (e := { p.first with pdi_size, pdi_md5 := value digest.1.reverse })
      ⟨htype, hbase, hpartition, hmd5, hflags⟩ hsize]
    rfl

end Profile

theorem do_generate_fpt_pdi_ok {md5 : List UInt8 → Digest} {files : Files} {p : Profile}
    {pdi_file output : String} {image : List UInt8} :
    do_generate_fpt_pdi md5 files p.name pdi_file output = .ok image ↔
      HasSuffix pdi_file ∧ files.write output = .ok () ∧ ∃ pdi, files.read pdi_file = .ok pdi ∧
        pdi.length < 2 ^ 32 ∧ image = p.table (value (md5 pdi).1.reverse) pdi.length ++ pdi := by
  unfold do_generate_fpt_pdi
  by_cases hsuffix : HasSuffix pdi_file
  · cases hread : files.read pdi_file with
    | error text => simp [hsuffix, bind, Except.bind, Except.mapError]
    | ok pdi =>
      have hlen := p.length_table (value (md5 pdi).1.reverse) pdi.length
      have hgenerate := p.do_generate_fpt_eq (md5 pdi) pdi.length
      by_cases hsize : pdi.length < 2 ^ 32
      · have hjust : ljust (p.table (value (md5 pdi).1.reverse) pdi.length) 0x8000 0xff =
            p.table (value (md5 pdi).1.reverse) pdi.length :=
          ljust_of_le (by rw [hlen]; decide) 0xff
        rw [if_pos hsize] at hgenerate
        cases hwrite : files.write output with
        | error text => simp [hsuffix, bind, Except.bind, Except.mapError, hgenerate]
        | ok u =>
          simp [hsuffix, bind, Except.bind, Except.mapError, hgenerate, hjust, pure, Except.pure,
            eq_comm]
          exact fun _ => hsize
      · rw [if_neg hsize] at hgenerate
        simp [hsuffix, bind, Except.bind, Except.mapError, hgenerate]
        exact fun _ h => absurd h hsize
  · simp [hsuffix, bind, Except.bind, throw, throwThe, MonadExceptOf.throw]

/-! ### What the loader finds -/

/-- The image stands at the start of the flash. -/
def Begins (m : Store) (image : List UInt8) : Prop :=
  ∀ (x : ℕ) (h : x < image.length), m x = image[x]

theorem Begins.read {m : Store} {image bs : List UInt8} {a : ℕ} (h : Begins m image)
    (hbs : (image.drop a).take bs.length = bs) : ByteStore.read m a bs.length = bs := by
  refine List.ext_getElem (by simp [ByteStore.read]) fun k hk hk' => ?_
  have hin : k < ((image.drop a).take bs.length).length := by rwa [hbs]
  have hlen : a + k < image.length := by
    rw [List.length_take, List.length_drop] at hin
    omega
  have hget : ((image.drop a).take bs.length)[k] = image[a + k] := by
    rw [List.getElem_take, List.getElem_drop]
  rw [getElem_read, h _ hlen, ← hget]
  exact List.getElem_of_eq hbs hin

/-- A load of the image, all of whose reads go through and whose array is allocated, leaves the
header `h` and the entries `l` in the cache. -/
def Loads (image : List UInt8) (h : APCProxyDriverFptHeader)
    (l : List APCProxyDriverFptPartition) : Prop :=
  ∀ (d : Device) (o : LoadOutcome), Begins d.flash image →
    o.header → o.alloc → (∀ i < l.length, o.entry i) →
    d.iLoadFpt o = ({ d with
      pxFptHeader := h
      piValidFpt := true
      ppxFptPartitions := some (l.map some) }, true)

theorem loads_of_blocks {image : List UInt8} {h : APCProxyDriverFptHeader}
    {l : List APCProxyDriverFptPartition} (hacc : h.Accepted) (hne : h.entries ≠ 0)
    (hlen : h.entries = l.length)
    (hheader : ∀ m, Begins m image → headerAt m = h)
    (hentry : ∀ m, Begins m image → ∀ (i : ℕ) (hi : i < l.length), partitionAt m i = l[i]) :
    Loads image h l := by
  intro d o hbegins hread halloc hentries
  have hh := hheader _ hbegins
  have hreadable : Device.Readable d.flash o := by
    refine ⟨hread, by rwa [hh], by rwa [hh], halloc, fun i hi => hentries i ?_⟩
    rwa [hh, hlen] at hi
  have htable : Device.table d.flash = l.map some := by
    refine List.ext_getElem ?_ fun i hi hi' => ?_
    · rw [Device.length_table, hh, hlen, List.length_map]
    · have hil : i < l.length := by rwa [List.length_map] at hi'
      simp only [Device.table, List.getElem_map, List.getElem_range]
      rw [hentry _ hbegins i hil]
  rw [Device.iLoadFpt_of_readable hreadable, hh, htable]

theorem partition_bytes (x : APCProxyDriverFptPartition) :
    x.bytes = bytesOf 4 x.ulPartitionType.toNat ++ bytesOf 4 x.ulPartitionBaseAddr.toNat ++
      bytesOf 4 x.ulPartitionSize.toNat ++ bytesOf 16 x.pdi_md5.toNat ++
      bytesOf 4 x.ulPdiSize.toNat ++ bytesOf 4 x.ulPartitionFlags.toNat := by
  refine eq_of_value (by simp [APCProxyDriverFptPartition.size]) ?_
  have := x.ulPartitionType.toNat_lt
  have := x.ulPartitionBaseAddr.toNat_lt
  have := x.ulPartitionSize.toNat_lt
  have := x.pdi_md5.isLt
  have := x.ulPdiSize.toNat_lt
  have := x.ulPartitionFlags.toNat_lt
  unfold APCProxyDriverFptPartition.bytes
  simp only [value_bytesOf, value_append, List.length_append, length_bytesOf]
  simp [store, APCProxyDriverFptPartition.members, Member.place, Member.width, Member.alignUp,
    APCProxyDriverFptPartition.size]
  omega

namespace FptEntry

variable {e : FptEntry}

theorem toNat_word {v : ℕ} (hv : v < 256 ^ U32_SIZE_BYTES) : (UInt32.ofNat v).toNat = v := by
  rw [UInt32.toNat_ofNat']
  exact Nat.mod_eq_of_lt hv

theorem partition_md5_toNat (e : FptEntry) :
    e.partition.pdi_md5.toNat = value (bytesOf MD5_SIZE_BYTES e.pdi_md5).reverse := by
  have hlt := value_lt (bytesOf MD5_SIZE_BYTES e.pdi_md5).reverse
  rw [List.length_reverse, length_bytesOf] at hlt
  rw [partition, BitVec.toNat_ofNat]
  exact Nat.mod_eq_of_lt (by simpa [MD5_SIZE_BYTES] using hlt)

theorem bytesOf_partition_md5 (e : FptEntry) :
    bytesOf MD5_SIZE_BYTES e.partition.pdi_md5.toNat =
      (bytesOf MD5_SIZE_BYTES e.pdi_md5).reverse := by
  have hrev := bytesOf_value (bytesOf MD5_SIZE_BYTES e.pdi_md5).reverse
  rw [List.length_reverse, length_bytesOf] at hrev
  rw [partition_md5_toNat, hrev]

theorem bytes_partition (h : e.Fits) : e.partition.bytes = e.bytes := by
  obtain ⟨⟨htype, hbase, hsize, -, hflags⟩, hpdi⟩ := h
  rw [partition_bytes]
  change bytesOf U32_SIZE_BYTES (UInt32.ofNat e.type).toNat ++
    bytesOf U32_SIZE_BYTES (UInt32.ofNat e.base_addr).toNat ++
    bytesOf U32_SIZE_BYTES (UInt32.ofNat e.partition_size).toNat ++
    bytesOf MD5_SIZE_BYTES e.partition.pdi_md5.toNat ++
    bytesOf U32_SIZE_BYTES (UInt32.ofNat e.pdi_size).toNat ++
    bytesOf U32_SIZE_BYTES (UInt32.ofNat e.partition_flags).toNat = _
  rw [toNat_word htype, toNat_word hbase, toNat_word hsize, toNat_word hpdi, toNat_word hflags,
    bytesOf_partition_md5, bytes]

theorem ofBytes_bytes (h : e.Fits) : APCProxyDriverFptPartition.ofBytes e.bytes = e.partition := by
  rw [← bytes_partition h, APCProxyDriverFptPartition.ofBytes_bytes]

theorem describes_partition (h : e.Fits) : e.Describes e.partition := by
  obtain ⟨⟨htype, hbase, hsize, hmd5, hflags⟩, hpdi⟩ := h
  refine ⟨toNat_word htype, toNat_word hbase, toNat_word hsize, ?_, toNat_word hpdi,
    toNat_word hflags⟩
  rw [bytesOf_partition_md5, List.reverse_reverse, value_bytesOf, Nat.mod_eq_of_lt hmd5]

end FptEntry

/-! ### Agreement -/

/-- `[a, a + n)` and `[b, b + m)` have no byte in common. -/
def Apart (s t : ℕ × ℕ) : Prop := s.1 + s.2 ≤ t.1 ∨ t.1 + t.2 ≤ s.1

instance (s t : ℕ × ℕ) : Decidable (Apart s t) := inferInstanceAs (Decidable (_ ∨ _))

def span (x : APCProxyDriverFptPartition) : ℕ × ℕ :=
  (x.ulPartitionBaseAddr.toNat, x.ulPartitionSize.toNat)

/-- `x` lies in the `n` bytes from `a` on. -/
def Within (a n x : ℕ) : Prop := a ≤ x ∧ x < a + n

/-- An image for a PDI, with the header `h` and the entries `l` that the firmware finds in it. -/
structure Agrees (p : Profile) (digest pdi image : List UInt8) (h : APCProxyDriverFptHeader)
    (l : List APCProxyDriverFptPartition) : Prop where
  loads : Loads image h l
  header : fpt_header.Describes h
  entries : List.Forall₂ FptEntry.Describes
    (p.configured (value digest.reverse) pdi.length) l
  /-- Partition 0 has the size and the digest of the PDI, and the PDI. -/
  carries : ∃ x ∈ l.head?, x.ulPdiSize.toNat = pdi.length ∧
    bytesOf MD5_SIZE_BYTES x.pdi_md5.toNat = digest ∧
    (image.drop x.ulPartitionBaseAddr.toNat).take pdi.length = pdi
  /-- Neither the table nor two partitions share a byte. -/
  apart : ((0, fpt_header.fpt_entry_offset * (fpt_header.num_entries + 1)) ::
    l.map span).Pairwise Apart
  /-- The PDI ends within partition 0. -/
  inside : ∃ x ∈ l.head?, pdi.length ≤ x.ulPartitionSize.toNat
  /-- Outside the header, the entries and the PDI there is filler. -/
  filler : ∀ x < image.length, ¬Within 0 APCProxyDriverFptHeader.size x →
    (∀ i < l.length, ¬Within (partitionAddr i) APCProxyDriverFptPartition.size x) →
    (∀ q ∈ l.head?, ¬Within q.ulPartitionBaseAddr.toNat pdi.length x) → image[x]? = some 0

/-- The script refuses, or writes an image that the firmware takes for what it is. -/
def Sound (md5 : List UInt8 → Digest) (files : Files) (p : Profile) (pdi_file output : String) :
    Prop :=
  ∀ image, do_generate_fpt_pdi md5 files p.name pdi_file output = .ok image →
    ∃ pdi h l, files.read pdi_file = .ok pdi ∧ Agrees p (md5 pdi).1 pdi image h l

section Image

variable (p : Profile) (pdi_md5 : ℕ) (pdi : List UInt8)

def loadedHeader : APCProxyDriverFptHeader := ⟨0x92F7A516, 2, 128, 128, 3⟩

def loadedEntries : List APCProxyDriverFptPartition :=
  (p.configured pdi_md5 pdi.length).map partition

theorem length_loadedEntries :
    (loadedEntries p pdi_md5 pdi).length = fpt_header.num_entries := by
  rw [loadedEntries, List.length_map, p.length_configured]

theorem head_loadedEntries : (loadedEntries p pdi_md5 pdi).head? =
    some { p.first with pdi_size := pdi.length, pdi_md5 }.partition := by
  rw [loadedEntries, p.configured_eq]
  rfl

theorem spans_loadedEntries : (loadedEntries p pdi_md5 pdi).map span =
    p.entries.map fun e => (e.base_addr, e.partition_size) := by
  cases p <;> rfl

theorem block_addr (i : ℕ) : fpt_header.fpt_entry_offset * (i + 1) = partitionAddr i := by
  change 128 * 1024 * (i + 1) = 128 * 1024 + i * (128 * 1024)
  omega

theorem read_table {m : Store} (h : Begins m (p.table pdi_md5 pdi.length ++ pdi)) {i : ℕ}
    (hi : i < (tableBytes fpt_header (p.configured pdi_md5 pdi.length)).length) :
    ByteStore.read m (fpt_header.fpt_entry_offset * i)
      (tableBytes fpt_header (p.configured pdi_md5 pdi.length))[i].length =
        (tableBytes fpt_header (p.configured pdi_md5 pdi.length))[i] :=
  h.read (read_blocks (p.length_tableBytes_le pdi_md5 pdi.length) pdi hi)

variable {pdi_md5 pdi}

/-- **The firmware finds the configuration.** -/
theorem loads_table (hmd5 : pdi_md5 < 256 ^ MD5_SIZE_BYTES) (hsize : pdi.length < 2 ^ 32) :
    Loads (p.table pdi_md5 pdi.length ++ pdi) loadedHeader (loadedEntries p pdi_md5 pdi) := by
  refine loads_of_blocks (by decide) (by decide) ?_ (fun m hm => ?_) fun m hm i hi => ?_
  · rw [length_loadedEntries]
    rfl
  · have hread := read_table p pdi_md5 pdi hm (i := 0) (Nat.succ_pos _)
    have hbytes : ByteStore.read m 0 APCProxyDriverFptHeader.size = fpt_header.bytes := hread
    rw [headerAt, hbytes]
    decide
  · have hi' : i < (p.configured pdi_md5 pdi.length).length := by
      rwa [loadedEntries, List.length_map] at hi
    have hlen : i + 1 < (tableBytes fpt_header (p.configured pdi_md5 pdi.length)).length := by
      rw [tableBytes, List.length_cons, List.length_map]
      omega
    have hread := read_table p pdi_md5 pdi hm hlen
    have hget : (tableBytes fpt_header (p.configured pdi_md5 pdi.length))[i + 1] =
        ((p.configured pdi_md5 pdi.length)[i]).bytes := by
      simp [tableBytes]
    rw [hget, FptEntry.length_bytes, block_addr] at hread
    have hfits := p.configured_fits hmd5 hsize _ (List.getElem_mem hi')
    rw [partitionAt, hread, FptEntry.ofBytes_bytes hfits]
    simp [loadedEntries]

theorem table_filler {x : ℕ} (hx : x < (p.table pdi_md5 pdi.length).length)
    (hheader : ¬Within 0 APCProxyDriverFptHeader.size x)
    (hentries : ∀ i < (loadedEntries p pdi_md5 pdi).length,
      ¬Within (partitionAddr i) APCProxyDriverFptPartition.size x) :
    (p.table pdi_md5 pdi.length)[x]? = some 0 := by
  refine zero_blocks (p.length_tableBytes_le pdi_md5 pdi.length) hx fun i hi hin => ?_
  cases i with
  | zero => exact hheader hin
  | succ i =>
    have hi' : i < (loadedEntries p pdi_md5 pdi).length := by
      rw [tableBytes, List.length_cons, List.length_map] at hi
      rw [loadedEntries, List.length_map]
      omega
    refine hentries i hi' ?_
    simp only [tableBytes, List.getElem_cons_succ, List.getElem_map, FptEntry.length_bytes,
      block_addr] at hin
    exact hin

end Image

theorem agrees_of_fits (p : Profile) (digest : Digest) {pdi : List UInt8}
    (hfits : pdi.length ≤ p.first.partition_size) :
    Agrees p digest.1 pdi (p.table (value digest.1.reverse) pdi.length ++ pdi) loadedHeader
      (loadedEntries p (value digest.1.reverse) pdi) := by
  have hmd5 : value digest.1.reverse < 256 ^ MD5_SIZE_BYTES := by
    have hlt := value_lt digest.1.reverse
    rwa [List.length_reverse, digest.2] at hlt
  have hsize : pdi.length < 2 ^ 32 := by
    have hsized := p.first_sized.2.2.1
    unfold U32_SIZE_BYTES at hsized
    omega
  have hconfigured := p.configured_fits hmd5 hsize
  have hfirst : FptEntry.Fits
      { p.first with pdi_size := pdi.length, pdi_md5 := value digest.1.reverse } := by
    refine hconfigured _ ?_
    rw [p.configured_eq]
    exact List.mem_cons_self
  obtain ⟨-, hbase, hpartition, -, hpdi, -⟩ := FptEntry.describes_partition hfirst
  have hhead := head_loadedEntries p (value digest.1.reverse) pdi
  have htable := p.length_table (value digest.1.reverse) pdi.length
  have hplace : p.first.base_addr = 0x80000 := by cases p <;> rfl
  have hdigest : bytesOf MD5_SIZE_BYTES (value digest.1.reverse) = digest.1.reverse := by
    have hbytes := bytesOf_value digest.1.reverse
    rwa [List.length_reverse, digest.2] at hbytes
  refine ⟨loads_table p hmd5 hsize, by decide, ?_, ⟨_, hhead, hpdi, ?_, ?_⟩, ?_,
    ⟨_, hhead, ?_⟩, fun x hx hheader hentries hout => ?_⟩
  · rw [loadedEntries, List.forall₂_map_right_iff, List.forall₂_same]
    exact fun e he => FptEntry.describes_partition (hconfigured e he)
  · rw [FptEntry.bytesOf_partition_md5, hdigest, List.reverse_reverse]
  · rw [hbase, hplace, List.drop_left' htable, List.take_length]
  · rw [spans_loadedEntries]
    cases p <;> decide
  · rw [hpartition]
    exact hfits
  · rcases Nat.lt_or_ge x 0x80000 with hlt | hge
    · rw [List.getElem?_append_left (by rwa [htable])]
      exact table_filler p (by rwa [htable]) hheader hentries
    · refine absurd ?_ (hout _ hhead)
      rw [List.length_append, htable] at hx
      rw [hbase, hplace]
      exact ⟨hge, hx⟩

theorem Agrees.fits {p : Profile} {digest pdi image : List UInt8} {h : APCProxyDriverFptHeader}
    {l : List APCProxyDriverFptPartition} (ha : Agrees p digest pdi image h l) :
    pdi.length ≤ p.first.partition_size := by
  have hentries := ha.entries
  obtain ⟨x, hx, hle⟩ := ha.inside
  rw [p.configured_eq] at hentries
  obtain ⟨y, l', hdescribes, -, rfl⟩ := List.forall₂_cons_left_iff.mp hentries
  obtain rfl : y = x := by simpa using hx
  rw [← hdescribes.2.2.1]
  exact hle

/-- **The generator and the loader agree on the PDIs that fit.** What the script does with a PDI
that it can read and whose image it can write is sound exactly if the PDI is no larger than
partition 0 of the profile, or so large that its size has no room in the entry. -/
theorem fpt_image_iff (md5 : List UInt8 → Digest) (files : Files) (p : Profile)
    (pdi_file output : String) :
    Sound md5 files p pdi_file output ↔
      (HasSuffix pdi_file → files.write output = .ok () → ∀ pdi, files.read pdi_file = .ok pdi →
        pdi.length ≤ p.first.partition_size ∨ 2 ^ 32 ≤ pdi.length) := by
  constructor
  · intro hsound hsuffix hwrite pdi hread
    rcases Nat.lt_or_ge pdi.length (2 ^ 32) with hsize | hsize
    · obtain ⟨pdi', h, l, hread', hagrees⟩ :=
        hsound _ (do_generate_fpt_pdi_ok.mpr ⟨hsuffix, hwrite, pdi, hread, hsize, rfl⟩)
      obtain rfl : pdi = pdi' := Except.ok.inj (hread.symm.trans hread')
      exact .inl hagrees.fits
    · exact .inr hsize
  · intro hfits image himage
    obtain ⟨hsuffix, hwrite, pdi, hread, hsize, rfl⟩ := do_generate_fpt_pdi_ok.mp himage
    have hle := (hfits hsuffix hwrite pdi hread).resolve_right (by omega)
    exact ⟨pdi, loadedHeader, _, hread, agrees_of_fits p (md5 pdi) hle⟩

/-- A PDI of one byte more than the 58 MiB of its partition goes into an image. -/
def oversized : Files where
  read _ := .ok (List.replicate (58 * 1024 * 1024 + 1) 0)
  write _ := .ok ()

theorem fpt_image_oversized :
    ¬ ∃ md5 : List UInt8 → Digest, Sound md5 oversized .rave "amr_ospi.bin" "amr_ospi_fpt.bin" := by
  rintro ⟨md5, hsound⟩
  have hlen : (List.replicate (58 * 1024 * 1024 + 1) (0 : UInt8)).length = 58 * 1024 * 1024 + 1 :=
    List.length_replicate
  obtain ⟨pdi, h, l, hread, hagrees⟩ := hsound _ (do_generate_fpt_pdi_ok.mpr
    ⟨.inr (by decide +kernel), rfl, _, rfl, by rw [hlen]; decide, rfl⟩)
  obtain rfl := Except.ok.inj hread
  have hle := hagrees.fits
  rw [hlen] at hle
  exact absurd hle (by decide)

end Amr.Apc.Generator
