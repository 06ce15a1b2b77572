/-
# The flash partition table of a boot device and its cached copy

`APCPrivateData`, `iLoadFpt`, `iLoadFptPartition`, `iRefreshFptData`, `iSetFptFlags` and
`iWriteFptPartitionToFlash` of `fw/AMC/src/proxy_drivers/apc/apc_proxy_driver.c`.

The table starts with a header at address 0 of the device, and entry `i` stands at
`APC_FPT_PTN_OFFSET * (i + 1)`. The proxy keeps the header and an allocated array of the entries.
Flash contents are bytes; a cell of the array that was not loaded since its allocation is `none`.
What the drivers below the firmware interface leave around the bytes of a write, and what a failed
write leaves behind, is an input of the step.
-/
import Amr.Lib.ByteStore
import Amr.Lib.StructLayout

namespace Amr.Apc

open ByteStore StructLayout

def APC_MBOX_SIZE : ℕ := 10

def APC_FPT_HDR_MAGIC_NUM : UInt32 := 0x92F7A516

def APC_FPT_HDR_SIZE : UInt8 := 128

def APC_FPT_PTN_OFFSET : ℕ := 128 * 1024

/-- The largest sector of `pxFlashConfigTable` in `ospi.c`: a write changes no byte beyond the
sectors of this size that it touches. -/
def FLASH_SECTOR_SIZE_128KB : ℕ := 0x20000

inductive APC_BOOT_DEVICES
  | PRIMARY
  | SECONDARY
  deriving DecidableEq, Repr

/-- The device of a number below `MAX_APC_BOOT_DEVICES`. -/
def APC_BOOT_DEVICES.ofNat? : ℕ → Option APC_BOOT_DEVICES
  | 0 => some .PRIMARY
  | 1 => some .SECONDARY
  | _ => none

structure APCProxyDriverFptHeader where
  ulMagicNum : UInt32
  ucFptVersion : UInt8
  ucFptHeaderSize : UInt8
  ucEntrySize : UInt8
  ucNumEntries : UInt8
  deriving DecidableEq, Repr

namespace APCProxyDriverFptHeader

def members : List Member := [.u32, .u8, .u8, .u8, .u8]

def size : ℕ := 8

def zero : APCProxyDriverFptHeader := ⟨0, 0, 0, 0, 0⟩

/-- The header that 8 bytes of flash hold. -/
def ofBytes (bs : List UInt8) : APCProxyDriverFptHeader :=
  match load 0 (value bs) members with
  | [ulMagicNum, ucFptVersion, ucFptHeaderSize, ucEntrySize, ucNumEntries] =>
    ⟨.ofNat ulMagicNum, .ofNat ucFptVersion, .ofNat ucFptHeaderSize, .ofNat ucEntrySize,
      .ofNat ucNumEntries⟩
  | _ => zero

/-- The number of entries, as the loops and the comparisons use it. -/
def entries (h : APCProxyDriverFptHeader) : ℕ := h.ucNumEntries.toNat

/-- What `iLoadFpt` asks of a header. -/
def Accepted (h : APCProxyDriverFptHeader) : Prop :=
  h.ulMagicNum = APC_FPT_HDR_MAGIC_NUM ∧ h.ucFptHeaderSize = APC_FPT_HDR_SIZE

instance (h : APCProxyDriverFptHeader) : Decidable h.Accepted := by
  unfold Accepted; infer_instance

end APCProxyDriverFptHeader

/-- `APCProxyDriverFptPartition`; the checksum is the number its 16 bytes spell. -/
structure APCProxyDriverFptPartition where
  ulPartitionType : UInt32
  ulPartitionBaseAddr : UInt32
  ulPartitionSize : UInt32
  pdi_md5 : BitVec 128
  ulPdiSize : UInt32
  ulPartitionFlags : UInt32
  deriving DecidableEq, Repr

namespace APCProxyDriverFptPartition

def members : List Member := [.u32, .u32, .u32, .bytes 16, .u32, .u32]

def size : ℕ := 36

/-- The entry that 36 bytes of flash hold. -/
def ofBytes (bs : List UInt8) : APCProxyDriverFptPartition :=
  match load 0 (value bs) members with
  | [ulPartitionType, ulPartitionBaseAddr, ulPartitionSize, pdi_md5, ulPdiSize,
      ulPartitionFlags] =>
    ⟨.ofNat ulPartitionType, .ofNat ulPartitionBaseAddr, .ofNat ulPartitionSize, .ofNat _ pdi_md5,
      .ofNat ulPdiSize, .ofNat ulPartitionFlags⟩
  | _ => ⟨0, 0, 0, 0, 0, 0⟩

def bytes (p : APCProxyDriverFptPartition) : List UInt8 :=
  bytesOf size (store 0 members [p.ulPartitionType.toNat, p.ulPartitionBaseAddr.toNat,
    p.ulPartitionSize.toNat, p.pdi_md5.toNat, p.ulPdiSize.toNat, p.ulPartitionFlags.toNat])

variable (p : APCProxyDriverFptPartition)

@[simp] theorem length_bytes : p.bytes.length = size :=
  length_bytesOf _ _

theorem ofBytes_bytes : ofBytes p.bytes = p := by
  set vs := [p.ulPartitionType.toNat, p.ulPartitionBaseAddr.toNat, p.ulPartitionSize.toNat,
    p.pdi_md5.toNat, p.ulPdiSize.toNat, p.ulPartitionFlags.toNat] with hvs
  have hfit : store 0 members vs < 256 ^ size := by
    have := p.ulPartitionType.toNat_lt
    have := p.ulPartitionBaseAddr.toNat_lt
    have := p.ulPartitionSize.toNat_lt
    have := p.pdi_md5.isLt
    have := p.ulPdiSize.toNat_lt
    have := p.ulPartitionFlags.toNat_lt
    simp [hvs, store, members, Member.place, Member.width, Member.alignUp, size]
    omega
  have himage : value p.bytes = store 0 members vs := by
    unfold bytes
    rw [value_bytesOf]
    exact Nat.mod_eq_of_lt hfit
  have hload : load 0 (value p.bytes) members = vs := by
    rw [himage, ← zero_add (store 0 members vs), load_store members 0 0 vs (by simp) rfl]
    simp [hvs, cut, members, Member.width, Nat.mod_eq_of_lt, p.ulPartitionType.toNat_lt,
      p.ulPartitionBaseAddr.toNat_lt, p.ulPartitionSize.toNat_lt, p.pdi_md5.isLt,
      p.ulPdiSize.toNat_lt, p.ulPartitionFlags.toNat_lt]
  unfold ofBytes
  rw [hload, hvs]
  simp

end APCProxyDriverFptPartition

open APCProxyDriverFptPartition (ofBytes_bytes)

/-! ### The table in flash -/

/-- The address of entry `i`. -/
def partitionAddr (i : ℕ) : ℕ := APC_FPT_PTN_OFFSET + i * APC_FPT_PTN_OFFSET

def headerAt (m : Store) : APCProxyDriverFptHeader :=
  .ofBytes (read m 0 APCProxyDriverFptHeader.size)

/-- Entry `i` in flash. -/
def partitionAt (m : Store) (i : ℕ) : APCProxyDriverFptPartition :=
  .ofBytes (read m (partitionAddr i) APCProxyDriverFptPartition.size)

/-- What a write to a boot device comes to. -/
inductive WriteOutcome
  /-- The bytes are written; `rest` fills the other cells of the sectors. -/
  | done (rest : Store)
  /-- The interface reports an error and leaves `left`. -/
  | failed (left : Store)

def WriteOutcome.isDone : WriteOutcome → Bool
  | .done _ => true
  | .failed _ => false

theorem WriteOutcome.isDone_iff {o : WriteOutcome} : o.isDone ↔ ∃ rest, o = .done rest := by
  cases o <;> simp [isDone]

/-- `write` of the firmware interface of a boot device. -/
def fwIfWrite (m : Store) (addr : ℕ) (bs : List UInt8) : WriteOutcome → Store × Bool
  | .done rest => (program FLASH_SECTOR_SIZE_128KB m rest addr bs, true)
  | .failed left => (left, false)

theorem touched_partition {i x : ℕ} :
    Touched FLASH_SECTOR_SIZE_128KB (partitionAddr i) APCProxyDriverFptPartition.size x ↔
      x / APC_FPT_PTN_OFFSET = i + 1 := by
  unfold Touched partitionAddr FLASH_SECTOR_SIZE_128KB APC_FPT_PTN_OFFSET
    APCProxyDriverFptPartition.size
  omega

variable (m rest : Store)

theorem partitionAt_write (i : ℕ) (p : APCProxyDriverFptPartition) :
    partitionAt (program FLASH_SECTOR_SIZE_128KB m rest (partitionAddr i) p.bytes) i = p := by
  unfold partitionAt
  have hread := read_program FLASH_SECTOR_SIZE_128KB m rest (partitionAddr i) p.bytes
  rw [p.length_bytes] at hread
  rw [hread, ofBytes_bytes]

theorem write_untouched {i x : ℕ} (p : APCProxyDriverFptPartition)
    (h : x / APC_FPT_PTN_OFFSET ≠ i + 1) :
    program FLASH_SECTOR_SIZE_128KB m rest (partitionAddr i) p.bytes x = m x := by
  refine program_untouched m rest ?_ ?_
  · intro hnil
    have := p.length_bytes
    rw [hnil] at this
    exact absurd this (by decide)
  · rw [p.length_bytes, touched_partition]
    exact h

theorem partitionAt_write_other {i j : ℕ} (p : APCProxyDriverFptPartition)
    (h : j ≠ i) :
    partitionAt (program FLASH_SECTOR_SIZE_128KB m rest (partitionAddr i) p.bytes) j =
      partitionAt m j := by
  unfold partitionAt
  rw [read_congr fun x hlo hhi => write_untouched m rest p ?_]
  unfold partitionAddr APC_FPT_PTN_OFFSET APCProxyDriverFptPartition.size at *
  omega

theorem headerAt_write (i : ℕ) (p : APCProxyDriverFptPartition) :
    headerAt (program FLASH_SECTOR_SIZE_128KB m rest (partitionAddr i) p.bytes) = headerAt m := by
  unfold headerAt
  rw [read_congr fun x hlo hhi => write_untouched m rest p ?_]
  unfold APC_FPT_PTN_OFFSET APCProxyDriverFptHeader.size at *
  omega

/-! ### The cached copy -/

/-- A boot device and what `APCPrivateData` holds for it. -/
structure Device where
  /-- A firmware interface was given for the device. -/
  ppxFwIf : Bool
  flash : Store
  piValidFpt : Bool
  pxFptHeader : APCProxyDriverFptHeader
  /-- The allocated array; a cell is `none` until it is loaded. -/
  ppxFptPartitions : Option (List (Option APCProxyDriverFptPartition))

/-- Which of the steps of a load go through. -/
structure LoadOutcome where
  header : Bool
  alloc : Bool
  entry : ℕ → Bool

/-- The loop of `iLoadFpt` from entry `i` on, over the cells `l`. -/
def loadPartitions (m : Store) (entry : ℕ → Bool) :
    ℕ → ℕ → List (Option APCProxyDriverFptPartition) →
      List (Option APCProxyDriverFptPartition) × Bool
  | 0, _, l => (l, true)
  | n + 1, i, l =>
    if entry i then loadPartitions m entry n (i + 1) (l.set i (some (partitionAt m i)))
    else (l, false)

namespace Device

def iLoadFpt (d : Device) (o : LoadOutcome) : Device × Bool :=
  if o.header then
    if (headerAt d.flash).Accepted then
      if (headerAt d.flash).entries ≠ 0 then
        if o.alloc then
          ({ d with
              pxFptHeader := headerAt d.flash
              piValidFpt := true
              ppxFptPartitions := some (loadPartitions d.flash o.entry (headerAt d.flash).entries 0
                (List.replicate (headerAt d.flash).entries none)).1 },
            (loadPartitions d.flash o.entry (headerAt d.flash).entries 0
              (List.replicate (headerAt d.flash).entries none)).2)
        else
          ({ d with
              pxFptHeader := headerAt d.flash
              piValidFpt := true
              ppxFptPartitions := none }, false)
      else ({ d with pxFptHeader := headerAt d.flash, piValidFpt := true }, false)
    -- the header is in the cache before it is looked at
    else ({ d with pxFptHeader := headerAt d.flash }, false)
  else (d, false)

/-- Whether the mutex is taken, and how the load goes. -/
structure RefreshOutcome where
  take : Bool
  load : LoadOutcome

def iRefreshFptData (d : Device) (o : RefreshOutcome) : Device × Bool :=
  if o.take then
    iLoadFpt { d with pxFptHeader := .zero, ppxFptPartitions := none } o.load
  else (d, false)

/-- The cell of an index, if the index lies in the array. -/
def cell (d : Device) (iPartition : ℤ) : Option (Option APCProxyDriverFptPartition) :=
  if 0 ≤ iPartition then d.ppxFptPartitions.bind fun l => l[iPartition.toNat]? else none

/-- The cached entry of an index, if it was loaded. -/
def cached (d : Device) (iPartition : ℤ) : Option APCProxyDriverFptPartition :=
  (d.cell iPartition).join

/-- The index is below the number of entries of the cached header. -/
def Below (d : Device) (iPartition : ℤ) : Prop := iPartition < d.pxFptHeader.entries

instance (d : Device) (i : ℤ) : Decidable (d.Below i) := by unfold Below; infer_instance

/-- A device with a cell of the array replaced. -/
def setCell (d : Device) (i : ℕ) (p : APCProxyDriverFptPartition) : Device :=
  { d with ppxFptPartitions := d.ppxFptPartitions.map fun l => l.set i (some p) }

/-- The table that a load of the flash gives. -/
def table (m : Store) : List (Option APCProxyDriverFptPartition) :=
  (List.range (headerAt m).entries).map fun i => some (partitionAt m i)

/-- Every step of a load goes through and the header is one that the proxy takes. -/
def Readable (m : Store) (o : LoadOutcome) : Prop :=
  o.header ∧ (headerAt m).Accepted ∧ (headerAt m).entries ≠ 0 ∧ o.alloc ∧
    ∀ i < (headerAt m).entries, o.entry i

instance (m : Store) (o : LoadOutcome) : Decidable (Readable m o) := by
  unfold Readable; infer_instance

theorem loadPartitions_eq {m : Store} {entry : ℕ → Bool} (n : ℕ) :
    ∀ (i : ℕ) (l : List (Option APCProxyDriverFptPartition)),
      (∀ j, i ≤ j → j < i + n → entry j) → l.length = i →
      loadPartitions m entry n i (l ++ List.replicate n none) =
        (l ++ (List.range' i n).map fun j => some (partitionAt m j), true) := by
  induction n with
  | zero => intro i l _ _; simp [loadPartitions]
  | succ n ih =>
    intro i l hentry hlen
    have hset : (l ++ List.replicate (n + 1) none).set i (some (partitionAt m i)) =
        (l ++ [some (partitionAt m i)]) ++ List.replicate n none := by
      rw [List.replicate_succ, List.set_append_right _ _ hlen.le, hlen, Nat.sub_self,
        List.set_cons_zero, List.append_assoc, List.singleton_append]
    rw [loadPartitions, if_pos (hentry i le_rfl (by omega)), hset,
      ih (i + 1) _ (fun j hlo hhi => hentry j (by omega) (by omega)) (by simp [hlen]),
      List.range'_succ, List.map_cons, List.append_assoc, List.singleton_append]

/-- **A load that goes through.** The cache is the table of the flash. -/
theorem iLoadFpt_of_readable {d : Device} {o : LoadOutcome} (h : Readable d.flash o) :
    d.iLoadFpt o = ({ d with
      pxFptHeader := headerAt d.flash
      piValidFpt := true
      ppxFptPartitions := some (table d.flash) }, true) := by
  obtain ⟨hheader, hacc, hn, halloc, hentry⟩ := h
  have hloop := loadPartitions_eq (m := d.flash) (headerAt d.flash).entries 0 []
    (fun j _ hj => hentry j (by omega)) rfl
  rw [List.nil_append, List.nil_append, ← List.range_eq_range'] at hloop
  unfold iLoadFpt
  rw [if_pos hheader, if_pos hacc, if_pos hn, if_pos halloc, hloop]
  rfl

theorem iRefreshFptData_of_readable {d : Device} {o : RefreshOutcome} (htake : o.take)
    (h : Readable d.flash o.load) :
    d.iRefreshFptData o = ({ d with
      pxFptHeader := headerAt d.flash
      piValidFpt := true
      ppxFptPartitions := some (table d.flash) }, true) := by
  unfold iRefreshFptData
  rw [if_pos htake]
  exact iLoadFpt_of_readable (d := { d with pxFptHeader := .zero, ppxFptPartitions := none }) h

theorem length_table (m : Store) : (table m).length = (headerAt m).entries := by simp [table]

theorem getElem?_table {m : Store} {i : ℕ} (h : i < (headerAt m).entries) :
    (table m)[i]? = some (some (partitionAt m i)) := by
  simp [table, h]

end Device

end Amr.Apc
